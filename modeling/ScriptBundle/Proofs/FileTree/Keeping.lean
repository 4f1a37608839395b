import ScriptBundle.Proofs.FileTree.Beside
import ScriptBundle.Proofs.FileTree.Shape
import ScriptBundle.Proofs.FileTree.Writing

/-!
# Trees that keep what stood

A tree in which everything still stands that stood in another one, with files that may hold something
else. A path that led somewhere leads to the same place in it. A path can be cut anywhere: its front leads
to a directory, and the rest goes on from there.
-/

namespace ScriptBundle

namespace FileTree

/-- Whatever stands in the first tree stands in the second one; only files may hold something else. -/
def Keeps (t t' : FileTree) : Prop :=
  ∀ l n, t.node? l = some n → ∃ n', t'.node? l = some n' ∧ n'.outline = n.outline

namespace Keeps

variable {t t' : FileTree} {l m place : Location} {names : List RawText} {stop : Stop}

theorem of_eq (h : ∀ l n, t.node? l = some n → t'.node? l = some n) : t.Keeps t' :=
  fun l n hn => ⟨n, h l n hn, rfl⟩

theorem put_free {n : FileNode} (hfree : t.node? place = none) : t.Keeps (t.put place n) :=
  .of_eq fun _ _ => node?_put_of_free hfree

theorem put_file {content content' : Octets} {modified modified' : Int}
    (hfile : t.node? place = some (.file content modified)) :
    t.Keeps (t.put place (.file content' modified')) := by
  intro l n hn
  by_cases hl : l = place
  · subst hl
    obtain rfl : FileNode.file content modified = n := Option.some.inj (hfile.symm.trans hn)
    have hroot : l ≠ [] := by
      rintro rfl
      simp at hfile
    exact ⟨_, node?_put_self _ hroot, rfl⟩
  · exact ⟨n, (node?_put_of_ne _ hl).trans hn, rfl⟩

theorem isDirectoryAt (h : t.Keeps t') (hd : t.isDirectoryAt l) : t'.isDirectoryAt l := by
  obtain ⟨n, hn, houtline⟩ := h l _ (node?_of_isDirectoryAt hd)
  cases n with
  | directory => simp [FileTree.isDirectoryAt, hn]
  | _ => cases houtline

theorem node?_link {target : Path} (h : t.Keeps t') (hl : t.node? l = some (.link target)) :
    t'.node? l = some (.link target) := by
  obtain ⟨n, hn, houtline⟩ := h l _ hl
  cases n with
  | link target' =>
    cases houtline
    exact hn
  | _ => cases houtline

theorem goes (h : t.Keeps t') (hgoes : t.Goes l names stop) (hstop : ∀ d s, stop ≠ .vacant d s) :
    t'.Goes l names stop := by
  induction hgoes with
  | arrived l => exact .arrived l
  | idle hd hs _ ih => exact .idle (h.isDirectoryAt hd) hs (ih hstop)
  | up hd _ ih => exact .up (h.isDirectoryAt hd) (ih hstop)
  | vacant => exact absurd rfl (hstop _ _)
  | link hd hs hn => exact .link (h.isDirectoryAt hd) hs (h.node?_link hn)
  | @entry l s pending n stop hd hs hn hlink _ ih =>
    obtain ⟨n', hn', houtline⟩ := h _ n hn
    refine .entry (h.isDirectoryAt hd) hs hn' ?_ (ih hstop)
    rintro target rfl
    cases n with
    | link target' => exact hlink target' rfl
    | _ => cases houtline

theorem follow (h : t.Keeps t') {links : Nat} (hm : t.follow links l names = .ok (.found m)) :
    t'.follow links l names = .ok (.found m) := by
  -- Behind a link the names are those of its target, so only the number of links goes down.
  induction links using Nat.strongRecOn generalizing l names with
  | _ links ih =>
    rw [follow_eq_ok_iff] at hm ⊢
    rcases hm with ⟨k, hgoes, hk⟩ | ⟨d, name, -, hvacant⟩ |
      ⟨d, target, pending, fewer, hgoes, rfl, hm⟩
    · exact Or.inl ⟨k, h.goes hgoes (by simp), hk⟩
    · cases hvacant
    · exact Or.inr (Or.inr ⟨d, target, pending, fewer, h.goes hgoes (by simp), rfl,
        ih fewer (Nat.lt_succ_self fewer) hm⟩)

end Keeps

variable {t : FileTree} {l m k : Location} {xs ys : List RawText} {stop : Stop} {links : Nat}

theorem Goes.isDirectoryAt {s : RawText} (h : t.Goes l (s :: xs) stop) : t.isDirectoryAt l := by
  cases h <;> assumption

theorem Goes.advance_append (h : t.Goes l xs (.found m)) (ys : List RawText) :
    t.advance l (xs ++ ys) = t.advance m ys := by
  generalize hm : Stop.found m = found at h
  induction h with
  | arrived =>
    cases hm
    rfl
  | idle hd hs _ ih => simp [FileTree.advance, hd, hs, ih hm]
  | up hd _ ih => simp [FileTree.advance, hd, ih hm, Path.Cut.isIdle]
  | vacant => cases hm
  | link => cases hm
  | @entry l s pending n stop hd hs hn hlink _ ih =>
    cases n with
    | link target => exact absurd rfl (hlink target)
    | _ => simp [FileTree.advance, hd, hs.notIdle, hs.notUp, Nat.not_lt.mpr hs.size, hn, ih hm]

theorem Goes.append_link {d : Location} {target : Path} {pending : List RawText}
    (h : t.Goes l xs (.link d target pending)) : t.Goes l (xs ++ ys) (.link d target (pending ++ ys)) := by
  generalize hlink : Stop.link d target pending = stop at h
  induction h with
  | arrived => cases hlink
  | idle hd hs _ ih => exact .idle hd hs (ih hlink)
  | up hd _ ih => exact .up hd (ih hlink)
  | vacant => cases hlink
  | link hd hs hn =>
    cases hlink
    exact .link hd hs hn
  | entry hd hs hn hnolink _ ih => exact .entry hd hs hn hnolink (ih hlink)

theorem Goes.split_link {d : Location} {target : Path} {pending : List RawText}
    (h : t.Goes l (xs ++ ys) (.link d target pending)) :
    (∃ k, t.Goes l xs (.found k) ∧ t.Goes k ys (.link d target pending)) ∨
      ∃ more, pending = more ++ ys ∧ t.Goes l xs (.link d target more) := by
  induction xs generalizing l with
  | nil => exact Or.inl ⟨l, .arrived l, h⟩
  | cons x xs ih =>
    rw [List.cons_append] at h
    generalize hz : xs ++ ys = zs at h
    cases h with
    | idle hd hs h =>
      rcases ih (hz ▸ h) with ⟨k, hk, hlater⟩ | ⟨more, hmore, hlink⟩
      · exact Or.inl ⟨k, .idle hd hs hk, hlater⟩
      · exact Or.inr ⟨more, hmore, .idle hd hs hlink⟩
    | up hd h =>
      rcases ih (hz ▸ h) with ⟨k, hk, hlater⟩ | ⟨more, hmore, hlink⟩
      · exact Or.inl ⟨k, .up hd hk, hlater⟩
      · exact Or.inr ⟨more, hmore, .up hd hlink⟩
    | link hd hs hn => exact Or.inr ⟨xs, hz.symm, .link hd hs hn⟩
    | entry hd hs hn hnolink h =>
      rcases ih (hz ▸ h) with ⟨k, hk, hlater⟩ | ⟨more, hmore, hlink⟩
      · exact Or.inl ⟨k, .entry hd hs hn hnolink hk, hlater⟩
      · exact Or.inr ⟨more, hmore, .entry hd hs hn hnolink hlink⟩

theorem follow_append_eq (h : t.follow links l xs = .ok (.found m)) (ys : List RawText) :
    ∃ fewer, t.follow links l (xs ++ ys) = t.follow fewer m ys := by
  induction links using Nat.strongRecOn generalizing l xs with
  | _ links ih =>
    rcases follow_eq_ok_iff.mp h with ⟨m', hgoes, hm⟩ | ⟨d, name, -, hvacant⟩ |
      ⟨d, target, pending, fewer, hgoes, rfl, hlater⟩
    · cases hm
      refine ⟨links, ?_⟩
      unfold follow
      rw [hgoes.advance_append]
    · cases hvacant
    · obtain ⟨left, hleft⟩ := ih fewer (Nat.lt_succ_self fewer) hlater
      refine ⟨left, ?_⟩
      rw [follow, hgoes.append_link.advance_eq, ← hleft, List.append_assoc]

theorem follow_append (h : t.follow links l xs = .ok (.found m)) (hys : t.Goes m ys (.found k)) :
    t.follow links l (xs ++ ys) = .ok (.found k) := by
  obtain ⟨fewer, hfewer⟩ := follow_append_eq h ys
  rw [hfewer, follow, hys.advance_eq]

/-- What the front of a path leads to is a directory if anything comes behind it. -/
theorem follow_split (h : t.follow links l (xs ++ ys) = .ok (.found k)) (hys : ys ≠ []) :
    ∃ m, t.follow links l xs = .ok (.found m) ∧ t.isDirectoryAt m := by
  have hdir : ∀ {m stop}, t.Goes m ys stop → t.isDirectoryAt m := by
    intro m stop hgoes
    obtain ⟨y, more, rfl⟩ := List.exists_cons_of_ne_nil hys
    exact hgoes.isDirectoryAt
  -- A link in the front puts its target before the rest of the front, which is a front again.
  induction links using Nat.strongRecOn generalizing l xs with
  | _ links ih =>
    rcases follow_eq_ok_iff.mp h with ⟨k', hgoes, hk⟩ | ⟨d, name, -, hvacant⟩ |
      ⟨d, target, pending, fewer, hgoes, rfl, hlater⟩
    · obtain ⟨m, hm, hmore⟩ := hgoes.split
      exact ⟨m, follow_eq_ok_iff.mpr (Or.inl ⟨m, hm, rfl⟩), hdir hmore⟩
    · cases hvacant
    · rcases hgoes.split_link with ⟨m, hm, hmore⟩ | ⟨more, rfl, hlink⟩
      · exact ⟨m, follow_eq_ok_iff.mpr (Or.inl ⟨m, hm, rfl⟩), hdir hmore⟩
      · rw [← List.append_assoc] at hlater
        obtain ⟨m, hm, hdirectory⟩ := ih fewer (Nat.lt_succ_self fewer) hlater
        exact ⟨m, follow_eq_ok_iff.mpr (Or.inr (Or.inr ⟨d, target, more, fewer, hlink, rfl, hm⟩)),
          hdirectory⟩

end FileTree

namespace Workspace

variable {w : Workspace} {p q : Path} {l : Location} {t : FileTree}

theorem locate_eq_ok_iff : w.locate p = .ok l ↔ p.text ≠ [] ∧ 0 ∉ p.text ∧
    w.tree.follow FileTree.linkLimit (w.start p) p.segments = .ok (.found l) ∧
      (w.tree.node? l).isSome := by
  constructor
  · intro h
    obtain ⟨htext, hnul, hfollow⟩ := follow_of_locate h
    exact ⟨htext, hnul, hfollow, isSome_node?_of_locate h⟩
  · rintro ⟨htext, hnul, hfollow, hn⟩
    rw [locate, arrive_eq_ok_iff.mpr ⟨htext, hnul, hfollow⟩]
    simp only [hn, if_true]

/-- A path that led somewhere leads there in every tree that keeps what stood. -/
theorem locate_keeps (h : w.tree.Keeps t) (hl : w.locate p = .ok l) :
    (w.withTree t).locate p = .ok l := by
  obtain ⟨htext, hnul, hfollow, hn⟩ := locate_eq_ok_iff.mp hl
  obtain ⟨n, hn⟩ := Option.isSome_iff_exists.mp hn
  obtain ⟨n', hn', -⟩ := h l n hn
  exact locate_eq_ok_iff.mpr ⟨htext, hnul, h.follow hfollow, Option.isSome_iff_exists.mpr ⟨n', hn'⟩⟩

end Workspace

end ScriptBundle
