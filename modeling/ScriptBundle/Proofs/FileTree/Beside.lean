import ScriptBundle.Proofs.FileTree.Canonical

/-! # Names beside a file

In a tree without links the pieces of a path are gone through one after the other. What a path that leads
to a file leaves behind is then the directory above the file, so a name beside the file leads to the same
place however the file was spelled, and the path of its location is one of the spellings.
-/

namespace ScriptBundle

namespace FileTree

def Linkless (t : FileTree) : Prop := ∀ l target, t.node? l ≠ some (.link target)

variable {t : FileTree} {l m : Location} {xs ys : List RawText} {s : RawText} {stop : Stop}

theorem Goes.unique {stop' : Stop} (h : t.Goes l xs stop) (h' : t.Goes l xs stop') :
    stop = stop' :=
  Except.ok.inj (h.advance_eq.symm.trans h'.advance_eq)

theorem Goes.append (h : t.Goes l xs (.found m)) (h' : t.Goes m ys stop) :
    t.Goes l (xs ++ ys) stop := by
  generalize hm : Stop.found m = found at h
  induction h with
  | arrived => exact Stop.found.inj hm ▸ h'
  | idle hd hs _ ih => exact .idle hd hs (ih hm)
  | up hd _ ih => exact .up hd (ih hm)
  | vacant => cases hm
  | link => cases hm
  | entry hd hs hn hlink _ ih => exact .entry hd hs hn hlink (ih hm)

theorem Goes.split (h : t.Goes l (xs ++ ys) (.found m)) :
    ∃ k, t.Goes l xs (.found k) ∧ t.Goes k ys (.found m) := by
  induction xs generalizing l with
  | nil => exact ⟨l, .arrived l, h⟩
  | cons x xs ih =>
    rw [List.cons_append] at h
    generalize hz : xs ++ ys = zs at h
    cases h with
    | idle hd hs h =>
      obtain ⟨k, hk, hm⟩ := ih (hz ▸ h)
      exact ⟨k, .idle hd hs hk, hm⟩
    | up hd h =>
      obtain ⟨k, hk, hm⟩ := ih (hz ▸ h)
      exact ⟨k, .up hd hk, hm⟩
    | entry hd hs hn hlink h =>
      obtain ⟨k, hk, hm⟩ := ih (hz ▸ h)
      exact ⟨k, .entry hd hs hn hlink hk, hm⟩

theorem Goes.append_iff {k : Location} (h : t.Goes l xs (.found m)) :
    t.Goes l (xs ++ ys) (.found k) ↔ t.Goes m ys (.found k) := by
  constructor
  · intro hk
    obtain ⟨m', hm', hk⟩ := hk.split
    rwa [Stop.found.inj (h.unique hm')]
  · exact h.append

theorem Goes.eq_of_idle (h : t.Goes l xs (.found m)) (hxs : ∀ x ∈ xs, Path.Cut.isIdle x) :
    m = l := by
  induction xs with
  | nil =>
    cases h
    rfl
  | cons x xs ih =>
    obtain ⟨hx, hxs⟩ := List.forall_mem_cons.mp hxs
    cases h with
    | idle hd hs h => exact ih h hxs
    | up => simp [Path.Cut.isIdle] at hx
    | entry hd hs => simp [hs.notIdle] at hx

/-- The last piece of a path that leads to anything but a directory is its name there. -/
theorem Goes.last (hl : t.Canonical l) (hslash : ∀ x ∈ xs, slash ∉ x)
    (h : t.Goes l (xs ++ [s]) (.found m)) (hm : ¬t.isDirectoryAt m) :
    ∃ d, t.Goes l xs (.found d) ∧ m = d ++ [s] ∧ Path.Cut.isIdle s = false := by
  obtain ⟨d, hd, hlast⟩ := h.split
  refine ⟨d, hd, ?_⟩
  cases hlast with
  | idle hdir hs h =>
    cases h
    exact absurd hdir hm
  | up hdir h =>
    have hc : t.Canonical d := hd.sound hl hslash
    cases h
    rcases List.eq_nil_or_concat d with rfl | ⟨e, x, rfl⟩
    · exact absurd hdir hm
    · rw [List.concat_eq_append, List.dropLast_concat] at hm
      exact absurd (hc.above e x [] (List.concat_eq_append ..)) hm
  | entry hdir hs hn hlink h =>
    cases h
    exact ⟨rfl, hs.notIdle⟩

theorem Goes.mem_or_mem (h : t.Goes l xs (.found m)) (hs : s ∈ m) : s ∈ l ∨ s ∈ xs := by
  generalize hm : Stop.found m = found at h
  induction h with
  | arrived => exact Or.inl (Stop.found.inj hm ▸ hs)
  | idle _ _ _ ih => exact (ih hm).imp_right (List.mem_cons_of_mem _)
  | up _ _ ih => exact (ih hm).imp (fun h => List.dropLast_subset _ h) (List.mem_cons_of_mem _)
  | vacant => cases hm
  | link => cases hm
  | entry _ _ _ _ _ ih =>
    rcases ih hm with h | h
    · rcases List.mem_append.mp h with h | h
      · exact Or.inl h
      · exact Or.inr (List.mem_singleton.mp h ▸ List.mem_cons_self)
    · exact Or.inr (List.mem_cons_of_mem _ h)

theorem Canonical.goes (hl : t.Canonical l) (hn : (t.node? l).isSome) :
    t.Goes [] l (.found l) := by
  have key : ∀ rest d, l = d ++ rest → t.Goes d rest (.found l) := by
    intro rest
    induction rest with
    | nil =>
      intro d hd
      rw [hd, List.append_nil]
      exact .arrived d
    | cons s rest ih =>
      intro d hd
      have hs : IsName s := hl.names s (by simp [hd])
      have hnext : l = (d ++ [s]) ++ rest := by simp [hd]
      obtain ⟨n, hnode⟩ : ∃ n, t.node? (d ++ [s]) = some n := by
        rcases rest with _ | ⟨x, rest⟩
        · rw [List.append_nil] at hnext
          exact hnext ▸ Option.isSome_iff_exists.mp hn
        · exact ⟨_, node?_of_isDirectoryAt (hl.above _ x rest hnext)⟩
      refine .entry (hl.above d s rest hd) hs.toIsPlain hnode ?_ (ih _ hnext)
      rintro target rfl
      rcases rest with _ | ⟨x, rest⟩
      · rw [List.append_nil] at hnext
        exact hl.noLink target (hnext ▸ hnode)
      · rw [node?_of_isDirectoryAt (hl.above _ x rest hnext)] at hnode
        cases hnode
  exact key l [] rfl

theorem Linkless.not_goes_link {d : Location} {target : Path} {pending : List RawText}
    (ht : t.Linkless) : ¬t.Goes l xs (.link d target pending) := by
  intro h
  generalize hl : Stop.link d target pending = link at h
  induction h with
  | arrived => cases hl
  | idle _ _ _ ih => exact ih hl
  | up _ _ ih => exact ih hl
  | vacant => cases hl
  | link _ _ hn => exact ht _ _ hn
  | entry _ _ _ _ _ ih => exact ih hl

theorem Linkless.follow_iff (ht : t.Linkless) {links : Nat} :
    t.follow links l xs = .ok (.found m) ↔ t.Goes l xs (.found m) := by
  rw [goes_iff]
  unfold follow
  rcases ha : t.advance l xs with fault | _ | _ | ⟨d, target, pending⟩
  · simp
  · simp
  · simp
  · exact absurd (goes_of_advance ha) ht.not_goes_link

end FileTree

namespace Workspace

variable {w : Workspace} {p q : Path} {l m : Location}

/-- Without links a path leads to where its pieces lead. -/
theorem locate_iff (ht : w.tree.Linkless) :
    w.locate p = .ok l ↔
      p.text ≠ [] ∧ 0 ∉ p.text ∧ w.tree.Goes (w.start p) p.segments (.found l) ∧
        (w.tree.node? l).isSome := by
  constructor
  · intro h
    obtain ⟨htext, hnul, hf⟩ := follow_of_locate h
    exact ⟨htext, hnul, ht.follow_iff.mp hf, isSome_node?_of_locate h⟩
  · rintro ⟨htext, hnul, hg, hn⟩
    have harrive : w.arrive p = .ok (.found l) := by
      have hf : w.tree.follow FileTree.linkLimit (w.start p) p.segments = .ok (.found l) :=
        ht.follow_iff.mpr hg
      simpa [arrive, htext, hnul, start] using hf
    simp [locate, harrive, hn]

/-- A relative path taken from the directory of a file leads to where its pieces lead from the
directory above the file. -/
theorem locate_beside_iff (ht : w.tree.Linkless) (hhere : w.tree.Canonical w.here)
    (hp : w.locate p = .ok l) (hl : ¬w.tree.isDirectoryAt l) (hq : q.isAbsolute = false)
    (htext : q.text ≠ []) :
    w.locate (p.directory.join q) = .ok m ↔
      0 ∉ q.text ∧ w.tree.Goes l.dropLast q.segments (.found m) ∧
        (w.tree.node? m).isSome := by
  obtain ⟨-, hnul, hgoes, -⟩ := (locate_iff ht).mp hp
  obtain ⟨front, s, hsegs⟩ := List.eq_nil_or_concat p.segments |>.resolve_left
    (Path.segments_ne_nil p)
  rw [List.concat_eq_append] at hsegs
  rw [hsegs] at hgoes
  have hslash : ∀ x ∈ front, slash ∉ x := fun x hx =>
    Path.slash_notMem_of_mem_segments (p := p) (by simp [hsegs, hx])
  obtain ⟨d, hd, rfl, hs⟩ := hgoes.last (canonical_start hhere p) hslash hl
  obtain ⟨kept, idle, hfront, hidle, hjoin, habs⟩ := Path.segments_directory_join hsegs hs hq
  have hkept : w.tree.Goes (w.start p) kept (.found d) := by
    obtain ⟨k, hk, hkd⟩ := (hfront ▸ hd).split
    rwa [hkd.eq_of_idle hidle]
  have hstart : w.start (p.directory.join q) = w.start p := by rw [start, habs, start]
  have hjoinNul : 0 ∉ (p.directory.join q).text ↔ 0 ∉ q.text := by
    rw [Path.mem_text_iff (by decide), Path.mem_text_iff (by decide), hjoin]
    have hkeptNul : ∀ x ∈ kept, 0 ∉ x := fun x hx hx' =>
      hnul ((Path.mem_text_iff (by decide)).mpr ⟨x, by simp [hsegs, hfront, hx], hx'⟩)
    grind
  have hjoinText : (p.directory.join q).text ≠ [] := Path.join_text_ne htext
  rw [locate_iff ht, hjoinNul, hstart, hjoin, hkept.append_iff, List.dropLast_concat]
  simp [hjoinText]

/-- Where a name beside a file leads does not depend on how the file was spelled. -/
theorem locate_beside_congr {p' : Path} (ht : w.tree.Linkless) (hhere : w.tree.Canonical w.here)
    (hp : w.locate p = .ok l) (hp' : w.locate p' = .ok l) (hl : ¬w.tree.isDirectoryAt l)
    (htext : q.text ≠ []) :
    w.locate (p.directory.join q) = .ok m ↔ w.locate (p'.directory.join q) = .ok m := by
  by_cases hq : q.isAbsolute
  · simp [Path.join, hq]
  · rw [Bool.not_eq_true] at hq
    rw [locate_beside_iff ht hhere hp hl hq htext, locate_beside_iff ht hhere hp' hl hq htext]

def Placed (w : Workspace) : Prop := w.locate (Location.path w.here) = .ok w.here

namespace Placed

theorem canonical (h : w.Placed) : w.tree.Canonical w.here := by
  have hf := (follow_of_locate h).2.2
  rw [start, if_pos (Location.isAbsolute_path _)] at hf
  exact (FileTree.canonical_nil w.tree).follow
    (fun _ => Path.slash_notMem_of_mem_segments) hf

theorem nul_notMem (h : w.Placed) {s : RawText} (hs : s ∈ w.here) : 0 ∉ s := by
  intro hnul
  have hne : w.here ≠ [] := List.ne_nil_of_mem hs
  have hslash : ∀ x ∈ w.here, slash ∉ x := fun x hx => (h.canonical.names x hx).noSlash
  refine (follow_of_locate h).2.1 ((Path.mem_text_iff (by decide)).mpr ⟨s, ?_, hnul⟩)
  rw [Location.segments_path hne hslash]
  exact List.mem_cons_of_mem _ hs

theorem locate_path (h : w.Placed) (ht : w.tree.Linkless) (hp : w.locate p = .ok l) :
    w.locate (Location.path l) = .ok l := by
  obtain ⟨-, hnul, hgoes, hn⟩ := (locate_iff ht).mp hp
  have hl : w.tree.Canonical l := canonical_of_locate h.canonical hp
  have hroot : w.tree.isDirectoryAt [] := by simp [FileTree.isDirectoryAt]
  have hstart : w.start (Location.path l) = [] := if_pos (Location.isAbsolute_path l)
  rcases List.eq_nil_or_concat l with rfl | ⟨d, s, hds⟩
  · refine (locate_iff ht).mpr ⟨by decide, by decide, ?_, hn⟩
    rw [hstart]
    exact .idle hroot rfl (.idle hroot rfl (.arrived []))
  have hne : l ≠ [] := by simp [hds]
  have hsegs := Location.segments_path hne fun x hx => (hl.names x hx).noSlash
  refine (locate_iff ht).mpr ⟨by simp [Location.path], ?_, ?_, hn⟩
  · rw [Path.mem_text_iff (by decide), hsegs]
    rintro ⟨x, hx, hx'⟩
    rcases List.mem_cons.mp hx with rfl | hx
    · simp at hx'
    rcases hgoes.mem_or_mem hx with hx | hx
    · unfold start at hx
      split at hx
      · cases hx
      · exact h.nul_notMem hx hx'
    · exact hnul ((Path.mem_text_iff (by decide)).mpr ⟨x, hx, hx'⟩)
  · rw [hstart, hsegs]
    exact .idle hroot rfl (hl.goes hn)

end Placed

end Workspace

end ScriptBundle
