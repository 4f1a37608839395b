import ScriptBundle.FileTree.Change
import ScriptBundle.Proofs.FileTree.Canonical

/-!
# New files

Writing to a path at which nothing stands puts a file there, and the path leads to this file from then
on. What the path goes through on its way was there before, and is found as before.
-/

namespace ScriptBundle

namespace FileTree

def Stop.filled (place : Location) : Stop → Stop
  | .found l => .found l
  | .vacant l name => if l ++ [name] = place then .found place else .vacant l name
  | .link l target pending => .link l target pending

def Arrival.filled (place : Location) : Arrival → Arrival
  | .found l => .found l
  | .vacant l name => if l ++ [name] = place then .found place else .vacant l name

variable {t : FileTree} {place l : Location} {n : FileNode} {names : List RawText}

theorem ne_of_node?_eq_some {node : FileNode} (hfree : t.node? place = none)
    (h : t.node? l = some node) : l ≠ place := by
  rintro rfl
  rw [hfree] at h
  cases h

theorem node?_put_of_free {node : FileNode} (hfree : t.node? place = none)
    (h : t.node? l = some node) : (t.put place n).node? l = some node := by
  rw [node?_put_of_ne n (ne_of_node?_eq_some hfree h), h]

theorem isDirectoryAt_put (hfree : t.node? place = none) (h : t.isDirectoryAt l) :
    (t.put place n).isDirectoryAt l := by
  rw [isDirectoryAt, node?_put_of_free hfree (node?_of_isDirectoryAt h)]
  rfl

theorem Goes.put {stop : Stop} (h : t.Goes l names stop) (hfree : t.node? place = none)
    (hn : ∀ target, n ≠ .link target) : (t.put place n).Goes l names (stop.filled place) := by
  have hroot : place ≠ [] := (ne_of_node?_eq_some hfree (node?_nil t)).symm
  induction h with
  | arrived l => exact .arrived l
  | idle hd hs _ ih => exact .idle (isDirectoryAt_put hfree hd) hs ih
  | up hd _ ih => exact .up (isDirectoryAt_put hfree hd) ih
  | @vacant l s hd hs hnone =>
    have hd' := isDirectoryAt_put (n := n) hfree hd
    by_cases hplace : l ++ [s] = place
    · subst hplace
      rw [Stop.filled, if_pos rfl]
      exact .entry hd' hs (node?_put_self n hroot) hn (.arrived _)
    · rw [Stop.filled, if_neg hplace]
      exact .vacant hd' hs ((node?_put_of_ne n hplace).trans hnone)
  | link hd hs hlink =>
    exact .link (isDirectoryAt_put hfree hd) hs (node?_put_of_free hfree hlink)
  | entry hd hs hnode hlink _ ih =>
    exact .entry (isDirectoryAt_put hfree hd) hs (node?_put_of_free hfree hnode) hlink ih

theorem follow_eq_ok_iff {links : Nat} {arrival : Arrival} :
    t.follow links l names = .ok arrival ↔
      (∃ m, t.Goes l names (.found m) ∧ arrival = .found m) ∨
      (∃ d name, t.Goes l names (.vacant d name) ∧ arrival = .vacant d name) ∨
      ∃ d target pending fewer, t.Goes l names (.link d target pending) ∧ links = fewer + 1 ∧
        t.follow fewer (if target.isAbsolute then [] else d) (target.segments ++ pending) =
          .ok arrival := by
  constructor
  · intro h
    unfold follow at h
    split at h
    next => cases h
    next m hstop =>
      cases h
      exact Or.inl ⟨m, goes_of_advance hstop, rfl⟩
    next d name hstop =>
      cases h
      exact Or.inr (Or.inl ⟨d, name, goes_of_advance hstop, rfl⟩)
    next d target pending hstop =>
      rcases links with _ | fewer
      · cases h
      · exact Or.inr (Or.inr ⟨d, target, pending, fewer, goes_of_advance hstop, rfl, h⟩)
  · rintro (⟨m, hgoes, rfl⟩ | ⟨d, name, hgoes, rfl⟩ | ⟨d, target, pending, fewer, hgoes, rfl, h⟩)
    · rw [follow, hgoes.advance_eq]
    · rw [follow, hgoes.advance_eq]
    · rw [follow, hgoes.advance_eq]
      exact h

theorem follow_put (hfree : t.node? place = none) (hn : ∀ target, n ≠ .link target)
    {links : Nat} {arrival : Arrival} (h : t.follow links l names = .ok arrival) :
    (t.put place n).follow links l names = .ok (arrival.filled place) := by
  induction links using Nat.strongRecOn generalizing l names with
  | _ links ih =>
    rw [follow_eq_ok_iff] at h ⊢
    rcases h with ⟨m, hgoes, rfl⟩ | ⟨d, name, hgoes, rfl⟩ | ⟨d, target, pending, fewer, hgoes, rfl, h⟩
    · exact Or.inl ⟨m, hgoes.put hfree hn, rfl⟩
    · have hput := hgoes.put hfree hn
      rw [Stop.filled] at hput
      rw [Arrival.filled]
      split at hput
      next hplace => exact Or.inl ⟨place, hput, by rw [if_pos hplace]⟩
      next hplace => exact Or.inr (Or.inl ⟨d, name, hput, by rw [if_neg hplace]⟩)
    · exact Or.inr (Or.inr ⟨d, target, pending, fewer, hgoes.put hfree hn, rfl,
        ih fewer (Nat.lt_succ_self fewer) h⟩)

theorem Goes.node?_of_vacant {stop : Stop} {d : Location} {name : RawText}
    (h : t.Goes l names stop) (hstop : stop = .vacant d name) : t.node? (d ++ [name]) = none := by
  induction h with
  | idle _ _ _ ih => exact ih hstop
  | up _ _ ih => exact ih hstop
  | entry _ _ _ _ _ ih => exact ih hstop
  | vacant _ _ hnone =>
    cases hstop
    exact hnone
  | arrived => cases hstop
  | link => cases hstop

theorem node?_of_follow_vacant {links : Nat} {d : Location} {name : RawText}
    (h : t.follow links l names = .ok (.vacant d name)) : t.node? (d ++ [name]) = none := by
  induction links using Nat.strongRecOn generalizing l names with
  | _ links ih =>
    rcases follow_eq_ok_iff.mp h with ⟨m, -, hfound⟩ | ⟨d', name', hgoes, hvacant⟩ |
      ⟨d', target, pending, fewer, -, rfl, hlater⟩
    · cases hfound
    · cases hvacant
      exact hgoes.node?_of_vacant rfl
    · exact ih fewer (Nat.lt_succ_self fewer) hlater

end FileTree

namespace Workspace

open FileTree (Arrival)

variable {w : Workspace} {p : Path} {l : Location} {t : FileTree} {content : Octets}

theorem arrive_eq_ok_iff {arrival : Arrival} :
    w.arrive p = .ok arrival ↔ p.text ≠ [] ∧ 0 ∉ p.text ∧
      w.tree.follow FileTree.linkLimit (w.start p) p.segments = .ok arrival := by
  unfold arrive
  by_cases ht : p.text = []
  · simp [ht]
  by_cases hz : 0 ∈ p.text
  · simp [ht, hz]
  · simp [ht, hz, start]

theorem arrive_put {place : Location} {n : FileNode} {arrival : Arrival}
    (hfree : w.tree.node? place = none) (hn : ∀ target, n ≠ .link target)
    (h : w.arrive p = .ok arrival) :
    (w.withTree (w.tree.put place n)).arrive p = .ok (arrival.filled place) := by
  obtain ⟨ht, hz, hfollow⟩ := arrive_eq_ok_iff.mp h
  exact arrive_eq_ok_iff.mpr ⟨ht, hz, FileTree.follow_put hfree hn hfollow⟩

/-- The place that writing fills is the one that the path names, free or not. A directory cannot be
filled. -/
theorem writingPlace_eq_ok {place : Location} (h : w.writingPlace p = .ok place) :
    w.arrive p = .ok (.found place) ∧ ¬w.tree.isDirectoryAt place ∨
      ∃ d name, w.arrive p = .ok (.vacant d name) ∧ d ++ [name] = place := by
  simp only [writingPlace, bind, Except.bind] at h
  split at h
  next => cases h
  split at h
  · split at h <;> cases h
  rcases ha : w.arrive p with fault | l | ⟨d, name⟩
  · rw [ha] at h
    cases h
  · rw [ha] at h
    simp only at h
    split at h
    · cases h
    next hdirectory =>
      cases h
      exact Or.inl ⟨rfl, hdirectory⟩
  · rw [ha] at h
    cases h
    exact Or.inr ⟨d, name, rfl, rfl⟩

theorem locate_put_file {place : Location} {modified : Int} (h : w.writingPlace p = .ok place)
    (hfree : w.tree.node? place = none) :
    (w.withTree (w.tree.put place (.file content modified))).locate p = .ok place := by
  have hroot : place ≠ [] := (FileTree.ne_of_node?_eq_some hfree (FileTree.node?_nil w.tree)).symm
  have hfile : ∀ target, FileNode.file content modified ≠ .link target := by simp
  have harrive : (w.withTree (w.tree.put place (.file content modified))).arrive p =
      .ok (.found place) := by
    rcases writingPlace_eq_ok h with ⟨ha, -⟩ | ⟨d, name, ha, rfl⟩
    · exact arrive_put hfree hfile ha
    · have hput := arrive_put hfree hfile ha
      rwa [Arrival.filled, if_pos rfl] at hput
  have hsome : ((w.withTree (w.tree.put place (.file content modified))).tree.node? place).isSome := by
    rw [withTree, FileTree.node?_put_self _ hroot]
    rfl
  unfold locate
  rw [harrive]
  simp only [hsome, if_true]

theorem locate_written (hnew : w.locate p = .error .missing)
    (hw : w.write p content = (.ok (), t)) : ∃ place,
      (w.withTree t).locate p = .ok place ∧ t.node? place = some (.file content w.now) := by
  unfold write at hw
  rcases hplace : w.writingPlace p with fault | place
  · rw [hplace] at hw
    cases hw
  rw [hplace] at hw
  simp only at hw
  have hfree : w.tree.node? place = none := by
    unfold locate at hnew
    rcases writingPlace_eq_ok hplace with ⟨ha, -⟩ | ⟨d, name, ha, rfl⟩
    · rw [ha] at hnew
      rcases hnode : w.tree.node? place with _ | node
      · rfl
      · simp [hnode] at hnew
    · exact FileTree.node?_of_follow_vacant (arrive_eq_ok_iff.mp ha).2.2
  rw [hfree] at hw
  obtain rfl : w.tree.put place (.file content w.now) = t := by simpa using hw
  have hroot : place ≠ [] := (FileTree.ne_of_node?_eq_some hfree (FileTree.node?_nil w.tree)).symm
  exact ⟨place, locate_put_file hplace hfree, FileTree.node?_put_self _ hroot⟩

end Workspace

end ScriptBundle
