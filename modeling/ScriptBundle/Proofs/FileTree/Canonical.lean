import ScriptBundle.FileTree.Basic
import ScriptBundle.Proofs.Path.Segments

/-! # Canonical locations

A location is canonical if its names are ordinary ones, directories stand all the way above it and no
link stands at it. Distinct canonical locations are distinct entries of the tree, and a path leads to
canonical locations only, provided that relative paths start from one.
-/

namespace ScriptBundle

namespace Location

theorem isAbsolute_path (l : Location) : (path l).isAbsolute := by
  simp [path, Path.isAbsolute]

theorem segments_path {l : Location} (hne : l ≠ []) (h : ∀ s ∈ l, slash ∉ s) :
    (path l).segments = [] :: l := by
  rw [path, Path.segments_slash, Path.segments_joinNames hne h]

end Location

namespace FileTree

/-- A piece of a path that asks for an entry of a directory. -/
structure IsPlain (s : RawText) : Prop where
  notIdle : Path.Cut.isIdle s = false
  notUp : s ≠ ".."
  size : s.length ≤ nameLimit

structure IsName (s : RawText) : Prop extends IsPlain s where
  noSlash : slash ∉ s

theorem isName_iff {s : RawText} :
    IsName s ↔ Path.Cut.isIdle s = false ∧ s ≠ ".." ∧ s.length ≤ nameLimit ∧ slash ∉ s := by
  constructor
  · intro h
    exact ⟨h.notIdle, h.notUp, h.size, h.noSlash⟩
  · rintro ⟨hidle, hup, hsize, hslash⟩
    exact ⟨⟨hidle, hup, hsize⟩, hslash⟩

instance (s : RawText) : Decidable (IsName s) := decidable_of_iff' _ isName_iff

/-- Going along names up to a stop, as rules. A directory is needed for every name, even for one that
says nothing. -/
inductive Goes (t : FileTree) : Location → List RawText → Stop → Prop where
  | arrived (l) : Goes t l [] (.found l)
  | idle {l s pending stop} (hd : t.isDirectoryAt l) (hs : Path.Cut.isIdle s)
      (h : Goes t l pending stop) : Goes t l (s :: pending) stop
  | up {l pending stop} (hd : t.isDirectoryAt l) (h : Goes t l.dropLast pending stop) :
      Goes t l (".." :: pending) stop
  | vacant {l s} (hd : t.isDirectoryAt l) (hs : IsPlain s) (hn : t.node? (l ++ [s]) = none) :
      Goes t l [s] (.vacant l s)
  | link {l s pending target} (hd : t.isDirectoryAt l) (hs : IsPlain s)
      (hn : t.node? (l ++ [s]) = some (.link target)) :
      Goes t l (s :: pending) (.link l target pending)
  | entry {l s pending n stop} (hd : t.isDirectoryAt l) (hs : IsPlain s)
      (hn : t.node? (l ++ [s]) = some n) (hlink : ∀ target, n ≠ .link target)
      (h : Goes t (l ++ [s]) pending stop) : Goes t l (s :: pending) stop

structure Canonical (t : FileTree) (l : Location) : Prop where
  names : ∀ s ∈ l, IsName s
  above : ∀ d s e, l = d ++ s :: e → t.isDirectoryAt d
  noLink : ∀ target, t.node? l ≠ some (.link target)

variable {t : FileTree} {l m : Location}

theorem node?_of_isDirectoryAt (h : t.isDirectoryAt l) : t.node? l = some .directory := by
  simpa [isDirectoryAt] using h

theorem canonical_nil (t : FileTree) : t.Canonical [] where
  names := by simp
  above := by simp
  noLink := by simp

theorem Canonical.dropLast (h : t.Canonical l) : t.Canonical l.dropLast := by
  rcases List.eq_nil_or_concat l with rfl | ⟨d, s, rfl⟩
  · exact h
  rw [List.concat_eq_append, List.dropLast_concat]
  have hd : t.isDirectoryAt d := h.above d s [] (by simp)
  exact {
    names := fun x hx => h.names x (by simp [hx])
    above := fun a x e he => h.above a x (e ++ [s]) (by simp [he])
    noLink := fun target => by simp [node?_of_isDirectoryAt hd] }

theorem Canonical.entry {s : RawText} (h : t.Canonical l) (hd : t.isDirectoryAt l)
    (hs : IsName s) (hn : ∀ target, t.node? (l ++ [s]) ≠ some (.link target)) :
    t.Canonical (l ++ [s]) where
  names := fun x hx => by
    rcases List.mem_append.mp hx with hx | hx
    · exact h.names x hx
    · exact List.mem_singleton.mp hx ▸ hs
  above := fun d x e he => by
    rcases List.eq_nil_or_concat e with rfl | ⟨e', y, rfl⟩
    · exact (List.append_inj' he rfl).1 ▸ hd
    · have he' : l ++ [s] = (d ++ x :: e') ++ [y] := by simpa using he
      exact h.above d x e' (List.append_inj' he' rfl).1
  noLink := hn

theorem Goes.advance_eq {names : List RawText} {stop : Stop} (h : t.Goes l names stop) :
    t.advance l names = .ok stop := by
  induction h with
  | arrived => rfl
  | idle hd hs _ ih => simp [FileTree.advance, hd, hs, ih]
  | up hd _ ih => simp [FileTree.advance, hd, ih, Path.Cut.isIdle]
  | vacant hd hs hn => simp [FileTree.advance, hd, hs.notIdle, hs.notUp, hs.size, hn]
  | link hd hs hn => simp [FileTree.advance, hd, hs.notIdle, hs.notUp, hs.size, hn]
  | @entry l s pending n stop hd hs hn hlink _ ih =>
    cases n with
    | link target => exact absurd rfl (hlink target)
    | _ => simp [FileTree.advance, hd, hs.notIdle, hs.notUp, hs.size, hn, ih]

theorem goes_of_advance {names : List RawText} {stop : Stop}
    (h : t.advance l names = .ok stop) : t.Goes l names stop := by
  induction names generalizing l with
  | nil =>
    cases h
    exact .arrived l
  | cons s pending ih =>
    unfold FileTree.advance at h
    by_cases hd : t.isDirectoryAt l
    · simp only [hd, Bool.not_true, Bool.false_eq_true, if_false] at h
      by_cases hi : Path.Cut.isIdle s
      · rw [if_pos hi] at h
        exact .idle hd hi (ih h)
      by_cases hu : s = ".."
      · rw [if_neg hi, if_pos hu] at h
        exact hu ▸ .up hd (ih h)
      by_cases hsize : nameLimit < s.length
      · simp [if_neg hi, if_neg hu, if_pos hsize] at h
      rw [if_neg hi, if_neg hu, if_neg hsize] at h
      have hs : IsPlain s := ⟨by simpa using hi, hu, Nat.le_of_not_lt hsize⟩
      split at h
      next hn =>
        rcases pending with _ | ⟨s', pending⟩
        · cases h
          exact .vacant hd hs hn
        · cases h
      next target hn =>
        cases h
        exact .link hd hs hn
      next n hlink hn => exact .entry hd hs hn hlink (ih h)
    · simp [hd] at h

theorem goes_iff {names : List RawText} {stop : Stop} :
    t.Goes l names stop ↔ t.advance l names = .ok stop :=
  ⟨Goes.advance_eq, goes_of_advance⟩

/-- A stop at canonical locations, with names to come that are free of slashes. -/
def Stop.Sound (t : FileTree) : Stop → Prop
  | .found m => t.Canonical m
  | .vacant .. => True
  | .link d _ pending => t.Canonical d ∧ ∀ s ∈ pending, slash ∉ s

/-- Going along names from a canonical location comes to canonical ones. -/
theorem Goes.sound {names : List RawText} {stop : Stop} (h : t.Goes l names stop)
    (hl : t.Canonical l) (hn : ∀ s ∈ names, slash ∉ s) : stop.Sound t := by
  induction h with
  | arrived => exact hl
  | idle _ _ _ ih => exact ih hl fun s hs => hn s (List.mem_cons_of_mem _ hs)
  | up _ _ ih => exact ih hl.dropLast fun s hs => hn s (List.mem_cons_of_mem _ hs)
  | vacant => trivial
  | link => exact ⟨hl, fun s hs => hn s (List.mem_cons_of_mem _ hs)⟩
  | @entry l s pending n stop hd hs hnode hlink _ ih =>
    have hname : IsName s := ⟨hs, hn s List.mem_cons_self⟩
    refine ih (hl.entry hd hname ?_) fun x hx => hn x (List.mem_cons_of_mem _ hx)
    intro target he
    exact hlink target (Option.some.inj (hnode.symm.trans he))

theorem Canonical.follow {links : Nat} {names : List RawText} (hl : t.Canonical l)
    (hn : ∀ s ∈ names, slash ∉ s) (h : t.follow links l names = .ok (.found m)) :
    t.Canonical m := by
  induction links generalizing l names with
  | zero =>
    unfold FileTree.follow at h
    split at h
    next => cases h
    next ha =>
      cases h
      exact (goes_of_advance ha).sound hl hn
    next => cases h
    next => cases h
  | succ links ih =>
    unfold FileTree.follow at h
    split at h
    next => cases h
    next ha =>
      cases h
      exact (goes_of_advance ha).sound hl hn
    next => cases h
    next d target pending ha =>
      obtain ⟨hd, hp⟩ := (goes_of_advance ha).sound hl hn
      refine ih ?_ ?_ h
      · split
        · exact canonical_nil t
        · exact hd
      · intro s hs
        rcases List.mem_append.mp hs with hs | hs
        · exact Path.slash_notMem_of_mem_segments hs
        · exact hp s hs

end FileTree

namespace Workspace

variable {w : Workspace} {p : Path} {l : Location}

def start (w : Workspace) (p : Path) : Location := if p.isAbsolute then [] else w.here

theorem follow_of_locate (h : w.locate p = .ok l) :
    p.text ≠ [] ∧ 0 ∉ p.text ∧
      w.tree.follow FileTree.linkLimit (w.start p) p.segments = .ok (.found l) := by
  unfold locate at h
  split at h
  next l' ha =>
    obtain rfl : l' = l := by
      split at h
      · exact Except.ok.inj h
      · cases h
    unfold arrive at ha
    split at ha
    · cases ha
    next ht =>
      split at ha
      · cases ha
      next hz => exact ⟨ht, by simpa using hz, ha⟩
  next => cases h
  next => cases h

theorem canonical_start (hhere : w.tree.Canonical w.here) (p : Path) :
    w.tree.Canonical (w.start p) := by
  unfold start
  split
  · exact FileTree.canonical_nil w.tree
  · exact hhere

/-- A path leads to canonical locations, if relative paths start from one. -/
theorem canonical_of_locate (hhere : w.tree.Canonical w.here) (h : w.locate p = .ok l) :
    w.tree.Canonical l :=
  (canonical_start hhere p).follow (fun _ => Path.slash_notMem_of_mem_segments)
    (follow_of_locate h).2.2

end Workspace

end ScriptBundle
