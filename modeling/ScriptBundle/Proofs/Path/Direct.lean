import ScriptBundle.Proofs.FileTree.Beside
import ScriptBundle.Proofs.Path.Normal

/-! # Directly written paths

A path that is written with names alone, from the root on, stays so when the last name is taken away or
further names are added, and in a tree without links it can only lead to the location of these names.
-/

namespace ScriptBundle

theorem intercalate_splitAtSep {α : Type} [DecidableEq α] (sep : α) (cs : List α) :
    [sep].intercalate (splitAtSep sep cs) = cs := by
  induction cs with
  | nil => rfl
  | cons c cs ih =>
    obtain ⟨first, more, hs⟩ := List.exists_cons_of_ne_nil (splitAtSep_ne_nil sep cs)
    rw [hs] at ih
    by_cases hc : c = sep
    · rw [splitAtSep, if_pos hc, hs, List.intercalate_cons_cons, ih, hc]
      rfl
    · rw [splitAtSep_cons_of_ne hc hs]
      cases more with
      | nil =>
        rw [List.intercalate_singleton] at ih ⊢
        rw [ih]
      | cons next more =>
        rw [List.intercalate_cons_cons] at ih ⊢
        rw [List.cons_append, List.cons_append, ih]

namespace Path

theorem joinNames_segments (p : Path) : joinNames p.segments = p.text := intercalate_splitAtSep slash p.text

end Path

namespace Location

/-- Names that say something and do not go up, so that a path written with them is at each of them. -/
def Named (l : Location) : Prop :=
  ∀ s ∈ l, slash ∉ s ∧ Path.Cut.isIdle s = false ∧ s ≠ ".."

instance (l : Location) : Decidable l.Named := inferInstanceAs (Decidable (∀ s ∈ l, _))

variable {l : Location}

theorem path_append_segments (hl : l ≠ []) (q : Path) :
    path (l ++ q.segments) = ⟨(path l).text ++ slash :: q.text⟩ := by
  rw [path, joinNames_append hl (Path.segments_ne_nil q), Path.joinNames_segments]
  rfl

theorem getLast?_path {front : List RawText} {s : RawText} (hs : Path.Cut.isIdle s = false) :
    (path (front ++ [s])).text.getLast? = s.getLast? := by
  have hne : s ≠ [] := by
    rintro rfl
    cases hs
  have htext : slash :: joinNames (front ++ [s]) = joinNames (([] :: front) ++ [s]) := by
    rw [List.cons_append, joinNames_cons (by simp), List.nil_append]
  rw [path, htext, Path.getLast?_joinNames _ hne]

theorem directory_path (h : l.Named) (hne : l ≠ []) : (path l).directory = path l.dropLast := by
  obtain ⟨s, rest, hl⟩ := List.exists_cons_of_ne_nil hne
  have hsegs : (path l).segments = Path.leadPieces (some .root) ++ s :: rest := by
    rw [segments_path hne fun x hx => (h x hx).1, hl]
    rfl
  have hcut : (path l).cut = ⟨some .root, l⟩ := by
    rw [Path.Cut.cut_eq hsegs (h s (by simp [hl])).2.1, hl]
  rcases List.eq_nil_or_concat l with hnil | ⟨front, last, hconcat⟩
  · exact absurd hnil hne
  rw [List.concat_eq_append] at hconcat
  have hfront : Path.Cut.trimBack front = front := by
    rcases List.eq_nil_or_concat front with hnil | ⟨more, x, hx⟩
    · rw [hnil]
      rfl
    · rw [List.concat_eq_append] at hx
      rw [hx, Path.Cut.trimBack_concat (h x (by simp [hconcat, hx])).2.1]
  rw [Path.directory_eq (by rw [hcut, hconcat]) (h last (by simp [hconcat])).2.1, hcut, hfront,
    hconcat, List.dropLast_concat]
  rfl

theorem join_path (h : l.Named) {q : Path} (hq : q.isAbsolute = false) :
    (path l).join q = path (l ++ q.segments) := by
  have hnonempty : (path l).text ≠ [] := by simp [path]
  rcases List.eq_nil_or_concat l with rfl | ⟨front, s, hl⟩
  · simp [path, Path.join, hq, Path.joinNames_segments]
  rw [List.concat_eq_append] at hl
  obtain ⟨hslash, hidle, -⟩ := h s (by simp [hl])
  have hlast : ((path l).text.getLast? == some slash) = false := by
    rw [hl, getLast?_path hidle]
    simpa using fun hs => hslash (List.mem_of_getLast? hs)
  rw [path_append_segments (by simp [hl])]
  simp only [Path.join, hq, hlast, if_neg hnonempty, Bool.false_eq_true, if_false]

end Location

/-- Going along names leads to the location that they add up to. -/
theorem FileTree.Goes.eq_append {t : FileTree} {l m d : Location} (h : t.Goes d l (.found m))
    (hl : l.Named) : m = d ++ l := by
  generalize hstop : Stop.found m = stop at h
  induction h with
  | arrived =>
    cases hstop
    rw [List.append_nil]
  | idle _ hs _ _ =>
    rw [(hl _ List.mem_cons_self).2.1] at hs
    cases hs
  | up => exact absurd rfl (hl _ List.mem_cons_self).2.2
  | vacant => cases hstop
  | link => cases hstop
  | entry _ _ _ _ _ ih =>
    rw [ih (fun s hs => hl s (List.mem_cons_of_mem _ hs)) hstop]
    simp

/-- Without links, a path that is written with names leads to their location, if anywhere. -/
theorem Workspace.eq_of_locate_path {w : Workspace} {l m : Location} (ht : w.tree.Linkless)
    (hl : l.Named) (h : w.locate (Location.path l) = .ok m) : m = l := by
  obtain ⟨-, -, hgoes, -⟩ := (locate_iff ht).mp h
  rw [start, if_pos (Location.isAbsolute_path l)] at hgoes
  by_cases hne : l = []
  · subst hne
    have hsegs : (Location.path []).segments = [[], []] := by decide
    rw [hsegs] at hgoes
    exact hgoes.eq_of_idle (by decide)
  · rw [Location.segments_path hne fun s hs => (hl s hs).1] at hgoes
    obtain ⟨d, hd, hm⟩ := (List.singleton_append ▸ hgoes).split
    rw [hm.eq_append hl, hd.eq_of_idle (by decide), List.nil_append]

end ScriptBundle
