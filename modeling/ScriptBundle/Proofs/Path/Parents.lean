import Mathlib.Logic.Relation
import ScriptBundle.Proofs.Path.Segments

/-! # The paths above a path

Taking components from the end of a path leaves the paths above it. Each is written with the pieces that
the path begins with; only the root is written in its own way.
-/

namespace ScriptBundle

namespace Path

/-- Whether the second path is the first one without components at its end. -/
def Above (q p : Path) : Prop := Relation.TransGen (fun a b => a.parent? = some b) p q

/-- Whether the second path is the first one, with all its components or without some at its end. -/
def AtOrAbove (q p : Path) : Prop := Relation.ReflTransGen (fun a b => a.parent? = some b) p q

variable {p q outer : Path}

theorem Above.of_atOrAbove (houter : p.parent? = some outer) (hq : AtOrAbove q outer) : Above q p :=
  Relation.TransGen.head' houter hq

theorem Above.atOrAbove (hq : Above q p) : AtOrAbove q p := Relation.TransGen.to_reflTransGen hq

theorem parent?_cut (h : p.parent? = some q) (hq : q.text ≠ []) : ∃ front s,
    Cut.trimBack p.cut.body = front ++ [s] ∧ q = Cut.path ⟨p.cut.lead, Cut.trimBack front⟩ := by
  simp only [parent?] at h
  split at h
  next =>
    cases h
    exact absurd rfl hq
  next => cases h
  next hnone _ =>
    cases h
    rcases List.eq_nil_or_concat (Cut.trimBack p.cut.body) with hbody | ⟨front, s, hbody⟩
    · exact absurd hbody hnone
    · rw [List.concat_eq_append] at hbody
      exact ⟨front, s, hbody, by rw [hbody, List.dropLast_concat]⟩

/-- The parent of a path is the root, or it is written with the pieces that the path begins with. -/
theorem segments_parent? (h : p.parent? = some q) (hq : q.text ≠ []) :
    (q = ⟨"/"⟩ ∧ p.isAbsolute) ∨ q.isAbsolute = p.isAbsolute ∧
      ∃ more, more ≠ [] ∧ p.segments = q.segments ++ more := by
  obtain ⟨front, s, hbody, rfl⟩ := parent?_cut h hq
  obtain ⟨⟨idle, hidle, -⟩, -⟩ := Cut.trimBack_spec p.cut.body
  obtain ⟨⟨gap, hgap, -⟩, -⟩ := Cut.trimBack_spec front
  generalize Cut.trimBack front = kept at hgap hq ⊢
  rw [hbody, hgap] at hidle
  have hsegs : p.segments = (leadPieces p.cut.lead ++ kept) ++ (gap ++ [s] ++ idle) := by
    rw [segments_eq_cut, hidle]
    simp
  -- The root alone ends in a slash, so it is not written with its pieces.
  by_cases hroot : p.cut.lead = some .root ∧ kept = []
  · refine Or.inl ⟨?_, lead_eq_root_iff.mp hroot.1⟩
    rw [hroot.1, hroot.2]
    rfl
  have hpath : Cut.path ⟨p.cut.lead, kept⟩ = ⟨joinNames (leadPieces p.cut.lead ++ kept)⟩ :=
    Cut.path_eq fun hlead hnil => hroot ⟨hlead, hnil⟩
  have hne : leadPieces p.cut.lead ++ kept ≠ [] := by
    intro hnil
    rw [hpath, hnil] at hq
    exact hq rfl
  have hslash : ∀ x ∈ leadPieces p.cut.lead ++ kept, slash ∉ x := fun x hx =>
    slash_notMem_of_mem_segments (p := p) (hsegs ▸ List.mem_append_left _ hx)
  have hparent : (Cut.path ⟨p.cut.lead, kept⟩).segments = leadPieces p.cut.lead ++ kept := by
    rw [hpath, segments_joinNames hne hslash]
  refine Or.inr ⟨?_, gap ++ [s] ++ idle, by simp, by rw [hparent, hsegs]⟩
  rw [Bool.eq_iff_iff]
  constructor
  · intro habs
    obtain ⟨x, rest, hx⟩ := isAbsolute_iff.mp habs
    rw [hparent] at hx
    exact isAbsolute_iff.mpr ⟨x, rest ++ (gap ++ [s] ++ idle), by rw [hsegs, hx]; rfl⟩
  · intro habs
    have hlead := lead_eq_root_iff.mpr habs
    obtain ⟨x, rest, hx⟩ := List.exists_cons_of_ne_nil fun hnil => hroot ⟨hlead, hnil⟩
    exact isAbsolute_iff.mpr ⟨x, rest, by rw [hparent, hlead, hx]; rfl⟩

end Path

end ScriptBundle
