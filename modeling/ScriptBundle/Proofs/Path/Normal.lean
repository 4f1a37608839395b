import ScriptBundle.Proofs.Path.Segments
import ScriptBundle.Roots

/-! # Normal paths

Normalising a path keeps its components and leaves out everything else. Two normal paths are then the same
as soon as they have the same components, and the directories that search paths name are normal.
-/

namespace ScriptBundle

theorem Component.text_of_ofSegment? {s : RawText} {x : Component} (h : ofSegment? s = some x) :
    x.text = s := by
  unfold ofSegment? at h
  split at h
  · cases h
  split at h
  next hs =>
    cases h
    exact hs.symm
  next =>
    cases h
    rfl

theorem Component.ofSegment?_eq_none_iff {s : RawText} :
    ofSegment? s = none ↔ Path.Cut.isIdle s := by
  unfold ofSegment? Path.Cut.isIdle
  by_cases hs : s = [] ∨ s = "."
  · simp [hs]
  · rw [if_neg hs]
    simp only [Bool.or_eq_true, beq_iff_eq, hs, iff_false]
    split <;> simp

namespace Path

namespace Cut

def steps (c : Cut) : List RawText := c.body.filter fun s => !isIdle s

variable {c : Cut}

theorem filterMap_steps : c.steps.filterMap Component.ofSegment? =
    c.body.filterMap Component.ofSegment? := by
  unfold steps
  rw [List.filterMap_filter]
  congr 1
  funext s
  by_cases hs : isIdle s
  · simp [hs, Component.ofSegment?_eq_none_iff.mpr hs]
  · simp [hs]

theorem map_text_filterMap :
    (c.body.filterMap Component.ofSegment?).map Component.text = c.steps := by
  unfold steps
  induction c.body with
  | nil => rfl
  | cons s rest ih =>
    by_cases hs : isIdle s
    · simp [Component.ofSegment?_eq_none_iff.mpr hs, hs, ih]
    · obtain ⟨x, hx⟩ := Option.ne_none_iff_exists'.mp (mt Component.ofSegment?_eq_none_iff.mp hs)
      simp [hx, hs, ih, Component.text_of_ofSegment? hx]

/-- A path is cut behind the pieces of its lead. -/
theorem cut_eq {p : Path} {lead : Option Lead} {s : RawText} {rest : List RawText}
    (hp : p.segments = leadPieces lead ++ s :: rest) (hs : isIdle s = false) :
    p.cut = ⟨lead, s :: rest⟩ := by
  have hspeaks : s ≠ [] ∧ s ≠ "." := by simpa [isIdle] using hs
  have habs : p.isAbsolute ↔ lead = some .root := by
    rw [isAbsolute_iff, hp]
    rcases lead with _ | _ | _ <;> simp [leadPieces, hspeaks.1]
  unfold cut
  rcases lead with _ | _ | _ <;> simp [hp, habs, leadPieces, hspeaks.2]

theorem components_path (hslash : ∀ s ∈ c.body, slash ∉ s)
    (hspeaks : ∀ s ∈ c.body, isIdle s = false) : c.path.components = c.components := by
  rcases c with ⟨lead, _ | ⟨s, rest⟩⟩
  · rcases lead with _ | _ | _ <;> decide +kernel
  have hpieces : ∀ x ∈ leadPieces lead ++ s :: rest, slash ∉ x := by
    intro x hx
    rcases List.mem_append.mp hx with hx | hx
    · exact slash_notMem_leadPieces hx
    · exact hslash x hx
  have hsegs : (Cut.path ⟨lead, s :: rest⟩).segments = leadPieces lead ++ s :: rest := by
    rw [path_eq (fun _ => List.cons_ne_nil s rest)]
    exact segments_joinNames (by simp) hpieces
  rw [Path.components, cut_eq hsegs (hspeaks s List.mem_cons_self)]

end Cut

variable {p q : Path}

theorem normal_eq (p : Path) : p.normal = Cut.path ⟨p.cut.lead, p.cut.steps⟩ := by
  rw [normal, components, Cut.components, ← Cut.map_text_filterMap]
  rcases p.cut.lead with _ | _ | _
  · unfold ofComponents
    split
    next rest hroot =>
      -- No piece between slashes stands for the root.
      have hmem : Component.root ∈ p.cut.body.filterMap Component.ofSegment? := by
        simp [hroot]
      obtain ⟨s, -, hs⟩ := List.mem_filterMap.mp hmem
      unfold Component.ofSegment? at hs
      split at hs
      · cases hs
      · split at hs <;> cases hs
    next => rfl
  · rfl
  · rfl

@[simp] theorem components_normal (p : Path) : p.normal.components = p.components := by
  have hsteps : ∀ s ∈ p.cut.steps, s ∈ p.cut.body ∧ Cut.isIdle s = false := by
    intro s hs
    simpa [Cut.steps] using hs
  have hslash : ∀ s ∈ p.cut.steps, slash ∉ s := by
    intro s hs
    refine slash_notMem_of_mem_segments (p := p) ?_
    rw [segments_eq_cut]
    exact List.mem_append_right _ (hsteps s hs).1
  rw [normal_eq, Cut.components_path hslash fun s hs => (hsteps s hs).2]
  simp only [components, Cut.components, Cut.filterMap_steps]

theorem normal_normal (p : Path) : p.normal.normal = p.normal := by
  rw [normal, components_normal, normal]

theorem eq_of_components_eq (hp : p.normal = p) (hq : q.normal = q)
    (h : p.components = q.components) : p = q := by
  rw [← hp, ← hq, normal, normal, h]

end Path

theorem Roots.normal_substitute (r : Roots) (searchPath : String) :
    (r.substitute searchPath).normal = r.substitute searchPath :=
  Path.normal_normal _

end ScriptBundle
