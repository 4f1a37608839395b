import ScriptBundle.Proofs.Path.Normal

/-! # Components of joined paths

What a path says behind a slash is the components of its pieces, whatever stands before the slash. So a
relative path taken from a directory has the components of the directory and then its own, and one more
slash between the two says nothing.
-/

namespace ScriptBundle

namespace Path

def leadComponents : Option Lead → List Component
  | some .root => [.root]
  | some .here => [.here]
  | none => []

theorem Cut.components_eq (c : Cut) :
    c.components = leadComponents c.lead ++ c.body.filterMap Component.ofSegment? := by
  rcases c with ⟨_ | _ | _, body⟩ <;> rfl

def innerComponents (p : Path) : List Component := p.segments.filterMap Component.ofSegment?

variable {p base : Path} {a : RawText}

theorem cut_slash (b : RawText) : (Path.mk (slash :: b)).cut = ⟨some .root, (Path.mk b).segments⟩ := by
  have habs : (Path.mk (slash :: b)).isAbsolute := by simp [isAbsolute]
  simp [cut, segments_slash, habs]

theorem cut_append (ha : a ≠ []) (b : RawText) :
    (Path.mk (a ++ slash :: b)).cut =
      ⟨(Path.mk a).cut.lead, (Path.mk a).cut.body ++ (Path.mk b).segments⟩ := by
  obtain ⟨c, cs, hcs⟩ := List.exists_cons_of_ne_nil ha
  have habs : (Path.mk (a ++ slash :: b)).isAbsolute = (Path.mk a).isAbsolute := by
    simp [isAbsolute, hcs]
  obtain ⟨first, rest, hs⟩ := List.exists_cons_of_ne_nil (segments_ne_nil ⟨a⟩)
  simp only [cut, segments_append, habs, hs, List.cons_append]
  by_cases hroot : (Path.mk a).isAbsolute
  · simp [hroot]
  by_cases hdot : first = "."
  · simp [hroot, hdot]
  · simp [hroot, hdot]

theorem components_slash (b : RawText) :
    (Path.mk (slash :: b)).components = .root :: (Path.mk b).innerComponents := by
  rw [components, cut_slash]
  rfl

theorem components_append (ha : a ≠ []) (b : RawText) :
    (Path.mk (a ++ slash :: b)).components =
      (Path.mk a).components ++ (Path.mk b).innerComponents := by
  simp only [components, cut_append ha, Cut.components_eq, List.filterMap_append, List.append_assoc,
    innerComponents]

theorem innerComponents_slash (b : RawText) :
    (Path.mk (slash :: b)).innerComponents = (Path.mk b).innerComponents := by
  rw [innerComponents, segments_slash]
  rfl

theorem components_slash_slash (a b : RawText) :
    (Path.mk (a ++ slash :: slash :: b)).components = (Path.mk (a ++ slash :: b)).components := by
  by_cases ha : a = []
  · rw [ha, List.nil_append, List.nil_append, components_slash, components_slash, innerComponents_slash]
  · rw [components_append ha, components_append ha, innerComponents_slash]

/-- Whether a directory is written with a slash at its end or not, a relative path joined to it stands
behind a slash. -/
theorem components_join_eq (hbase : base.text ≠ []) (hp : p.isAbsolute = false) :
    (base.join p).components = (Path.mk (base.text ++ slash :: p.text)).components := by
  by_cases hslash : base.text.getLast? = some slash
  · obtain ⟨front, hfront⟩ := List.getLast?_eq_some_iff.mp hslash
    have hjoin : base.join p = ⟨front ++ slash :: p.text⟩ := by
      simp [join, hp, hfront]
    rw [hjoin, hfront, List.append_assoc, List.singleton_append, components_slash_slash]
  · have hjoin : base.join p = ⟨base.text ++ slash :: p.text⟩ := by
      simp [join, hp, hbase, hslash]
    rw [hjoin]

end Path

end ScriptBundle
