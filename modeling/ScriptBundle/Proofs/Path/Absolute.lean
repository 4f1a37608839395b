import ScriptBundle.Proofs.Path.Text

/-! # Absolute paths

What is made from absolute paths is absolute: what lies below them, their parents, their normal forms, and
the directories that search paths name when they begin with a placeholder or a slash.
-/

namespace ScriptBundle

namespace Path

variable {p q base : Path}

theorem isAbsolute_mk (body : RawText) : (Path.mk (slash :: body)).isAbsolute := by
  simp [isAbsolute]

theorem isAbsolute_join (h : base.isAbsolute) : (base.join p).isAbsolute := by
  have hhead : base.text.head? = some slash := by simpa [isAbsolute] using h
  unfold join
  split
  next hp => exact hp
  split
  next hempty =>
    rw [hempty] at hhead
    cases hhead
  split <;> simp [isAbsolute, List.head?_append, hhead]

theorem isAbsolute_cut_path {c : Cut} (h : c.lead = some .root) : c.path.isAbsolute := by
  simp only [Cut.path, h]
  exact isAbsolute_mk _

theorem isAbsolute_normal (h : p.isAbsolute) : p.normal.isAbsolute := by
  rw [normal_eq]
  exact isAbsolute_cut_path (lead_eq_root_iff.mpr h)

theorem isAbsolute_parent? (h : p.isAbsolute) (hq : p.parent? = some q) : q.isAbsolute := by
  have hlead := lead_eq_root_iff.mpr h
  simp only [parent?, hlead] at hq
  split at hq
  next hhere => cases hhere
  next => cases hq
  next hlead' =>
    cases hq
    exact isAbsolute_cut_path rfl

theorem parent?_eq_none_iff (h : p.isAbsolute) :
    p.parent? = none ↔ ∀ s ∈ p.segments, Cut.isIdle s := by
  have hlead := lead_eq_root_iff.mpr h
  obtain ⟨⟨idle, hbody, hidle⟩, hlast⟩ := Cut.trimBack_spec p.cut.body
  have hsegs : p.segments = [] :: p.cut.body := by rw [segments_eq_cut, hlead]; rfl
  have hnone : p.parent? = none ↔ Cut.trimBack p.cut.body = [] := by
    simp only [parent?, hlead]
    rcases Cut.trimBack p.cut.body with _ | ⟨s, rest⟩ <;> simp
  rw [hnone, hsegs]
  constructor
  · intro hnil
    rw [hnil, List.nil_append] at hbody
    rw [hbody]
    exact List.forall_mem_cons.mpr ⟨rfl, hidle⟩
  · intro hall
    rcases List.eq_nil_or_concat (Cut.trimBack p.cut.body) with hnil | ⟨front, s, hs⟩
    · exact hnil
    · rw [List.concat_eq_append] at hs
      have hmem : s ∈ [] :: p.cut.body := by
        rw [hbody, hs]
        simp
      have hs' := hall s hmem
      rw [hlast front s hs] at hs'
      cases hs'

theorem isAbsolute_directory (h : p.isAbsolute) (hparent : p.parent? ≠ none) :
    p.directory.isAbsolute := by
  obtain ⟨q, hq⟩ := Option.ne_none_iff_exists'.mp hparent
  rw [directory, hq]
  exact isAbsolute_parent? h hq

end Path

namespace Roots

/-- Whether a search path begins with a placeholder or with a slash. -/
def IsAnchored (searchPath : String) : Prop :=
  ['A', 'P', 'P'] <+: searchPath.toList ∨ ['W', 'E', 'B', 'R', 'O', 'O', 'T'] <+: searchPath.toList ∨
    ['/'] <+: searchPath.toList

theorem head?_expansion {dir : Path} (h : dir.isAbsolute) : (expansion dir).head? = some '/' := by
  simp only [expansion]
  split
  · exact Path.head?_normalText h
  · rw [List.head?_append, Path.head?_normalText h]
    rfl

theorem isAbsolute_substitute {r : Roots} {searchPath : String} (happ : r.app.isAbsolute)
    (hwebroot : r.webroot.isAbsolute) (h : IsAnchored searchPath) :
    (r.substitute searchPath).isAbsolute := by
  have hpieces : ∃ piece more, SearchPiece.ofChars searchPath.toList = piece :: more ∧
      (r.expand piece).head? = some '/' := by
    rcases h with ⟨rest, hs⟩ | ⟨rest, hs⟩ | ⟨rest, hs⟩
    · exact ⟨.app, SearchPiece.ofChars rest, by rw [← hs]; rfl, head?_expansion happ⟩
    · exact ⟨.webroot, SearchPiece.ofChars rest, by rw [← hs]; rfl, head?_expansion hwebroot⟩
    · exact ⟨.char '/', SearchPiece.ofChars rest, by rw [← hs]; rfl, rfl⟩
  obtain ⟨piece, more, hpieces, hhead⟩ := hpieces
  refine Path.isAbsolute_normal ?_
  rw [Path.isAbsolute_text, String.toList_ofList, hpieces, List.flatMap_cons, List.head?_append, hhead]
  rfl

end Roots

end ScriptBundle
