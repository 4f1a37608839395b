import ScriptBundle.Proofs.Walk.InclusionRules

/-! # Walks and the search index

A walk asks the search index where it meets a directive in angles, and nowhere else. One that meets no such
directive is the same whatever the index would say.
-/

namespace ScriptBundle

namespace Walk

def AsksAngle (ctx : WalkContext) (s : State) : Prop :=
  ∃ f below d rest, s.stack = f :: below ∧ Asks ctx f d rest ∧ d.kind = .angle

def Searches (ctx : WalkContext) (w : Walker) (path : Path) : Prop :=
  ∃ l s, ctx.workspace.locate path = .ok l ∧ l ∉ w.visited ∧
    Reaches ctx (opening ctx w path l) s ∧ AsksAngle ctx s

def SearchesAny (ctx : WalkContext) (w : Walker) : List Path → Prop
  | [] => False
  | path :: rest => Searches ctx w path ∨ SearchesAny ctx (process ctx w path).2 rest

variable {ctx : WalkContext} {w w' : Walker} {f : Frame} {below : List Frame} {d : Directive}
  {rest : List String} {path : Path}

theorem Asks.unique {d' : Directive} {rest' : List String} (h : Asks ctx f d rest)
    (h' : Asks ctx f d' rest') : d = d' := by
  obtain ⟨line, hf, hm⟩ := h
  obtain ⟨line', hf', hm'⟩ := h'
  obtain ⟨rfl, -⟩ := List.cons.inj (Except.ok.inj (hf.symm.trans hf'))
  exact Option.some.inj (hm.symm.trans hm')

theorem Asks.asksAngle_iff (h : Asks ctx f d rest) :
    AsksAngle ctx ⟨w, f :: below⟩ ↔ (d.base f.path).isNone = true := by
  have hbase : (d.base f.path).isNone = true ↔ d.kind = .angle := by
    unfold Directive.base
    cases d.kind <;> simp
  rw [hbase]
  constructor
  · rintro ⟨f', below', d', rest', hstack, hasks, hkind⟩
    obtain ⟨rfl, -⟩ := List.cons.inj hstack
    exact h.unique hasks ▸ hkind
  · intro hkind
    exact ⟨f, below, d, rest, rfl, h, hkind⟩

theorem not_asksAngle (h : ∀ d rest, ¬Asks ctx f d rest) : ¬AsksAngle ctx ⟨w, f :: below⟩ := by
  rintro ⟨f', below', d, rest, hstack, hasks, -⟩
  obtain ⟨rfl, -⟩ := List.cons.inj hstack
  exact h d rest hasks

theorem searched_ask_iff (h : Asks ctx f d rest) :
    (w.ask (d.base f.path)).searched = true ↔
      w.searched = true ∨ AsksAngle ctx ⟨w, f :: below⟩ := by
  rw [h.asksAngle_iff, Walker.ask, Bool.or_eq_true]

theorem Step.searched_iff {s s' : State} (h : Step ctx s s') :
    s'.walker.searched = true ↔ s.walker.searched = true ∨ AsksAngle ctx s := by
  cases h with
  | @finish w f below hf =>
    have hnone : ¬AsksAngle ctx ⟨w, f :: below⟩ := by
      apply not_asksAngle
      rintro d rest ⟨line, hu, -⟩
      cases hf.symm.trans hu
    simp only [Walker.emit, hnone, or_false]
  | @keep w f below line rest hf hm =>
    have hnone : ¬AsksAngle ctx ⟨w, f :: below⟩ := by
      apply not_asksAngle
      rintro d rest ⟨line', hu, hm'⟩
      cases hf.symm.trans hu
      cases hm.symm.trans hm'
    simp only [Walker.emitKept, hnone, or_false]
  | skip hd ht hl => exact searched_ask_iff hd
  | descend hd ht hl => exact searched_ask_iff hd

theorem Halt.searched_iff {s : State} {e : BundleError} (h : Halt ctx s e w') :
    w'.searched = true ↔ s.walker.searched = true ∨ AsksAngle ctx s := by
  cases h with
  | @unreadable w f below fault hf =>
    have hnone : ¬AsksAngle ctx ⟨w', f :: below⟩ := by
      apply not_asksAngle
      rintro d rest ⟨line, hu, -⟩
      cases hf.symm.trans hu
    simp only [hnone, or_false]
  | unresolved hd hr => exact searched_ask_iff hd
  | unlocated hd hr hl => exact searched_ask_iff hd

theorem run_keeps_searched {s : State} (h : s.walker.searched = true) :
    (run ctx s.walker s.stack).2.searched = true :=
  run_preserves (P := fun s => s.walker.searched = true) (Q := fun w => w.searched = true)
    (fun _ _ hs hstep => hstep.searched_iff.mpr (Or.inl hs)) (fun _ hs => hs)
    (fun _ _ _ hs hhalt => hhalt.searched_iff.mpr (Or.inl hs)) h

theorem run_searched_of_asksAngle {s : State} (h : AsksAngle ctx s) :
    (run ctx s.walker s.stack).2.searched = true := by
  obtain ⟨w, stack⟩ := s
  obtain ⟨f, below, d, rest, rfl, hasks, hkind⟩ := h
  have hangle : AsksAngle ctx ⟨w, f :: below⟩ := ⟨f, below, d, rest, rfl, hasks, hkind⟩
  rcases step_or_halt ctx w f below with ⟨s', hs⟩ | ⟨e, w', hh⟩
  · rw [hs.run_eq]
    exact run_keeps_searched (hs.searched_iff.mpr (Or.inr hangle))
  · rw [hh.run_eq]
    exact hh.searched_iff.mpr (Or.inr hangle)

theorem run_searched_iff {s : State} :
    (run ctx s.walker s.stack).2.searched = true ↔
      s.walker.searched = true ∨ ∃ s', Reaches ctx s s' ∧ AsksAngle ctx s' := by
  constructor
  · intro h
    -- On the way, the walker has asked only what an earlier state has made it ask.
    let Accounted : Walker → Prop := fun w => w.searched = true →
      s.walker.searched = true ∨ ∃ s', Reaches ctx s s' ∧ AsksAngle ctx s'
    refine run_preserves (P := fun s' => Reaches ctx s s' ∧ Accounted s'.walker) (Q := Accounted)
      ?_ (fun _ hs => hs.2) ?_ ⟨.refl, Or.inl⟩ h
    · rintro u u' ⟨hr, hu⟩ hstep
      refine ⟨hr.tail hstep, fun hsearched => ?_⟩
      exact (hstep.searched_iff.mp hsearched).elim hu fun hangle => Or.inr ⟨u, hr, hangle⟩
    · rintro u e w' ⟨hr, hu⟩ hhalt hsearched
      exact (hhalt.searched_iff.mp hsearched).elim hu fun hangle => Or.inr ⟨u, hr, hangle⟩
  · rintro (h | ⟨s', hr, hangle⟩)
    · exact run_keeps_searched h
    · rw [hr.run_eq]
      exact run_searched_of_asksAngle hangle

theorem process_searched_iff (ctx : WalkContext) (w : Walker) (path : Path) :
    (process ctx w path).2.searched = true ↔ w.searched = true ∨ Searches ctx w path := by
  rcases hl : ctx.workspace.locate path with fault | l
  · simp [process_unlocated hl, Searches, hl]
  by_cases hv : l ∈ w.visited
  · simp [process_met hl hv, Searches, hl, hv]
  · rw [process_unmet hl hv, run_searched_iff]
    simp [Searches, hl, hv, opening, Walker.meet]

theorem processAll_searched_iff (ctx : WalkContext) (w : Walker) (paths : List Path) :
    (processAll ctx w paths).2.searched = true ↔ w.searched = true ∨ SearchesAny ctx w paths := by
  induction paths generalizing w with
  | nil => simp [processAll, SearchesAny]
  | cons path rest ih =>
    refine (ih (process ctx w path).2).trans ?_
    rw [process_searched_iff, or_assoc]
    rfl

section

variable {resolve : String → Option Path → Except BundleError Resolved}

theorem process_resolving
    (hquoted : ∀ name dir, resolve name (some dir) = ctx.resolve name (some dir))
    (h : (process ctx w path).2.searched = false) :
    process (within ctx ctx.workspace resolve) w path = process ctx w path := by
  rw [process_eq_extend] at h
  obtain ⟨-, hy⟩ := Bool.or_eq_false_iff.mp h
  refine process_within ⟨fun _ => rfl, ?_, fun _ _ => rfl⟩
  intro name base hbase
  cases base with
  | none => cases hy.symm.trans (hbase rfl)
  | some dir => exact hquoted name dir

/-- Calls that meet no directive in angles do not depend on the search index. -/
theorem processAll_resolving {paths : List Path}
    (hquoted : ∀ name dir, resolve name (some dir) = ctx.resolve name (some dir))
    (h : (processAll ctx w paths).2.searched = false) :
    processAll (within ctx ctx.workspace resolve) w paths = processAll ctx w paths := by
  induction paths generalizing w with
  | nil => rfl
  | cons path rest ih =>
    have hrest : (processAll ctx (process ctx w path).2 rest).2.searched = false := h
    have hfirst : (process ctx w path).2.searched = false := by
      rw [← Bool.not_eq_true] at hrest ⊢
      intro hsearched
      exact hrest ((processAll_searched_iff ctx _ rest).mpr (Or.inl hsearched))
    have hprocess := process_resolving hquoted hfirst
    simp only [processAll, hprocess, ih hrest]

end

end Walk

end ScriptBundle
