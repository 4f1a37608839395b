import ScriptBundle.Proofs.Walk.Provenance
import ScriptBundle.Proofs.Walk.RequireTree

/-! # Positions in files

A file is read from its first line on, and it is read once. So the walk of an entry that succeeds comes to
each position of a file that it meets, and it comes there once.
-/

namespace ScriptBundle

namespace Walk

variable {ctx : WalkContext} {path : Path} {a : Location} {k : Nat} {w w' : Walker} {f f' : Frame}
  {below below' : List Frame} {s s' : State}

/-- The walk of an entry comes to a position of a file: this file is on top, and so many of its lines have
been read. -/
structure ComesTo (ctx : WalkContext) (path : Path) (a : Location) (k : Nat) (s : State) (f : Frame) :
    Prop where
  reached : ∃ l, ctx.workspace.locate path = .ok l ∧ Reaches ctx (opening ctx {} path l) s
  top : s.stack.head? = some f
  location : f.location = a
  line : f.line = k

structure Past (a : Location) (k : Nat) (s : State) : Prop where
  met : a ∈ s.walker.visited
  beyond : ∀ m ∈ marks s.stack, m.1 = a → k < m.2

theorem step_preserves_past (h : Past a k s) (hs : Step ctx s s') : Past a k s' := by
  cases hs with
  | @finish w f below hf =>
    refine ⟨h.met, ?_⟩
    rw [marks_handOver]
    exact (List.forall_mem_cons.mp h.beyond).2
  | keep hf hm =>
    obtain ⟨htop, hbelow⟩ := List.forall_mem_cons.mp h.beyond
    exact ⟨h.met, List.forall_mem_cons.mpr ⟨fun ha => Nat.lt_succ_of_lt (htop ha), hbelow⟩⟩
  | skip hd ht hl =>
    obtain ⟨htop, hbelow⟩ := List.forall_mem_cons.mp h.beyond
    exact ⟨h.met, List.forall_mem_cons.mpr ⟨fun ha => Nat.lt_succ_of_lt (htop ha), hbelow⟩⟩
  | descend hd ht hl =>
    obtain ⟨htop, hbelow⟩ := List.forall_mem_cons.mp h.beyond
    refine ⟨List.mem_cons_of_mem _ h.met, List.forall_mem_cons.mpr ⟨?_, ?_⟩⟩
    · rintro rfl
      exact absurd h.met hl
    · exact List.forall_mem_cons.mpr ⟨fun ha => Nat.lt_succ_of_lt (htop ha), hbelow⟩

/-- The step from a position goes beyond it, since the file waits nowhere below. -/
theorem past_of_step (hs : Step ctx ⟨w, f :: below⟩ s') (hsourced : Sourced ctx ⟨w, f :: below⟩) :
    Past f.location f.line s' := by
  have hmet : f.location ∈ w.visited := hsourced.met f List.mem_cons_self
  have hbelow : ∀ m ∈ marks below, m.1 = f.location → f.line < m.2 := by
    intro m hm ha
    obtain ⟨g, hg, rfl⟩ := List.mem_map.mp hm
    exact absurd (List.mem_map.mpr ⟨g, hg, ha⟩) hsourced.top_notMem
  have hread : ∀ m ∈ (f.location, f.line + 1) :: marks below, m.1 = f.location → f.line < m.2 :=
    List.forall_mem_cons.mpr ⟨fun _ => Nat.lt_succ_self _, hbelow⟩
  cases hs with
  | finish hf =>
    refine ⟨hmet, ?_⟩
    rw [marks_handOver]
    exact hbelow
  | keep hf hm => exact ⟨hmet, hread⟩
  | skip hd ht hl => exact ⟨hmet, hread⟩
  | @descend _ _ _ d rest r l hd ht hl =>
    refine ⟨List.mem_cons_of_mem _ hmet, List.forall_mem_cons.mpr ⟨?_, hread⟩⟩
    intro hla
    have hl' : l = f.location := hla
    exact absurd hmet (hl' ▸ hl)

/-- No step goes beyond a position but the one from there. -/
theorem past_or_top_of_step {lines : List String} (hreads : ∀ f ∈ s.stack, f.Reads ctx)
    (hlines : ctx.workspace.tree.linesAt a = .ok lines) (hk : k ≤ lines.length) (hs : Step ctx s s')
    (h : Past a k s') : Past a k s ∨ ∃ f, s.stack.head? = some f ∧ f.location = a ∧ f.line = k := by
  have hread : ∀ {w : Walker} {f : Frame} {below : List Frame}, a ∈ w.visited →
      (∀ m ∈ (f.location, f.line + 1) :: marks below, m.1 = a → k < m.2) →
        Past a k ⟨w, f :: below⟩ ∨ ∃ g, (f :: below).head? = some g ∧ g.location = a ∧ g.line = k := by
    intro w f below hmet hbeyond
    obtain ⟨htop, hbelow⟩ := List.forall_mem_cons.mp hbeyond
    by_cases hat : f.location = a ∧ f.line = k
    · exact Or.inr ⟨f, rfl, hat⟩
    refine Or.inl ⟨hmet, List.forall_mem_cons.mpr ⟨?_, hbelow⟩⟩
    intro ha
    have hlt := htop ha
    have hne : f.line ≠ k := fun he => hat ⟨ha, he⟩
    dsimp only at hlt ⊢
    omega
  cases hs with
  | @finish w f below hf =>
    have hbelow := h.beyond
    rw [marks_handOver] at hbelow
    refine hread h.met (List.forall_mem_cons.mpr ⟨?_, hbelow⟩)
    -- A file at its end has been read as far as the position.
    intro ha
    obtain ⟨all, hall, hdrop⟩ := (hreads f List.mem_cons_self).lines hf
    have hfile : f.location = a := ha
    rw [hfile, hlines] at hall
    obtain rfl := Except.ok.inj hall
    have hlength := List.drop_eq_nil_iff.mp hdrop
    dsimp only
    omega
  | keep hf hm => exact hread h.met h.beyond
  | skip hd ht hl => exact hread h.met h.beyond
  | @descend w f below d rest r l hd ht hl =>
    obtain ⟨htop, hrest⟩ := List.forall_mem_cons.mp h.beyond
    rcases List.mem_cons.mp h.met with rfl | hmet
    · exact absurd (htop rfl) (Nat.not_lt_zero _)
    · exact hread hmet hrest

theorem top_of_past {start : State} {lines : List String}
    (hreads : ∀ u, Reaches ctx start u → ∀ f ∈ u.stack, f.Reads ctx)
    (hlines : ctx.workspace.tree.linesAt a = .ok lines) (hk : k ≤ lines.length)
    (hstart : ¬ Past a k start) (h : Reaches ctx start s) (hpast : Past a k s) :
    ∃ u f, Reaches ctx start u ∧ u.stack.head? = some f ∧ f.location = a ∧ f.line = k := by
  induction h with
  | refl => exact absurd hpast hstart
  | @tail u v hr hs ih =>
    rcases past_or_top_of_step (hreads u hr) hlines hk hs hpast with hearlier | ⟨f, htop, hat⟩
    · exact ih hearlier
    · exact ⟨u, f, hr, htop, hat⟩

theorem sourced_of_reaches {l : Location} (h : Reaches ctx (opening ctx {} path l) s) :
    Sourced ctx s :=
  h.invariant (fun _ _ => step_preserves_sourced) ((sourced_empty ctx).meet List.not_mem_nil)

/-- A walk that has ended comes to each position of the files that it has met. -/
theorem exists_comesTo {l : Location} {lines : List String}
    (hl : ctx.workspace.locate path = .ok l) (hend : Reaches ctx (opening ctx {} path l) ⟨w, []⟩)
    (ha : a ∈ w.visited) (hlines : ctx.workspace.tree.linesAt a = .ok lines) (hk : k ≤ lines.length) :
    ∃ s f, ComesTo ctx path a k s f := by
  have hstart : ¬ Past a k (opening ctx {} path l) := by
    intro h
    obtain rfl : a = l := List.mem_singleton.mp h.met
    exact absurd (h.beyond (a, 0) List.mem_cons_self rfl) (Nat.not_lt_zero k)
  obtain ⟨s, f, hr, htop, hf, hline⟩ := top_of_past (fun u hr => reads_of_reaches hl hr) hlines hk
    hstart hend ⟨ha, List.forall_mem_nil _⟩
  exact ⟨s, f, ⟨l, hl, hr⟩, htop, hf, hline⟩

theorem Past.line_lt (h : Past a k s) (htop : s.stack.head? = some f) (hf : f.location = a) :
    k < f.line :=
  h.beyond (f.location, f.line) (List.mem_map.mpr ⟨f, List.mem_of_head? htop, rfl⟩) hf

/-- Behind a step from a position, the walk stays beyond it. -/
theorem ComesTo.past {u : State} (h : ComesTo ctx path a k s f) (hs : Step ctx s u)
    (hr : Reaches ctx u s') : Past a k s' := by
  obtain ⟨⟨l, -, hreached⟩, htop, rfl, rfl⟩ := h
  obtain ⟨w, _ | ⟨g, below⟩⟩ := s
  · cases htop
  obtain rfl := Option.some.inj htop
  exact hr.invariant (fun _ _ => step_preserves_past) (past_of_step hs (sourced_of_reaches hreached))

theorem rightUnique_step (ctx : WalkContext) : Relator.RightUnique (Step ctx) :=
  fun _ _ _ h h' => h.unique h'

theorem ComesTo.unique (h : ComesTo ctx path a k s f) (h' : ComesTo ctx path a k s' f') : s = s' := by
  have hlater : ∀ {s s' : State} {f f' : Frame}, ComesTo ctx path a k s f →
      ComesTo ctx path a k s' f' → Reaches ctx s s' → s = s' := by
    intro s s' f f' h h' hr
    rcases Relation.ReflTransGen.cases_head hr with heq | ⟨u, hs, hlast⟩
    · exact heq
    · have hlt := (h.past hs hlast).line_lt h'.top h'.location
      exact absurd h'.line (Nat.ne_of_gt hlt)
  obtain ⟨l, hl, hr⟩ := h.reached
  obtain ⟨l', hl', hr'⟩ := h'.reached
  obtain rfl : l = l' := Except.ok.inj (hl.symm.trans hl')
  rcases Relation.ReflTransGen.total_of_right_unique (rightUnique_step ctx) hr hr' with hr | hr
  · exact hlater h h' hr
  · exact (hlater h' h hr).symm

theorem Step.length_inclusions_le (h : Step ctx s s') :
    s.walker.inclusions.length ≤ s'.walker.inclusions.length := by
  cases h with
  | descend => exact Nat.le_succ _
  | _ => exact Nat.le_refl _

theorem Reaches.length_inclusions_le (h : Reaches ctx s s') :
    s.walker.inclusions.length ≤ s'.walker.inclusions.length := by
  induction h with
  | refl => exact Nat.le_refl _
  | tail _ hs ih => exact ih.trans hs.length_inclusions_le

/-- A step taken in a file above a position logs nothing that is not in the log at the position, and one from
there or below comes when all of this log is there. -/
theorem ComesTo.log_order {l : Location} {u v : State} {g : Frame} (h : ComesTo ctx path a k s f)
    (hl : ctx.workspace.locate path = .ok l) (hr : Reaches ctx (opening ctx {} path l) u)
    (hs : Step ctx u v) (htop : u.stack.head? = some g) (hg : g.location = a) :
    g.line < k ∧ v.walker.inclusions.length ≤ s.walker.inclusions.length ∨
      k ≤ g.line ∧ s.walker.inclusions.length ≤ u.walker.inclusions.length := by
  obtain ⟨l', hl', hr'⟩ := h.reached
  obtain rfl : l = l' := Except.ok.inj (hl.symm.trans hl')
  rcases Relation.ReflTransGen.total_of_right_unique (rightUnique_step ctx) hr hr' with hlater | hearlier
  · rcases Relation.ReflTransGen.cases_head hlater with rfl | ⟨v', hs', hlast⟩
    · obtain rfl : g = f := Option.some.inj (htop.symm.trans h.top)
      exact Or.inr ⟨h.line.ge, Nat.le_refl _⟩
    obtain rfl := hs.unique hs'
    have hcomes : ComesTo ctx path a g.line u g := ⟨⟨l, hl, hr⟩, htop, hg, rfl⟩
    have hlt := (hcomes.past hs hlast).line_lt h.top h.location
    exact Or.inl ⟨h.line ▸ hlt, Reaches.length_inclusions_le hlast⟩
  · refine Or.inr ⟨?_, Reaches.length_inclusions_le hearlier⟩
    rcases Relation.ReflTransGen.cases_head hearlier with rfl | ⟨v', hs', hlast⟩
    · obtain rfl : g = f := Option.some.inj (htop.symm.trans h.top)
      exact h.line.ge
    · exact ((h.past hs' hlast).line_lt htop hg).le

/-- What is asked for in a file is in the log at a position if its line stands above, and behind that if not.
Lines are counted with 32 bits. -/
theorem ComesTo.exists_line {l : Location} {u : State} {lines : List String}
    (h : ComesTo ctx path a k s f) (hl : ctx.workspace.locate path = .ok l)
    (hlines : ctx.workspace.tree.linesAt a = .ok lines) (hr : Reaches ctx (opening ctx {} path l) u)
    {m : Nat} {i : Inclusion} {o : Origin} (hi : u.walker.bundle.inclusions[m]? = some i)
    (ho : i.origin = some o) (ha : ctx.workspace.locate o.requiredBy = .ok a) :
    ∃ n < lines.length, o.line = .ofNat (n + 1) ∧ (k ≤ n ↔ s.walker.inclusions.length ≤ m) := by
  induction hr with
  | refl =>
    obtain ⟨-, rfl⟩ : m = 0 ∧ (⟨l, none, 0⟩ : Inclusion) = i := by
      cases m with
      | zero => exact ⟨rfl, Option.some.inj hi⟩
      | succ m => cases hi
    cases ho
  | @tail u v hr hs ih =>
    cases hs with
    | finish hf => exact ih hi
    | keep hf hm => exact ih hi
    | skip hd ht hmet => exact ih hi
    | @descend w g below d rest r l' hd ht hmet =>
      rw [Walker.bundle_meet_inclusions, Walker.bundle_ask_inclusions] at hi
      rcases getElem?_concat_eq_some_iff.mp hi with hold | ⟨rfl, rfl⟩
      · exact ih hold
      obtain rfl := Option.some.inj ho
      have hreads := reads_of_reaches hl hr g List.mem_cons_self
      have hg : g.location = a := Except.ok.inj (hreads.located.symm.trans ha)
      refine ⟨g.line, hreads.line_lt hd (hg ▸ hlines), rfl, ?_⟩
      have hlength : w.bundle.inclusions.length = w.inclusions.length := List.length_reverse
      rw [hlength]
      rcases h.log_order hl hr (.descend hd ht hmet) rfl hg with ⟨habove, hlast⟩ | ⟨hbelow, hfirst⟩
      · have hnew : w.inclusions.length + 1 ≤ s.walker.inclusions.length := hlast
        omega
      · exact iff_of_true hbelow hfirst

end Walk

end ScriptBundle
