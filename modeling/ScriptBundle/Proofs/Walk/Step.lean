import Mathlib.Logic.Relation
import ScriptBundle.Walk

/-! # Steps of a walk

What one step of a walk can do, as rules: four ways to go on and three ways to fail. A walk is a finite
sequence of such steps that ends without suspended files or at a step that fails. Later modules argue by
these rules alone.
-/

namespace ScriptBundle

/-- The directory beside which a directive looks, when it stands in a file asked for by `path`. -/
def Directive.base (d : Directive) (path : Path) : Option Path :=
  match d.kind with
  | .quoted => some path.directory
  | .angle => none

def Frame.advance (f : Frame) (rest : List String) : Frame :=
  { f with unread := .ok rest, line := f.line + 1 }

@[simp] theorem Frame.advance_location (f : Frame) (rest : List String) :
    (f.advance rest).location = f.location := rfl
@[simp] theorem Frame.advance_path (f : Frame) (rest : List String) :
    (f.advance rest).path = f.path := rfl
@[simp] theorem Frame.advance_line (f : Frame) (rest : List String) :
    (f.advance rest).line = f.line + 1 := rfl
@[simp] theorem Frame.advance_unread (f : Frame) (rest : List String) :
    (f.advance rest).unread = .ok rest := rfl
@[simp] theorem Frame.advance_state (f : Frame) (rest : List String) :
    (f.advance rest).state = f.state := rfl

def Frame.origin (f : Frame) (d : Directive) (mode : SourceMode) : Origin :=
  ⟨d, f.path, .ofNat (f.line + 1), mode⟩

namespace Walker

def ask (w : Walker) (base : Option Path) : Walker :=
  { w with searched := w.searched || base.isNone }

def meet (w : Walker) (l : Location) (origin : Option Origin) (depth : Nat) : Walker :=
  { w with
    visited := l :: w.visited
    inclusions := ⟨l, origin, depth⟩ :: w.inclusions }

theorem bundle_meet_inclusions (w : Walker) (l : Location) (origin : Option Origin) (depth : Nat) :
    (w.meet l origin depth).bundle.inclusions = w.bundle.inclusions ++ [⟨l, origin, depth⟩] :=
  List.reverse_cons

theorem bundle_ask_inclusions (w : Walker) (base : Option Path) :
    (w.ask base).bundle.inclusions = w.bundle.inclusions := rfl

def emitKept (w : Walker) (l : Location) (number : Nat) (kept : Option String) : Walker :=
  { w with fragments := (kept.map (Fragment.line l number)).toList ++ w.fragments }

end Walker

namespace WalkContext

def strip (ctx : WalkContext) (line : String) (state : CommentState) :
    Option String × CommentState :=
  match ctx.stripper with
  | none => (some line, state)
  | some s => s.strip line state

def childState (ctx : WalkContext) (state : CommentState) : CommentState :=
  if ctx.carry then state else .code

def frame (ctx : WalkContext) (l : Location) (path : Path) (state : CommentState) : Frame :=
  ⟨l, path, ctx.workspace.tree.linesAt l, state, 0⟩

end WalkContext

namespace Walk

structure State where
  walker : Walker
  stack : List Frame

def Asks (ctx : WalkContext) (f : Frame) (d : Directive) (rest : List String) : Prop :=
  ∃ line, f.unread = .ok (line :: rest) ∧ ctx.matcher line = some d

structure Leads (ctx : WalkContext) (path : Path) (d : Directive) (r : Resolved) (l : Location) :
    Prop where
  resolved : ctx.resolve d.target (d.base path) = .ok r
  located : ctx.workspace.locate r.path = .ok l

inductive Step (ctx : WalkContext) : State → State → Prop where
  | finish {w f below} (hf : f.unread = .ok []) :
      Step ctx ⟨w, f :: below⟩
        ⟨w.emit (.separator f.location), handOver ctx.carry f.state below⟩
  | keep {w f below line rest} (hf : f.unread = .ok (line :: rest)) (hm : ctx.matcher line = none) :
      Step ctx ⟨w, f :: below⟩
        ⟨w.emitKept f.location (f.line + 1) (ctx.strip line f.state).1,
          { f.advance rest with state := (ctx.strip line f.state).2 } :: below⟩
  | skip {w f below d rest r l} (hd : Asks ctx f d rest) (ht : Leads ctx f.path d r l)
      (hl : l ∈ w.visited) :
      Step ctx ⟨w, f :: below⟩ ⟨w.ask (d.base f.path), f.advance rest :: below⟩
  | descend {w f below d rest r l} (hd : Asks ctx f d rest) (ht : Leads ctx f.path d r l)
      (hl : l ∉ w.visited) :
      Step ctx ⟨w, f :: below⟩
        ⟨(w.ask (d.base f.path)).meet l (some (f.origin d r.mode)) (below.length + 1),
          ctx.frame l r.path (ctx.childState f.state) :: f.advance rest :: below⟩

inductive Halt (ctx : WalkContext) : State → BundleError → Walker → Prop where
  | unreadable {w f below fault} (hf : f.unread = .error fault) :
      Halt ctx ⟨w, f :: below⟩ (.fileRead f.path fault) w
  | unresolved {w f below d rest e} (hd : Asks ctx f d rest)
      (hr : ctx.resolve d.target (d.base f.path) = .error e) :
      Halt ctx ⟨w, f :: below⟩ (e.requiredBy f.path) (w.ask (d.base f.path))
  | unlocated {w f below d rest r fault} (hd : Asks ctx f d rest)
      (hr : ctx.resolve d.target (d.base f.path) = .ok r)
      (hl : ctx.workspace.locate r.path = .error fault) :
      Halt ctx ⟨w, f :: below⟩ (.fileRead r.path fault) (w.ask (d.base f.path))

abbrev Reaches (ctx : WalkContext) : State → State → Prop := Relation.ReflTransGen (Step ctx)

variable {ctx : WalkContext} {w w' : Walker} {f : Frame} {below stack : List Frame}

theorem Leads.unique {path : Path} {d : Directive} {r r' : Resolved} {l l' : Location}
    (h : Leads ctx path d r l) (h' : Leads ctx path d r' l') : l = l' := by
  obtain rfl : r = r' := Except.ok.inj (h.resolved.symm.trans h'.resolved)
  exact Except.ok.inj (h.located.symm.trans h'.located)

theorem strip_cases (ctx : WalkContext) (line : String) (state : CommentState) :
    (ctx.strip line state).1 = none ∨
      (ctx.strip line state).1 = some line ∧ ctx.strip line .code = (some line, .code) := by
  unfold WalkContext.strip
  rcases ctx.stripper with _ | s
  · exact Or.inr ⟨rfl, rfl⟩
  cases state with
  | inBlock => exact Or.inl rfl
  | code =>
    simp only [CommentStripper.strip]
    split
    · exact Or.inl rfl
    · split
      · exact Or.inl rfl
      · exact Or.inr ⟨rfl, rfl⟩

theorem keep_eq (ctx : WalkContext) (w : Walker) (line : String) (f : Frame) :
    keep ctx w line f = ({ f with state := (ctx.strip line f.state).2 },
      w.emitKept f.location f.line (ctx.strip line f.state).1) := by
  unfold keep WalkContext.strip
  cases ctx.stripper with
  | none => rfl
  | some s =>
    rcases h : s.strip line f.state with ⟨_ | kept, state⟩ <;>
      simp [h, Walker.emitKept, Walker.emit]

theorem follow_eq (ctx : WalkContext) (w : Walker) (d : Directive) (f : Frame)
    (below : List Frame) :
    follow ctx w d f below =
      match ctx.resolve d.target (d.base f.path) with
      | .error e => (.error (e.requiredBy f.path), w.ask (d.base f.path))
      | .ok r =>
        enter ctx (w.ask (d.base f.path)) r.path (some ⟨d, f.path, .ofNat f.line, r.mode⟩)
          (ctx.childState f.state) (f :: below) := by
  rcases d with ⟨_ | _, target⟩ <;> rfl

theorem step_of_asks {d : Directive} {rest : List String} (hd : Asks ctx f d rest) :
    step ctx w f below = follow ctx w d (f.advance rest) below := by
  obtain ⟨line, hf, hm⟩ := hd
  simp [step, hf, hm, Frame.advance]

theorem Step.step_eq {s : State} (h : Step ctx ⟨w, f :: below⟩ s) :
    step ctx w f below = (.ok s.stack, s.walker) := by
  cases h with
  | finish hf => simp [step, hf]
  | keep hf hm => simp [step, hf, hm, keep_eq, Frame.advance]
  | skip hd ht hl =>
    simp [step_of_asks hd, follow_eq, ht.resolved, enter, ht.located, Walker.ask, hl]
  | descend hd ht hl =>
    simp [step_of_asks hd, follow_eq, ht.resolved, enter, ht.located, Walker.ask, hl,
      Walker.meet, Frame.origin, WalkContext.frame]

theorem Step.unique {s t t' : State} (h : Step ctx s t) (h' : Step ctx s t') : t = t' := by
  obtain ⟨w, _ | ⟨f, below⟩⟩ := s
  · cases h
  · have heq := h.step_eq.symm.trans h'.step_eq
    obtain ⟨hstack, hwalker⟩ := Prod.mk.inj heq
    cases t
    cases t'
    obtain rfl := Except.ok.inj hstack
    obtain rfl := hwalker
    rfl

theorem Halt.step_eq {e : BundleError} (h : Halt ctx ⟨w, f :: below⟩ e w') :
    step ctx w f below = (.error e, w') := by
  cases h with
  | unreadable hf => simp [step, hf]
  | unresolved hd hr => simp [step_of_asks hd, follow_eq, hr]
  | unlocated hd hr hl => simp [step_of_asks hd, follow_eq, hr, enter, hl]

/-- A state with a suspended file goes on or fails. -/
theorem step_or_halt (ctx : WalkContext) (w : Walker) (f : Frame) (below : List Frame) :
    (∃ s, Step ctx ⟨w, f :: below⟩ s) ∨ ∃ e w', Halt ctx ⟨w, f :: below⟩ e w' := by
  rcases hf : f.unread with fault | _ | ⟨line, rest⟩
  · exact Or.inr ⟨_, _, .unreadable hf⟩
  · exact Or.inl ⟨_, .finish hf⟩
  rcases hm : ctx.matcher line with _ | d
  · exact Or.inl ⟨_, .keep hf hm⟩
  have hd : Asks ctx f d rest := ⟨line, hf, hm⟩
  rcases hr : ctx.resolve d.target (d.base f.path) with e | r
  · exact Or.inr ⟨_, _, .unresolved hd hr⟩
  rcases hl : ctx.workspace.locate r.path with fault | l
  · exact Or.inr ⟨_, _, .unlocated hd hr hl⟩
  by_cases hv : l ∈ w.visited
  · exact Or.inl ⟨_, .skip hd ⟨hr, hl⟩ hv⟩
  · exact Or.inl ⟨_, .descend hd ⟨hr, hl⟩ hv⟩

theorem Step.measure_lt {s s' : State} (h : Step ctx s s') :
    measure ctx s'.walker s'.stack < measure ctx s.walker s.stack := by
  obtain ⟨w, _ | ⟨f, below⟩⟩ := s
  · cases h
  · exact measure_step_lt h.step_eq

@[simp] theorem run_nil (ctx : WalkContext) (w : Walker) : run ctx w [] = (.ok (), w) := by
  rw [run]

theorem Step.run_eq {s s' : State} (h : Step ctx s s') :
    run ctx s.walker s.stack = run ctx s'.walker s'.stack := by
  obtain ⟨w, _ | ⟨f, below⟩⟩ := s
  · cases h
  · rw [run]
    split
    next he => simp [h.step_eq] at he
    next he =>
      rw [h.step_eq, Prod.mk.injEq, Except.ok.injEq] at he
      obtain ⟨rfl, rfl⟩ := he
      rfl

theorem Halt.run_eq {s : State} {e : BundleError} (h : Halt ctx s e w') :
    run ctx s.walker s.stack = (.error e, w') := by
  obtain ⟨w, _ | ⟨f, below⟩⟩ := s
  · cases h
  · rw [run]
    split
    next he =>
      rw [h.step_eq, Prod.mk.injEq, Except.error.injEq] at he
      obtain ⟨rfl, rfl⟩ := he
      rfl
    next he => simp [h.step_eq] at he

theorem Reaches.run_eq {s s' : State} (h : Reaches ctx s s') :
    run ctx s.walker s.stack = run ctx s'.walker s'.stack := by
  induction h with
  | refl => rfl
  | tail _ hs ih => exact ih.trans hs.run_eq

theorem Reaches.invariant {P : State → Prop} (hstep : ∀ s s', P s → Step ctx s s' → P s')
    {s s' : State} (h : Reaches ctx s s') (hs : P s) : P s' := by
  induction h with
  | refl => exact hs
  | tail _ hs ih => exact hstep _ _ ih hs

/-- A walk gets to an end or to a step that fails. -/
theorem reaches_end_or_halt (ctx : WalkContext) (s : State) :
    (∃ w', Reaches ctx s ⟨w', []⟩) ∨ ∃ s' e w', Reaches ctx s s' ∧ Halt ctx s' e w' := by
  induction hn : measure ctx s.walker s.stack using Nat.strongRecOn generalizing s with
  | _ n ih =>
    obtain ⟨w, _ | ⟨f, below⟩⟩ := s
    · exact Or.inl ⟨w, .refl⟩
    rcases step_or_halt ctx w f below with ⟨s', hs⟩ | ⟨e, w', hh⟩
    · rcases ih _ (hn ▸ hs.measure_lt) s' rfl with ⟨w', hr⟩ | ⟨s'', e, w', hr, hh⟩
      · exact Or.inl ⟨w', hr.head hs⟩
      · exact Or.inr ⟨s'', e, w', hr.head hs, hh⟩
    · exact Or.inr ⟨_, e, w', .refl, hh⟩

theorem run_ok_iff :
    run ctx w stack = (.ok (), w') ↔ Reaches ctx ⟨w, stack⟩ ⟨w', []⟩ := by
  constructor
  · intro h
    rcases reaches_end_or_halt ctx ⟨w, stack⟩ with ⟨u, hr⟩ | ⟨s, e, u, hr, hh⟩
    · have he := hr.run_eq
      simp only [h, run_nil, Prod.mk.injEq, true_and] at he
      exact he ▸ hr
    · have he := hr.run_eq.trans hh.run_eq
      simp [h] at he
  · intro h
    exact h.run_eq.trans (run_nil ctx w')

theorem Reaches.end_of_reaches {s s' : State} (h : Reaches ctx s ⟨w', []⟩)
    (hs : Reaches ctx s s') : Reaches ctx s' ⟨w', []⟩ :=
  run_ok_iff.mp (hs.run_eq.symm.trans (run_ok_iff.mpr h))

theorem run_error_iff {e : BundleError} :
    run ctx w stack = (.error e, w') ↔
      ∃ s, Reaches ctx ⟨w, stack⟩ s ∧ Halt ctx s e w' := by
  constructor
  · intro h
    rcases reaches_end_or_halt ctx ⟨w, stack⟩ with ⟨u, hr⟩ | ⟨s, e', u, hr, hh⟩
    · have he := hr.run_eq
      simp [h] at he
    · have he := hr.run_eq.trans hh.run_eq
      simp only [h, Prod.mk.injEq, Except.error.injEq] at he
      obtain ⟨rfl, rfl⟩ := he
      exact ⟨s, hr, hh⟩
  · rintro ⟨s, hr, hh⟩
    exact hr.run_eq.trans hh.run_eq

/-- What every step keeps, and what it gives of a walker at the end or behind a step that fails, holds of the
walker behind a run. -/
theorem run_preserves {P : State → Prop} {Q : Walker → Prop}
    (hstep : ∀ s s', P s → Step ctx s s' → P s') (hend : ∀ s, P s → Q s.walker)
    (hhalt : ∀ s e w', P s → Halt ctx s e w' → Q w') {s : State} (hs : P s) :
    Q (run ctx s.walker s.stack).2 := by
  rcases reaches_end_or_halt ctx s with ⟨w', hr⟩ | ⟨s', e, w', hr, hh⟩
  · rw [hr.run_eq, run_nil]
    exact hend _ (hr.invariant hstep hs)
  · rw [hr.run_eq, hh.run_eq]
    exact hhalt s' e w' (hr.invariant hstep hs) hh

theorem Halt.inclusions_eq {s : State} {e : BundleError} (h : Halt ctx s e w') :
    w'.inclusions = s.walker.inclusions := by
  cases h <;> rfl

theorem Halt.visited_eq {s : State} {e : BundleError} (h : Halt ctx s e w') :
    w'.visited = s.walker.visited := by
  cases h <;> rfl

theorem Halt.fragments_eq {s : State} {e : BundleError} (h : Halt ctx s e w') :
    w'.fragments = s.walker.fragments := by
  cases h <;> rfl

/-- A file that has nothing left to read does not fail. -/
theorem Halt.unread_ne {e : BundleError} (h : Halt ctx ⟨w, f :: below⟩ e w') : f.unread ≠ .ok [] := by
  intro hnone
  cases h with
  | unreadable hf => cases hnone.symm.trans hf
  | unresolved hd =>
    obtain ⟨line, hf, -⟩ := hd
    cases hnone.symm.trans hf
  | unlocated hd =>
    obtain ⟨line, hf, -⟩ := hd
    cases hnone.symm.trans hf

theorem process_unlocated {path : Path} {fault : FileFault}
    (hl : ctx.workspace.locate path = .error fault) :
    process ctx w path = (.error (.fileRead path fault), w) := by
  simp [process, enter, hl]

theorem process_met {path : Path} {l : Location} (hl : ctx.workspace.locate path = .ok l)
    (hv : l ∈ w.visited) : process ctx w path = (.ok (), w) := by
  simp [process, enter, hl, hv]

def opening (ctx : WalkContext) (w : Walker) (path : Path) (l : Location) : State :=
  ⟨w.meet l none 0, [ctx.frame l path .code]⟩

theorem process_unmet {path : Path} {l : Location} (hl : ctx.workspace.locate path = .ok l)
    (hv : l ∉ w.visited) :
    process ctx w path =
      run ctx (opening ctx w path l).walker (opening ctx w path l).stack := by
  simp [process, enter, hl, hv, opening, Walker.meet, WalkContext.frame]

/-- A call of a fresh walker succeeds if the walk comes to its end. -/
theorem process_ok_iff_reaches {path : Path} :
    process ctx {} path = (.ok (), w') ↔
      ∃ l, ctx.workspace.locate path = .ok l ∧ Reaches ctx (opening ctx {} path l) ⟨w', []⟩ := by
  constructor
  · intro h
    rcases hl : ctx.workspace.locate path with fault | l
    · rw [process_unlocated hl] at h
      cases h
    · rw [process_unmet hl List.not_mem_nil] at h
      exact ⟨l, rfl, run_ok_iff.mp h⟩
  · rintro ⟨l, hl, hr⟩
    rw [process_unmet hl List.not_mem_nil]
    exact run_ok_iff.mpr hr

/-- What holds of a walker without suspended files is kept by a call if it is kept when a file is met, by
every step, and by a step that fails. -/
theorem process_preserves {P : State → Prop}
    (hopening : ∀ w path l, P ⟨w, []⟩ → ctx.workspace.locate path = .ok l → l ∉ w.visited →
      P (opening ctx w path l))
    (hstep : ∀ s s', P s → Step ctx s s' → P s')
    (hhalt : ∀ s e w', P s → Halt ctx s e w' → P ⟨w', []⟩) (hw : P ⟨w, []⟩) (path : Path) :
    P ⟨(process ctx w path).2, []⟩ := by
  rcases hl : ctx.workspace.locate path with fault | l
  · rwa [process_unlocated hl]
  by_cases hv : l ∈ w.visited
  · rwa [process_met hl hv]
  rw [process_unmet hl hv]
  have hstart := hopening w path l hw hl hv
  rcases reaches_end_or_halt ctx (opening ctx w path l) with ⟨u, hr⟩ | ⟨s, e, u, hr, hh⟩
  · rw [hr.run_eq, run_nil]
    exact hr.invariant hstep hstart
  · rw [hr.run_eq, hh.run_eq]
    exact hhalt s e u (hr.invariant hstep hstart) hh

theorem processAll_preserves {P : Walker → Prop}
    (hcall : ∀ w path, P w → P (process ctx w path).2) (hw : P w) (paths : List Path) :
    P (processAll ctx w paths).2 := by
  induction paths generalizing w with
  | nil => exact hw
  | cons path rest ih => exact ih (hcall w path hw)

end Walk

end ScriptBundle
