import Mathlib.Control.Monad.Basic
import Mathlib.Data.List.Chain
import ScriptBundle.Proofs.Walk.Frames
import ScriptBundle.Proofs.Walk.Inclusion

/-! # Load order

A directive puts the whole text of the file it asks for in front of what follows the directive, also
where that file has been included before. The exception is a cycle: the file asked for is the requiring
file itself or waits for it. The argument is that of brackets in a depth-first search: a file that has
been met waits on the stack or is closed by its separator, and nothing of a closed file is put out again.
-/

namespace ScriptBundle

namespace Fragment

def owner : Fragment → Location
  | line owner _ _ => owner
  | separator owner => owner

/-- The piece comes from what follows a line of a file: a later line, or the separator at the end. -/
def Follows (l : Location) (number : Nat) : Fragment → Prop
  | line owner n _ => owner = l ∧ number < n
  | separator owner => owner = l

theorem Follows.owner_eq {l : Location} {number : Nat} {x : Fragment} (h : x.Follows l number) :
    x.owner = l := by
  cases x with
  | line => exact h.1
  | separator => exact h

theorem Follows.mono {l : Location} {m n : Nat} {x : Fragment} (h : x.Follows l n) (hmn : m ≤ n) :
    x.Follows l m := by
  cases x with
  | line => exact ⟨h.1, Nat.lt_of_le_of_lt hmn h.2⟩
  | separator => exact h

end Fragment

/-- All of one file, its separator included, comes before anything that follows a line of another. -/
structure CompleteBefore (output : List Fragment) (dependency l : Location) (number : Nat) :
    Prop where
  closed : .separator dependency ∈ output
  ordered : output.Pairwise fun x y => ¬(x.Follows l number ∧ y.owner = dependency)

namespace CompleteBefore

variable {fragments : List Fragment} {target l : Location} {number : Nat}

theorem reverse_iff :
    CompleteBefore fragments.reverse target l number ↔
      .separator target ∈ fragments ∧
        fragments.Pairwise fun y x => ¬(x.Follows l number ∧ y.owner = target) := by
  constructor
  · rintro ⟨hc, ho⟩
    exact ⟨List.mem_reverse.mp hc, List.pairwise_reverse.mp ho⟩
  · rintro ⟨hc, ho⟩
    exact ⟨List.mem_reverse.mpr hc, List.pairwise_reverse.mpr ho⟩

theorem of_unread (hc : .separator target ∈ fragments)
    (hu : ∀ x ∈ fragments, ¬x.Follows l number) :
    CompleteBefore fragments.reverse target l number := by
  refine reverse_iff.mpr ⟨hc, ?_⟩
  exact List.pairwise_of_forall_mem_list fun y _ x hx h => hu x hx h.1

theorem append {new : List Fragment} (h : CompleteBefore fragments.reverse target l number)
    (hn : ∀ x ∈ new, x.owner ≠ target) :
    CompleteBefore (new ++ fragments).reverse target l number := by
  obtain ⟨hc, ho⟩ := reverse_iff.mp h
  refine reverse_iff.mpr ⟨List.mem_append_right _ hc, ?_⟩
  refine List.pairwise_append.mpr ⟨?_, ho, fun y hy x _ hxy => hn y hy hxy.2⟩
  exact List.pairwise_of_forall_mem_list fun y hy x _ hxy => hn y hy hxy.2

end CompleteBefore

namespace Walk

/-- While the file that a path leads to is walked by a fresh walker, a line of the file at `l` is met as
a directive for `target`. The files of `waiting` are suspended for `l`, the nearest first. -/
def Meets (ctx : WalkContext) (path : Path) (waiting : List Location) (l : Location)
    (number : Nat) (target : Location) : Prop :=
  ∃ entry w f below d rest r,
    ctx.workspace.locate path = .ok entry ∧
    Reaches ctx (opening ctx {} path entry) ⟨w, f :: below⟩ ∧
    Asks ctx f d rest ∧ Leads ctx f.path d r target ∧
    f.location = l ∧ f.line + 1 = number ∧ below.map (·.location) = waiting

def Requires (ctx : WalkContext) (path : Path) (l target : Location) : Prop :=
  ∃ waiting number, Meets ctx path waiting l number target

def Acyclic (ctx : WalkContext) (path : Path) : Prop :=
  ∀ l, ¬Relation.TransGen (Requires ctx path) l l

/-- What the walk of a fresh walker keeps true: a file met waits on the stack or is closed, a file
waits once, and nothing that follows its present line has been put out. -/
structure Bracketed (s : State) : Prop where
  waitsOnce : ((marks s.stack).map Prod.fst).Nodup
  met : ∀ m ∈ marks s.stack, m.1 ∈ s.walker.visited
  settled : ∀ l ∈ s.walker.visited,
    l ∈ (marks s.stack).map Prod.fst ∨ .separator l ∈ s.walker.fragments
  owned : ∀ x ∈ s.walker.fragments, x.owner ∈ s.walker.visited
  unread : ∀ m ∈ marks s.stack, ∀ x ∈ s.walker.fragments, ¬x.Follows m.1 m.2

variable {ctx : WalkContext} {path : Path}

theorem bracketed_opening (ctx : WalkContext) (path : Path) (l : Location) :
    Bracketed (opening ctx {} path l) := by
  constructor <;> simp [opening, marks, Walker.meet, WalkContext.frame]

theorem mem_emitKept {w : Walker} {l : Location} {number : Nat} {kept : Option String}
    {x : Fragment} (h : x ∈ (w.emitKept l number kept).fragments) :
    (∃ text, x = .line l number text) ∨ x ∈ w.fragments := by
  rcases List.mem_append.mp h with h | h
  · obtain ⟨text, -, rfl⟩ : ∃ text, kept = some text ∧ .line l number text = x := by simpa using h
    exact Or.inl ⟨text, rfl⟩
  · exact Or.inr h

theorem Bracketed.advance {w w' : Walker} {f f' : Frame} {below : List Frame}
    (h : Bracketed ⟨w, f :: below⟩) (hl : f'.location = f.location) (hn : f'.line = f.line + 1)
    (hv : w'.visited = w.visited) (hsub : ∀ x ∈ w.fragments, x ∈ w'.fragments)
    (hnew : ∀ x ∈ w'.fragments,
      (∃ text, x = .line f.location (f.line + 1) text) ∨ x ∈ w.fragments) :
    Bracketed ⟨w', f' :: below⟩ := by
  have hmet := h.met
  have hunread := h.unread
  have hnodup := h.waitsOnce
  simp only [marks_cons, List.forall_mem_cons, List.map_cons, List.nodup_cons] at hmet hunread hnodup
  constructor
  · simpa [hl] using h.waitsOnce
  · simpa [hl, hv] using hmet
  · intro l hm
    have hs := h.settled l (hv ▸ hm)
    simp only [marks_cons, List.map_cons, hl] at hs ⊢
    exact hs.imp_right (hsub _)
  · intro x hx
    rcases hnew x hx with ⟨text, rfl⟩ | hx
    · exact hv ▸ hmet.1
    · exact hv ▸ h.owned x hx
  · intro m hm x hx hf
    rcases hnew x hx with ⟨text, rfl⟩ | hx
    · rcases List.mem_cons.mp hm with rfl | hm
      · exact Nat.lt_irrefl _ (hn ▸ hf.2)
      · exact hnodup.1 (List.mem_map.mpr ⟨m, hm, hf.1.symm⟩)
    · rcases List.mem_cons.mp hm with rfl | hm
      · exact hunread.1 x hx (hl ▸ hf.mono (show f.line ≤ f'.line by omega))
      · exact hunread.2 m hm x hx hf

theorem step_preserves_bracketed {s s' : State} (h : Bracketed s) (hs : Step ctx s s') :
    Bracketed s' := by
  cases hs with
  | @finish w f below hf =>
    have hnodup := h.waitsOnce
    have hmet := h.met
    have hunread := h.unread
    simp only [marks_cons, List.map_cons, List.nodup_cons, List.forall_mem_cons] at hnodup hmet hunread
    constructor
    · rw [marks_handOver]
      exact hnodup.2
    · rw [marks_handOver]
      exact hmet.2
    · intro l hl
      rw [marks_handOver]
      rcases h.settled l hl with hw | hw
      · rcases List.mem_cons.mp hw with rfl | hw
        · exact Or.inr List.mem_cons_self
        · exact Or.inl hw
      · exact Or.inr (List.mem_cons_of_mem _ hw)
    · intro x hx
      rcases List.mem_cons.mp hx with rfl | hx
      · exact hmet.1
      · exact h.owned x hx
    · intro m hm x hx hf'
      rw [marks_handOver] at hm
      rcases List.mem_cons.mp hx with rfl | hx
      · exact hnodup.1 (List.mem_map.mpr ⟨m, hm, hf'.owner_eq.symm⟩)
      · exact hunread.2 m hm x hx hf'
  | keep hf hm =>
    exact h.advance rfl rfl rfl (fun x hx => List.mem_append_right _ hx) fun x => mem_emitKept
  | skip hd ht hl =>
    exact h.advance rfl rfl rfl (fun x hx => hx) fun x hx => Or.inr hx
  | @descend w f below d rest r l hd ht hl =>
    have ha : Bracketed ⟨w.ask (d.base f.path), f.advance rest :: below⟩ :=
      h.advance rfl rfl rfl (fun x hx => hx) fun x hx => Or.inr hx
    have hnew : l ∉ (marks (f.advance rest :: below)).map Prod.fst := by
      intro hm
      obtain ⟨m, hm, hml⟩ := List.mem_map.mp hm
      exact hl (hml ▸ ha.met m hm)
    constructor
    · exact List.nodup_cons.mpr ⟨hnew, ha.waitsOnce⟩
    · intro m hm
      rcases List.mem_cons.mp hm with rfl | hm
      · exact List.mem_cons_self
      · exact List.mem_cons_of_mem _ (ha.met m hm)
    · intro k hk
      rcases List.mem_cons.mp hk with rfl | hk
      · exact Or.inl List.mem_cons_self
      · exact (ha.settled k hk).imp_left (List.mem_cons_of_mem _)
    · exact fun x hx => List.mem_cons_of_mem _ (ha.owned x hx)
    · intro m hm x hx hf
      rcases List.mem_cons.mp hm with rfl | hm
      · have ho : x.owner = l := hf.owner_eq
        exact hl (ho ▸ ha.owned x hx)
      · exact ha.unread m hm x hx hf

def Pending (target l : Location) (number : Nat) (s : State) : Prop :=
  ∃ above below, marks s.stack = above ++ (l, number) :: below ∧ target ∈ above.map Prod.fst

structure Closed (target l : Location) (number : Nat) (s : State) : Prop where
  met : target ∈ s.walker.visited
  gone : target ∉ (marks s.stack).map Prod.fst
  before : CompleteBefore s.walker.fragments.reverse target l number

theorem step_preserves_closed {target l : Location} {number : Nat} {s s' : State}
    (h : Closed target l number s) (hs : Step ctx s s') : Closed target l number s' := by
  obtain ⟨hmet, hgone, hbefore⟩ := h
  cases hs with
  | @finish w f below hf =>
    simp only [marks_cons, List.map_cons, List.mem_cons, not_or] at hgone
    refine ⟨hmet, ?_, ?_⟩
    · rw [marks_handOver]
      exact hgone.2
    · change CompleteBefore ([Fragment.separator f.location] ++ w.fragments).reverse target l number
      refine hbefore.append fun x hx => ?_
      rw [List.mem_singleton.mp hx]
      exact Ne.symm hgone.1
  | @keep w f below line rest hf hm =>
    have hne : f.location ≠ target := fun he => hgone (he ▸ List.mem_cons_self)
    refine ⟨hmet, hgone, hbefore.append ?_⟩
    intro x hx
    obtain ⟨text, -, rfl⟩ := by simpa using hx
    exact hne
  | skip hd ht hl => exact ⟨hmet, hgone, hbefore⟩
  | @descend w f below d rest r m hd ht hl =>
    refine ⟨List.mem_cons_of_mem _ hmet, ?_, hbefore⟩
    intro hm
    rcases List.mem_cons.mp hm with rfl | hm
    · exact hl hmet
    · exact hgone hm

/-- The target goes on waiting to be closed, or it is closed now and the line has still to be left. -/
theorem step_preserves_pending {target l : Location} {number : Nat} {s s' : State}
    (hb : Bracketed s) (hne : target ≠ l) (h : Pending target l number s) (hs : Step ctx s s') :
    Pending target l number s' ∨ Closed target l number s' := by
  obtain ⟨above, rest, hmarks, htarget⟩ := h
  rcases above with _ | ⟨top, above⟩
  · simp at htarget
  have hunread : ∀ x ∈ s.walker.fragments, ¬x.Follows l number :=
    hb.unread (l, number) (by simp [hmarks])
  cases hs with
  | @finish w f below hf =>
    rw [marks_cons, List.cons_append, List.cons.injEq] at hmarks
    obtain ⟨rfl, hbelow⟩ := hmarks
    rcases List.mem_cons.mp htarget with rfl | htarget
    · have hnodup := hb.waitsOnce
      simp only [marks_cons, List.map_cons, List.nodup_cons] at hnodup
      refine Or.inr ⟨hb.met _ List.mem_cons_self, ?_, ?_⟩
      · rw [marks_handOver]
        exact hnodup.1
      · refine .of_unread List.mem_cons_self fun x hx hx' => ?_
        rcases List.mem_cons.mp hx with rfl | hx
        · exact hne hx'.owner_eq
        · exact hunread x hx hx'
    · exact Or.inl ⟨above, rest, by rw [marks_handOver, hbelow], htarget⟩
  | @keep w f below line lines hf hm =>
    rw [marks_cons, List.cons_append, List.cons.injEq] at hmarks
    obtain ⟨rfl, hbelow⟩ := hmarks
    exact Or.inl ⟨(f.location, f.line + 1) :: above, rest, by simp [hbelow], htarget⟩
  | @skip w f below d lines r m hd ht hl =>
    rw [marks_cons, List.cons_append, List.cons.injEq] at hmarks
    obtain ⟨rfl, hbelow⟩ := hmarks
    exact Or.inl ⟨(f.location, f.line + 1) :: above, rest, by simp [hbelow], htarget⟩
  | @descend w f below d lines r m hd ht hl =>
    rw [marks_cons, List.cons_append, List.cons.injEq] at hmarks
    obtain ⟨rfl, hbelow⟩ := hmarks
    exact Or.inl ⟨(m, 0) :: (f.location, f.line + 1) :: above, rest,
      by simp [hbelow, WalkContext.frame], List.mem_cons_of_mem _ htarget⟩

theorem reaches_pending_or_closed {target l : Location} {number : Nat} {s s' : State}
    (hb : Bracketed s) (hne : target ≠ l)
    (h : Pending target l number s ∨ Closed target l number s) (hs : Reaches ctx s s') :
    Pending target l number s' ∨ Closed target l number s' := by
  have key : Bracketed s' ∧ (Pending target l number s' ∨ Closed target l number s') := by
    refine hs.invariant (P := fun s => Bracketed s ∧
      (Pending target l number s ∨ Closed target l number s)) ?_ ⟨hb, h⟩
    rintro s s' ⟨hb, hp | hc⟩ hs
    · exact ⟨step_preserves_bracketed hb hs, step_preserves_pending hb hne hp hs⟩
    · exact ⟨step_preserves_bracketed hb hs, Or.inr (step_preserves_closed hc hs)⟩
  exact key.2

theorem not_pending_end {target l : Location} {number : Nat} {w : Walker} :
    ¬Pending target l number ⟨w, []⟩ := by
  rintro ⟨above, below, hmarks, -⟩
  simp [marks] at hmarks

/-- Where a walk that succeeds meets a directive, its target is complete before what follows the line,
unless the target is the file itself or waits for it. -/
theorem completeBefore_of_reaches {w w' : Walker} {f : Frame} {below : List Frame} {d : Directive}
    {rest : List String} {r : Resolved} {target : Location}
    (hb : Bracketed ⟨w, f :: below⟩) (hd : Asks ctx f d rest) (ht : Leads ctx f.path d r target)
    (hself : target ≠ f.location) (hwaiting : target ∉ below.map (·.location))
    (hend : Reaches ctx ⟨w, f :: below⟩ ⟨w', []⟩) :
    CompleteBefore w'.fragments.reverse target f.location (f.line + 1) := by
  have hgone : target ∉ (marks (f :: below)).map Prod.fst := by
    rw [map_fst_marks, List.map_cons, List.mem_cons, not_or]
    exact ⟨hself, hwaiting⟩
  have hlast : Pending target f.location (f.line + 1) ⟨w', []⟩ ∨
      Closed target f.location (f.line + 1) ⟨w', []⟩ := by
    by_cases hv : target ∈ w.visited
    · have hs : Step ctx ⟨w, f :: below⟩ _ := .skip hd ht hv
      have hclosed : .separator target ∈ w.fragments := (hb.settled target hv).resolve_left hgone
      have hunread : ∀ x ∈ w.fragments, ¬x.Follows f.location (f.line + 1) := fun x hx hf =>
        hb.unread (f.location, f.line) List.mem_cons_self x hx (hf.mono (Nat.le_succ _))
      exact reaches_pending_or_closed (step_preserves_bracketed hb hs) hself
        (Or.inr ⟨hv, hgone, .of_unread hclosed hunread⟩) (hend.end_of_reaches (.single hs))
    · have hs : Step ctx ⟨w, f :: below⟩ _ := .descend hd ht hv
      exact reaches_pending_or_closed (step_preserves_bracketed hb hs) hself
        (Or.inl ⟨[(target, 0)], marks below, rfl, List.mem_cons_self⟩)
        (hend.end_of_reaches (.single hs))
  exact (hlast.resolve_left not_pending_end).before

theorem Requires.line {ctx : WalkContext} {path : Path} {l target : Location}
    (h : Requires ctx path l target) :
    ∃ p lines line d r, ctx.workspace.locate p = .ok l ∧
      ctx.workspace.tree.linesAt l = .ok lines ∧ line ∈ lines ∧ ctx.matcher line = some d ∧
      Leads ctx p d r target := by
  obtain ⟨-, -, entry, w, f, below, d, rest, r, hl, hr, hd, ht, rfl, -⟩ := h
  have hf := reads_of_reaches hl hr f List.mem_cons_self
  obtain ⟨line, hu, hm⟩ := hd
  obtain ⟨lines, ha, hline, -⟩ := hf.next hu
  exact ⟨f.path, lines, line, d, r, hf.located, ha, List.mem_of_getElem? hline, hm, ht⟩

theorem isChain_of_reaches {entry : Location} {s : State}
    (hl : ctx.workspace.locate path = .ok entry)
    (h : Reaches ctx (opening ctx {} path entry) s) :
    (s.stack.map (·.location)).IsChain fun l k => Requires ctx path k l := by
  induction h with
  | refl => exact List.isChain_singleton _
  | @tail s s' hr hs ih =>
    cases hs with
    | @finish w f below hf =>
      rw [← map_fst_marks, marks_handOver, map_fst_marks]
      exact ih.tail
    | keep hf hm => exact ih
    | skip hd ht hv => exact ih
    | @descend w f below d rest r m hd ht hv =>
      refine List.isChain_cons_cons.mpr ⟨?_, ih⟩
      exact ⟨_, _, entry, w, f, below, d, rest, r, hl, hr, hd, ht, rfl, rfl, rfl⟩

theorem requires_of_waiting {l m : Location} {waiting : List Location}
    (h : (l :: waiting).IsChain fun l k => Requires ctx path k l) (hm : m ∈ waiting) :
    Relation.TransGen (Requires ctx path) m l := by
  induction waiting generalizing l with
  | nil => simp at hm
  | cons k waiting ih =>
    obtain ⟨hk, hrest⟩ := List.isChain_cons_cons.mp h
    rcases List.mem_cons.mp hm with rfl | hm
    · exact .single hk
    · exact (ih hrest hm).tail hk

/-- In a bundle, the file that a directive asks for is complete before what follows the directive,
unless the file asks for itself or for one that waits for it. Without cycles there is no exception. -/
theorem bundle_load_order {p : Preprocessor} {ws : Workspace} {entry : Path} {b : Bundle}
    (h : (p.bundle ws entry).1 = .ok b) :
    let output := (process (p.context ws) {} entry).2.fragments.reverse
    b.output = String.join (output.map (·.text)) ∧
      ∀ waiting l number target, Meets (p.context ws) entry waiting l number target →
        (target = l ∨ target ∈ waiting ∨ CompleteBefore output target l number) ∧
          (Acyclic (p.context ws) entry → CompleteBefore output target l number) := by
  intro output
  obtain ⟨hok, rfl⟩ := Preprocessor.bundle_eq_ok_iff.mp h
  refine ⟨bundle_output _, ?_⟩
  intro waiting l number target hmeets
  obtain ⟨start, w, f, below, d, rest, r, hl, hr, hd, ht, rfl, rfl, rfl⟩ := hmeets
  have hrun : process (p.context ws) {} entry = run (p.context ws) _ _ :=
    process_unmet hl (List.not_mem_nil)
  have hend : Reaches (p.context ws) (opening (p.context ws) {} entry start)
      ⟨(process (p.context ws) {} entry).2, []⟩ :=
    run_ok_iff.mp (hrun.symm.trans (Prod.ext hok rfl))
  have hb : Bracketed ⟨w, f :: below⟩ :=
    hr.invariant (fun _ _ => step_preserves_bracketed) (bracketed_opening _ _ _)
  have hrequires : Requires (p.context ws) entry f.location target :=
    ⟨_, _, start, w, f, below, d, rest, r, hl, hr, hd, ht, rfl, rfl, rfl⟩
  have hbefore : target ≠ f.location → target ∉ below.map (·.location) →
      CompleteBefore output target f.location (f.line + 1) := fun hself hwaiting =>
    completeBefore_of_reaches hb hd ht hself hwaiting (hend.end_of_reaches hr)
  constructor
  · by_cases hself : target = f.location
    · exact Or.inl hself
    by_cases hwaiting : target ∈ below.map (·.location)
    · exact Or.inr (Or.inl hwaiting)
    · exact Or.inr (Or.inr (hbefore hself hwaiting))
  · intro hacyclic
    refine hbefore ?_ ?_
    · rintro rfl
      exact hacyclic _ (.single hrequires)
    · intro hwaiting
      have hback := requires_of_waiting (isChain_of_reaches hl hr) hwaiting
      exact hacyclic _ (hback.tail hrequires)

def repeatedWorkspace : Workspace where
  tree := ⟨[(["a.js"], .file [35, 98, 10, 35, 98, 10, 120] 0), (["b.js"], .file [121] 0)]⟩

def repeatedPreprocessor : Preprocessor where
  searchPaths := []
  roots := .ofApp ⟨"/"⟩
  matcher := .ofMarker "#" .angle
  stripper := none
  carry := false
  index := some [⟨⟨"/"⟩, ["b.js"]⟩]

def repeatedContext : WalkContext := repeatedPreprocessor.context repeatedWorkspace

theorem repeated_leads (path : Path) :
    Leads repeatedContext path ⟨.angle, "b"⟩ ⟨⟨"/b.js"⟩, .searchPath⟩ ["b.js"] where
  resolved := show repeatedContext.resolve "b" none = _ by decide +kernel
  located := by decide +kernel

theorem repeated_meets : Meets repeatedContext ⟨"/a.js"⟩ [] ["a.js"] 2 ["b.js"] := by
  have hasks : Asks repeatedContext (repeatedContext.frame ["a.js"] ⟨"/a.js"⟩ .code)
      ⟨.angle, "b"⟩ ["#b\n", "x"] := ⟨"#b\n", by decide +kernel, by decide +kernel⟩
  have hdescend : Step repeatedContext (opening repeatedContext {} ⟨"/a.js"⟩ ["a.js"]) _ :=
    .descend hasks (repeated_leads _) (by decide +kernel)
  have hkeep : (repeatedContext.frame ["b.js"] ⟨"/b.js"⟩ .code).unread = .ok ["y"] := by
    decide +kernel
  have hreaches := ((Relation.ReflTransGen.single hdescend).tail
    (.keep hkeep (show repeatedContext.matcher "y" = none by decide +kernel))).tail (.finish rfl)
  exact ⟨["a.js"], _, _, [], ⟨.angle, "b"⟩, ["x"], _, by decide +kernel, hreaches,
    ⟨"#b\n", rfl, by decide +kernel⟩, repeated_leads _, rfl, rfl, rfl⟩

theorem repeated_acyclic : Acyclic repeatedContext ⟨"/a.js"⟩ := by
  have hcheck : ∀ e ∈ repeatedContext.workspace.tree.all,
      ∀ lines ∈ (e.2.content.map textLines).toOption, ∀ line ∈ lines,
        ∀ d ∈ repeatedContext.matcher line, e.1 ≠ ["b.js"] ∧ d = ⟨.angle, "b"⟩ := by
    decide +kernel
  have hedge : ∀ l target, Requires repeatedContext ⟨"/a.js"⟩ l target →
      l ≠ ["b.js"] ∧ target = ["b.js"] := by
    intro l target h
    obtain ⟨p, lines, line, d, r, hp, ha, hline, hm, ht⟩ := h.line
    obtain ⟨n, hn, hc⟩ := FileTree.node?_of_linesAt ha
    obtain ⟨hne, rfl⟩ := hcheck _ (FileTree.mem_all_of_node? hn) lines
      (by simp [hc, Except.toOption]) line hline d hm
    exact ⟨hne, ht.unique (repeated_leads p)⟩
  intro l hcycle
  obtain ⟨m, hfirst, -⟩ := Relation.TransGen.head'_iff.mp hcycle
  obtain ⟨k, -, hlast⟩ := Relation.TransGen.tail'_iff.mp hcycle
  exact (hedge _ _ hfirst).1 (hedge _ _ hlast).2

/-- The second directive for a file finds it included, and what follows still comes behind it. -/
theorem bundle_load_order_repeated :
    (∃ b, (repeatedPreprocessor.bundle repeatedWorkspace ⟨"/a.js"⟩).1 = .ok b) ∧
    Meets repeatedContext ⟨"/a.js"⟩ [] ["a.js"] 2 ["b.js"] ∧
    Acyclic repeatedContext ⟨"/a.js"⟩ ∧
    CompleteBefore (process repeatedContext {} ⟨"/a.js"⟩).2.fragments.reverse
      ["b.js"] ["a.js"] 2 := by
  have hok : (process repeatedContext {} ⟨"/a.js"⟩).1 = .ok () := by decide +kernel
  have hbundle := Preprocessor.bundle_eq_ok_iff.mpr ⟨hok, rfl⟩
  obtain ⟨-, hbefore⟩ := bundle_load_order hbundle
  exact ⟨⟨_, hbundle⟩, repeated_meets, repeated_acyclic,
    (hbefore _ _ _ _ repeated_meets).2 repeated_acyclic⟩

end Walk

end ScriptBundle
