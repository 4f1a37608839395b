import ScriptBundle.Proofs.Walk.Frames
import ScriptBundle.Proofs.Walk.Coherence

/-! # The require graph

The files of a tree as a graph: one file needs another if a directive in it leads there from the path of
its location. Where the spelling of a file has no bearing on what its directives lead to, the walk of an
entry meets exactly the files that the graph reaches from there, and it fails only at one of them that
cannot be read or has a directive that leads nowhere.
-/

namespace ScriptBundle

namespace Walk

def Holds (ctx : WalkContext) (l : Location) (d : Directive) : Prop :=
  ∃ lines, ctx.workspace.tree.linesAt l = .ok lines ∧ d ∈ lines.filterMap ctx.matcher

def Needs (ctx : WalkContext) (l target : Location) : Prop :=
  ∃ d r, Holds ctx l d ∧ Leads ctx (Location.path l) d r target

def Readable (t : FileTree) (l : Location) : Prop :=
  (∃ content modified, t.node? l = some (.file content modified)) ∨ t.node? l = some .device

structure Whole (ctx : WalkContext) (l : Location) : Prop where
  readable : Readable ctx.workspace.tree l
  resolves : ∀ d, Holds ctx l d → ∃ r target, Leads ctx (Location.path l) d r target

/-- What the directives of a file lead to does not depend on how the file was spelled. -/
def SpellingFree (ctx : WalkContext) : Prop :=
  ∀ path l d target, ctx.workspace.locate path = .ok l → Readable ctx.workspace.tree l →
    ((∃ r, Leads ctx path d r target) ↔ ∃ r, Leads ctx (Location.path l) d r target)

theorem readable_iff {t : FileTree} {l : Location} :
    Readable t l ↔ ∃ lines, t.linesAt l = .ok lines := by
  unfold Readable FileTree.linesAt
  rcases t.node? l with _ | _ | _ | _ | _ <;> simp [FileNode.content, Except.map]

theorem Readable.not_directory {t : FileTree} {l : Location} (h : Readable t l) :
    ¬t.isDirectoryAt l := by
  rcases h with ⟨content, modified, hn⟩ | hn <;> simp [FileTree.isDirectoryAt, hn]

/-- The directives in the first lines of a file lead to files that have been met. -/
def Answered (ctx : WalkContext) (met : List Location) (l : Location) (number : Nat) : Prop :=
  ∀ lines d, ctx.workspace.tree.linesAt l = .ok lines →
    d ∈ (lines.take number).filterMap ctx.matcher →
      ∃ r target, Leads ctx (Location.path l) d r target ∧ target ∈ met

variable {ctx : WalkContext} {met : List Location} {l : Location} {number : Nat}

theorem answered_zero (ctx : WalkContext) (met : List Location) (l : Location) :
    Answered ctx met l 0 := by
  intro lines d _ hd
  simp at hd

theorem Answered.mono {met' : List Location} (h : Answered ctx met l number)
    (hsub : ∀ m ∈ met, m ∈ met') : Answered ctx met' l number := by
  intro lines d hlines hd
  obtain ⟨r, target, hr, ht⟩ := h lines d hlines hd
  exact ⟨r, target, hr, hsub target ht⟩

theorem Answered.succ {all : List String} {line : String} (h : Answered ctx met l number)
    (ha : ctx.workspace.tree.linesAt l = .ok all) (hline : all[number]? = some line)
    (hnext : ∀ d, ctx.matcher line = some d →
      ∃ r target, Leads ctx (Location.path l) d r target ∧ target ∈ met) :
    Answered ctx met l (number + 1) := by
  intro lines d hlines hd
  obtain rfl : all = lines := Except.ok.inj (ha.symm.trans hlines)
  rw [List.take_add_one, hline, List.filterMap_append, List.mem_append] at hd
  rcases hd with hd | hd
  · exact h all d ha hd
  · exact hnext d (by simpa using hd)

/-- What the walk of an entry keeps true: all files met are reached from the entry, and the directives
that have been read lead to files met. -/
structure Explored (ctx : WalkContext) (entry : Location) (s : State) : Prop where
  opened : entry ∈ s.walker.visited
  reached : ∀ l ∈ s.walker.visited, Relation.ReflTransGen (Needs ctx) entry l
  reading : ∀ m ∈ marks s.stack,
    m.1 ∈ s.walker.visited ∧ Answered ctx s.walker.visited m.1 m.2
  settled : ∀ l ∈ s.walker.visited, l ∈ (marks s.stack).map Prod.fst ∨
    ∃ lines, ctx.workspace.tree.linesAt l = .ok lines ∧
      Answered ctx s.walker.visited l lines.length

variable {entry : Location}

theorem explored_opening (ctx : WalkContext) (path : Path) (entry : Location) :
    Explored ctx entry (opening ctx {} path entry) := by
  constructor
  · simp [opening, Walker.meet]
  · intro l hl
    obtain rfl : l = entry := by simpa [opening, Walker.meet] using hl
    exact .refl
  · intro m hm
    obtain rfl : m = (entry, 0) := by simpa [opening, marks, WalkContext.frame] using hm
    exact ⟨by simp [opening, Walker.meet], answered_zero ctx _ _⟩
  · intro l hl
    exact Or.inl (by simpa [opening, marks, WalkContext.frame, Walker.meet] using hl)

theorem Explored.advance {w w' : Walker} {f f' : Frame} {below : List Frame}
    (h : Explored ctx entry ⟨w, f :: below⟩) (hl : f'.location = f.location)
    (hv : w'.visited = w.visited)
    (hnext : Answered ctx w.visited f.location (f.line + 1)) (hn : f'.line = f.line + 1) :
    Explored ctx entry ⟨w', f' :: below⟩ := by
  have hreading := h.reading
  simp only [marks_cons, List.forall_mem_cons] at hreading
  constructor
  · simpa [hv] using h.opened
  · simpa [hv] using h.reached
  · simp only [marks_cons, List.forall_mem_cons, hl, hn, hv]
    exact ⟨⟨hreading.1.1, hnext⟩, hreading.2⟩
  · simpa [marks_cons, hl, hv] using h.settled

theorem Explored.descend {w : Walker} {f : Frame} {below : List Frame} {base : Option Path}
    {origin : Option Origin} {target : Location} {path : Path} {state : CommentState}
    {rest : List String} {depth : Nat} (h : Explored ctx entry ⟨w, f :: below⟩)
    (hneeds : Needs ctx f.location target)
    (hnext : Answered ctx (target :: w.visited) f.location (f.line + 1)) :
    Explored ctx entry ⟨(w.ask base).meet target origin depth,
      ctx.frame target path state :: f.advance rest :: below⟩ := by
  have hsub : ∀ m ∈ w.visited, m ∈ target :: w.visited := fun m => List.mem_cons_of_mem _
  have hreading := h.reading
  simp only [marks_cons, List.forall_mem_cons] at hreading
  constructor
  · exact hsub _ h.opened
  · intro m hm
    rcases List.mem_cons.mp hm with rfl | hm
    · exact (h.reached _ hreading.1.1).tail hneeds
    · exact h.reached m hm
  · refine List.forall_mem_cons.mpr ⟨⟨List.mem_cons_self, answered_zero ctx _ _⟩, ?_⟩
    refine List.forall_mem_cons.mpr ⟨⟨hsub _ hreading.1.1, hnext⟩, ?_⟩
    intro m hm
    obtain ⟨hv, ha⟩ := hreading.2 m hm
    exact ⟨hsub _ hv, ha.mono hsub⟩
  · intro m hm
    rcases List.mem_cons.mp hm with rfl | hm
    · exact Or.inl List.mem_cons_self
    · rcases h.settled m hm with hw | ⟨lines, hlines, ha⟩
      · exact Or.inl (List.mem_cons_of_mem _ hw)
      · exact Or.inr ⟨lines, hlines, ha.mono hsub⟩

theorem leads_of_asks (hctx : SpellingFree ctx) {f : Frame} {d : Directive} {rest : List String}
    (hf : f.Reads ctx) (hd : Asks ctx f d rest) :
    Holds ctx f.location d ∧ ∀ target, (∃ r, Leads ctx f.path d r target) ↔
      ∃ r, Leads ctx (Location.path f.location) d r target := by
  obtain ⟨line, hu, hm⟩ := hd
  obtain ⟨all, ha, hline, -⟩ := hf.next hu
  have hread : Readable ctx.workspace.tree f.location := readable_iff.mpr ⟨all, ha⟩
  refine ⟨⟨all, ha, ?_⟩, fun target => hctx _ _ d target hf.located hread⟩
  exact List.mem_filterMap.mpr ⟨line, List.mem_of_getElem? hline, hm⟩

theorem answered_of_asks (hctx : SpellingFree ctx) {f : Frame} {d : Directive}
    {rest : List String} {r : Resolved} {target : Location} (hf : f.Reads ctx)
    (hd : Asks ctx f d rest) (ht : Leads ctx f.path d r target) (hmet : target ∈ met)
    (h : Answered ctx met f.location f.line) : Answered ctx met f.location (f.line + 1) := by
  obtain ⟨r', hr'⟩ := ((leads_of_asks hctx hf hd).2 target).mp ⟨r, ht⟩
  obtain ⟨line, hu, hm⟩ := hd
  obtain ⟨all, ha, hline, -⟩ := hf.next hu
  refine h.succ ha hline fun d' hd' => ?_
  obtain rfl : d = d' := Option.some.inj (hm.symm.trans hd')
  exact ⟨r', target, hr', hmet⟩

theorem step_preserves_explored (hctx : SpellingFree ctx) {s s' : State}
    (hreads : ∀ f ∈ s.stack, f.Reads ctx) (h : Explored ctx entry s) (hs : Step ctx s s') :
    Explored ctx entry s' := by
  cases hs with
  | @finish w f below hf =>
    have hreading := h.reading
    simp only [marks_cons, List.forall_mem_cons] at hreading
    refine ⟨h.opened, h.reached, ?_, ?_⟩
    · rw [marks_handOver]
      exact hreading.2
    · intro l hl
      rw [marks_handOver]
      rcases h.settled l hl with hw | hw
      · rcases List.mem_cons.mp hw with rfl | hw
        · obtain ⟨all, ha, hd⟩ := (hreads f List.mem_cons_self).lines hf
          refine Or.inr ⟨all, ha, fun lines d hlines hmem => ?_⟩
          obtain rfl : all = lines := Except.ok.inj (ha.symm.trans hlines)
          refine hreading.1.2 all d ha ?_
          rwa [List.take_of_length_le (List.drop_eq_nil_iff.mp hd), ← List.take_length (l := all)]
        · exact Or.inl hw
      · exact Or.inr hw
  | @keep w f below line rest hf hm =>
    obtain ⟨all, ha, hline, -⟩ := (hreads f List.mem_cons_self).next hf
    have hread := (h.reading (f.location, f.line) List.mem_cons_self).2
    refine h.advance rfl rfl (hread.succ ha hline fun d hd => ?_) rfl
    rw [hm] at hd
    cases hd
  | @skip w f below d rest r target hd ht hl =>
    have hread := (h.reading (f.location, f.line) List.mem_cons_self).2
    exact h.advance rfl rfl
      (answered_of_asks hctx (hreads f List.mem_cons_self) hd ht hl hread) rfl
  | @descend w f below d rest r target hd ht hl =>
    have hf : f.Reads ctx := hreads f List.mem_cons_self
    have hread := (h.reading (f.location, f.line) List.mem_cons_self).2
    obtain ⟨hholds, hiff⟩ := leads_of_asks hctx hf hd
    obtain ⟨r', hr'⟩ := (hiff target).mp ⟨r, ht⟩
    refine h.descend ⟨d, r', hholds, hr'⟩ ?_
    exact answered_of_asks hctx hf hd ht List.mem_cons_self
      (hread.mono fun m => List.mem_cons_of_mem _)

theorem explored_of_reaches (hctx : SpellingFree ctx) {path : Path} {s : State}
    (hl : ctx.workspace.locate path = .ok entry)
    (h : Reaches ctx (opening ctx {} path entry) s) : Explored ctx entry s := by
  have key : Explored ctx entry s ∧ ∀ f ∈ s.stack, f.Reads ctx := by
    refine h.invariant (P := fun s => Explored ctx entry s ∧ ∀ f ∈ s.stack, f.Reads ctx) ?_ ?_
    · rintro s s' ⟨he, hr⟩ hs
      exact ⟨step_preserves_explored hctx hr he hs, step_preserves_reads hr hs⟩
    · exact ⟨explored_opening ctx path entry, reads_of_reaches hl .refl⟩
  exact key.1

theorem Explored.at_end {w : Walker} (h : Explored ctx entry ⟨w, []⟩) :
    (∀ l, l ∈ w.visited ↔ Relation.ReflTransGen (Needs ctx) entry l) ∧
      ∀ l ∈ w.visited, Whole ctx l := by
  have hsettled : ∀ l ∈ w.visited, ∃ lines, ctx.workspace.tree.linesAt l = .ok lines ∧
      Answered ctx w.visited l lines.length := by
    intro l hl
    exact (h.settled l hl).resolve_left (by simp [marks])
  have hanswer : ∀ l ∈ w.visited, ∀ d, Holds ctx l d →
      ∃ r target, Leads ctx (Location.path l) d r target ∧ target ∈ w.visited := by
    rintro l hl d ⟨lines, hlines, hd⟩
    obtain ⟨all, ha, hall⟩ := hsettled l hl
    obtain rfl : all = lines := Except.ok.inj (ha.symm.trans hlines)
    exact hall all d ha (by rwa [List.take_length])
  refine ⟨fun l => ⟨h.reached l, fun hl => ?_⟩, ?_⟩
  · induction hl with
    | refl => exact h.opened
    | tail _ hneeds ih =>
      obtain ⟨d, r, hd, hr⟩ := hneeds
      obtain ⟨r', target, hr', ht⟩ := hanswer _ ih d hd
      exact hr.unique hr' ▸ ht
  · intro l hl
    refine ⟨?_, fun d hd => ?_⟩
    · obtain ⟨lines, hlines, -⟩ := hsettled l hl
      exact readable_iff.mpr ⟨lines, hlines⟩
    · obtain ⟨r, target, hr, -⟩ := hanswer l hl d hd
      exact ⟨r, target, hr⟩

theorem not_halt_of_whole (hctx : SpellingFree ctx) {s : State} {e : BundleError} {w' : Walker}
    (hreads : ∀ f ∈ s.stack, f.Reads ctx) (hwhole : ∀ f ∈ s.stack, Whole ctx f.location) :
    ¬Halt ctx s e w' := by
  -- A directive that leads nowhere from the path of the frame leads nowhere from the location.
  have hleads : ∀ f ∈ s.stack, ∀ d rest, Asks ctx f d rest →
      ∃ r target, Leads ctx f.path d r target := by
    intro f hf d rest hd
    obtain ⟨hholds, hiff⟩ := leads_of_asks hctx (hreads f hf) hd
    obtain ⟨r, target, hr⟩ := (hwhole f hf).resolves d hholds
    obtain ⟨r', hr'⟩ := (hiff target).mpr ⟨r, hr⟩
    exact ⟨r', target, hr'⟩
  intro h
  cases h with
  | @unreadable w f below fault hf =>
    obtain ⟨lines, hlines⟩ := readable_iff.mp (hwhole f List.mem_cons_self).readable
    have hu := (hreads f List.mem_cons_self).unread_eq
    rw [hf, hlines] at hu
    cases hu
  | @unresolved w f below d rest e hd hr =>
    obtain ⟨r, target, hl⟩ := hleads f List.mem_cons_self d rest hd
    rw [hl.resolved] at hr
    cases hr
  | @unlocated w f below d rest r fault hd hr hl =>
    obtain ⟨r', target, hl'⟩ := hleads f List.mem_cons_self d rest hd
    obtain rfl : r' = r := Except.ok.inj (hl'.resolved.symm.trans hr)
    rw [hl'.located] at hl
    cases hl

theorem process_ok_iff (hctx : SpellingFree ctx) {path : Path}
    (hl : ctx.workspace.locate path = .ok entry) :
    (process ctx {} path).1 = .ok () ↔
      ∀ l, Relation.ReflTransGen (Needs ctx) entry l → Whole ctx l := by
  rw [process_unmet hl List.not_mem_nil]
  rcases hrun : run ctx (opening ctx {} path entry).walker (opening ctx {} path entry).stack with
    ⟨e | ⟨⟩, w⟩
  · obtain ⟨s, hs, hh⟩ := run_error_iff.mp hrun
    simp only [reduceCtorEq, false_iff]
    intro hwhole
    have hexplored := explored_of_reaches hctx hl hs
    refine not_halt_of_whole hctx (reads_of_reaches hl hs) (fun f hf => ?_) hh
    exact hwhole _ (hexplored.reached _
      (hexplored.reading _ (List.mem_map_of_mem hf)).1)
  · have hexplored := (explored_of_reaches hctx hl (run_ok_iff.mp hrun)).at_end
    simp only [true_iff]
    exact fun l hl => hexplored.2 l ((hexplored.1 l).mpr hl)

theorem visited_iff_of_process (hctx : SpellingFree ctx) {path : Path}
    (hl : ctx.workspace.locate path = .ok entry) (hok : (process ctx {} path).1 = .ok ()) :
    l ∈ (process ctx {} path).2.visited ↔ Relation.ReflTransGen (Needs ctx) entry l := by
  obtain ⟨start, hstart, hend⟩ := process_ok_iff_reaches.mp (Prod.ext hok rfl)
  obtain rfl : entry = start := Except.ok.inj (hl.symm.trans hstart)
  exact (explored_of_reaches hctx hl hend).at_end.1 l

end Walk

end ScriptBundle
