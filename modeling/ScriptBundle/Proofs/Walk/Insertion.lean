import ScriptBundle.Proofs.Text.Lines
import ScriptBundle.Proofs.Walk.Coherence
import ScriptBundle.Proofs.Walk.Dependence
import ScriptBundle.Proofs.Walk.Position

/-! # Directives that come too late

A directive for a file that has been met does nothing. So another such line in a file makes the walk take one
step more, where it comes to the line; apart from the numbers of the lines below, nothing that it puts out or
logs is changed.
-/

namespace ScriptBundle

namespace Inclusion

/-- A logged file, asked for one line later if the file at a location asks for it. -/
def later (ws : Workspace) (a : Location) (i : Inclusion) : Inclusion :=
  { i with
    origin := i.origin.map fun o =>
      if ws.locate o.requiredBy = .ok a then { o with line := o.line + 1 } else o }

/-- A logged file, when a line is put into the file at a location below its first `k` lines: what is asked
for below that is asked for one line later. -/
def shift (ws : Workspace) (a : Location) (k : Nat) (i : Inclusion) : Inclusion :=
  { i with
    origin := i.origin.map fun o =>
      if ws.locate o.requiredBy = .ok a ∧ k < o.line.toNat then { o with line := o.line + 1 } else o }

end Inclusion

/-- A log in which the file at a location asks one line later for what stands behind the first `n` entries. -/
def postpone (ws : Workspace) (a : Location) (n : Nat) (log : List Inclusion) : List Inclusion :=
  log.take n ++ (log.drop n).map (Inclusion.later ws a)

theorem postpone_concat (ws : Workspace) (a : Location) (n : Nat) (log : List Inclusion) (i : Inclusion) :
    postpone ws a n (log ++ [i]) =
      postpone ws a n log ++ [if n ≤ log.length then i.later ws a else i] := by
  unfold postpone
  split
  next hn =>
    rw [List.take_append_of_le_length hn, List.drop_append_of_le_length hn, List.map_append,
      ← List.append_assoc]
    rfl
  next hn =>
    have hlength : (log ++ [i]).length ≤ n := by
      rw [List.length_append, List.length_singleton]
      omega
    have hlog : log.length ≤ n := by omega
    rw [List.take_of_length_le hlength, List.drop_eq_nil_of_le hlength, List.take_of_length_le hlog,
      List.drop_eq_nil_of_le hlog, List.map_nil, List.append_nil, List.append_nil]

theorem getElem?_postpone (ws : Workspace) (a : Location) (n : Nat) (log : List Inclusion) (m : Nat) :
    (postpone ws a n log)[m]? = log[m]?.map fun i => if n ≤ m then i.later ws a else i := by
  induction log using List.reverseRecOn with
  | nil => simp [postpone]
  | append_singleton log i ih =>
    have hlength : (postpone ws a n log).length = log.length := by
      rw [postpone, List.length_append, List.length_map, ← List.length_append, List.take_append_drop]
    rw [postpone_concat]
    rcases Nat.lt_trichotomy m log.length with hm | rfl | hm
    · rw [List.getElem?_append_left (hlength ▸ hm), List.getElem?_append_left hm, ih]
    · simp [hlength]
    · rw [List.getElem?_eq_none (by simp; omega), List.getElem?_eq_none (by simp; omega)]
      rfl

namespace Walk

structure Inserts (ctx : WalkContext) (ws : Workspace) (a : Location) (k : Nat) (line : String) :
    Prop where
  locate : ∀ path, ws.locate path = ctx.workspace.locate path
  others : ∀ l, l ≠ a → ws.tree.linesAt l = ctx.workspace.tree.linesAt l
  lines : ∃ front back, ctx.workspace.tree.linesAt a = .ok (front ++ back) ∧ front.length = k ∧
    ws.tree.linesAt a = .ok (front ++ line :: back)

/-- What a file being read is when it has the line: the same, if it is another file; the line is still to
come, or the line has been read. At the position itself, both can be. -/
inductive Shifts (a : Location) (k : Nat) (line : String) : Frame → Frame → Prop
  | other {f} (h : f.location ≠ a) : Shifts a k line f f
  | before {f front back} (h : f.location = a) (hf : f.unread = .ok (front ++ back))
      (hk : f.line + front.length = k) :
      Shifts a k line f { f with unread := .ok (front ++ line :: back) }
  | after {f} (h : f.location = a) (hk : k ≤ f.line) :
      Shifts a k line f { f with line := f.line + 1 }

structure Passes (a : Location) (k : Nat) (line : String) (f f' : Frame) : Prop where
  location : f'.location = f.location
  path : f'.path = f.path
  state : f'.state = f.state
  number : f'.line = if f.location = a ∧ k ≤ f.line then f.line + 1 else f.line
  finish : f.unread = .ok [] → f'.unread = .ok []
  next : ∀ first rest, f.unread = .ok (first :: rest) → ∃ rest', f'.unread = .ok (first :: rest') ∧
    Shifts a k line (f.advance rest) (f'.advance rest')

structure Waits (a : Location) (k : Nat) (line : String) (f f' : Frame) : Prop where
  location : f.location = a
  number : f.line = k
  next : ∃ lines, f.unread = .ok lines ∧ f' = { f with unread := .ok (line :: lines) }

variable {ctx : WalkContext} {ws : Workspace} {a : Location} {k n : Nat} {line : String}
  {f f' : Frame} {below below' : List Frame} {w w' : Walker} {s t : State}

theorem Shifts.withState (h : Shifts a k line f f') (state : CommentState) :
    Shifts a k line { f with state } { f' with state } := by
  cases h with
  | other h => exact .other h
  | before h hf hk => exact @Shifts.before a k line { f with state } _ _ h hf hk
  | after h hk => exact @Shifts.after a k line { f with state } h hk

theorem passes_after (h : f.location = a) (hk : k ≤ f.line) :
    Passes a k line f { f with line := f.line + 1 } := by
  refine ⟨rfl, rfl, rfl, by rw [if_pos ⟨h, hk⟩], id, ?_⟩
  intro first rest hf
  exact ⟨rest, hf, @Shifts.after a k line (f.advance rest) h (Nat.le_succ_of_le hk)⟩

theorem Shifts.passes_or_waits (h : Shifts a k line f f') :
    Passes a k line f f' ∨ Waits a k line f f' := by
  cases h with
  | other h =>
    refine Or.inl ⟨rfl, rfl, rfl, by rw [if_neg fun hat => h hat.1], id, ?_⟩
    intro first rest hf
    exact ⟨rest, hf, .other h⟩
  | @before front back h hf hk =>
    rcases front with _ | ⟨x, front⟩
    · exact Or.inr ⟨h, hk, back, hf, rfl⟩
    · rw [List.length_cons] at hk
      refine Or.inl ⟨rfl, rfl, rfl, ?_, ?_, ?_⟩
      · have hearly : ¬ (f.location = a ∧ k ≤ f.line) := fun hat => by omega
        rw [if_neg hearly]
      · intro hnone
        cases hf.symm.trans hnone
      · intro first rest hfirst
        obtain ⟨rfl, rfl⟩ := List.cons.inj (Except.ok.inj (hf.symm.trans hfirst))
        have hnext : f.line + 1 + front.length = k := by omega
        exact ⟨front ++ line :: back, rfl,
          @Shifts.before a k line (f.advance (front ++ back)) front back h rfl hnext⟩
  | after h hk => exact Or.inl (passes_after h hk)

theorem shifts_frame (h : Inserts ctx ws a k line) (l : Location) (path : Path) (state : CommentState) :
    Shifts a k line (ctx.frame l path state) ((within ctx ws ctx.resolve).frame l path state) := by
  by_cases hl : l = a
  · obtain ⟨front, back, hlines, hk, hinserted⟩ := h.lines
    have hread : (ctx.frame l path state).unread = .ok (front ++ back) := hl ▸ hlines
    have hframe : (within ctx ws ctx.resolve).frame l path state =
        { ctx.frame l path state with unread := .ok (front ++ line :: back) } := by
      rw [← hinserted, ← hl]
      rfl
    rw [hframe]
    exact .before hl hread ((Nat.zero_add _).trans hk)
  · have hframe : (within ctx ws ctx.resolve).frame l path state = ctx.frame l path state := by
      have hlines : ws.tree.linesAt l = ctx.workspace.tree.linesAt l := h.others l hl
      rw [WalkContext.frame, WalkContext.frame, ← hlines]
      rfl
    rw [hframe]
    exact .other hl

theorem shifts_handOver {carry : Bool} {state : CommentState}
    (h : List.Forall₂ (Shifts a k line) below below') :
    List.Forall₂ (Shifts a k line) (handOver carry state below) (handOver carry state below') := by
  cases h with
  | nil => exact .nil
  | cons htop hrest =>
    cases carry
    · exact .cons htop hrest
    · exact .cons (htop.withState state) hrest

structure Matches (ws : Workspace) (a : Location) (n : Nat) (w w' : Walker) : Prop where
  visited : w'.visited = w.visited
  log : w'.bundle.inclusions = postpone ws a n w.bundle.inclusions
  texts : w'.fragments.map (·.text) = w.fragments.map (·.text)

structure Mirrors (ws : Workspace) (a : Location) (k n : Nat) (line : String) (s s' : State) : Prop where
  walker : Matches ws a n s.walker s'.walker
  stack : List.Forall₂ (Shifts a k line) s.stack s'.stack

theorem Matches.emitKept (h : Matches ws a n w w') (l : Location) (number number' : Nat)
    (kept : Option String) :
    Matches ws a n (w.emitKept l number kept) (w'.emitKept l number' kept) := by
  refine ⟨h.visited, h.log, ?_⟩
  cases kept with
  | none => exact h.texts
  | some text => exact congrArg (text :: ·) h.texts

/-- What the file with the line asks for is logged as it is without the line, one line later from the position
on. -/
theorem Matches.meet {d : Directive} {mode : SourceMode} (hw : Matches ctx.workspace a n w w')
    (hp : Passes a k line f f') (hf : ctx.workspace.locate f.path = .ok f.location)
    (horder : f.location = a → (k ≤ f.line ↔ n ≤ w.inclusions.length)) (l : Location) (depth : Nat) :
    Matches ctx.workspace a n ((w.ask (d.base f.path)).meet l (some (f.origin d mode)) depth)
      ((w'.ask (d.base f'.path)).meet l (some (f'.origin d mode)) depth) := by
  refine ⟨congrArg (l :: ·) hw.visited, ?_, hw.texts⟩
  have hat : ctx.workspace.locate (f.origin d mode).requiredBy = .ok a ↔ f.location = a := by
    have hpath : ctx.workspace.locate (f.origin d mode).requiredBy = .ok f.location := hf
    rw [hpath, Except.ok.injEq]
  have hlength : w.bundle.inclusions.length = w.inclusions.length := List.length_reverse
  have horigin : f'.origin d mode =
      ⟨d, f.path, .ofNat ((if f.location = a ∧ k ≤ f.line then f.line + 1 else f.line) + 1), mode⟩ := by
    rw [Frame.origin, hp.path, hp.number]
  have hentry : (⟨l, some (f'.origin d mode), depth⟩ : Inclusion) =
      if n ≤ w.bundle.inclusions.length then
        Inclusion.later ctx.workspace a ⟨l, some (f.origin d mode), depth⟩
      else ⟨l, some (f.origin d mode), depth⟩ := by
    rw [hlength, horigin]
    by_cases ha : f.location = a
    · by_cases hk : k ≤ f.line
      · rw [if_pos ⟨ha, hk⟩, if_pos ((horder ha).mp hk), Inclusion.later, Option.map_some,
          if_pos (hat.mpr ha), UInt32.ofNat_add]
        rfl
      · rw [if_neg fun h => hk h.2, if_neg (mt (horder ha).mpr hk)]
        rfl
    · rw [if_neg fun h => ha h.1, Inclusion.later, Option.map_some, if_neg (mt hat.mp ha), ite_self]
      rfl
  rw [Walker.bundle_meet_inclusions, Walker.bundle_meet_inclusions, Walker.bundle_ask_inclusions,
    Walker.bundle_ask_inclusions, hw.log, postpone_concat, hentry]

theorem Passes.asks {d : Directive} {rest : List String} (ws : Workspace) (hp : Passes a k line f f')
    (hd : Asks ctx f d rest) : ∃ rest', Asks (within ctx ws ctx.resolve) f' d rest' ∧
      Shifts a k line (f.advance rest) (f'.advance rest') := by
  obtain ⟨first, hf, hm⟩ := hd
  obtain ⟨rest', hf', hrest⟩ := hp.next first rest hf
  exact ⟨rest', ⟨first, hf', hm⟩, hrest⟩

theorem leads_within {d : Directive} {r : Resolved} {l : Location} (hins : Inserts ctx ws a k line)
    (hp : f'.path = f.path) (ht : Leads ctx f.path d r l) :
    Leads (within ctx ws ctx.resolve) f'.path d r l where
  resolved := hp ▸ ht.resolved
  located := (hins.locate r.path).trans ht.located

theorem step_mirrored (hins : Inserts ctx ws a k line)
    (hf : ctx.workspace.locate f.path = .ok f.location)
    (hw : Matches ctx.workspace a n w w') (hp : Passes a k line f f')
    (hbelow : List.Forall₂ (Shifts a k line) below below') (hs : Step ctx ⟨w, f :: below⟩ t)
    (horder : f.location = a →
      f.line < k ∧ t.walker.inclusions.length ≤ n ∨ k ≤ f.line ∧ n ≤ w.inclusions.length) :
    ∃ t', Step (within ctx ws ctx.resolve) ⟨w', f' :: below'⟩ t' ∧
      Mirrors ctx.workspace a k n line t t' := by
  cases hs with
  | finish hnone =>
    refine ⟨_, .finish (hp.finish hnone), ⟨hw.visited, hw.log, ?_⟩, ?_⟩
    · exact congrArg ("\n" :: ·) hw.texts
    · rw [hp.state]
      exact shifts_handOver hbelow
  | @keep _ _ _ first rest hread hm =>
    obtain ⟨rest', hread', hrest⟩ := hp.next first rest hread
    have hstep := @Step.keep (within ctx ws ctx.resolve) w' f' below' first rest' hread' hm
    rw [hp.location, hp.state] at hstep
    exact ⟨_, hstep, hw.emitKept _ _ _ _, .cons (hrest.withState _) hbelow⟩
  | @skip _ _ _ d rest r l hd ht hl =>
    obtain ⟨rest', hd', hrest⟩ := hp.asks ws hd
    exact ⟨_, .skip hd' (leads_within hins hp.path ht) (hw.visited ▸ hl),
      ⟨hw.visited, hw.log, hw.texts⟩, .cons hrest hbelow⟩
  | @descend _ _ _ d rest r l hd ht hl =>
    obtain ⟨rest', hd', hrest⟩ := hp.asks ws hd
    have hstep := @Step.descend (within ctx ws ctx.resolve) w' f' below' d rest' r l hd'
      (leads_within hins hp.path ht) (hw.visited ▸ hl)
    rw [hp.state, ← hbelow.length_eq] at hstep
    have hat : f.location = a → (k ≤ f.line ↔ n ≤ w.inclusions.length) := by
      intro ha
      rcases horder ha with ⟨habove, hlast⟩ | hbehind
      · have hnew : w.inclusions.length + 1 ≤ n := hlast
        omega
      · exact iff_of_true hbehind.1 hbehind.2
    exact ⟨_, hstep, hw.meet hp hf hat l _, .cons (shifts_frame hins l r.path _) (.cons hrest hbelow)⟩

theorem step_over_line {d : Directive} {r : Resolved} {l : Location} (hins : Inserts ctx ws a k line)
    (hline : ctx.matcher line = some d) (hwaits : Waits a k line f f') (ht : Leads ctx f.path d r l)
    (hl : l ∈ w'.visited) :
    Step (within ctx ws ctx.resolve) ⟨w', f' :: below'⟩
      ⟨w'.ask (d.base f.path), { f with line := f.line + 1 } :: below'⟩ := by
  obtain ⟨lines, hf, rfl⟩ := hwaits.next
  have hd : Asks (within ctx ws ctx.resolve) { f with unread := .ok (line :: lines) } d lines :=
    ⟨line, rfl, hline⟩
  have hbehind : Frame.advance { f with unread := .ok (line :: lines) } lines =
      { f with line := f.line + 1 } := by
    rw [Frame.advance, ← hf]
  rw [← hbehind]
  exact .skip hd (leads_within hins rfl ht) hl

theorem reaches_mirrored {d : Directive} {start start' u : State} (hins : Inserts ctx ws a k line)
    (hline : ctx.matcher line = some d)
    (hlocated : ∀ u, Reaches ctx start u → ∀ f ∈ u.stack, ctx.workspace.locate f.path = .ok f.location)
    (hmet : ∀ u f, Reaches ctx start u → u.stack.head? = some f → f.location = a → f.line = k →
      ∃ r l, Leads ctx f.path d r l ∧ l ∈ u.walker.visited)
    (horder : ∀ u v f, Reaches ctx start u → Step ctx u v → u.stack.head? = some f → f.location = a →
      f.line < k ∧ v.walker.inclusions.length ≤ n ∨ k ≤ f.line ∧ n ≤ u.walker.inclusions.length)
    (hstart : Mirrors ctx.workspace a k n line start start') (h : Reaches ctx start u) :
    ∃ u', Reaches (within ctx ws ctx.resolve) start' u' ∧ Mirrors ctx.workspace a k n line u u' := by
  induction h with
  | refl => exact ⟨start', .refl, hstart⟩
  | @tail s t hr hs ih =>
    obtain ⟨⟨w', stack'⟩, hr', hw, hstack⟩ := ih
    obtain ⟨w, _ | ⟨f, below⟩⟩ := s
    · cases hs
    obtain ⟨f', below', hf, hbelow, rfl⟩ := List.forall₂_cons_left_iff.mp hstack
    have hplace := hlocated _ hr f List.mem_cons_self
    have horder' := horder _ _ f hr hs rfl
    rcases hf.passes_or_waits with hpasses | hwaits
    · obtain ⟨t', hs', ht'⟩ := step_mirrored hins hplace hw hpasses hbelow hs horder'
      exact ⟨t', hr'.tail hs', ht'⟩
    · -- The first walk does not have the line: the second one steps over it and is level again.
      obtain ⟨r, l, ht, hl⟩ := hmet _ f hr rfl hwaits.location hwaits.number
      have hover : Step (within ctx ws ctx.resolve) ⟨w', f' :: below'⟩
          ⟨w'.ask (d.base f.path), { f with line := f.line + 1 } :: below'⟩ :=
        step_over_line hins hline hwaits ht (hw.visited ▸ hl)
      have hasked : Matches ctx.workspace a n w (w'.ask (d.base f.path)) :=
        ⟨hw.visited, hw.log, hw.texts⟩
      have hbehind : Passes a k line f { f with line := f.line + 1 } :=
        passes_after hwaits.location hwaits.number.ge
      obtain ⟨t', hs', ht'⟩ := step_mirrored hins hplace hasked hbehind hbelow hs horder'
      exact ⟨t', (hr'.tail hover).tail hs', ht'⟩

theorem mirrors_opening (hins : Inserts ctx ws a k line) (n : Nat) (path : Path) (l : Location) :
    Mirrors ctx.workspace a k n line (opening ctx {} path l)
      (opening (within ctx ws ctx.resolve) {} path l) where
  walker := by
    refine ⟨rfl, ?_, rfl⟩
    -- The entry of the call has no origin.
    have hroot : postpone ctx.workspace a n [⟨l, none, 0⟩] = [⟨l, none, 0⟩] := by
      cases n <;> simp [postpone, Inclusion.later]
    exact hroot.symm
  stack := .cons (shifts_frame hins l path .code) .nil

theorem process_mirrored {path : Path} {d : Directive} {r : Resolved} {l : Location}
    (hins : Inserts ctx ws a k line) (hline : ctx.matcher line = some d)
    (hok : process ctx {} path = (.ok (), w)) (hcomes : ComesTo ctx path a k s f)
    (ht : Leads ctx f.path d r l) (hl : l ∈ s.walker.visited) :
    ∃ w', process (within ctx ws ctx.resolve) {} path = (.ok (), w') ∧
      Matches ctx.workspace a s.walker.inclusions.length w w' := by
  obtain ⟨entry, hentry, hend⟩ := process_ok_iff_reaches.mp hok
  -- The walk comes to the position once, so it is the state in which the file has been met.
  have hmet : ∀ u g, Reaches ctx (opening ctx {} path entry) u → u.stack.head? = some g →
      g.location = a → g.line = k → ∃ r l, Leads ctx g.path d r l ∧ l ∈ u.walker.visited := by
    intro u g hr htop hg hnumber
    have hu : ComesTo ctx path a k u g := ⟨⟨entry, hentry, hr⟩, htop, hg, hnumber⟩
    obtain rfl := hu.unique hcomes
    obtain rfl : g = f := Option.some.inj (htop.symm.trans hcomes.top)
    exact ⟨r, l, ht, hl⟩
  obtain ⟨⟨w', stack'⟩, hr', hw, hstack⟩ :=
    reaches_mirrored hins hline (fun _ hr f hf => (reads_of_reaches hentry hr f hf).located) hmet
      (fun _ _ _ hr hs => hcomes.log_order hentry hr hs) (mirrors_opening hins _ path entry) hend
  obtain rfl := List.forall₂_nil_left_iff.mp hstack
  have hentry' : (within ctx ws ctx.resolve).workspace.locate path = .ok entry :=
    (hins.locate path).trans hentry
  exact ⟨w', process_ok_iff_reaches.mpr ⟨entry, hentry', hr'⟩, hw⟩

theorem Matches.bundle_eq (h : Matches ws a n w w') :
    w'.bundle = ⟨w.bundle.output, postpone ws a n w.bundle.inclusions⟩ := by
  have houtput : w'.bundle.output = w.bundle.output := by
    rw [bundle_output, bundle_output, List.map_reverse, List.map_reverse, h.texts]
  rw [← houtput, ← h.log]

/-- In a file with few enough lines to be counted with 32 bits, what is asked for behind a position is what is
asked for on the lines below it. -/
theorem ComesTo.postpone_eq_map_shift {path : Path} {l : Location} {lines : List String} {u : State}
    (h : ComesTo ctx path a k s f) (hl : ctx.workspace.locate path = .ok l)
    (hlines : ctx.workspace.tree.linesAt a = .ok lines) (hcount : lines.length < UInt32.size)
    (hr : Reaches ctx (opening ctx {} path l) u) :
    postpone ctx.workspace a s.walker.inclusions.length u.walker.bundle.inclusions =
      u.walker.bundle.inclusions.map (Inclusion.shift ctx.workspace a k) := by
  apply List.ext_getElem?
  intro m
  rw [getElem?_postpone, List.getElem?_map]
  rcases hi : u.walker.bundle.inclusions[m]? with _ | ⟨location, _ | o, depth⟩
  · rfl
  · exact congrArg some (ite_self _)
  rw [Option.map_some, Option.map_some, Option.some_inj, Inclusion.later, Inclusion.shift]
  by_cases ha : ctx.workspace.locate o.requiredBy = .ok a
  · obtain ⟨j, hj, hline, hat⟩ := h.exists_line hl hlines hr hi rfl ha
    have hnumber : o.line.toNat = j + 1 := by
      rw [hline]
      exact Nat.mod_eq_of_lt (Nat.lt_of_le_of_lt hj hcount)
    have hbelow : k < o.line.toNat ↔ s.walker.inclusions.length ≤ m := by
      rw [← hat, hnumber, Nat.lt_succ_iff]
    simp only [Option.map_some, ha, hbelow, true_and, if_true]
    split <;> rfl
  · simp only [Option.map_some, ha, false_and, if_false, ite_self]

theorem inserts_of_content {before body after : Octets} (hshape : ctx.workspace.SameShape ws)
    (hothers : ∀ l, l ≠ a → ws.tree.contentAt? l = ctx.workspace.tree.contentAt? l)
    (hold : ctx.workspace.tree.contentAt? a = some (.ok (before ++ after)))
    (hbefore : before = [] ∨ before.getLast? = some 10) (hbody : 10 ∉ body)
    (hnew : ws.tree.contentAt? a = some (.ok (before ++ (body ++ [10] ++ after)))) :
    Inserts ctx ws a (textLines before).length (Octets.lossyText (body ++ [10])) where
  locate := hshape.locate_eq
  others := fun l hl => FileTree.linesAt_eq_of_contentAt? (hothers l hl)
  lines := by
    refine ⟨textLines before, textLines after, ?_, rfl, ?_⟩
    · rw [FileTree.linesAt_of_contentAt? hold, textLines_append hbefore]
    · rw [FileTree.linesAt_of_contentAt? hnew, textLines_append hbefore, List.append_assoc,
        List.singleton_append, textLines_lineFeed hbody]

/-- In a request that succeeds, a further line that asks for a file met before the walk comes to the line
changes nothing: the output is the same, and so is the log, but that what the file asks for from there on is
asked for one line later. The new line may stand before any line of any file that is included, or behind a
last line with a line feed, and the walk does come to all of these positions. Lines are counted with 32 bits:
where these do for the file, what it asks for from there on is what stands on a line below. -/
theorem first_position_wins (p : Preprocessor) {ws ws' : Workspace} {entry : Path} {b : Bundle}
    {i : Inclusion} {before body after : Octets} {d : Directive}
    (hb : (p.bundle ws entry).1 = .ok b) (hi : i ∈ b.inclusions) (hshape : ws.SameShape ws')
    (hothers : ∀ l, l ≠ i.location → ws'.tree.contentAt? l = ws.tree.contentAt? l)
    (hold : ws.tree.contentAt? i.location = some (.ok (before ++ after)))
    (hbefore : before = [] ∨ before.getLast? = some 10) (hbody : 10 ∉ body)
    (hnew : ws'.tree.contentAt? i.location = some (.ok (before ++ (body ++ [10] ++ after))))
    (hd : p.matcher (Octets.lossyText (body ++ [10])) = some d) :
    (∃ s f, ComesTo (p.context ws) entry i.location (textLines before).length s f) ∧
    ∀ s f r l, ComesTo (p.context ws) entry i.location (textLines before).length s f →
      Leads (p.context ws) f.path d r l → l ∈ s.walker.visited →
        (p.bundle ws' entry).1 = .ok ⟨b.output,
          postpone ws i.location s.walker.inclusions.length b.inclusions⟩ ∧
        ((textLines (before ++ after)).length < UInt32.size →
          postpone ws i.location s.walker.inclusions.length b.inclusions =
            b.inclusions.map (Inclusion.shift ws i.location (textLines before).length)) := by
  obtain ⟨hok, rfl⟩ := Preprocessor.bundle_eq_ok_iff.mp hb
  have hprocess : process (p.context ws) {} entry = (.ok (), (process (p.context ws) {} entry).2) :=
    Prod.ext hok rfl
  have hcontext : p.context ws' = within (p.context ws) ws' (p.context ws).resolve :=
    hshape.context_eq p
  have hins : Inserts (p.context ws) ws' i.location (textLines before).length
      (Octets.lossyText (body ++ [10])) :=
    inserts_of_content hshape hothers hold hbefore hbody hnew
  obtain ⟨l, hl, hend⟩ := process_ok_iff_reaches.mp hprocess
  constructor
  · have hcoherent := process_preserves_coherent (coherent_empty (p.context ws).workspace) entry
    have hmet : i.location ∈ (process (p.context ws) {} entry).2.visited := by
      rw [hcoherent.visited_eq]
      exact List.mem_map_of_mem (List.mem_reverse.mp hi)
    obtain ⟨front, back, hlines, hk, -⟩ := hins.lines
    exact exists_comesTo hl hend hmet hlines (by rw [List.length_append]; omega)
  · intro s f r target hs ht hmet
    obtain ⟨w', hok', hw⟩ := process_mirrored hins hd hprocess hs ht hmet
    rw [← hcontext] at hok'
    constructor
    · rw [Preprocessor.bundle_eq_ok_iff, hok']
      exact ⟨rfl, hw.bundle_eq⟩
    · intro hcount
      -- The state at the end is told by `hend`; from the two logs alone it would be searched for.
      have hbelow := hs.postpone_eq_map_shift hl (FileTree.linesAt_of_contentAt? hold) hcount hend
      exact hbelow

def chainedFiles : Workspace where
  tree := ⟨[(["a.js"], .file [35, 98, 10] 0), (["b.js"], .file [35, 99, 10] 0),
    (["c.js"], .file [122, 10] 0)]⟩

def chainedPreprocessor : Preprocessor where
  searchPaths := []
  roots := .ofApp ⟨"/"⟩
  matcher := .ofMarker "#" .quoted
  stripper := none
  carry := false

def askBack (l : Location) (content : Octets) : Octets :=
  if l = (["b.js"] : Location) then [35, 97, 10] ++ content else content

def chainedBundle (line : UInt32) : Bundle where
  output := "z\n\n\n\n"
  inclusions := [⟨["a.js"], none, 0⟩,
    ⟨["b.js"], some ⟨⟨.quoted, "b"⟩, ⟨"/a.js"⟩, 1, .relative⟩, 1⟩,
    ⟨["c.js"], some ⟨⟨.quoted, "c"⟩, ⟨"/b.js"⟩, line, .relative⟩, 2⟩]

theorem first_position_wins_chained :
    (chainedPreprocessor.bundle chainedFiles ⟨"/a.js"⟩).1 = .ok (chainedBundle 1) ∧
    (chainedPreprocessor.bundle (chainedFiles.rewrite askBack) ⟨"/a.js"⟩).1 =
      .ok (chainedBundle 2) := by
  let ctx := chainedPreprocessor.context chainedFiles
  have hb : (chainedPreprocessor.bundle chainedFiles ⟨"/a.js"⟩).1 = .ok (chainedBundle 1) :=
    Preprocessor.bundle_eq_ok_iff.mpr (by decide +kernel)
  have hasks : Asks ctx (ctx.frame ["a.js"] ⟨"/a.js"⟩ .code) ⟨.quoted, "b"⟩ [] :=
    ⟨"#b\n", by decide +kernel, by decide +kernel⟩
  have hleads : Leads ctx ⟨"/a.js"⟩ ⟨.quoted, "b"⟩ ⟨⟨"/b.js"⟩, .relative⟩ ["b.js"] :=
    ⟨by decide +kernel, by decide +kernel⟩
  have hfirst : Step ctx (opening ctx {} ⟨"/a.js"⟩ ["a.js"]) _ := .descend hasks hleads (by decide)
  have hs : ComesTo ctx ⟨"/a.js"⟩ ["b.js"] 0 _ (ctx.frame ["b.js"] ⟨"/b.js"⟩ .code) :=
    ⟨⟨["a.js"], by decide +kernel, .single hfirst⟩, rfl, rfl, rfl⟩
  have ht : Leads ctx ⟨"/b.js"⟩ ⟨.quoted, "a"⟩ ⟨⟨"/a.js"⟩, .relative⟩ ["a.js"] :=
    ⟨by decide +kernel, by decide +kernel⟩
  have hmem : ⟨["b.js"], some ⟨⟨.quoted, "b"⟩, ⟨"/a.js"⟩, 1, .relative⟩, 1⟩ ∈
      (chainedBundle 1).inclusions := by decide
  have hothers : ∀ l, l ≠ (["b.js"] : Location) →
      (chainedFiles.rewrite askBack).tree.contentAt? l = chainedFiles.tree.contentAt? l := by
    intro l hl
    apply FileTree.contentAt?_rewrite
    intro content
    exact if_neg hl
  have hold : chainedFiles.tree.contentAt? ["b.js"] = some (.ok ([] ++ [35, 99, 10])) := by
    decide +kernel
  have hnew : (chainedFiles.rewrite askBack).tree.contentAt? ["b.js"] =
      some (.ok ([] ++ ([35, 97] ++ [10] ++ [35, 99, 10]))) := by decide +kernel
  have hline : chainedPreprocessor.matcher (Octets.lossyText ([35, 97] ++ [10])) =
      some ⟨.quoted, "a"⟩ := by decide +kernel
  obtain ⟨-, hwins⟩ := first_position_wins chainedPreprocessor hb hmem
    (chainedFiles.sameShape_rewrite askBack) hothers hold (Or.inl rfl) (by decide) hnew hline
  obtain ⟨hbundle, -⟩ := hwins _ _ _ _ hs ht (by decide)
  exact ⟨hb, hbundle.trans (by decide +kernel)⟩

end Walk

end ScriptBundle
