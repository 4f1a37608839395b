import ScriptBundle.Proofs.Walk.Inclusion

/-!
# Rules of inclusion

The plain recursion as rules, one for each way in which the next line of a file or its end is dealt with.
A derivation contains the derivations of the files asked for and of the lines behind them, so a statement
about whole walks can be proved by induction on it.
-/

namespace ScriptBundle

namespace Walk

/-- What is left of a file being read gives an outcome and a yield, the files of the list being met
already. -/
inductive Includes (ctx : WalkContext) :
    List Location → Nat → Frame → Except BundleError CommentState → Yield → Prop where
  | unreadable {met depth f fault} (hf : f.unread = .error fault) :
      Includes ctx met depth f (.error (.fileRead f.path fault)) {}
  | finish {met depth f} (hf : f.unread = .ok []) :
      Includes ctx met depth f (.ok f.state) { fragments := [.separator f.location] }
  | keep {met depth f line rest result y} (hf : f.unread = .ok (line :: rest))
      (hm : ctx.matcher line = none)
      (hrest : Includes ctx met depth { f.advance rest with state := (ctx.strip line f.state).2 }
        result y) :
      Includes ctx met depth f result
        ({ fragments :=
            ((ctx.strip line f.state).1.map (Fragment.line f.location (f.line + 1))).toList } ++ y)
  | unresolved {met depth f d rest e} (hd : Asks ctx f d rest)
      (hr : ctx.resolve d.target (d.base f.path) = .error e) :
      Includes ctx met depth f (.error (e.requiredBy f.path))
        { searched := (d.base f.path).isNone }
  | unlocated {met depth f d rest r fault} (hd : Asks ctx f d rest)
      (hr : ctx.resolve d.target (d.base f.path) = .ok r)
      (hl : ctx.workspace.locate r.path = .error fault) :
      Includes ctx met depth f (.error (.fileRead r.path fault))
        { searched := (d.base f.path).isNone }
  | skip {met depth f d rest r l result y} (hd : Asks ctx f d rest) (ht : Leads ctx f.path d r l)
      (hl : l ∈ met) (hrest : Includes ctx met depth (f.advance rest) result y) :
      Includes ctx met depth f result ({ searched := (d.base f.path).isNone } ++ y)
  | fail {met depth f d rest r l e y} (hd : Asks ctx f d rest) (ht : Leads ctx f.path d r l)
      (hl : l ∉ met)
      (hchild : Includes ctx (l :: met) (depth + 1)
        (ctx.frame l r.path (ctx.childState f.state)) (.error e) y) :
      Includes ctx met depth f (.error e) ({ searched := (d.base f.path).isNone } ++
        ({ inclusions := [⟨l, some (f.origin d r.mode), depth + 1⟩] } ++ y))
  | descend {met depth f d rest r l final result y z} (hd : Asks ctx f d rest)
      (ht : Leads ctx f.path d r l) (hl : l ∉ met)
      (hchild : Includes ctx (l :: met) (depth + 1)
        (ctx.frame l r.path (ctx.childState f.state)) (.ok final) y)
      (hrest : Includes ctx (y.met ++ l :: met) depth
        { f.advance rest with state := if ctx.carry then final else f.state } result z) :
      Includes ctx met depth f result ({ searched := (d.base f.path).isNone } ++
        ({ inclusions := [⟨l, some (f.origin d r.mode), depth + 1⟩] } ++ y ++ z))

variable {ctx : WalkContext} {met : List Location} {depth : Nat} {f : Frame} {d : Directive}
  {rest : List String} {r : Resolved} {l : Location}

theorem carried_childState (ctx : WalkContext) (state : CommentState) :
    (if ctx.carry then ctx.childState state else state) = state := by
  unfold WalkContext.childState
  split <;> rfl

theorem includeFrame_unlocated {fault : FileFault} (hd : Asks ctx f d rest)
    (hr : ctx.resolve d.target (d.base f.path) = .ok r)
    (hl : ctx.workspace.locate r.path = .error fault) :
    includeFrame ctx met depth f =
      (.error (.fileRead r.path fault), { searched := (d.base f.path).isNone }) := by
  rw [includeFrame_resolved hd hr, includeFile_unlocated hl]
  simp [includeRest, Yield.append_def]

theorem includeFrame_skip (hd : Asks ctx f d rest) (ht : Leads ctx f.path d r l) (hl : l ∈ met) :
    includeFrame ctx met depth f =
      ((includeFrame ctx met depth (f.advance rest)).1,
        { searched := (d.base f.path).isNone } ++
          (includeFrame ctx met depth (f.advance rest)).2) := by
  have hstate := carried_childState ctx f.state
  rw [includeFrame_resolved hd ht.resolved, includeFile_met ht.located hl]
  simp only [includeRest, Frame.advance_state, hstate, Yield.met, List.map_nil, List.reverse_nil,
    List.nil_append]
  simp [Yield.append_def, Frame.advance]

/-- A directive for a file not met yet, as what includes the file and what goes on behind it. -/
theorem includeFrame_descend (hd : Asks ctx f d rest) (ht : Leads ctx f.path d r l)
    (hl : l ∉ met) :
    includeFrame ctx met depth f =
      let child := includeFrame ctx (l :: met) (depth + 1)
        (ctx.frame l r.path (ctx.childState f.state))
      let z := includeRest ctx met depth (f.advance rest)
        (child.1, { inclusions := [⟨l, some (f.origin d r.mode), depth + 1⟩] } ++ child.2)
      (z.1, { searched := (d.base f.path).isNone } ++ z.2) := by
  rw [includeFrame_resolved hd ht.resolved, includeFile_unmet ht.located hl]

theorem Includes.includeFrame_eq {result : Except BundleError CommentState} {y : Yield}
    (h : Includes ctx met depth f result y) : includeFrame ctx met depth f = (result, y) := by
  induction h with
  | unreadable hf => simp [includeFrame, hf]
  | finish hf => exact includeFrame_finish hf
  | keep hf hm _ ih => rw [includeFrame_keep hf hm, ih]
  | unresolved hd hr => exact includeFrame_unresolved hd hr
  | unlocated hd hr hl => exact includeFrame_unlocated hd hr hl
  | skip hd ht hl _ ih => rw [includeFrame_skip hd ht hl, ih]
  | fail hd ht hl _ ih =>
    rw [includeFrame_descend hd ht hl, ih]
    rfl
  | descend hd ht hl _ _ ihchild ihrest =>
    rw [includeFrame_descend hd ht hl, ihchild]
    simp only [includeRest, Yield.met_append, Frame.advance_state]
    simp only [Yield.met, List.map_cons, List.map_nil, List.reverse_cons, List.reverse_nil,
      List.nil_append, List.append_assoc, List.cons_append] at ihrest ⊢
    rw [ihrest]

theorem includes_includeFrame (ctx : WalkContext) (met : List Location) (depth : Nat) (f : Frame) :
    Includes ctx met depth f (includeFrame ctx met depth f).1 (includeFrame ctx met depth f).2 := by
  -- A file asked for moves its cost out of the files not met; the lines behind it are fewer.
  induction hn : unmetCost met ctx.workspace.tree.all + readingCost f.unread
    using Nat.strongRecOn generalizing met depth f with
  | _ n ih =>
    rcases hf : f.unread with fault | _ | ⟨line, rest⟩
    · have hrun : includeFrame ctx met depth f = (.error (.fileRead f.path fault), {}) := by
        simp [includeFrame, hf]
      rw [hrun]
      exact .unreadable hf
    · rw [includeFrame_finish hf]
      exact .finish hf
    have hcost : unmetCost met ctx.workspace.tree.all + (rest.length + 2) = n := by
      rw [← hn, hf]
      rfl
    rcases hm : ctx.matcher line with _ | d
    · rw [includeFrame_keep hf hm]
      refine .keep hf hm (ih _ ?_ met depth _ rfl)
      simp only [Frame.advance_unread, readingCost]
      omega
    have hd : Asks ctx f d rest := ⟨line, hf, hm⟩
    rcases hr : ctx.resolve d.target (d.base f.path) with e | r
    · rw [includeFrame_unresolved hd hr]
      exact .unresolved hd hr
    rcases hl : ctx.workspace.locate r.path with fault | l
    · rw [includeFrame_unlocated hd hr hl]
      exact .unlocated hd hr hl
    have ht : Leads ctx f.path d r l := ⟨hr, hl⟩
    by_cases hv : l ∈ met
    · rw [includeFrame_skip hd ht hv]
      refine .skip hd ht hv (ih _ ?_ met depth _ rfl)
      simp only [Frame.advance_unread, readingCost]
      omega
    have hpaid := unmetCost_cons_add_le hl hv
    have hchild := ih (unmetCost (l :: met) ctx.workspace.tree.all +
      readingCost (ctx.workspace.tree.linesAt l)) (by omega) (l :: met) (depth + 1)
      (ctx.frame l r.path (ctx.childState f.state)) rfl
    rw [includeFrame_descend hd ht hv]
    rcases hc : includeFrame ctx (l :: met) (depth + 1)
      (ctx.frame l r.path (ctx.childState f.state)) with ⟨e | final, y⟩
    · rw [hc] at hchild
      exact .fail hd ht hv hchild
    · rw [hc] at hchild
      have hmore := unmetCost_append_le (y.met ++ [l]) met ctx.workspace.tree.all
      have hrest := ih (unmetCost (y.met ++ l :: met) ctx.workspace.tree.all + (rest.length + 1))
        (by
          rw [List.append_assoc, List.singleton_append] at hmore
          omega)
        (y.met ++ l :: met) depth
        { f.advance rest with state := if ctx.carry then final else f.state } rfl
      have hdescend := Includes.descend hd ht hv hchild hrest
      simp only [includeRest, Yield.met_append, Frame.advance_state]
      simpa [Yield.met, List.append_assoc] using hdescend

theorem process_of_includes {w : Walker} {path : Path}
    {result : Except BundleError CommentState} {y : Yield}
    (hl : ctx.workspace.locate path = .ok l) (hv : l ∉ w.visited)
    (h : Includes ctx (l :: w.visited) 0 (ctx.frame l path .code) result y) :
    process ctx w path =
      (result.map fun _ => (), w.extend ({ inclusions := [⟨l, none, 0⟩] } ++ y)) := by
  rw [process_eq_extend, includeFile_unmet hl hv, h.includeFrame_eq]

def within (ctx : WalkContext) (ws : Workspace)
    (resolve : String → Option Path → Except BundleError Resolved) : WalkContext :=
  { ctx with workspace := ws, resolve }

/-- Other surroundings show nothing new to a walk with a given yield: paths lead to the same locations,
names to the same paths, unless it takes a search index that is not asked, and the files met hold the same
lines. -/
structure SeesAlike (ctx : WalkContext) (ws : Workspace)
    (resolve : String → Option Path → Except BundleError Resolved) (y : Yield) : Prop where
  locate : ∀ path, ws.locate path = ctx.workspace.locate path
  resolve : ∀ name base, (base.isNone = true → y.searched = true) →
    resolve name base = ctx.resolve name base
  lines : ∀ i ∈ y.inclusions,
    ws.tree.linesAt i.location = ctx.workspace.tree.linesAt i.location

section

variable {ws : Workspace} {resolve : String → Option Path → Except BundleError Resolved}
  {y z : Yield} {result : Except BundleError CommentState} {path : Path}

namespace SeesAlike

theorem left (h : SeesAlike ctx ws resolve (y ++ z)) : SeesAlike ctx ws resolve y where
  locate := h.locate
  resolve := fun name base hy => h.resolve name base fun hb => by
    rw [Yield.append_def, hy hb, Bool.true_or]
  lines := fun i hi => h.lines i (List.mem_append_left _ hi)

theorem right (h : SeesAlike ctx ws resolve (y ++ z)) : SeesAlike ctx ws resolve z where
  locate := h.locate
  resolve := fun name base hz => h.resolve name base fun hb => by
    rw [Yield.append_def, hz hb, Bool.or_true]
  lines := fun i hi => h.lines i (List.mem_append_right _ hi)

theorem resolve_base {path : Path} (h : SeesAlike ctx ws resolve y)
    (hy : y.searched = (d.base path).isNone) :
    resolve d.target (d.base path) = ctx.resolve d.target (d.base path) :=
  h.resolve _ _ fun hb => hy.trans hb

theorem leads {path : Path} (h : SeesAlike ctx ws resolve y)
    (hy : y.searched = (d.base path).isNone) (ht : Leads ctx path d r l) :
    Leads (within ctx ws resolve) path d r l where
  resolved := (h.resolve_base hy).trans ht.resolved
  located := (h.locate r.path).trans ht.located

theorem frame_eq {i : Inclusion} (h : SeesAlike ctx ws resolve y) (hi : i ∈ y.inclusions)
    (path : Path) (state : CommentState) :
    (within ctx ws resolve).frame i.location path state = ctx.frame i.location path state := by
  unfold WalkContext.frame within
  rw [h.lines i hi]

end SeesAlike

theorem Includes.within (h : Includes ctx met depth f result y)
    (ha : SeesAlike ctx ws resolve y) : Includes (within ctx ws resolve) met depth f result y := by
  induction h with
  | unreadable hf => exact .unreadable hf
  | finish hf => exact .finish hf
  | @keep met depth f line rest result y hf hm _ ih =>
    exact @Includes.keep (Walk.within ctx ws resolve) met depth f line rest result y hf hm
      (ih ha.right)
  | @unresolved met depth f d rest e hd hr =>
    exact @Includes.unresolved (Walk.within ctx ws resolve) met depth f d rest e hd
      ((ha.resolve_base rfl).trans hr)
  | @unlocated met depth f d rest r fault hd hr hl =>
    exact @Includes.unlocated (Walk.within ctx ws resolve) met depth f d rest r fault hd
      ((ha.resolve_base rfl).trans hr) ((ha.locate r.path).trans hl)
  | @skip met depth f d rest r l result y hd ht hl _ ih =>
    exact @Includes.skip (Walk.within ctx ws resolve) met depth f d rest r l result y hd
      (ha.left.leads rfl ht) hl (ih ha.right)
  | @fail met depth f d rest r l e y hd ht hl _ ih =>
    have hchild := ih ha.right.right
    rw [← ha.right.left.frame_eq (List.mem_singleton_self _)] at hchild
    exact @Includes.fail (Walk.within ctx ws resolve) met depth f d rest r l e y hd
      (ha.left.leads rfl ht) hl hchild
  | @descend met depth f d rest r l final result y z hd ht hl _ _ ihchild ihrest =>
    have hchild := ihchild ha.right.left.right
    rw [← ha.right.left.left.frame_eq (List.mem_singleton_self _)] at hchild
    exact @Includes.descend (Walk.within ctx ws resolve) met depth f d rest r l final result y z hd
      (ha.left.leads rfl ht) hl hchild (ihrest ha.right.right)

theorem includeFile_within {origin : Option Origin} {state : CommentState}
    (ha : SeesAlike ctx ws resolve (includeFile ctx met depth path origin state).2) :
    includeFile (within ctx ws resolve) met depth path origin state =
      includeFile ctx met depth path origin state := by
  have hlocate : (within ctx ws resolve).workspace.locate path = ctx.workspace.locate path :=
    ha.locate path
  rcases hl : ctx.workspace.locate path with fault | l
  · rw [includeFile_unlocated hl, includeFile_unlocated (hlocate.trans hl)]
  by_cases hv : l ∈ met
  · rw [includeFile_met hl hv, includeFile_met (hlocate.trans hl) hv]
  · rw [includeFile_unmet hl hv] at ha
    have hframe := ha.left.frame_eq (List.mem_singleton_self _) path state
    have hwithin := (includes_includeFrame ctx (l :: met) depth (ctx.frame l path state)).within
      ha.right
    rw [includeFile_unmet hl hv, includeFile_unmet (hlocate.trans hl) hv, hframe,
      hwithin.includeFrame_eq]

theorem process_within {w : Walker}
    (ha : SeesAlike ctx ws resolve (includeFile ctx w.visited 0 path none .code).2) :
    process (within ctx ws resolve) w path = process ctx w path := by
  rw [process_eq_extend, process_eq_extend, includeFile_within ha]

end

end Walk

end ScriptBundle
