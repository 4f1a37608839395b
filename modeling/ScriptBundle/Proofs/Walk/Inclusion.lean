import ScriptBundle.Preprocessor
import ScriptBundle.Proofs.Walk.Step

/-! # Walks as plain inclusion

A file includes the files that its directives ask for, one inside the other, by a recursion without any
stack. What a file contributes is kept apart from the walker, so it depends on the files met before and
on nothing else that the walker holds. Main statement: a walk does to its walker what the recursion says,
whether it succeeds or fails.
-/

namespace ScriptBundle

/-- What a walk adds to a walker: the files it meets and its pieces of output, each in their order, and
whether the search index is asked. -/
structure Yield where
  inclusions : List Inclusion := []
  fragments : List Fragment := []
  searched : Bool := false

namespace Yield

def append (y z : Yield) : Yield :=
  ⟨y.inclusions ++ z.inclusions, y.fragments ++ z.fragments, y.searched || z.searched⟩

instance : Append Yield := ⟨append⟩

def met (y : Yield) : List Location := (y.inclusions.map (·.location)).reverse

def text (y : Yield) : String := String.join (y.fragments.map (·.text))

theorem append_def (y z : Yield) :
    y ++ z =
      ⟨y.inclusions ++ z.inclusions, y.fragments ++ z.fragments, y.searched || z.searched⟩ := rfl

theorem append_assoc (x y z : Yield) : x ++ y ++ z = x ++ (y ++ z) := by
  simp [append_def, Bool.or_assoc]

@[simp] theorem met_append (y z : Yield) : (y ++ z).met = z.met ++ y.met := by
  simp [met, append_def]

theorem text_append (y z : Yield) : (y ++ z).text = y.text ++ z.text := by
  simp [text, append_def, String.join_append]

end Yield

def Walker.extend (w : Walker) (y : Yield) : Walker where
  visited := y.met ++ w.visited
  inclusions := y.inclusions.reverse ++ w.inclusions
  fragments := y.fragments.reverse ++ w.fragments
  searched := w.searched || y.searched

namespace Walk

theorem unmetCost_append_le (ls visited : List Location) (entries : List (Location × FileNode)) :
    unmetCost (ls ++ visited) entries ≤ unmetCost visited entries := by
  induction ls with
  | nil => exact Nat.le_refl _
  | cons l ls ih => exact Nat.le_trans (unmetCost_cons_le l (ls ++ visited) entries) ih

theorem unmetCost_cons_add_le {ctx : WalkContext} {path : Path} {l : Location}
    {visited : List Location} (hl : ctx.workspace.locate path = .ok l) (hv : l ∉ visited) :
    unmetCost (l :: visited) ctx.workspace.tree.all +
      readingCost (ctx.workspace.tree.linesAt l) ≤ unmetCost visited ctx.workspace.tree.all := by
  obtain ⟨n, hn⟩ := Option.isSome_iff_exists.mp (Workspace.isSome_node?_of_locate hl)
  have := unmetCost_cons_of_find (by simpa using hv) hn
  simpa only [FileTree.linesAt, hn] using this

mutual

def includeFile (ctx : WalkContext) (met : List Location) (depth : Nat) (path : Path)
    (origin : Option Origin) (state : CommentState) : Except BundleError CommentState × Yield :=
  match _hl : ctx.workspace.locate path with
  | .error fault => (.error (.fileRead path fault), {})
  | .ok l =>
    if _hv : l ∈ met then (.ok state, {})
    else
      match _hr : ctx.workspace.tree.linesAt l with
      | .error fault =>
        (.error (.fileRead path fault), { inclusions := [⟨l, origin, depth⟩] })
      | .ok lines =>
        let (result, y) := includeLines ctx (l :: met) depth l path 0 state lines
        (result, { inclusions := [⟨l, origin, depth⟩] } ++ y)
termination_by unmetCost met ctx.workspace.tree.all + 1
decreasing_by
  have := unmetCost_cons_add_le _hl _hv
  simp only [_hr, readingCost] at this
  omega

/-- Includes the lines of the file at a location, of which some have been read: directives by what they
ask for, other lines by what is kept of them. At the end stands a separator. -/
def includeLines (ctx : WalkContext) (met : List Location) (depth : Nat) (l : Location)
    (path : Path) (number : Nat) (state : CommentState) (lines : List String) :
    Except BundleError CommentState × Yield :=
  match lines with
  | [] => (.ok state, { fragments := [.separator l] })
  | line :: rest =>
    match ctx.matcher line with
    | none =>
      let (kept, next) := ctx.strip line state
      let (result, y) := includeLines ctx met depth l path (number + 1) next rest
      (result, { fragments := (kept.map (Fragment.line l (number + 1))).toList } ++ y)
    | some d =>
      match ctx.resolve d.target (d.base path) with
      | .error e => (.error (e.requiredBy path), { searched := (d.base path).isNone })
      | .ok r =>
        match includeFile ctx met (depth + 1) r.path (some ⟨d, path, .ofNat (number + 1), r.mode⟩)
          (ctx.childState state) with
        | (.error e, y) => (.error e, { searched := (d.base path).isNone } ++ y)
        | (.ok final, y) =>
          let (result, z) := includeLines ctx (y.met ++ met) depth l path (number + 1)
            (if ctx.carry then final else state) rest
          (result, { searched := (d.base path).isNone } ++ y ++ z)
termination_by unmetCost met ctx.workspace.tree.all + lines.length + 1
decreasing_by
  · simp only [List.length_cons]
    omega
  · simp only [List.length_cons]
    omega
  · have := unmetCost_append_le y.met met ctx.workspace.tree.all
    simp only [List.length_cons]
    omega

end

def includeFrame (ctx : WalkContext) (met : List Location) (depth : Nat) (f : Frame) :
    Except BundleError CommentState × Yield :=
  match f.unread with
  | .error fault => (.error (.fileRead f.path fault), {})
  | .ok lines => includeLines ctx met depth f.location f.path f.line f.state lines

def resume (ctx : WalkContext) (w : Walker) (below : List Frame)
    (r : Except BundleError CommentState × Yield) : Result Unit :=
  match r.1 with
  | .error e => (.error e, w.extend r.2)
  | .ok state => run ctx (w.extend r.2) (handOver ctx.carry state below)

def includeRest (ctx : WalkContext) (met : List Location) (depth : Nat) (f : Frame)
    (r : Except BundleError CommentState × Yield) : Except BundleError CommentState × Yield :=
  match r with
  | (.error e, y) => (.error e, y)
  | (.ok final, y) =>
    let (result, z) := includeFrame ctx (y.met ++ met) depth
      { f with state := if ctx.carry then final else f.state }
    (result, y ++ z)

variable {ctx : WalkContext} {w : Walker} {met : List Location} {depth : Nat} {path : Path}
  {origin : Option Origin} {state : CommentState}

@[simp] theorem extend_empty (w : Walker) : w.extend {} = w := by
  simp [Walker.extend, Yield.met]

theorem extend_append (w : Walker) (y z : Yield) : w.extend (y ++ z) = (w.extend y).extend z := by
  simp [Walker.extend, Yield.met, Yield.append_def, Bool.or_assoc]

theorem resume_append (w : Walker) (below : List Frame) (y : Yield)
    (r : Except BundleError CommentState × Yield) :
    resume ctx w below (r.1, y ++ r.2) = resume ctx (w.extend y) below r := by
  simp only [resume, extend_append]

theorem includeFile_unlocated {fault : FileFault}
    (hl : ctx.workspace.locate path = .error fault) :
    includeFile ctx met depth path origin state = (.error (.fileRead path fault), {}) := by
  rw [includeFile]
  split <;> simp_all

theorem includeFile_met {l : Location} (hl : ctx.workspace.locate path = .ok l) (hv : l ∈ met) :
    includeFile ctx met depth path origin state = (.ok state, {}) := by
  rw [includeFile]
  split <;> simp_all

theorem includeFile_unmet {l : Location} (hl : ctx.workspace.locate path = .ok l)
    (hv : l ∉ met) :
    includeFile ctx met depth path origin state =
      ((includeFrame ctx (l :: met) depth (ctx.frame l path state)).1,
        { inclusions := [⟨l, origin, depth⟩] } ++
          (includeFrame ctx (l :: met) depth (ctx.frame l path state)).2) := by
  rw [includeFile]
  split
  next hl' => simp [hl] at hl'
  next l' hl' =>
    rw [hl, Except.ok.injEq] at hl'
    subst hl'
    rw [dif_neg hv]
    split
    next hr => simp [includeFrame, WalkContext.frame, hr, Yield.append_def]
    next hr => simp [includeFrame, WalkContext.frame, hr]

theorem includeFrame_finish {f : Frame} (hf : f.unread = .ok []) :
    includeFrame ctx met depth f = (.ok f.state, { fragments := [.separator f.location] }) := by
  simp [includeFrame, hf, includeLines]

theorem includeFrame_keep {f : Frame} {line : String} {rest : List String}
    (hf : f.unread = .ok (line :: rest)) (hm : ctx.matcher line = none) :
    includeFrame ctx met depth f =
      ((includeFrame ctx met depth
          { f.advance rest with state := (ctx.strip line f.state).2 }).1,
        { fragments :=
            ((ctx.strip line f.state).1.map (Fragment.line f.location (f.line + 1))).toList } ++
          (includeFrame ctx met depth
            { f.advance rest with state := (ctx.strip line f.state).2 }).2) := by
  simp [includeFrame, hf, includeLines, hm, Frame.advance]

theorem includeFrame_unresolved {f : Frame} {d : Directive} {rest : List String}
    {e : BundleError} (hd : Asks ctx f d rest)
    (hr : ctx.resolve d.target (d.base f.path) = .error e) :
    includeFrame ctx met depth f =
      (.error (e.requiredBy f.path), { searched := (d.base f.path).isNone }) := by
  obtain ⟨line, hf, hm⟩ := hd
  simp [includeFrame, hf, includeLines, hm, hr]

theorem includeFrame_resolved {f : Frame} {d : Directive} {rest : List String} {r : Resolved}
    (hd : Asks ctx f d rest) (hr : ctx.resolve d.target (d.base f.path) = .ok r) :
    includeFrame ctx met depth f =
      let z := includeRest ctx met depth (f.advance rest)
        (includeFile ctx met (depth + 1) r.path (some (f.origin d r.mode))
          (ctx.childState f.state))
      (z.1, { searched := (d.base f.path).isNone } ++ z.2) := by
  obtain ⟨line, hf, hm⟩ := hd
  simp only [includeFrame, hf, includeLines, hm, hr, includeRest, Frame.advance, Frame.origin]
  rcases includeFile ctx met (depth + 1) r.path (some ⟨d, f.path, .ofNat (f.line + 1), r.mode⟩)
    (ctx.childState f.state) with ⟨e | final, y⟩
  · rfl
  · simp only [Yield.append_assoc]

theorem extend_searched (w : Walker) (base : Option Path) :
    w.extend { searched := base.isNone } = w.ask base := by
  simp [Walker.extend, Walker.ask, Yield.met]

theorem extend_inclusion (w : Walker) (l : Location) (origin : Option Origin) (depth : Nat) :
    w.extend { inclusions := [⟨l, origin, depth⟩] } = w.meet l origin depth := by
  simp [Walker.extend, Walker.meet, Yield.met]

theorem extend_kept (w : Walker) (l : Location) (number : Nat) (kept : Option String) :
    w.extend { fragments := (kept.map (Fragment.line l number)).toList } =
      w.emitKept l number kept := by
  cases kept <;> simp [Walker.extend, Walker.emitKept, Yield.met]

theorem measure_extend_le (ctx : WalkContext) (w : Walker) (y : Yield) (stack : List Frame) :
    measure ctx (w.extend y) stack ≤ measure ctx w stack :=
  Nat.add_le_add_right (unmetCost_append_le y.met w.visited ctx.workspace.tree.all) _

theorem measure_le_cons (ctx : WalkContext) (w : Walker) (f : Frame) (stack : List Frame) :
    measure ctx w stack ≤ measure ctx w (f :: stack) := by
  simp only [measure, stackCost_cons]
  omega

theorem handOver_cons (carry : Bool) (state : CommentState) (f : Frame) (below : List Frame) :
    handOver carry state (f :: below) =
      { f with state := if carry then state else f.state } :: below := by
  cases carry <;> rfl

theorem resume_includeRest (ctx : WalkContext) (w : Walker) (f : Frame) (below : List Frame)
    (r : Except BundleError CommentState × Yield) :
    resume ctx w below (includeRest ctx w.visited below.length f r) =
      match r with
      | (.error e, y) => (.error e, w.extend y)
      | (.ok final, y) =>
        resume ctx (w.extend y) below (includeFrame ctx (w.extend y).visited below.length
          { f with state := if ctx.carry then final else f.state }) := by
  rcases r with ⟨e | final, y⟩
  · rfl
  · exact resume_append w below y _

theorem run_cons (ctx : WalkContext) (w : Walker) (f : Frame) (below : List Frame) :
    run ctx w (f :: below) =
      resume ctx w below (includeFrame ctx w.visited below.length f) := by
  -- Both the file asked for and the lines behind the directive are shorter work.
  induction hn : measure ctx w (f :: below) using Nat.strongRecOn generalizing w f below with
  | _ n ih =>
    rcases step_or_halt ctx w f below with ⟨s, hs⟩ | ⟨e, w', hh⟩
    · have hlt := hn ▸ hs.measure_lt
      rw [hs.run_eq]
      cases hs with
      | finish hf =>
        rw [includeFrame_finish hf]
        simp [resume, Walker.extend, Yield.met, Walker.emit]
      | @keep _ _ _ line rest hf hm =>
        rw [includeFrame_keep hf hm, resume_append, extend_kept]
        exact ih _ hlt _ _ _ rfl
      | @skip _ _ _ d rest r l hd ht hl =>
        have hstate : (if ctx.carry then ctx.childState f.state else f.state) = f.state := by
          unfold WalkContext.childState
          split <;> rfl
        have hrest := resume_includeRest ctx (w.ask (d.base f.path)) (f.advance rest) below
          (.ok (ctx.childState f.state), {})
        simp only [extend_empty, Frame.advance_state, hstate] at hrest
        rw [includeFrame_resolved hd ht.resolved, includeFile_met ht.located hl, resume_append,
          extend_searched]
        exact (ih _ hlt _ _ _ rfl).trans hrest.symm
      | @descend _ _ _ d rest r l hd ht hl =>
        let w₁ := (w.ask (d.base f.path)).meet l (some (f.origin d r.mode)) (below.length + 1)
        let child := ctx.frame l r.path (ctx.childState f.state)
        let c := includeFrame ctx w₁.visited (below.length + 1) child
        have hchild : run ctx w₁ (child :: f.advance rest :: below) =
            resume ctx w₁ (f.advance rest :: below) c := ih _ hlt _ _ _ rfl
        have hrest := resume_includeRest ctx (w.ask (d.base f.path)) (f.advance rest) below
          (c.1, { inclusions := [⟨l, some (f.origin d r.mode), below.length + 1⟩] } ++ c.2)
        rw [includeFrame_resolved hd ht.resolved, includeFile_unmet ht.located hl, resume_append,
          extend_searched]
        refine hchild.trans (Eq.trans ?_ hrest.symm)
        rcases hc : c with ⟨e | final, y⟩
        · simp only [resume, extend_append, extend_inclusion]
          rfl
        · have hle := measure_extend_le ctx w₁ y (f.advance rest :: below)
          have hlt' : measure ctx (w₁.extend y)
              ({ f.advance rest with state := if ctx.carry then final else f.state } :: below) <
                n :=
            Nat.lt_of_le_of_lt (Nat.le_trans hle (measure_le_cons ctx w₁ child _)) hlt
          simp only [resume, extend_append, extend_inclusion, handOver_cons]
          exact ih _ hlt' _ _ _ rfl
    · rw [hh.run_eq]
      cases hh with
      | unreadable hf => simp [includeFrame, hf, resume]
      | unresolved hd hr =>
        rw [includeFrame_unresolved hd hr, resume, extend_searched]
      | unlocated hd hr hl =>
        rw [includeFrame_resolved hd hr, includeFile_unlocated hl, resume_append, extend_searched]
        simp [includeRest, resume]

theorem process_eq_extend (ctx : WalkContext) (w : Walker) (path : Path) :
    process ctx w path =
      ((includeFile ctx w.visited 0 path none .code).1.map fun _ => (),
        w.extend (includeFile ctx w.visited 0 path none .code).2) := by
  rcases hl : ctx.workspace.locate path with fault | l
  · rw [process_unlocated hl, includeFile_unlocated hl]
    simp [Except.map]
  by_cases hv : l ∈ w.visited
  · rw [process_met hl hv, includeFile_met hl hv]
    simp [Except.map]
  · rw [process_unmet hl hv, includeFile_unmet hl hv, extend_append, extend_inclusion]
    refine (run_cons ctx (w.meet l none 0) (ctx.frame l path .code) []).trans ?_
    simp only [resume, Walker.meet, List.length_nil]
    rcases includeFrame ctx (l :: w.visited) 0 (ctx.frame l path .code) with ⟨e | final, y⟩
    · rfl
    · exact run_nil ctx _

theorem text_foldl_append (fs : List Fragment) (e : Emitter) :
    (fs.foldl (fun e f => e.append f.text) e).text = e.text ++ String.join (fs.map (·.text)) := by
  induction fs generalizing e with
  | nil => simp
  | cons f fs ih =>
    rw [List.foldl_cons, ih, Emitter.text_append, List.map_cons, String.join_cons,
      String.append_assoc]

theorem bundle_output (w : Walker) :
    w.bundle.output = String.join (w.fragments.reverse.map (·.text)) := by
  unfold Walker.bundle
  rw [text_foldl_append, Emitter.text_empty, String.empty_append]

theorem bundle_extend (w : Walker) (y : Yield) :
    (w.extend y).bundle = ⟨w.bundle.output ++ y.text, w.bundle.inclusions ++ y.inclusions⟩ := by
  have hout : (w.extend y).bundle.output = w.bundle.output ++ y.text := by
    simp [bundle_output, Walker.extend, Yield.text, String.join_append]
  have hlog : (w.extend y).bundle.inclusions = w.bundle.inclusions ++ y.inclusions := by
    simp [Walker.bundle, Walker.extend]
  rw [← hout, ← hlog]

/-- The loop over a stack of frames and the plain recursion agree on every call: on its outcome, on
everything that the walker holds after it, and so on the text and the log that a bundle shows. This
includes calls that fail midway, which keep what had been added by then. -/
theorem process_refines_inclusion (ctx : WalkContext) (w : Walker) (path : Path) :
    let inclusion := includeFile ctx w.visited 0 path none .code
    (process ctx w path).1 = inclusion.1.map (fun _ => ()) ∧
      (process ctx w path).2 = w.extend inclusion.2 ∧
      (process ctx w path).2.bundle =
        ⟨w.bundle.output ++ inclusion.2.text, w.bundle.inclusions ++ inclusion.2.inclusions⟩ := by
  have h := process_eq_extend ctx w path
  refine ⟨congrArg Prod.fst h, congrArg Prod.snd h, ?_⟩
  rw [h]
  exact bundle_extend w _

end Walk

/-- A request succeeds where the walk of its entry does, with the bundle of the walker. -/
theorem Preprocessor.bundle_eq_ok_iff {p : Preprocessor} {ws : Workspace} {entry : Path}
    {b : Bundle} :
    (p.bundle ws entry).1 = .ok b ↔
      (Walk.process (p.context ws) {} entry).1 = .ok () ∧
        (Walk.process (p.context ws) {} entry).2.bundle = b := by
  unfold Preprocessor.bundle
  rcases Walk.process (p.context ws) {} entry with ⟨e | ⟨⟩, w⟩ <;> simp [Except.map]

end ScriptBundle
