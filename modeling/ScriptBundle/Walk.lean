import ScriptBundle.Comment
import ScriptBundle.Emitter
import ScriptBundle.Resolver

/-! # Walking dependencies

A file is read line by line. A directive suspends it: the file it asks for is walked in full before the
next line, unless it has been met before. Suspended files wait on a stack of frames, and each file is
met once, whatever paths lead to it.

Main statement: `Walk.measure_step_lt`, a walk ends, since every step uses up a line or the end of a file
met for the first time.
-/

namespace ScriptBundle

structure Origin where
  directive : Directive
  requiredBy : Path
  /-- The line of the directive, counted from one with 32 bits. -/
  line : UInt32
  mode : SourceMode
  deriving DecidableEq, Repr, Inhabited

/-- A file met on a walk, with how many files were suspended for it. -/
structure Inclusion where
  location : Location
  origin : Option Origin
  depth : Nat
  deriving DecidableEq, Repr, Inhabited

/-- A piece of output, with the file it comes from: one of its lines, or the separator at its end. -/
inductive Fragment where
  | line (owner : Location) (number : Nat) (text : String)
  | separator (owner : Location)
  deriving DecidableEq, Repr, Inhabited

def Fragment.text : Fragment → String
  | line _ _ text => text
  | separator _ => "\n"

structure Bundle where
  output : String
  inclusions : List Inclusion
  deriving DecidableEq, Repr, Inhabited

structure WalkContext where
  workspace : Workspace
  resolve : String → Option Path → Except BundleError Resolved
  matcher : Matcher
  stripper : Option CommentStripper
  carry : Bool

/-- A file being read: the path it was asked for by, the lines to come, and the number of those read. -/
structure Frame where
  location : Location
  path : Path
  unread : Except FileFault (List String)
  state : CommentState
  line : Nat

/-- The progress of walks: the files met, their inclusions and the output, latest first, and whether the
search index has been asked. -/
structure Walker where
  visited : List Location := []
  inclusions : List Inclusion := []
  fragments : List Fragment := []
  searched : Bool := false
  deriving DecidableEq, Repr, Inhabited

namespace Walker

def emit (w : Walker) (f : Fragment) : Walker := { w with fragments := f :: w.fragments }

def bundle (w : Walker) : Bundle where
  output := (w.fragments.reverse.foldl (fun e f => e.append f.text) Emitter.empty).text
  inclusions := w.inclusions.reverse

end Walker

def FileTree.linesAt (t : FileTree) (l : Location) : Except FileFault (List String) :=
  match t.node? l with
  | some n => n.content.map textLines
  | none => .error .missing

namespace Walk

abbrev Result (α : Type) := Except BundleError α × Walker

def enter (ctx : WalkContext) (w : Walker) (path : Path) (origin : Option Origin)
    (state : CommentState) (stack : List Frame) : Result (List Frame) :=
  match ctx.workspace.locate path with
  | .error fault => (.error (.fileRead path fault), w)
  | .ok l =>
    if w.visited.contains l then (.ok stack, w)
    else
      (.ok (⟨l, path, ctx.workspace.tree.linesAt l, state, 0⟩ :: stack),
        { w with
          visited := l :: w.visited
          inclusions := ⟨l, origin, stack.length⟩ :: w.inclusions })

/-- Hands the comment state of a finished file to the file that goes on, if states are carried. -/
def handOver (carry : Bool) (state : CommentState) : List Frame → List Frame
  | [] => []
  | f :: below => (if carry then { f with state } else f) :: below

/-- A directive line: resolves its target and meets it. -/
def follow (ctx : WalkContext) (w : Walker) (d : Directive) (f : Frame) (below : List Frame) :
    Result (List Frame) :=
  let base := match d.kind with
    | .quoted => some f.path.directory
    | .angle => none
  let w := { w with searched := w.searched || base.isNone }
  match ctx.resolve d.target base with
  | .error e => (.error (e.requiredBy f.path), w)
  | .ok r =>
    enter ctx w r.path (some ⟨d, f.path, .ofNat f.line, r.mode⟩) (if ctx.carry then f.state else .code)
      (f :: below)

/-- Any other line: puts out what is kept of it. -/
def keep (ctx : WalkContext) (w : Walker) (line : String) (f : Frame) : Frame × Walker :=
  match ctx.stripper with
  | none => (f, w.emit (.line f.location f.line line))
  | some s =>
    match s.strip line f.state with
    | (some kept, state) => ({ f with state }, w.emit (.line f.location f.line kept))
    | (none, state) => ({ f with state }, w)

def step (ctx : WalkContext) (w : Walker) (f : Frame) (below : List Frame) : Result (List Frame) :=
  match f.unread with
  | .error fault => (.error (.fileRead f.path fault), w)
  | .ok [] => (.ok (handOver ctx.carry f.state below), w.emit (.separator f.location))
  | .ok (line :: rest) =>
    let f := { f with unread := .ok rest, line := f.line + 1 }
    match ctx.matcher line with
    | some d => follow ctx w d f below
    | none =>
      let (f, w) := keep ctx w line f
      (.ok (f :: below), w)

/-- The steps that reading takes: one for each line and one for the end. -/
def readingCost : Except FileFault (List String) → Nat
  | .ok lines => lines.length + 1
  | .error _ => 1

def unmetCost (visited : List Location) (entries : List (Location × FileNode)) : Nat :=
  (entries.map fun e =>
    if visited.contains e.1 then 0 else readingCost (e.2.content.map textLines)).foldr (· + ·) 0

def stackCost (stack : List Frame) : Nat :=
  (stack.map fun f => readingCost f.unread).foldr (· + ·) 0

/-- A bound on the steps of a walk. -/
def measure (ctx : WalkContext) (w : Walker) (stack : List Frame) : Nat :=
  unmetCost w.visited ctx.workspace.tree.all + stackCost stack

theorem unmetCost_cons_le (l : Location) (visited : List Location)
    (entries : List (Location × FileNode)) :
    unmetCost (l :: visited) entries ≤ unmetCost visited entries := by
  induction entries with
  | nil => simp [unmetCost]
  | cons e rest ih =>
    simp only [unmetCost, List.map_cons, List.foldr_cons] at ih ⊢
    refine Nat.add_le_add ?_ ih
    by_cases h : e.1 ∈ visited <;> by_cases h' : e.1 = l <;> simp [h, h']

/-- Meeting a file moves its cost from the files not met to the stack. -/
theorem unmetCost_cons_of_find {l : Location} {visited : List Location} {n : FileNode}
    {entries : List (Location × FileNode)} (hl : visited.contains l = false)
    (hn : (entries.find? (·.1 == l)).map (·.2) = some n) :
    unmetCost (l :: visited) entries + readingCost (n.content.map textLines) ≤
      unmetCost visited entries := by
  induction entries with
  | nil => simp at hn
  | cons e rest ih =>
    simp only [List.find?_cons] at hn
    have hle := unmetCost_cons_le l visited rest
    simp only [unmetCost, List.map_cons, List.foldr_cons] at ih hle ⊢
    by_cases h : e.1 = l
    · subst h
      simp only [beq_self_eq_true, Option.map_some, Option.some.injEq] at hn
      subst hn
      have : e.1 ∉ visited := by simpa using hl
      simp only [List.contains_cons, beq_self_eq_true, Bool.true_or, if_true,
        hl, Bool.false_eq_true, if_false] at hle ⊢
      omega
    · have hb : (e.1 == l) = false := by simpa using h
      rw [hb] at hn
      have := ih hn
      simp only [List.contains_cons, hb, Bool.false_or] at this ⊢
      omega

theorem stackCost_cons (f : Frame) (below : List Frame) :
    stackCost (f :: below) = readingCost f.unread + stackCost below := by
  simp [stackCost]

theorem stackCost_handOver (carry : Bool) (state : CommentState) (below : List Frame) :
    stackCost (handOver carry state below) = stackCost below := by
  cases below with
  | nil => rfl
  | cons f rest => cases carry <;> simp [handOver, stackCost]

theorem readingCost_pos (r : Except FileFault (List String)) : 0 < readingCost r := by
  cases r <;> simp [readingCost]

theorem measure_enter_le {ctx : WalkContext} {w w' : Walker} {path : Path} {origin : Option Origin}
    {state : CommentState} {stack stack' : List Frame}
    (h : enter ctx w path origin state stack = (.ok stack', w')) :
    measure ctx w' stack' ≤ measure ctx w stack := by
  unfold enter at h
  split at h
  · simp at h
  next l hloc =>
    split at h
    · simp only [Prod.mk.injEq, Except.ok.injEq] at h
      obtain ⟨rfl, rfl⟩ := h
      exact Nat.le_refl _
    next hl =>
      simp only [Prod.mk.injEq, Except.ok.injEq] at h
      obtain ⟨rfl, rfl⟩ := h
      obtain ⟨n, hn⟩ := Option.isSome_iff_exists.1 (Workspace.isSome_node?_of_locate hloc)
      have := unmetCost_cons_of_find (by simpa using hl) hn
      simp only [measure, stackCost_cons, FileTree.linesAt, hn]
      omega

/-- Every step that succeeds brings the walk nearer to its end. -/
theorem measure_step_lt {ctx : WalkContext} {w w' : Walker} {f : Frame} {below stack : List Frame}
    (h : step ctx w f below = (.ok stack, w')) :
    measure ctx w' stack < measure ctx w (f :: below) := by
  unfold step at h
  split at h
  · simp at h
  next hu =>
    simp only [Prod.mk.injEq, Except.ok.injEq] at h
    obtain ⟨rfl, rfl⟩ := h
    simp only [measure, stackCost_cons, stackCost_handOver, hu, readingCost, Walker.emit,
      List.length_nil]
    omega
  next line rest hu =>
    have hcost : measure ctx w (f :: below) =
        unmetCost w.visited ctx.workspace.tree.all + (rest.length + 2 + stackCost below) := by
      simp [measure, stackCost_cons, hu, readingCost]
    split at h
    next d _ =>
      unfold follow at h
      simp only at h
      split at h
      · simp at h
      · have := measure_enter_le h
        simp only [measure, stackCost_cons, readingCost] at this
        rw [hcost]
        simp only [measure]
        omega
    next =>
      simp only [Prod.mk.injEq, Except.ok.injEq] at h
      obtain ⟨rfl, rfl⟩ := h
      rw [hcost]
      unfold keep
      split
      · simp only [measure, stackCost_cons, readingCost, Walker.emit]
        omega
      · split <;> simp only [measure, stackCost_cons, readingCost, Walker.emit] <;> omega

/-- Goes on until no file is suspended any more, or until a step fails. -/
def run (ctx : WalkContext) (w : Walker) : List Frame → Result Unit
  | [] => (.ok (), w)
  | f :: below =>
    match _h : step ctx w f below with
    | (.error e, w') => (.error e, w')
    | (.ok stack, w') => run ctx w' stack
termination_by stack => measure ctx w stack
decreasing_by exact measure_step_lt _h

def process (ctx : WalkContext) (w : Walker) (path : Path) : Result Unit :=
  match enter ctx w path none .code [] with
  | (.error e, w') => (.error e, w')
  | (.ok stack, w') => run ctx w' stack

def processAll (ctx : WalkContext) (w : Walker) : List Path → List (Except BundleError Unit) × Walker
  | [] => ([], w)
  | path :: rest =>
    let (result, w) := process ctx w path
    let (results, w) := processAll ctx w rest
    (result :: results, w)

end Walk

end ScriptBundle
