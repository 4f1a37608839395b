import Std.Data.HashSet
import ScriptBundle.Pattern.Node

/-! # Matching

Matching keeps threads: ways to match, each with the position it has reached and the groups it has
remembered. `Node.run` sends threads through a pattern, in order of preference: earlier starts first, the
first branch of a choice first, more repetitions first where they are greedy. Of two threads at one
position the first is kept, for whatever the second can reach from there the first reaches before it.
-/

namespace ScriptBundle.Pattern

/-- A position in a text: the character before it, the characters after it, and its number. -/
structure Cursor where
  last : Option Char
  rest : List Char
  pos : Nat
  deriving DecidableEq, Repr, Inhabited

structure Capture where
  index : Nat
  onward : List Char
  length : Nat
  deriving DecidableEq, Repr, Inhabited

def Capture.text (c : Capture) : List Char := c.onward.take c.length

/-- A way to match. The groups under way are kept innermost first, those matched latest first. -/
structure Thread where
  cursor : Cursor
  pending : List Cursor := []
  captures : List Capture := []
  deriving DecidableEq, Repr, Inhabited

namespace Cursor

def next? (c : Cursor) : Option (Char × Cursor) :=
  match c.rest with
  | [] => none
  | x :: rest => some (x, ⟨some x, rest, c.pos + 1⟩)

def step? (s : CharSet) (c : Cursor) : Option Cursor :=
  match c.rest with
  | [] => none
  | x :: rest => if s.contains x then some ⟨some x, rest, c.pos + 1⟩ else none

def onward : Option Char → Nat → List Char → List Cursor
  | last, pos, [] => [⟨last, [], pos⟩]
  | last, pos, x :: rest => ⟨last, x :: rest, pos⟩ :: onward (some x) (pos + 1) rest

def all (cs : List Char) : List Cursor := onward none 0 cs

/-- The positions that a run of characters of a set reaches up to one that was reached before, the
farthest first, in front of `reached`. -/
def run (s : CharSet) (seen : Std.HashSet Nat) : Nat → List Char → List Cursor → List Cursor
  | _, [], reached => reached
  | pos, x :: rest, reached =>
    if s.contains x && !seen.contains (pos + 1) then
      run s seen (pos + 1) rest (⟨some x, rest, pos + 1⟩ :: reached)
    else reached

end Cursor

def Look.holds (l : Look) (c : Cursor) : Bool :=
  let before (w : CharSet) := c.last.any w.contains
  let after (w : CharSet) := c.rest.head?.any w.contains
  match l with
  | .start => c.last.isNone
  | .finish => c.rest.isEmpty
  | .lineStart => c.last.all (· == '\n')
  | .lineEnd => c.rest.head?.all (· == '\n')
  | .anyLineStart => c.last.all fun x => x == '\n' || (x == '\r' && c.rest.head? != some '\n')
  | .anyLineEnd => c.rest.head?.all fun x => x == '\r' || (x == '\n' && c.last != some '\r')
  | .boundary w => before w != after w
  | .notBoundary w => before w == after w
  | .wordStart w => !before w && after w
  | .wordEnd w => before w && !after w
  | .wordStartHalf w => !before w
  | .wordEndHalf w => !after w

namespace Thread

def moveTo (t : Thread) (c : Cursor) : Thread := { t with cursor := c }

def openGroup (t : Thread) : Thread := { t with pending := t.cursor :: t.pending }

def closeGroup (index : Nat) (t : Thread) : Thread :=
  match t.pending with
  | [] => t
  | c :: outer =>
    { t with pending := outer,
             captures := ⟨index, c.rest, t.cursor.pos - c.pos⟩ :: t.captures }

def capture? (t : Thread) (index : Nat) : Option (List Char) :=
  (t.captures.find? (·.index == index)).map (·.text)

def firsts (seen : Std.HashSet Nat) : List Thread → List Thread
  | [] => []
  | t :: rest =>
    if seen.contains t.cursor.pos then firsts seen rest
    else t :: firsts (seen.insert t.cursor.pos) rest

/-- Threads without those that reach a position later than another one. -/
def dedup (ts : List Thread) : List Thread :=
  match ts with
  | [] => []
  | [t] => [t]
  | ts => firsts {} ts

end Thread

/-- A loop under way: the positions its body was entered at, each with the number of repetitions that are
still possible where that is bounded, the positions its body ended at, and the threads that have left the
loop, latest first. -/
structure LoopState where
  entered : Std.HashSet (Nat × Nat) := {}
  ended : Std.HashSet Nat := {}
  out : List Thread := []

namespace LoopState

def leave (s : LoopState) (t : Thread) : LoopState := { s with out := t :: s.out }

def enter (body : Thread → List Thread) (greedy : Bool) : Nat → LoopState → Thread → LoopState
  | 0, s, _ => s
  | fuel + 1, s, t =>
    if s.entered.contains (0, t.cursor.pos) then s
    else
      (body t).foldl
        (fun s e =>
          if s.ended.contains e.cursor.pos then s
          else
            let s := { s with ended := s.ended.insert e.cursor.pos }
            if greedy then (enter body greedy fuel s e).leave e
            else enter body greedy fuel (s.leave e) e)
        { s with entered := s.entered.insert (0, t.cursor.pos) }

def pass (body : Thread → List Thread) (optional greedy : Bool) (s : LoopState) (t : Thread) :
    LoopState :=
  let fuel := t.cursor.rest.length + 2
  if !optional then enter body greedy fuel s t
  else if greedy then (enter body greedy fuel s t).leave t
  else enter body greedy fuel (s.leave t) t

def passUpTo (body : Thread → List Thread) (greedy : Bool) : Nat → LoopState → Thread → LoopState
  | 0, s, t => s.leave t
  | n + 1, s, t =>
    if s.entered.contains (n + 1, t.cursor.pos) then s
    else
      let s := { s with entered := s.entered.insert (n + 1, t.cursor.pos) }
      if greedy then ((body t).foldl (passUpTo body greedy n) s).leave t
      else (body t).foldl (passUpTo body greedy n) (s.leave t)

end LoopState

def manyTimes (body : List Thread → List Thread) : Nat → List Thread → List Thread
  | 0, ts => ts
  | n + 1, ts => manyTimes body n (body ts)

/-- The threads that runs of characters of a set make of threads. A run ends where an earlier one has
been, for that one has been everywhere behind it as well. -/
def stretchThreads (s : CharSet) (optional greedy : Bool) (seen : Std.HashSet Nat) :
    List Thread → List Thread
  | [] => []
  | t :: rest =>
    let c := t.cursor
    let ends := if optional then
        if seen.contains c.pos then [] else Cursor.run s seen c.pos c.rest [c]
      else Cursor.run s seen c.pos c.rest []
    let reached := (if greedy then ends else ends.reverse).map t.moveTo
    reached ++ stretchThreads s optional greedy (seen.insertMany (ends.map (·.pos))) rest

namespace Node

def run : Node → List Thread → List Thread
  | empty, ts => ts
  | set s, ts => ts.filterMap fun t => (t.cursor.step? s).map t.moveTo
  | look l, ts => ts.filter fun t => l.holds t.cursor
  | seq a b, ts => b.run (a.run ts)
  | alt a b, ts => Thread.dedup (ts.flatMap fun t => a.run [t] ++ b.run [t])
  | group i a, ts => (a.run (ts.map Thread.openGroup)).map (Thread.closeGroup i)
  | stretch s optional greedy, ts => stretchThreads s optional greedy {} ts
  | times n a, ts => manyTimes a.run n ts
  | upTo n greedy a, ts =>
    Thread.dedup (ts.foldl (LoopState.passUpTo (fun t => a.run [t]) greedy n) {}).out.reverse
  | loop a optional greedy, ts =>
    Thread.dedup
      (ts.foldl (LoopState.pass (fun t => a.run [t]) optional greedy) {}).out.reverse

/-- The preferred match in a text: of the leftmost ones the one that the pattern prefers. -/
def first? (a : Node) (cs : List Char) : Option Thread :=
  (a.run ((Cursor.all cs).map fun c => { cursor := c })).head?

end Node

end ScriptBundle.Pattern
