import ScriptBundle.Pattern.Written
import ScriptBundle.Text.Property

/-! # Patterns ready for matching

A node is a pattern whose flags are applied: sets of characters, conditions on positions, and the ways to
put patterns together. A node has as many capture groups as its largest group index.
-/

namespace ScriptBundle.Pattern

inductive Look where
  | start
  | finish
  | lineStart
  | lineEnd
  | anyLineStart
  | anyLineEnd
  | boundary (word : CharSet)
  | notBoundary (word : CharSet)
  | wordStart (word : CharSet)
  | wordEnd (word : CharSet)
  | wordStartHalf (word : CharSet)
  | wordEndHalf (word : CharSet)
  deriving DecidableEq, Repr, Inhabited

inductive Node where
  | empty
  | set (s : CharSet)
  | look (l : Look)
  | seq (a b : Node)
  | alt (a b : Node)
  | group (index : Nat) (a : Node)
  /-- A run of characters of a set; with `optional` it may be empty. -/
  | stretch (s : CharSet) (optional greedy : Bool)
  | times (n : Nat) (a : Node)
  | upTo (n : Nat) (greedy : Bool) (a : Node)
  /-- Any number of times, at least once unless `optional`. -/
  | loop (a : Node) (optional greedy : Bool)
  deriving Repr, Inhabited

namespace Node

def groups : Node → Nat
  | empty | set _ | look _ | stretch .. => 0
  | seq a b | alt a b => Nat.max a.groups b.groups
  | group i a => Nat.max i a.groups
  | times _ a | upTo _ _ a | loop a .. => a.groups

/-- Whether the node matches without taking a character, whatever it matches. -/
def takesNothing : Node → Bool
  | empty | look _ => true
  | set _ | stretch .. => false
  | seq a b | alt a b => a.takesNothing && b.takesNothing
  | group _ a | times _ a | upTo _ _ a | loop a .. => a.takesNothing

def ofList : List Node → Node
  | [] => empty
  | [a] => a
  | a :: rest => seq a (ofList rest)

def choice : List Node → Node
  | [] => set .empty
  | [a] => a
  | a :: rest =>
    match a, choice rest with
    | set s, set t => set (.union s t)
    | a, b => alt a b

def many (a : Node) (optional greedy : Bool) : Node :=
  match a with
  | set s => stretch s optional greedy
  | a => loop a optional greedy

def andThen (a b : Node) : Node :=
  match a, b with
  | empty, b => b
  | a, empty => a
  | a, b => seq a b

/-- Repetition from `least` to `most` times. What takes no character is not repeated more than once, and
what is repeated no time at all is dropped together with its groups. -/
def repeated (a : Node) (least : Nat) (most : Option Nat) (greedy : Bool) : Node :=
  let (least, most) :=
    if a.takesNothing then (min least 1, some (min (most.getD 1) 1)) else (least, most)
  match least, most with
  | 0, some 0 => empty
  | 1, some 1 => a
  | 0, none => many a true greedy
  | 1, none => many a false greedy
  | n + 1, none => seq (times n a) (many a false greedy)
  | 0, some m => upTo m greedy a
  | n, some m =>
    let fixed := if n = 1 then a else times n a
    if m ≤ n then fixed else seq fixed (upTo (m - n) greedy a)

def spanCount : CharSet → Nat
  | .spans list => (list.filter (127 < ·.last)).length
  | .union a b | .inter a b | .diff a b => spanCount a + spanCount b
  | .compl a => spanCount a + 4

/-- The notation bounds the size of the machine that a pattern stands for. The bound is on octets, and the
estimate counts one state for each sign and for each span of characters outside ASCII. -/
def size : Node → Nat
  | empty => 0
  | look _ => 32
  | set s => 32 + 60 * spanCount s
  | stretch s .. => 96 + 60 * spanCount s
  | seq a b => a.size + b.size
  | alt a b => a.size + b.size + 64
  | group _ a => a.size + 64
  | times n a => n * a.size
  | upTo n _ a => n * (a.size + 64)
  | loop a .. => a.size + 96

end Node

def sizeLimit : Nat := 10 * 1024 * 1024

end ScriptBundle.Pattern
