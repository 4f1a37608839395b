/-! # Sets of characters

A set is described by spans of code points and by the set operations, and membership is computed from
the description. Nothing is normalised: a description is only as large as what was written, and each
operation has exactly the membership rule of its name.
-/

namespace ScriptBundle

/-- The code points `first`, `first + step`, … up to `last`. -/
structure Span where
  first : Nat
  last : Nat
  step : Nat := 1
  deriving DecidableEq, Repr, Inhabited

namespace Span

def holds (s : Span) (n : Nat) : Bool :=
  s.first ≤ n && n ≤ s.last && (n - s.first) % s.step == 0

def single (n : Nat) : Span := ⟨n, n, 1⟩

def toList (s : Span) : List Nat :=
  (List.range ((s.last - s.first) / s.step + 1)).map fun k => s.first + k * s.step

end Span

inductive CharSet where
  | spans (list : List Span)
  | union (a b : CharSet)
  | inter (a b : CharSet)
  | diff (a b : CharSet)
  | compl (a : CharSet)
  deriving DecidableEq, Repr, Inhabited

namespace CharSet

def holds : CharSet → Nat → Bool
  | spans list, n => list.any (·.holds n)
  | union a b, n => a.holds n || b.holds n
  | inter a b, n => a.holds n && b.holds n
  | diff a b, n => a.holds n && !b.holds n
  | compl a, n => !a.holds n

def contains (s : CharSet) (c : Char) : Bool := s.holds c.toNat

def empty : CharSet := spans []

def single (c : Char) : CharSet := spans [.single c.toNat]

def range (a b : Char) : CharSet := spans [⟨a.toNat, b.toNat, 1⟩]

def ofChars (cs : List Char) : CharSet := spans (cs.map fun c => .single c.toNat)

def symmDiff (a b : CharSet) : CharSet := union (diff a b) (diff b a)

def unions (sets : List CharSet) : CharSet := sets.foldr union empty

/-- Whether no code point from 128 to 255 belongs to the set. For a set described in octets, where the
complement is taken within the octets, this says that it holds ASCII characters only. -/
def isAscii (s : CharSet) : Bool := (List.range 128).all fun k => !s.holds (128 + k)

/-- A table under way: the spans read so far, newest first, and the numbers of the one being read. A table
is written as spans in ascending order with blanks between them: `41-5A` for all code points from one to
another, `100-12E/2` for every second one, `AA` for a single one. -/
structure TableReading where
  done : List Span := []
  first : Option Nat := none
  number : Option Nat := none
  step : Bool := false

namespace TableReading

def close (r : TableReading) : TableReading :=
  match r.first, r.number with
  | some a, some b => { done := ⟨a, b, 1⟩ :: r.done }
  | none, some b => { done := .single b :: r.done }
  | _, none => { done := r.done }

def next (r : TableReading) (c : Char) : TableReading :=
  if c = ' ' || c = '\n' then
    if r.step then { done := r.done } else r.close
  else if c = '-' then { r with first := r.number, number := none }
  else if c = '/' then
    match r.first, r.number with
    | some a, some b => { done := ⟨a, b, 2⟩ :: r.done, step := true }
    | _, _ => r
  else if r.step then r
  else
    let digit := if c.isDigit then c.toNat - 48 else c.toNat - 55
    { r with number := some (r.number.getD 0 * 16 + digit) }

end TableReading

def tableSpans (text : String) : List Span :=
  let r := text.toList.foldl TableReading.next {}
  (if r.step then r else r.close).done.reverse

def ofTable (text : String) : CharSet := spans (tableSpans text)

@[simp] theorem holds_spans (list : List Span) (n : Nat) :
    (spans list).holds n = list.any (·.holds n) := rfl

@[simp] theorem holds_union (a b : CharSet) (n : Nat) :
    (union a b).holds n = (a.holds n || b.holds n) := rfl

@[simp] theorem holds_inter (a b : CharSet) (n : Nat) :
    (inter a b).holds n = (a.holds n && b.holds n) := rfl

@[simp] theorem holds_diff (a b : CharSet) (n : Nat) :
    (diff a b).holds n = (a.holds n && !b.holds n) := rfl

@[simp] theorem holds_compl (a : CharSet) (n : Nat) : (compl a).holds n = !a.holds n := rfl

example : tableSpans "41-5A AA 100-12E/2 130" =
    [⟨0x41, 0x5A, 1⟩, ⟨0xAA, 0xAA, 1⟩, ⟨0x100, 0x12E, 2⟩, ⟨0x130, 0x130, 1⟩] := by decide +kernel

end CharSet

end ScriptBundle
