import ScriptBundle.Text.CharSet

/-! # Written patterns

A pattern as it is written: every construct of the notation with what it says, before flags are applied
and names of properties are looked up. `Written.depth` is the nesting that the notation limits.
-/

namespace ScriptBundle.Pattern

inductive Flag where
  | ignoreCase | multiLine | dotAll | swapGreed | unicode | anyLineEnd | verbose
  deriving DecidableEq, Repr, Inhabited

structure FlagChange where
  flag : Flag
  on : Bool
  deriving DecidableEq, Repr, Inhabited

structure Literal where
  char : Char
  octet : Bool := false
  deriving DecidableEq, Repr, Inhabited

inductive Shorthand where
  | digit | space | word
  deriving DecidableEq, Repr, Inhabited

inductive PropertyQuery where
  | named (name : String)
  | valued (property value : String)
  deriving DecidableEq, Repr, Inhabited

inductive Assertion where
  | lineStart | lineEnd | textStart | textEnd
  | wordBoundary | notWordBoundary | wordStart | wordEnd | wordStartHalf | wordEndHalf
  deriving DecidableEq, Repr, Inhabited

inductive SetOp where
  | inter | diff | symmDiff
  deriving DecidableEq, Repr, Inhabited

inductive Bracket where
  | literal (l : Literal)
  | range (first last : Literal)
  | ascii (set : CharSet) (negated : Bool)
  | shorthand (kind : Shorthand) (negated : Bool)
  | property (query : PropertyQuery) (negated : Bool)
  | nested (negated : Bool) (inner : Bracket)
  | items (list : List Bracket)
  | op (kind : SetOp) (a b : Bracket)
  deriving Repr, Inhabited

inductive Written where
  | empty
  | flags (changes : List FlagChange)
  | literal (l : Literal)
  | dot
  | assertion (a : Assertion)
  | shorthand (kind : Shorthand) (negated : Bool)
  | property (query : PropertyQuery) (negated : Bool)
  | bracketed (negated : Bool) (inner : Bracket)
  | repeated (least : Nat) (most : Option Nat) (greedy : Bool) (inner : Written)
  | capture (index : Nat) (inner : Written)
  | group (changes : List FlagChange) (inner : Written)
  | either (branches : List Written)
  | sequence (parts : List Written)
  deriving Repr, Inhabited

mutual

def Bracket.depth : Bracket → Nat
  | .literal _ | .range _ _ | .ascii _ _ | .shorthand _ _ | .property _ _ | .items [] => 0
  | .nested _ b => b.depth + 1
  | .items (b :: rest) => Nat.max b.depth (Bracket.listDepth rest) + 1
  | .op _ a b => Nat.max a.depth b.depth + 1

def Bracket.listDepth : List Bracket → Nat
  | [] => 0
  | b :: rest => Nat.max b.depth (Bracket.listDepth rest)

end

mutual

/-- The nesting of a pattern: groups, repetitions, classes, sequences and choices inside each other. -/
def Written.depth : Written → Nat
  | .empty | .flags _ | .literal _ | .dot | .assertion _ | .shorthand _ _ | .property _ _ => 0
  | .bracketed _ b => b.depth + 1
  | .repeated _ _ _ w | .capture _ w | .group _ w => w.depth + 1
  | .either ws | .sequence ws => Written.listDepth ws + 1

def Written.listDepth : List Written → Nat
  | [] => 0
  | w :: rest => Nat.max w.depth (Written.listDepth rest)

end

def nestLimit : Nat := 250

end ScriptBundle.Pattern
