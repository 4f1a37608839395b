import ScriptBundle.Pattern.Match
import ScriptBundle.Pattern.Meaning
import ScriptBundle.Pattern.Reader

/-! # Patterns

A pattern is a text that could be read as one, and what it means. `Pattern.ofString?` is the only way
in, so a pattern at hand is a pattern that can be matched.
-/

namespace ScriptBundle

structure Pattern where
  text : String
  node : Pattern.Node
  deriving Repr, Inhabited

namespace Pattern

/-- Reads a pattern; `none` if the text is no pattern, or one that is too large. -/
def ofString? (text : String) : Option Pattern := do
  let written ← Written.ofChars? text.toList
  let (node, _) ← written.node? {}
  if node.size ≤ sizeLimit then some ⟨text, node⟩ else none

def groups (p : Pattern) : Nat := p.node.groups

def isMatch (p : Pattern) (line : String) : Bool := (p.node.first? line.toList).isSome

def captures? (p : Pattern) (line : String) : Option (Nat → Option (List Char)) :=
  (p.node.first? line.toList).map Thread.capture?

end Pattern

end ScriptBundle
