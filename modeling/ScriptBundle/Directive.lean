import ScriptBundle.Pattern
import ScriptBundle.Text.Blank

/-! # Require directives

A directive is a line that asks for another script, either from beside the file it stands in or from the
search paths. What counts as a directive is up to a matcher.
-/

namespace ScriptBundle

inductive QuoteKind where
  /-- In double quotes: beside the requiring file. -/
  | quoted
  /-- In anything else: along the search paths. -/
  | angle
  deriving DecidableEq, Repr, Inhabited

def QuoteKind.label : QuoteKind → String
  | quoted => "quoted"
  | angle => "angle"

structure Directive where
  kind : QuoteKind
  target : String
  deriving DecidableEq, Repr, Inhabited

abbrev Matcher := String → Option Directive

namespace Matcher

/-- The directive of a matched line: the first group holds the opening quote, the second the target.
A target of blanks only makes no directive. -/
def ofGroups? (quote target : List Char) : Option Directive :=
  let target := trim target
  if target.isEmpty then none
  else some ⟨if quote = ['"'] then .quoted else .angle, String.ofList target⟩

def ofPattern (p : Pattern) : Matcher := fun line => do
  let group ← p.captures? line
  ofGroups? (← group 1) (← group 2)

/-- Finds directives by how a line starts; the rest of the line is the target, which may be empty. -/
def ofMarker (marker : String) (kind : QuoteKind) : Matcher := fun line =>
  if marker.toList.isPrefixOf line.toList then
    some ⟨kind, String.ofList (trim (line.toList.drop marker.toList.length))⟩
  else none

end Matcher

end ScriptBundle
