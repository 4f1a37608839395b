import ScriptBundle.Pattern.Node
import ScriptBundle.Text.CaseFolding
import ScriptBundle.Text.Script

/-! # What written patterns mean

Applies the flags of a written pattern from left to right. A change of flags holds up to the end of the
group it stands in, across the bars of that group. Without the Unicode flag classes are sets of octets,
and one that goes beyond ASCII is refused, since it could match part of a character.
-/

namespace ScriptBundle.Pattern

structure Flags where
  ignoreCase : Bool := false
  multiLine : Bool := false
  dotAll : Bool := false
  swapGreed : Bool := false
  unicode : Bool := true
  anyLineEnd : Bool := false
  deriving DecidableEq, Repr, Inhabited

def Flags.apply (f : Flags) (change : FlagChange) : Flags :=
  match change.flag with
  | .ignoreCase => { f with ignoreCase := change.on }
  | .multiLine => { f with multiLine := change.on }
  | .dotAll => { f with dotAll := change.on }
  | .swapGreed => { f with swapGreed := change.on }
  | .unicode => { f with unicode := change.on }
  | .anyLineEnd => { f with anyLineEnd := change.on }
  | .verbose => f

namespace Flags

def looseName (name : String) : String :=
  let cs := name.toList
  let (isPart, cs) := match cs with
    | a :: b :: rest =>
      if (a == 'i' || a == 'I') && (b == 's' || b == 'S') then (true, rest) else (false, cs)
    | _ => (false, cs)
  let kept := (cs.filter fun c => c != ' ' && c != '_' && c != '-' && c.toNat < 128).map Char.toLower
  if isPart && kept == ['c'] then "isc" else String.ofList kept

/-- The set that a property names. A name alone is a yes-or-no property, a category or a script. -/
def propertySet? : PropertyQuery → Option CharSet
  | .named name =>
    let loose := looseName name
    let property := if ["cf", "sc", "lc"].contains loose then none else Property.named? loose
    property <|> Category.named? loose <|> (Script.named? loose).map Script.set
  | .valued property value =>
    let loose := looseName value
    match looseName property with
    | "generalcategory" | "gc" => Category.named? loose
    | "script" | "sc" => (Script.named? loose).map Script.set
    | "scriptextensions" | "scx" => (Script.named? loose).map Script.extensions
    | _ => none

def asciiShorthand : Shorthand → CharSet
  | .digit => .spans [⟨48, 57, 1⟩]
  | .space => .spans [⟨9, 13, 1⟩, ⟨32, 32, 1⟩]
  | .word => .spans [⟨48, 57, 1⟩, ⟨65, 90, 1⟩, ⟨95, 95, 1⟩, ⟨97, 122, 1⟩]

def unicodeShorthand : Shorthand → CharSet
  | .digit => Category.decimalNumber.set
  | .space => .blank
  | .word => Property.word

variable (f : Flags)

def fold (s : CharSet) : CharSet :=
  if f.ignoreCase then if f.unicode then s.foldCase else s.foldAsciiCase else s

def checked (s : CharSet) : Option CharSet :=
  if f.unicode || s.isAscii then some s else none

def closed (s : CharSet) (negated : Bool) : Option CharSet :=
  let s := f.fold s
  f.checked (if negated then .compl s else s)

def shorthandSet (kind : Shorthand) (negated : Bool) : Option CharSet :=
  let s := if f.unicode then unicodeShorthand kind else asciiShorthand kind
  f.checked (if negated then .compl s else s)

def propertySet (query : PropertyQuery) (negated : Bool) : Option CharSet := do
  if !f.unicode then none
  f.closed (← propertySet? query) negated

/-- The code point of a character in a class; octets have ASCII ones only. -/
def classMember (l : Literal) : Option Nat :=
  if f.unicode || l.char.toNat < 128 then some l.char.toNat else none

mutual

def bracketSet : Bracket → Option CharSet
  | .literal l => do return .spans [.single (← f.classMember l)]
  | .range a b => do return .spans [⟨← f.classMember a, ← f.classMember b, 1⟩]
  | .ascii s negated => f.closed s negated
  | .shorthand kind negated => f.shorthandSet kind negated
  | .property query negated => f.propertySet query negated
  | .nested negated b => do f.closed (← bracketSet b) negated
  | .items list => do return .unions (← bracketSets list)
  | .op kind a b => do
    let a := f.fold (← bracketSet a)
    let b := f.fold (← bracketSet b)
    match kind with
    | .inter => return .inter a b
    | .diff => return .diff a b
    | .symmDiff => return .symmDiff a b

def bracketSets : List Bracket → Option (List CharSet)
  | [] => some []
  | b :: rest => do return (← bracketSet b) :: (← bracketSets rest)

end

def literalSet (l : Literal) : Option CharSet :=
  if !f.unicode && l.octet && 128 ≤ l.char.toNat then none
  else if f.ignoreCase && (if f.unicode then hasCaseForms l.char else l.char.isAlpha) then
    some (f.fold (.single l.char))
  else some (.single l.char)

def dotSet : Option CharSet :=
  if !f.unicode then none
  else if f.dotAll then some (.compl .empty)
  else if f.anyLineEnd then some (.compl (.ofChars ['\n', '\r']))
  else some (.compl (.single '\n'))

def wordSet : CharSet := if f.unicode then unicodeShorthand .word else asciiShorthand .word

def look : Assertion → Look
  | .lineStart =>
    if f.multiLine then if f.anyLineEnd then .anyLineStart else .lineStart else .start
  | .lineEnd => if f.multiLine then if f.anyLineEnd then .anyLineEnd else .lineEnd else .finish
  | .textStart => .start
  | .textEnd => .finish
  | .wordBoundary => .boundary f.wordSet
  | .notWordBoundary => .notBoundary f.wordSet
  | .wordStart => .wordStart f.wordSet
  | .wordEnd => .wordEnd f.wordSet
  | .wordStartHalf => .wordStartHalf f.wordSet
  | .wordEndHalf => .wordEndHalf f.wordSet

end Flags

mutual

/-- The meaning of a written pattern under flags, with the flags after it. -/
def Written.node? (f : Flags) : Written → Option (Node × Flags)
  | .empty => some (.empty, f)
  | .flags changes => some (.empty, changes.foldl Flags.apply f)
  | .literal l => do return (.set (← f.literalSet l), f)
  | .dot => do return (.set (← f.dotSet), f)
  | .assertion a => some (.look (f.look a), f)
  | .shorthand kind negated => do return (.set (← f.shorthandSet kind negated), f)
  | .property query negated => do return (.set (← f.propertySet query negated), f)
  | .bracketed negated b => do return (.set (← f.closed (← f.bracketSet b) negated), f)
  | .repeated least most greedy w => do
    let (a, f) ← w.node? f
    return (a.repeated least most (greedy != f.swapGreed), f)
  | .capture index w => do return (.group index (← w.node? f).1, f)
  | .group changes w => do return ((← w.node? (changes.foldl Flags.apply f)).1, f)
  | .either ws => do
    let (nodes, f) ← Written.nodes? f ws
    return (.choice nodes, f)
  | .sequence ws => do
    let (nodes, f) ← Written.nodes? f ws
    return (nodes.foldr Node.andThen .empty, f)

/-- The meanings of written patterns, each under the flags that the one before it leaves. -/
def Written.nodes? (f : Flags) : List Written → Option (List Node × Flags)
  | [] => some ([], f)
  | w :: rest => do
    let (a, f) ← w.node? f
    let (more, f) ← Written.nodes? f rest
    return (a :: more, f)

end

end ScriptBundle.Pattern
