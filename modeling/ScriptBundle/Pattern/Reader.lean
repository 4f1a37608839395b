import ScriptBundle.Pattern.Written
import ScriptBundle.Text.Property

/-! # Reading patterns

The notation of patterns: a text is either a written pattern or no pattern at all. Which of several
faults a text has is not recorded. Every reading step takes at least one character, so the length of
the text bounds the recursion.
-/

namespace ScriptBundle.Pattern

/-- A reading under way: the characters to come, whether blanks and comments are skipped, the number of
capture groups opened, and the names given to them. -/
structure Reading where
  rest : List Char
  verbose : Bool := false
  groups : Nat := 0
  names : List String := []

abbrev Reader := StateT Reading Option

namespace Reader

/-- Drops blanks and comments; inside a comment everything up to the line feed. -/
def skipIgnored : Bool → List Char → List Char
  | _, [] => []
  | true, c :: cs => skipIgnored (c != '\n') cs
  | false, c :: cs =>
    if isBlank c then skipIgnored false cs else if c = '#' then skipIgnored true cs else c :: cs

def peek? : Reader (Option Char) := return (← get).rest.head?

def peek : Reader Char := do
  let some c ← peek? | failure
  return c

def peekSecond? : Reader (Option Char) := return (← get).rest.tail.head?

/-- The first character after the next one that is not skipped over. In a verbose pattern blanks are
skipped, and of a comment only its sign. -/
def peekBeyond? : Reader (Option Char) := do
  let r ← get
  if !r.verbose then return r.rest.tail.head?
  let next := r.rest.tail.dropWhile isBlank
  match next with
  | '#' :: more => return (more.dropWhile isBlank).head?
  | _ => return next.head?

def bump : Reader Unit := modify fun r => { r with rest := r.rest.tail }

def skip : Reader Unit :=
  modify fun r => if r.verbose then { r with rest := skipIgnored false r.rest } else r

def bumpSkip : Reader Unit := do
  if (← get).rest.isEmpty then return
  bump
  if !(← get).rest.isEmpty then skip

def bumpIf (cs : List Char) : Reader Bool := do
  let r ← get
  if cs.isPrefixOf r.rest then
    set { r with rest := r.rest.drop cs.length }
    return true
  return false

def comes (cs : List Char) : Reader Bool := return cs.isPrefixOf (← get).rest

def needMore : Reader Unit := do
  let _ ← peek

def takeWhile (test : Char → Bool) : Nat → List Char → Reader (List Char)
  | 0, done => return done.reverse
  | n + 1, done => do
    match ← peek? with
    | some c => if test c then bumpSkip; takeWhile test n (c :: done) else return done.reverse
    | none => return done.reverse

def takeAll (test : Char → Bool) : Reader (List Char) := do
  takeWhile test (← get).rest.length []

def isMeta (c : Char) : Bool :=
  ['\\', '.', '+', '*', '?', '(', ')', '|', '[', ']', '\x7b', '\x7d', '^', '$', '#', '&', '-', '~'].contains c

/-- Characters that may be escaped without need: ASCII ones that are no letters, digits or angles. -/
def isEscapable (c : Char) : Bool :=
  isMeta c || (c.toNat < 128 && !c.isAlphanum && c != '<' && c != '>')

def hexValue? (c : Char) : Option Nat :=
  if c.isDigit then some (c.toNat - 48)
  else if 'a' ≤ c && c ≤ 'f' then some (c.toNat - 87)
  else if 'A' ≤ c && c ≤ 'F' then some (c.toNat - 55)
  else none

def charOf? (n : Nat) : Option Char :=
  if h : n.isValidChar then some (Char.ofNatAux n h) else none

def hexNumber? (cs : List Char) : Option Nat :=
  cs.foldlM (fun n c => (hexValue? c).map fun d => n * 16 + d) 0

def hexDigits : Nat → Reader (List Char)
  | 0 => return []
  | n + 1 => do
    let c ← peek
    if (hexValue? c).isNone then failure
    bumpSkip
    return c :: (← hexDigits n)

def codePoint (count : Nat) (octet : Bool) : Reader Literal := do
  bumpSkip
  if (← peek) = '\x7b' then
    bumpSkip
    let digits ← takeAll (· != '\x7d')
    needMore
    bumpSkip
    if digits.isEmpty then failure
    let some n := hexNumber? digits | failure
    let some c := charOf? n | failure
    return { char := c }
  let some n := hexNumber? (← hexDigits count) | failure
  let some c := charOf? n | failure
  return { char := c, octet }

def splitAt? (needle : List Char) : List Char → List Char → Option (List Char × List Char)
  | before, [] => if needle.isEmpty then some (before.reverse, []) else none
  | before, c :: cs =>
    if needle.isPrefixOf (c :: cs) then some (before.reverse, (c :: cs).drop needle.length)
    else splitAt? needle (c :: before) cs

def propertyQuery (cs : List Char) : PropertyQuery :=
  match splitAt? ['!', '='] [] cs, splitAt? [':'] [] cs, splitAt? ['='] [] cs with
  | some (a, b), _, _ | none, some (a, b), _ | none, none, some (a, b) =>
    .valued (String.ofList a) (String.ofList b)
  | none, none, none => .named (String.ofList cs)

def propertyEscape : Reader PropertyQuery := do
  bumpSkip
  let c ← peek
  if c = '\x7b' then
    bumpSkip
    let name ← takeAll (· != '\x7d')
    needMore
    bump
    return propertyQuery name
  if c = '\\' then failure
  bumpSkip
  return .named (String.singleton c)

/-- The word in braces that may follow the escape of a word boundary. Without a letter or a hyphen
after the brace, the brace opens a count and is left alone. -/
def boundaryName : Reader Assertion := do
  let here ← get
  if (← peek?) != some '\x7b' then return .wordBoundary
  bumpSkip
  let isLetter c := c.isAlpha || c == '-'
  if !isLetter (← peek) then
    set here
    return .wordBoundary
  let name ← takeAll isLetter
  if (← peek) != '\x7d' then failure
  bump
  match String.ofList name with
  | "start" => return .wordStart
  | "end" => return .wordEnd
  | "start-half" => return .wordStartHalf
  | "end-half" => return .wordEndHalf
  | _ => failure

def escape : Reader Written := do
  bump
  let c ← peek
  match c with
  | 'x' => return .literal (← codePoint 2 true)
  | 'u' => return .literal (← codePoint 4 false)
  | 'U' => return .literal (← codePoint 8 false)
  | 'p' => return .property (← propertyEscape) false
  | 'P' => return .property (← propertyEscape) true
  | _ =>
    bump
    match c with
    | 'd' => return .shorthand .digit false
    | 'D' => return .shorthand .digit true
    | 's' => return .shorthand .space false
    | 'S' => return .shorthand .space true
    | 'w' => return .shorthand .word false
    | 'W' => return .shorthand .word true
    | 'a' => return .literal { char := '\x07' }
    | 'f' => return .literal { char := '\x0C' }
    | 't' => return .literal { char := '\t' }
    | 'n' => return .literal { char := '\n' }
    | 'r' => return .literal { char := '\r' }
    | 'v' => return .literal { char := '\x0B' }
    | 'A' => return .assertion .textStart
    | 'z' => return .assertion .textEnd
    | 'b' => return .assertion (← boundaryName)
    | 'B' => return .assertion .notWordBoundary
    | '<' => return .assertion .wordStart
    | '>' => return .assertion .wordEnd
    | _ => if isEscapable c then return .literal { char := c } else failure

def primitive : Reader Written := do
  match ← peek with
  | '\\' => escape
  | '.' => bump; return .dot
  | '^' => bump; return .assertion .lineStart
  | '$' => bump; return .assertion .lineEnd
  | c => bump; return .literal { char := c }

def operand : List Written → Reader (Written × List Written)
  | [] | .empty :: _ | .flags _ :: _ => failure
  | w :: rest => return (w, rest)

def signRepetition (least : Nat) (most : Option Nat) (done : List Written) :
    Reader (List Written) := do
  let (w, rest) ← operand done
  bump
  let lazy ← bumpIf ['?']
  return .repeated least most (!lazy) w :: rest

def decimal : Reader (Option Nat) := do
  modify fun r => { r with rest := r.rest.dropWhile isBlank }
  let digits ← takeAll Char.isDigit
  modify fun r => { r with rest := r.rest.dropWhile isBlank }
  skip
  if digits.isEmpty then return none
  let n := digits.foldl (fun n c => n * 10 + (c.toNat - 48)) 0
  if n < UInt32.size then return some n else failure

def countRepetition (done : List Written) : Reader (List Written) := do
  let (w, rest) ← operand done
  bumpSkip
  needMore
  let first ← decimal
  let (least, most) ← (do
    if (← peek) = ',' then
      bumpSkip
      if (← peek) = '\x7d' then
        let some least := first | failure
        return (least, none)
      let some least := first | failure
      let some most ← decimal | failure
      return (least, some most)
    let some count := first | failure
    return (count, some count) : Reader (Nat × Option Nat))
  if (← peek) != '\x7d' then failure
  bumpSkip
  let lazy ← bumpIf ['?']
  match most with
  | some m => if m < least then failure
  | none => pure ()
  return .repeated least most (!lazy) w :: rest

def asciiClass? (name : String) : Option CharSet :=
  match name with
  | "alnum" => some (.spans [⟨48, 57, 1⟩, ⟨65, 90, 1⟩, ⟨97, 122, 1⟩])
  | "alpha" => some (.spans [⟨65, 90, 1⟩, ⟨97, 122, 1⟩])
  | "ascii" => some (.spans [⟨0, 127, 1⟩])
  | "blank" => some (.spans [⟨9, 9, 1⟩, ⟨32, 32, 1⟩])
  | "cntrl" => some (.spans [⟨0, 31, 1⟩, ⟨127, 127, 1⟩])
  | "digit" => some (.spans [⟨48, 57, 1⟩])
  | "graph" => some (.spans [⟨33, 126, 1⟩])
  | "lower" => some (.spans [⟨97, 122, 1⟩])
  | "print" => some (.spans [⟨32, 126, 1⟩])
  | "punct" => some (.spans [⟨33, 47, 1⟩, ⟨58, 64, 1⟩, ⟨91, 96, 1⟩, ⟨123, 126, 1⟩])
  | "space" => some (.spans [⟨9, 13, 1⟩, ⟨32, 32, 1⟩])
  | "upper" => some (.spans [⟨65, 90, 1⟩])
  | "word" => some (.spans [⟨48, 57, 1⟩, ⟨65, 90, 1⟩, ⟨95, 95, 1⟩, ⟨97, 122, 1⟩])
  | "xdigit" => some (.spans [⟨48, 57, 1⟩, ⟨65, 70, 1⟩, ⟨97, 102, 1⟩])
  | _ => none

/-- An ASCII class in its brackets and colons. Anything else that looks like one is left alone: it is
a nested class of the characters written. -/
def asciiClass : Reader (Option Bracket) := do
  let here ← get
  if !(← bumpIf ['[', ':']) then return none
  let negated ← bumpIf ['^']
  let rest := (← get).rest
  let name := rest.takeWhile (· != ':')
  match asciiClass? (String.ofList name) with
  | some s =>
    set { here with rest := rest.drop name.length }
    if ← bumpIf [':', ']'] then return some (.ascii s negated)
    set here
    return none
  | none =>
    set here
    return none

def classItem : Reader Written := do
  let c ← peek
  if c = '\\' then escape else bump; return .literal { char := c }

def classRange : Reader Bracket := do
  let first ← classItem
  skip
  let c ← peek
  let beyond ← peekBeyond?
  if c != '-' || beyond == some ']' || beyond == some '-' then
    match first with
    | .literal l => return .literal l
    | .shorthand k n => return .shorthand k n
    | .property q n => return .property q n
    | _ => failure
  bumpSkip
  needMore
  match first, ← classItem with
  | .literal a, .literal b => if a.char ≤ b.char then return .range a b else failure
  | _, _ => failure

def itemsPart : List Bracket → Bracket
  | [b] => b
  | done => .items done.reverse

def joinPart (left : Option (SetOp × Bracket)) (part : Bracket) : Bracket :=
  match left with
  | none => part
  | some (kind, a) => .op kind a part

def leadingHyphens : Nat → List Bracket → Reader (List Bracket)
  | 0, done => return done
  | n + 1, done => do
    if (← peek) != '-' then return done
    bumpSkip
    needMore
    leadingHyphens n (.literal { char := '-' } :: done)

def classOpening : Reader (Bool × List Bracket) := do
  bumpSkip
  let negated := (← peek) = '^'
  if negated then bumpSkip
  let done ← leadingHyphens (← get).rest.length []
  if done.isEmpty && (← peek) = ']' then
    bumpSkip
    needMore
    return (negated, [.literal { char := ']' }])
  return (negated, done)

mutual

def bracketed : Nat → Reader (Bool × Bracket)
  | 0 => failure
  | fuel + 1 => do
    let (negated, done) ← classOpening
    return (negated, ← classParts fuel done none)

def classParts : Nat → List Bracket → Option (SetOp × Bracket) → Reader Bracket
  | 0, _, _ => failure
  | fuel + 1, done, left => do
    skip
    let c ← peek
    let second ← peekSecond?
    if c = '[' then
      match ← asciiClass with
      | some b => classParts fuel (b :: done) left
      | none =>
        let (negated, inner) ← bracketed fuel
        classParts fuel (.nested negated inner :: done) left
    else if c = ']' then
      bump
      return joinPart left (itemsPart done)
    else if c = '&' && second == some '&' then
      let _ ← bumpIf ['&', '&']
      classParts fuel [] (some (.inter, joinPart left (itemsPart done)))
    else if c = '-' && second == some '-' then
      let _ ← bumpIf ['-', '-']
      classParts fuel [] (some (.diff, joinPart left (itemsPart done)))
    else if c = '~' && second == some '~' then
      let _ ← bumpIf ['~', '~']
      classParts fuel [] (some (.symmDiff, joinPart left (itemsPart done)))
    else
      let b ← classRange
      classParts fuel (b :: done) left

end

def flag? : Char → Option Flag
  | 'i' => some .ignoreCase
  | 'm' => some .multiLine
  | 's' => some .dotAll
  | 'U' => some .swapGreed
  | 'u' => some .unicode
  | 'R' => some .anyLineEnd
  | 'x' => some .verbose
  | _ => none

def flagChanges : Nat → List FlagChange → (negated dangling : Bool) → Reader (List FlagChange × Char)
  | 0, _, _, _ => failure
  | fuel + 1, done, negated, dangling => do
    let c ← peek
    bump
    if c = ':' || c = ')' then
      if dangling then failure
      return (done.reverse, c)
    if c = '-' then
      if negated then failure
      flagChanges fuel done true true
    else
      let some f := flag? c | failure
      if done.any (·.flag == f) then failure
      flagChanges fuel (⟨f, !negated⟩ :: done) negated false

def isNameChar (first : Bool) (c : Char) : Bool :=
  c == '_' ||
    if first then Property.alphabetic.contains c
    else c == '.' || c == '[' || c == ']' || Property.alphanumeric.contains c

def groupName : Reader Unit := do
  let r ← get
  let name := r.rest.takeWhile (· != '>')
  let good := match name with
    | [] => false
    | c :: cs => isNameChar true c && cs.all (isNameChar false)
  let text := String.ofList name
  if !good || r.names.contains text then failure
  set { r with rest := r.rest.drop name.length, names := text :: r.names }
  if !(← bumpIf ['>']) then failure

def nextGroup : Reader Nat := do
  modify fun r => { r with groups := r.groups + 1 }
  return (← get).groups

def groupOpening : Reader (List FlagChange ⊕ (List FlagChange × (Written → Written))) := do
  bump
  skip
  if (← comes ['?', '=']) || (← comes ['?', '!']) || (← comes ['?', '<', '=']) ||
      (← comes ['?', '<', '!']) then failure
  if (← bumpIf ['?', 'P', '<']) || (← bumpIf ['?', '<']) then
    let index ← nextGroup
    groupName
    return .inr ([], .capture index)
  if ← bumpIf ['?'] then
    let (changes, stop) ← flagChanges ((← get).rest.length + 1) [] false false
    if stop = ')' then
      if changes.isEmpty then failure
      return .inl changes
    return .inr (changes, .group changes)
  return .inr ([], .capture (← nextGroup))

def applyVerbose (changes : List FlagChange) : Reader Unit :=
  match changes.find? (·.flag == .verbose) with
  | some change => modify fun r => { r with verbose := change.on }
  | none => return

def sequencePart : List Written → Written
  | [] => .empty
  | [w] => w
  | done => .sequence done.reverse

mutual

def alternatives : Nat → List Written → Reader Written
  | 0, _ => failure
  | fuel + 1, done => do
    let branch := sequencePart (← parts fuel [])
    if ← bumpIf ['|'] then alternatives fuel (branch :: done)
    else if done.isEmpty then return branch
    else return .either (branch :: done).reverse

def parts : Nat → List Written → Reader (List Written)
  | 0, _ => failure
  | fuel + 1, done => do
    skip
    match ← peek? with
    | none | some ')' | some '|' => return done
    | some '(' =>
      match ← groupOpening with
      | .inl changes =>
        applyVerbose changes
        parts fuel (.flags changes :: done)
      | .inr (changes, make) =>
        let outer := (← get).verbose
        applyVerbose changes
        let inner ← alternatives fuel []
        if !(← bumpIf [')']) then failure
        modify fun r => { r with verbose := outer }
        parts fuel (make inner :: done)
    | some '[' =>
      let (negated, inner) ← bracketed fuel
      parts fuel (.bracketed negated inner :: done)
    | some '?' => parts fuel (← signRepetition 0 (some 1) done)
    | some '*' => parts fuel (← signRepetition 0 none done)
    | some '+' => parts fuel (← signRepetition 1 none done)
    | some '\x7b' => parts fuel (← countRepetition done)
    | some _ => parts fuel ((← primitive) :: done)

end

end Reader

def Written.ofChars? (cs : List Char) : Option Written := do
  let (w, r) ← (Reader.alternatives (2 * cs.length + 2) []).run { rest := cs }
  if r.rest.isEmpty && w.depth ≤ nestLimit then some w else none

end ScriptBundle.Pattern
