import ScriptBundle.Json.Basic
import ScriptBundle.Text.Quoted

/-! # Scanning JSON

The steps from which JSON is read, each with the fault it stops at. Blanks are spaces, tabs, line feeds
and carriage returns; strings may not hold control characters; escapes by code unit have to pair up.
-/

namespace ScriptBundle.Json

inductive Found where
  | null
  | bool (b : Bool)
  | integer (n : Int)
  | decimal (d : Decimal)
  | string (s : String)
  | sequence
  | map
  deriving DecidableEq, Repr, Inhabited

def Found.text : Found → String
  | null => "null"
  | bool b => "boolean \x60" ++ toString b ++ "\x60"
  | integer n => "integer \x60" ++ toString n ++ "\x60"
  | decimal d => "floating point \x60" ++ d.text ++ "\x60"
  | string s => "string " ++ quoted s
  | sequence => "sequence"
  | map => "map"

inductive Fault where
  | endInValue
  | endInList
  | endInObject
  | endInString
  | expectedColon
  | expectedListEnd
  | expectedObjectEnd
  | expectedWord
  | expectedValue
  | badEscape
  | badNumber
  | numberOutOfRange
  | controlCharacter
  | keyNotString
  | loneSurrogate
  | trailingComma
  | trailingCharacters
  | endOfHexEscape
  | tooDeep
  | wrongType (found : Found) (expected : String)
  | unknownField (name : String) (known : List String)
  | duplicateField (name : String)
  deriving DecidableEq, Repr, Inhabited

namespace Fault

def ticked (s : String) : String := "\x60" ++ s ++ "\x60"

def oneOf : List String → String
  | [] => "there are no fields"
  | [a] => "expected " ++ ticked a
  | [a, b] => "expected " ++ ticked a ++ " or " ++ ticked b
  | names => "expected one of " ++ ", ".intercalate (names.map ticked)

def message : Fault → String
  | endInValue => "EOF while parsing a value"
  | endInList => "EOF while parsing a list"
  | endInObject => "EOF while parsing an object"
  | endInString => "EOF while parsing a string"
  | expectedColon => "expected " ++ ticked ":"
  | expectedListEnd => "expected " ++ ticked "," ++ " or " ++ ticked "]"
  | expectedObjectEnd => "expected " ++ ticked "," ++ " or " ++ ticked "\x7d"
  | expectedWord => "expected ident"
  | expectedValue => "expected value"
  | badEscape => "invalid escape"
  | badNumber => "invalid number"
  | numberOutOfRange => "number out of range"
  | controlCharacter =>
    "control character (\\u0000-\\u001F) found while parsing a string"
  | keyNotString => "key must be a string"
  | loneSurrogate => "lone leading surrogate in hex escape"
  | trailingComma => "trailing comma"
  | trailingCharacters => "trailing characters"
  | endOfHexEscape => "unexpected end of hex escape"
  | tooDeep => "recursion limit exceeded"
  | wrongType found expected => "invalid type: " ++ found.text ++ ", expected " ++ expected
  | unknownField name known => "unknown field " ++ ticked name ++ ", " ++ oneOf known
  | duplicateField name => "duplicate field " ++ ticked name

end Fault

/-- A step of reading: from the characters to come to a result and the characters after it. -/
abbrev Scan := StateT (List Char) (Except Fault)

namespace Scan

def stop {α : Type} (fault : Fault) : Scan α := throw fault

def isSpace (c : Char) : Bool := c == ' ' || c == '\n' || c == '\t' || c == '\r'

def peek? : Scan (Option Char) := do
  let rest := (← get).dropWhile isSpace
  set rest
  return rest.head?

def drop : Scan Unit := modify List.tail

def word : List Char → Scan Unit
  | [] => return
  | c :: cs => do
    match ← get with
    | [] => stop .endInValue
    | x :: rest =>
      set rest
      if x = c then word cs else stop .expectedWord

def hexValue? (c : Char) : Option Nat :=
  if c.isDigit then some (c.toNat - 48)
  else if 'a' ≤ c && c ≤ 'f' then some (c.toNat - 87)
  else if 'A' ≤ c && c ≤ 'F' then some (c.toNat - 55)
  else none

/-- A code unit in four hexadecimal digits. Fewer than four octets to come are the end of the string. -/
def codeUnit (cs : List Char) : Except Fault (Nat × List Char) :=
  if (cs.take 4).foldl (fun n c => n + c.utf8Size) 0 < 4 then .error .endInString
  else
    match (cs.take 4).mapM hexValue? with
    | some [a, b, c, d] => .ok (((a * 16 + b) * 16 + c) * 16 + d, cs.drop 4)
    | _ => .error .badEscape

/-- The character of an escape by code unit, which may need a second one. -/
def unitEscape (cs : List Char) : Except Fault (Char × List Char) := do
  let (n, rest) ← codeUnit cs
  if 0xDC00 ≤ n && n ≤ 0xDFFF then throw .loneSurrogate
  if n < 0xD800 || 0xDFFF < n then return (Char.ofNat n, rest)
  match rest with
  | [] => throw .endInString
  | '\\' :: [] => throw .endInString
  | '\\' :: 'u' :: rest =>
    let (m, rest) ← codeUnit rest
    if m < 0xDC00 || 0xDFFF < m then throw .loneSurrogate
    return (Char.ofNat (0x10000 + (n - 0xD800) * 0x400 + (m - 0xDC00)), rest)
  | _ => throw .endOfHexEscape

def escapeChar : List Char → Except Fault (Char × List Char)
  | [] => .error .endInString
  | '"' :: rest => .ok ('"', rest)
  | '\\' :: rest => .ok ('\\', rest)
  | '/' :: rest => .ok ('/', rest)
  | 'b' :: rest => .ok ('\x08', rest)
  | 'f' :: rest => .ok ('\x0C', rest)
  | 'n' :: rest => .ok ('\n', rest)
  | 'r' :: rest => .ok ('\r', rest)
  | 't' :: rest => .ok ('\t', rest)
  | 'u' :: rest => unitEscape rest
  | _ => .error .badEscape

/-- The rest of a string, from behind its opening quote on. The number bounds its characters. -/
def stringChars : Nat → List Char → List Char → Except Fault (List Char × List Char)
  | 0, _, _ => .error .endInString
  | _, _, [] => .error .endInString
  | fuel + 1, done, c :: rest =>
    if c = '"' then .ok (done.reverse, rest)
    else if c = '\\' then
      match escapeChar rest with
      | .ok (x, rest) => stringChars fuel (x :: done) rest
      | .error fault => .error fault
    else if c.toNat < 0x20 then .error .controlCharacter
    else stringChars fuel (c :: done) rest

def stringRest : Scan String := fun cs =>
  match stringChars (cs.length + 1) [] cs with
  | .ok (s, rest) => .ok (String.ofList s, rest)
  | .error fault => .error fault

inductive Numeral where
  | integer (n : Int)
  | decimal (d : Decimal)
  deriving DecidableEq, Repr

/-- Digits read on behind others: their value as far as it fits into 64 bits, how many of them that
takes in, how many it leaves out, and what follows. -/
def digits : Nat → Nat → Nat → List Char → Nat × Nat × Nat × List Char
  | value, taken, leftOut, c :: rest =>
    if c.isDigit then
      let next := value * 10 + (c.toNat - 48)
      if leftOut = 0 && next < UInt64.size then digits next (taken + 1) 0 rest
      else digits value taken (leftOut + 1) rest
    else (value, taken, leftOut, c :: rest)
  | value, taken, leftOut, [] => (value, taken, leftOut, [])

def inRange (d : Decimal) (rest : List Char) : Except Fault (Numeral × List Char) :=
  match d.magnitude? with
  | some _ => .ok (.decimal d, rest)
  | none => .error .numberOutOfRange

def exponent (negative : Bool) (significand : Nat) (start : Int) (cs : List Char) :
    Except Fault (Numeral × List Char) :=
  let (down, cs) := match cs with
    | '+' :: rest => (false, rest)
    | '-' :: rest => (true, rest)
    | _ => (false, cs)
  match cs with
  | [] => .error .endInValue
  | c :: _ =>
    if !c.isDigit then .error .badNumber
    else
      let ds := cs.takeWhile Char.isDigit
      let rest := cs.dropWhile Char.isDigit
      let n : Nat := ds.foldl (fun n c => n * 10 + (c.toNat - 48)) 0
      if Nat.pow 2 31 ≤ n then
        if significand != 0 && !down then .error .numberOutOfRange
        else .ok (.decimal ⟨negative, 0, 0⟩, rest)
      else inRange ⟨negative, significand, if down then start - n else start + n⟩ rest

def fraction (negative : Bool) (significand : Nat) (start : Int) (cs : List Char) :
    Except Fault (Numeral × List Char) :=
  let (value, taken, leftOut, rest) := digits significand 0 0 cs
  if taken + leftOut = 0 then
    if rest.isEmpty then .error .endInValue else .error .badNumber
  else
    let power := start - taken
    match rest with
    | 'e' :: more | 'E' :: more => exponent negative value power more
    | _ => inRange ⟨negative, value, power⟩ rest

def unsigned (negative : Bool) (cs : List Char) : Except Fault (Numeral × List Char) :=
  match cs with
  | [] => .error .endInValue
  | '0' :: c :: rest =>
    if c.isDigit then .error .badNumber else whole 0 0 (c :: rest)
  | '0' :: [] => whole 0 0 []
  | c :: _ =>
    if !c.isDigit then .error .badNumber
    else
      let (value, _, leftOut, rest) := digits 0 0 0 cs
      whole value leftOut rest
where
  whole (value leftOut : Nat) (rest : List Char) : Except Fault (Numeral × List Char) :=
    match rest with
    | '.' :: more => fraction negative value leftOut more
    | 'e' :: more | 'E' :: more => exponent negative value leftOut more
    | _ =>
      if 0 < leftOut then inRange ⟨negative, value, leftOut⟩ rest
      else if !negative then .ok (.integer value, rest)
      else if value = 0 || Nat.pow 2 63 < value then .ok (.decimal ⟨true, value, 0⟩, rest)
      else .ok (.integer (-value), rest)

def number (negative : Bool) : Scan Numeral := fun cs => unsigned negative cs

def anotherItem (first : Bool) : Scan Bool := do
  match ← peek? with
  | some ']' => return false
  | some ',' =>
    if first then return true
    drop
    match ← peek? with
    | some ']' => stop .trailingComma
    | none => stop .endInValue
    | some _ => return true
  | some _ => if first then return true else stop .expectedListEnd
  | none => stop .endInList

def anotherName? (first : Bool) : Scan (Option String) := do
  match ← peek? with
  | some '\x7d' => return none
  | some ',' =>
    if first then stop .keyNotString
    drop
    match ← peek? with
    | some '"' => name
    | some '\x7d' => stop .trailingComma
    | some _ => stop .keyNotString
    | none => stop .endInValue
  | some c =>
    if !first then stop .expectedObjectEnd
    else if c = '"' then name
    else stop .keyNotString
  | none => stop .endInObject
where
  name : Scan (Option String) := do
    drop
    return some (← stringRest)

def colon : Scan Unit := do
  match ← peek? with
  | some ':' => drop
  | some _ => stop .expectedColon
  | none => stop .endInObject

def listEnd : Scan Unit := do
  match ← peek? with
  | some ']' => drop
  | some ',' =>
    drop
    match ← peek? with
    | some ']' => stop .trailingComma
    | _ => stop .trailingCharacters
  | some _ => stop .trailingCharacters
  | none => stop .endInList

def objectEnd : Scan Unit := do
  match ← peek? with
  | some '\x7d' => drop
  | some ',' => stop .trailingComma
  | some _ => stop .trailingCharacters
  | none => stop .endInObject

def textEnd : Scan Unit := do
  match ← peek? with
  | some _ => stop .trailingCharacters
  | none => return

def items {α : Type} (item : Scan α) : Nat → List α → Scan (List α)
  | 0, _ => stop .endInList
  | fuel + 1, done => do
    if ← anotherItem done.isEmpty then
      let x ← item
      items item fuel (x :: done)
    else return done.reverse

def members {α : Type} (value : Scan α) : Nat → List (String × α) → Scan (List (String × α))
  | 0, _ => stop .endInObject
  | fuel + 1, done => do
    match ← anotherName? done.isEmpty with
    | some name =>
      colon
      let x ← value
      members value fuel ((name, x) :: done)
    | none => return done.reverse

def value : Nat → Scan Json
  | 0 => stop .tooDeep
  | depth + 1 => do
    match ← peek? with
    | none => stop .endInValue
    | some 'n' => drop; word ['u', 'l', 'l']; return .null
    | some 't' => drop; word ['r', 'u', 'e']; return .bool true
    | some 'f' => drop; word ['a', 'l', 's', 'e']; return .bool false
    | some '-' => drop; return ofNumeral (← number true)
    | some '"' => drop; return .string (← stringRest)
    | some '[' =>
      drop
      if depth = 0 then stop .tooDeep
      let list ← items (value depth) ((← get).length + 1) []
      listEnd
      return .array list
    | some '\x7b' =>
      drop
      if depth = 0 then stop .tooDeep
      let list ← members (value depth) ((← get).length + 1) []
      objectEnd
      return .ofMembers list
    | some c => if c.isDigit then return ofNumeral (← number false) else stop .expectedValue
where
  ofNumeral : Numeral → Json
    | .integer n => .integer n
    | .decimal d => .decimal d

end Scan

/-- Arrays and objects may be nested less deep than this. -/
def depthLimit : Nat := 128

def ofText (s : String) : Except Fault Json := do
  let step : Scan Json := do
    let v ← Scan.value depthLimit
    Scan.textEnd
    return v
  return (← step.run s.toList).1

end ScriptBundle.Json
