import ScriptBundle.Json.Decimal
import ScriptBundle.Text.Utf8

/-! # JSON values

Values of the data format of settings and reports. The members of an object are in the order of their
names; a name put in again replaces its value.
-/

namespace ScriptBundle

inductive Json where
  | null
  | bool (b : Bool)
  | integer (n : Int)
  | decimal (d : Decimal)
  | string (s : String)
  | array (items : List Json)
  | object (members : List (String × Json))
  deriving Repr, Inhabited

namespace Json

def insertMember (name : String) (value : Json) : List (String × Json) → List (String × Json)
  | [] => [(name, value)]
  | (n, v) :: rest =>
    if name < n then (name, value) :: (n, v) :: rest
    else if name = n then (name, value) :: rest
    else (n, v) :: insertMember name value rest

def ofMembers (members : List (String × Json)) : Json :=
  object (members.foldl (fun acc (n, v) => insertMember n v acc) [])

def get? (name : String) : Json → Option Json
  | object members => (members.find? (·.1 == name)).map (·.2)
  | _ => none

def escape (c : Char) : List Char :=
  if c = '"' then ['\\', '"']
  else if c = '\\' then ['\\', '\\']
  else if c = '\x08' then ['\\', 'b']
  else if c = '\x0C' then ['\\', 'f']
  else if c = '\n' then ['\\', 'n']
  else if c = '\r' then ['\\', 'r']
  else if c = '\t' then ['\\', 't']
  else if c.toNat < 0x20 then
    ['\\', 'u', '0', '0', Nat.digitChar (c.toNat / 16), Nat.digitChar (c.toNat % 16)]
  else [c]

def stringText (s : String) : List Char := ['"'] ++ s.toList.flatMap escape ++ ['"']

/-- How the parts of an array or object are set: on one line, or each on a line of its own, indented by
two spaces per level. -/
inductive Layout where
  | compact
  | pretty
  deriving DecidableEq, Repr, Inhabited

namespace Layout

def lineStart : Layout → Nat → List Char
  | compact, _ => []
  | pretty, level => '\n' :: List.replicate (2 * level) ' '

def colon : Layout → List Char
  | compact => [':']
  | pretty => [':', ' ']

end Layout

mutual

def chars (layout : Layout) (level : Nat) : Json → List Char
  | null => "null".toList
  | bool true => "true".toList
  | bool false => "false".toList
  | integer n => (toString n).toList
  | decimal d => d.text.toList
  | string s => stringText s
  | array [] => ['[', ']']
  | array items =>
    ['['] ++ itemsChars layout (level + 1) true items ++ layout.lineStart level ++ [']']
  | object [] => ['\x7b', '\x7d']
  | object members =>
    ['\x7b'] ++ membersChars layout (level + 1) true members ++ layout.lineStart level ++ ['\x7d']

def itemsChars (layout : Layout) (level : Nat) (first : Bool) : List Json → List Char
  | [] => []
  | v :: rest =>
    (if first then [] else [',']) ++ layout.lineStart level ++ chars layout level v ++
      itemsChars layout level false rest

def membersChars (layout : Layout) (level : Nat) (first : Bool) : List (String × Json) → List Char
  | [] => []
  | (n, v) :: rest =>
    (if first then [] else [',']) ++ layout.lineStart level ++ stringText n ++ layout.colon ++
      chars layout level v ++ membersChars layout level false rest

end

def text (layout : Layout) (v : Json) : String := String.ofList (chars layout 0 v)

end Json

end ScriptBundle
