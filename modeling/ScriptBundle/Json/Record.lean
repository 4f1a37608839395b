import ScriptBundle.Json.Scan

/-! # Reading records

A record is an object with known names, or a list of its values in the order of its fields. It is read
while it is scanned, so the first fault in the text is the one that counts. Fields that are left out keep
the value they start with.
-/

namespace ScriptBundle.Json

namespace Scan

def wrongType {α : Type} (expected : String) : Scan α := do
  match ← peek? with
  | none => stop .endInValue
  | some 'n' => drop; word ['u', 'l', 'l']; stop (.wrongType .null expected)
  | some 't' => drop; word ['r', 'u', 'e']; stop (.wrongType (.bool true) expected)
  | some 'f' => drop; word ['a', 'l', 's', 'e']; stop (.wrongType (.bool false) expected)
  | some '-' => drop; numeral (← number true)
  | some '"' => drop; stop (.wrongType (.string (← stringRest)) expected)
  | some '[' => stop (.wrongType .sequence expected)
  | some '\x7b' => stop (.wrongType .map expected)
  | some c => if c.isDigit then numeral (← number false) else stop .expectedValue
where
  numeral : Numeral → Scan α
    | .integer n => stop (.wrongType (.integer n) expected)
    | .decimal d => stop (.wrongType (.decimal d) expected)

def truth : Scan Bool := do
  match ← peek? with
  | some 't' => drop; word ['r', 'u', 'e']; return true
  | some 'f' => drop; word ['a', 'l', 's', 'e']; return false
  | _ => wrongType "a boolean"

def text (expected : String) : Scan String := do
  match ← peek? with
  | some '"' => drop; stringRest
  | _ => wrongType expected

def optionalText (expected : String) : Scan (Option String) := do
  match ← peek? with
  | some 'n' => drop; word ['u', 'l', 'l']; return none
  | _ => return some (← text expected)

def list {α : Type} (item : Scan α) : Scan (List α) := do
  match ← peek? with
  | some '[' =>
    drop
    let xs ← items item ((← get).length + 1) []
    listEnd
    return xs
  | _ => wrongType "a sequence"

end Scan

structure Field (α : Type) where
  name : String
  read : α → Scan α

structure Shape (α : Type) where
  title : String
  fields : List (Field α)

namespace Shape

variable {α : Type}

def readList : List (Field α) → Bool → α → Scan α
  | [], _, record => return record
  | field :: rest, first, record => do
    if ← Scan.anotherItem first then readList rest false (← field.read record)
    else return record

def readMembers (shape : Shape α) : Nat → List String → α → Scan α
  | 0, _, _ => Scan.stop .endInObject
  | fuel + 1, seen, record => do
    match ← Scan.anotherName? seen.isEmpty with
    | none => return record
    | some name =>
      match shape.fields.find? (·.name == name) with
      | none => Scan.stop (.unknownField name (shape.fields.map (·.name)))
      | some field =>
        if seen.contains name then Scan.stop (.duplicateField name)
        Scan.colon
        shape.readMembers fuel (name :: seen) (← field.read record)

def read (shape : Shape α) (start : α) : Scan α := do
  match ← Scan.peek? with
  | some '[' =>
    Scan.drop
    let record ← readList shape.fields true start
    Scan.listEnd
    return record
  | some '\x7b' =>
    Scan.drop
    let record ← shape.readMembers ((← get).length + 1) [] start
    Scan.objectEnd
    return record
  | _ => Scan.wrongType shape.title

def ofText (shape : Shape α) (start : α) (s : String) : Except Fault α := do
  let step : Scan α := do
    let record ← shape.read start
    Scan.textEnd
    return record
  return (← step.run s.toList).1

end Shape

end ScriptBundle.Json
