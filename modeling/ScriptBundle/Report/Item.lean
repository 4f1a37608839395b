import ScriptBundle.FileMeta
import ScriptBundle.Json.Basic
import ScriptBundle.Resolver

/-! # Report items

A report lists files: those that a bundle is made of, the answer to a question about a name, or all
files of the search directories. An item can be written as a value and read back.
-/

namespace ScriptBundle

inductive ItemKind where
  | file
  /-- A file of a bundle, or the answer about a name. -/
  | dependency
  deriving DecidableEq, Repr, Inhabited

structure LineRange where
  first : UInt32
  last : UInt32
  deriving DecidableEq, Repr, Inhabited

def LineRange.ofLine (n : UInt32) : LineRange := ⟨n, n⟩

structure Item where
  kind : ItemKind
  path : String
  range : Option LineRange := none
  data : Option Json := none
  mode : SourceMode
  facts : FileMeta := {}
  deriving Repr, Inhabited

def ItemKind.label : ItemKind → String
  | file => "file"
  | dependency => "dependency"

def ItemKind.all : List ItemKind := [file, dependency]

def SourceMode.label : SourceMode → String
  | entry => "entry"
  | relative => "relative"
  | searchPath => "search_path"
  | index => "index"

def SourceMode.all : List SourceMode := [entry, relative, searchPath, index]

namespace Json

def member? (name : String) (value : Option Json) : List (String × Json) :=
  value.toList.map fun v => (name, v)

/-- The values of named parts: the members of an object, or the items of an array as long as the names.
A member that is not there counts as null; others than the named ones are passed over. -/
def parts? (names : List String) : Json → Option (List Json)
  | v@(object _) => some (names.map fun n => (v.get? n).getD null)
  | array items => if items.length = names.length then some items else none
  | _ => none

def asString? : Json → Option String
  | string s => some s
  | _ => none

def asInteger? (low high : Int) : Json → Option Int
  | integer n => if low ≤ n ∧ n ≤ high then some n else none
  | _ => none

def asOptional? {α : Type} (read : Json → Option α) : Json → Option (Option α)
  | null => some none
  | v => (read v).map some

/-- A name out of several: a string, or the only member of an object, with null for its value. -/
def asName? : Json → Option String
  | string s => some s
  | object [(s, null)] => some s
  | _ => none

def asChoice? {α : Type} (all : List α) (label : α → String) (v : Json) : Option α :=
  v.asName?.bind fun s => all.find? fun a => label a == s

end Json

namespace LineRange

def toJson (r : LineRange) : Json :=
  .object [("start", .integer r.first.toNat), ("end", .integer r.last.toNat)]

def ofJson? (v : Json) : Option LineRange := do
  let [first, last] ← v.parts? ["start", "end"] | none
  let first ← first.asInteger? 0 (UInt32.size - 1)
  let last ← last.asInteger? 0 (UInt32.size - 1)
  return ⟨UInt32.ofNat first.toNat, UInt32.ofNat last.toNat⟩

end LineRange

namespace FileMeta

def toJson (m : FileMeta) : Json :=
  .object (
    Json.member? "mtime_ms" (m.modified.map fun n => .integer n.toInt) ++
    Json.member? "size" (m.size.map fun n => .integer n.toNat) ++
    Json.member? "hash" (m.hash.map .string))

def ofJson? (v : Json) : Option FileMeta := do
  let [modified, size, hash] ← v.parts? ["mtime_ms", "size", "hash"] | none
  let modified ← modified.asOptional? (Json.asInteger? Int64.minValue.toInt Int64.maxValue.toInt)
  let size ← size.asOptional? (Json.asInteger? 0 (UInt64.size - 1))
  let hash ← hash.asOptional? Json.asString?
  return ⟨modified.map Int64.ofInt, size.map fun n => UInt64.ofNat n.toNat, hash⟩

end FileMeta

namespace Item

def toJson (i : Item) : Json :=
  .object (
    [("kind", .string i.kind.label), ("path", .string i.path)] ++
    Json.member? "range" (i.range.map LineRange.toJson) ++
    Json.member? "data" i.data ++
    [("source_mode", .string i.mode.label), ("meta", i.facts.toJson)])

def ofJson? (v : Json) : Option Item := do
  let [kind, path, range, data, mode, facts] ←
    v.parts? ["kind", "path", "range", "data", "source_mode", "meta"] | none
  let kind ← kind.asChoice? ItemKind.all ItemKind.label
  let path ← path.asString?
  let range ← range.asOptional? LineRange.ofJson?
  let data ← data.asOptional? some
  let mode ← mode.asChoice? SourceMode.all SourceMode.label
  let facts ← FileMeta.ofJson? facts
  return { kind, path, range, data, mode, facts }

end Item

end ScriptBundle
