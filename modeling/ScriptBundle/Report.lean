import ScriptBundle.Report.Item

/-! # Reports

A report is a list of items. It is written as one value per line, as one array, as a list to read, or as
bare paths.
-/

namespace ScriptBundle

abbrev Report := List Item

inductive ReportFormat where
  | jsonl
  | json
  | markdown
  | raw
  deriving DecidableEq, Repr, Inhabited

namespace ReportFormat

def ofName? (name : String) : Option ReportFormat :=
  match lowercaseText name with
  | "jsonl" => some jsonl
  | "json" => some json
  | "md" | "markdown" => some markdown
  | "raw" => some raw
  | _ => none

def unknownMessage (name : String) : String := "Unknown format: " ++ name

end ReportFormat

/-- How an item counts as nested: by the depth among its facts, if that is a number of 64 bits. -/
def Item.depth (i : Item) : Nat :=
  match i.data.bind (Json.get? "depth") with
  | some (.integer n) => if 0 ≤ n ∧ n < UInt64.size then n.toNat else 0
  | _ => 0

namespace Report

/-- The report in the order of the paths. Items of one path stay in their order. -/
def sorted (r : Report) : Report := r.mergeSort fun a b => a.path ≤ b.path

def codeText (path : String) : String := "\x60" ++ path ++ "\x60"

/-- A dependency in a list to read: its number, indented by its depth, and the line that asks for it. -/
def dependencyLine (number : Nat) (i : Item) : String :=
  let line := match i.range with
    | some r => " (line " ++ toString r.first.toNat ++ ")"
    | none => ""
  "".pushn ' ' (2 * i.depth) ++ toString number ++ ". " ++ codeText i.path ++ line ++ "\n"

def fileLine (i : Item) : String :=
  let size := match i.facts.size with
    | some n => " (" ++ toString n.toNat ++ " bytes)"
    | none => ""
  "- " ++ codeText i.path ++ size ++ "\n"

def part (title : String) (lines : List String) : String :=
  if lines.isEmpty then "" else "## " ++ title ++ "\n\n" ++ String.join lines ++ "\n"

def markdownText (r : Report) : String :=
  let dependencies := r.filter (·.kind == .dependency)
  let files := r.filter (·.kind == .file)
  part "Dependencies" (dependencies.mapIdx fun n i => dependencyLine (n + 1) i) ++
    part "Files" (files.map fileLine)

def itemGap : Json.Layout → String
  | .compact => "\n"
  | .pretty => "\n\n"

def text (r : Report) (layout : Json.Layout) : ReportFormat → String
  | .jsonl => (itemGap layout).intercalate (r.map fun i => i.toJson.text layout)
  | .json => (Json.array (r.map Item.toJson)).text layout
  | .markdown => markdownText r
  | .raw => "\n".intercalate (r.map (·.path))

end Report

end ScriptBundle
