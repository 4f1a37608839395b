import ScriptBundle.Preprocessor
import ScriptBundle.Report

/-! # Listings

The reports of the program: the files of a bundle, the answer about a name, and the files of the search
directories.
-/

namespace ScriptBundle

def Inclusion.item (w : Workspace) (root : Path) (algorithm : Option HashAlgorithm)
    (i : Inclusion) : Item :=
  let path := i.location.path
  let item : Item := {
    kind := .dependency
    path := path.shown root
    mode := .entry
    facts := w.fileMeta path algorithm }
  match i.origin with
  | none => { item with data := some (.ofMembers [("depth", .integer i.depth)]) }
  | some o =>
    { item with
      mode := o.mode
      range := some (.ofLine o.line)
      data := some (.ofMembers [
        ("requested", .string o.directive.target),
        ("quote", .string o.directive.kind.label),
        ("required_by", .string (o.requiredBy.shown root)),
        ("depth", .integer i.depth)]) }

def Bundle.report (w : Workspace) (root : Path) (algorithm : Option HashAlgorithm)
    (b : Bundle) : Report :=
  b.inclusions.map (Inclusion.item w root algorithm)

def Resolved.report (w : Workspace) (root : Path) (name : String) (r : Resolved) : Report :=
  [{ kind := .dependency
     path := r.path.shown root
     mode := r.mode
     facts := w.fileMeta r.path none
     data := some (.ofMembers [
      ("requested", .string name),
      ("filename", .string (LogicalName.fileName name)),
      ("exists", .bool (w.isFile r.path))]) }]

namespace SearchIndex

def items (w : Workspace) (root : Path) (d : IndexedDir) : Report :=
  d.files.map fun (file : String) =>
    let path := d.dir.join ⟨file⟩
    { kind := .file, path := path.shown root, mode := .index, facts := w.fileMeta path none }

def report (w : Workspace) (searchPaths : List String) (roots : Roots) :
    Except BundleError Report := do
  let index ← build w searchPaths roots
  return Report.sorted (index.flatMap (items w roots.app))

end SearchIndex

end ScriptBundle
