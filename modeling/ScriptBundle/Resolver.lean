import ScriptBundle.Directive
import ScriptBundle.LogicalName
import ScriptBundle.SearchIndex

/-! # Resolving logical names

A quoted name is looked for beside the requiring file, without a check that it is there; a name in
angles is looked for along the search directories, where the first hit counts.
-/

namespace ScriptBundle

inductive SourceMode where
  | entry
  | relative
  | searchPath
  | index
  deriving DecidableEq, Repr, Inhabited

structure Resolved where
  path : Path
  mode : SourceMode
  deriving DecidableEq, Repr, Inhabited

namespace Resolver

def offer? (w : Workspace) (file : String) (d : IndexedDir) : Option Path :=
  let path := d.dir.join ⟨file⟩
  if d.contains file || (file.toList.contains '/' && w.isFile path) then some path else none

def search (w : Workspace) (index : SearchIndex) (name : String) : Except BundleError Resolved :=
  match index.findSome? (offer? w (LogicalName.fileName name)) with
  | some path => .ok ⟨path, .searchPath⟩
  | none => .error (.unresolved name none)

def beside (name : String) (dir : Path) : Resolved :=
  ⟨dir.join ⟨LogicalName.fileName name⟩, .relative⟩

def resolve (w : Workspace) (index : Except BundleError SearchIndex) (name : String) :
    Option Path → Except BundleError Resolved
  | some dir => .ok (beside name dir)
  | none => index.bind fun i => search w i name

end Resolver

end ScriptBundle
