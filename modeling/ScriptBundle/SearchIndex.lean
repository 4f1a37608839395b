import ScriptBundle.Error
import ScriptBundle.Roots

/-! # The search index

The files directly inside each search directory, listed once. Search directories are kept in the order
of the settings, each of them once; a link counts as a file, wherever it leads. A name that is not UTF-8
is not listed, so no name that is asked for finds it.
-/

namespace ScriptBundle

structure IndexedDir where
  dir : Path
  files : List String
  deriving DecidableEq, Repr, Inhabited

def IndexedDir.contains (d : IndexedDir) (file : String) : Bool := d.files.contains file

abbrev SearchIndex := List IndexedDir

namespace SearchIndex

/-- Whether what stands below a directory counts as a file of it. -/
def isListed : FileNode → Bool
  | .directory => false
  | .file .. | .link _ | .device => true

/-- The names of the files among the entries of a directory, in ascending order. Those that are not UTF-8
are left out. -/
def fileNames (entries : List (RawText × FileNode)) : List String :=
  ((entries.filter fun e => isListed e.2).filterMap (·.1.text?)).mergeSort (· ≤ ·)

def listFiles (w : Workspace) (dir : Path) : Except BundleError (List String) :=
  match w.isDirectory dir, w.locate dir with
  | true, .ok l => .ok (fileNames (w.tree.entries l))
  | _, _ => .error (.directoryNotFound dir)

def addDir (w : Workspace) (index : SearchIndex) (dir : Path) : Except BundleError SearchIndex := do
  if index.any (·.dir.components == dir.components) then return index
  return index ++ [⟨dir, ← listFiles w dir⟩]

def build (w : Workspace) (searchPaths : List String) (roots : Roots) :
    Except BundleError SearchIndex :=
  (searchPaths.map roots.substitute).foldlM (addDir w) []

end SearchIndex

end ScriptBundle
