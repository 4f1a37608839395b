import ScriptBundle.Digest.Xxh3
import ScriptBundle.FileTree.Basic
import ScriptBundle.Text.Lowercase

/-! # What is known about a file

The time of its last change, its size and, if asked for, a digest of its content. What cannot be found
out stays empty.
-/

namespace ScriptBundle

inductive HashAlgorithm where
  | xxh3
  | sha1
  deriving DecidableEq, Repr, Inhabited

namespace HashAlgorithm

def label : HashAlgorithm → String
  | xxh3 => "xxh3"
  | sha1 => "sha1"

def all : List HashAlgorithm := [xxh3, sha1]

def ofName? (name : String) : Option HashAlgorithm :=
  all.find? fun a => a.label == lowercaseText name

def unknownMessage (name : String) : String := "Unknown hash algorithm: " ++ name

def digest : HashAlgorithm → Octets → String
  | xxh3 => ScriptBundle.xxh3
  | sha1 => ScriptBundle.sha1

end HashAlgorithm

structure FileMeta where
  /-- The time of the last change in milliseconds; times before the count starts are its start. -/
  modified : Option Int64 := none
  size : Option UInt64 := none
  hash : Option String := none
  deriving DecidableEq, Repr, Inhabited

namespace Workspace

def hash (w : Workspace) (p : Path) (algorithm : HashAlgorithm) : Except FileFault String :=
  (w.read p).map algorithm.digest

def statAt (w : Workspace) (l : Location) : FileNode → FileStat
  | .file content modified => ⟨modified, content.length⟩
  | .directory | .link _ | .device => ((w.stats.find? (·.1 == l)).map (·.2)).getD {}

def stat (w : Workspace) (p : Path) : Except FileFault FileStat := do
  let n ← w.nodeAt? p
  return w.statAt (← w.locate p) n

def fileMeta (w : Workspace) (p : Path) (algorithm : Option HashAlgorithm) : FileMeta :=
  let stat? := (w.stat p).toOption
  { modified := stat?.map fun s => Int64.ofInt (max 0 s.modified)
    size := stat?.map fun s => UInt64.ofNat s.size
    hash := algorithm.bind fun a => (w.hash p a).toOption }

end Workspace

end ScriptBundle
