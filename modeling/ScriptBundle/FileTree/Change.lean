import ScriptBundle.FileTree.Basic

/-! # Changing file trees

Creating directories, writing files and removing things. An operation gives its outcome and the tree
after it; a failed one leaves behind what it had done before it failed.
-/

namespace ScriptBundle

abbrev Changed := Except FileFault Unit × FileTree

namespace Workspace

def withTree (w : Workspace) (t : FileTree) : Workspace := { w with tree := t }

def trimmedSegments (p : Path) : List RawText := (p.segments.reverse.dropWhile List.isEmpty).reverse

def locateNames (w : Workspace) (p : Path) (names : List RawText) : Except FileFault Location := do
  match ← w.tree.follow FileTree.linkLimit (if p.isAbsolute then [] else w.here) names with
  | .found l => if w.tree.isDirectoryAt l then return l else throw .notDirectory
  | .vacant .. => throw .missing

def checkPath (p : Path) : Except FileFault Unit :=
  if p.text = [] then .error .missing
  else if p.text.contains 0 then .error .nulInName
  else if FileTree.pathLimit < p.text.length then .error .nameTooLong
  else .ok ()

/-- The free place that a new directory at a path would take. A link takes its place like anything
else, wherever it leads. -/
def vacancy (w : Workspace) (p : Path) : Except FileFault Location := do
  checkPath p
  match (trimmedSegments p).reverse with
  | [] => throw .present
  | last :: outer =>
    let l ← w.locateNames p outer.reverse
    if last = "." || last = ".." then throw .present
    if FileTree.nameLimit < last.length then throw .nameTooLong
    if (w.tree.node? (l ++ [last])).isSome then throw .present
    return l ++ [last]

def makeDirectory (w : Workspace) (p : Path) : Changed :=
  match w.vacancy p with
  | .ok l => (.ok (), w.tree.put l .directory)
  | .error fault => (.error fault, w.tree)

def ensureDirectory (w : Workspace) (p : Path) : Changed :=
  match w.makeDirectory p with
  | (.ok (), t) => (.ok (), t)
  | (.error fault, t) => (if w.isDirectory p then .ok () else .error fault, t)

/-- Creates a directory and those above it, going up at most the given number of levels. -/
def makeDirectoriesWithin : Nat → Workspace → Path → Changed
  | 0, w, _ => (.error .noAncestor, w.tree)
  | fuel + 1, w, p =>
    if p.text = [] then (.ok (), w.tree)
    else
      match w.ensureDirectory p with
      | (.error .missing, _) =>
        match p.parent? with
        | none => (.error .noAncestor, w.tree)
        | some outer =>
          match makeDirectoriesWithin fuel w outer with
          | (.ok (), t) => (w.withTree t).ensureDirectory p
          | (.error fault, t) => (.error fault, t)
      | result => result

def makeDirectories (w : Workspace) (p : Path) : Changed :=
  makeDirectoriesWithin (p.text.length + 1) w p

/-- The location of the file that writing to a path fills: one that is there, or a free name. -/
def writingPlace (w : Workspace) (p : Path) : Except FileFault Location := do
  checkPath p
  if p.text.getLast? == some slash then
    let _ ← w.locateNames p (trimmedSegments p).dropLast
    throw .isDirectory
  match ← w.arrive p with
  | .vacant l name => return l ++ [name]
  | .found l => if w.tree.isDirectoryAt l then throw .isDirectory else return l

def write (w : Workspace) (p : Path) (content : Octets) : Changed :=
  match w.writingPlace p with
  | .error fault => (.error fault, w.tree)
  | .ok l =>
    if w.tree.node? l == some .device then (.ok (), w.tree)
    else (.ok (), w.tree.put l (.file content w.now))

def ownLocation (w : Workspace) (p : Path) : Except FileFault Location := do
  checkPath p
  match (trimmedSegments p).reverse with
  | [] => return []
  | last :: outer =>
    if last = "." || last = ".." then w.locate p
    else
      let l ← w.locateNames p outer.reverse
      if (w.tree.node? (l ++ [last])).isSome then return l ++ [last] else throw .missing

def remove (w : Workspace) (p : Path) : Changed :=
  match w.ownLocation p with
  | .ok l => (.ok (), w.tree.erase l)
  | .error fault => (.error fault, w.tree)

def makeLink (w : Workspace) (p target : Path) : Changed :=
  match w.vacancy p with
  | .ok l => (.ok (), w.tree.put l (.link target))
  | .error fault => (.error fault, w.tree)

end Workspace

end ScriptBundle
