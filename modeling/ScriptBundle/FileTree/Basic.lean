import ScriptBundle.Path
import ScriptBundle.Text.Line

/-! # File trees

A file tree maps locations to files, directories, links and devices. A location is a list of names from
the root down; a path leads to a location by way of the links it meets, and at most forty of them. The
module covers what a path leads to; permissions are outside it.
-/

namespace ScriptBundle

/-- A place in a file tree: the names from the root down to it. -/
abbrev Location := List RawText

def Location.path (l : Location) : Path := ⟨slash :: joinNames l⟩

inductive FileNode where
  /-- A file, with the time of its last change in milliseconds. -/
  | file (content : Octets) (modified : Int)
  | directory
  | link (target : Path)
  /-- A device that holds nothing and takes everything. -/
  | device
  deriving DecidableEq, Repr, Inhabited

inductive FileFault where
  | missing
  | present
  | notDirectory
  | isDirectory
  | nameTooLong
  | tooManyLinks
  | nulInName
  | notText
  | noAncestor
  deriving DecidableEq, Repr, Inhabited

def FileFault.message : FileFault → String
  | missing => "No such file or directory (os error 2)"
  | present => "File exists (os error 17)"
  | notDirectory => "Not a directory (os error 20)"
  | isDirectory => "Is a directory (os error 21)"
  | nameTooLong => "File name too long (os error 36)"
  | tooManyLinks => "Too many levels of symbolic links (os error 40)"
  | nulInName => "file name contained an unexpected NUL byte"
  | notText => "stream did not contain valid UTF-8"
  | noAncestor => "failed to create whole tree"

/-- Locations with what stands at them. The root is a directory without being listed. -/
structure FileTree where
  nodes : List (Location × FileNode) := []
  deriving DecidableEq, Repr, Inhabited

namespace FileTree

def all (t : FileTree) : List (Location × FileNode) := ([], .directory) :: t.nodes

def node? (t : FileTree) (l : Location) : Option FileNode :=
  (t.all.find? (·.1 == l)).map (·.2)

def isDirectoryAt (t : FileTree) (l : Location) : Bool := t.node? l == some .directory

def put (t : FileTree) (l : Location) (n : FileNode) : FileTree :=
  if t.nodes.any (·.1 == l) then ⟨t.nodes.map fun e => if e.1 == l then (l, n) else e⟩
  else ⟨t.nodes ++ [(l, n)]⟩

def erase (t : FileTree) (l : Location) : FileTree := ⟨t.nodes.filter fun e => !l.isPrefixOf e.1⟩

def entries (t : FileTree) (l : Location) : List (RawText × FileNode) :=
  t.nodes.filterMap fun e =>
    match e.1.getLast? with
    | some name => if e.1.dropLast == l then some (name, e.2) else none
    | none => none

@[simp] theorem node?_nil (t : FileTree) : t.node? [] = some .directory := by
  simp [node?, all]

theorem node?_put_self {t : FileTree} {l : Location} (n : FileNode) (h : l ≠ []) :
    (t.put l n).node? l = some n := by
  have hroot : (([] : Location) == l) = false := by simpa using Ne.symm h
  simp only [node?, all, List.find?_cons, hroot, put]
  split
  next hany =>
    obtain ⟨e, he, hl⟩ := List.any_eq_true.1 hany
    cases hf : (t.nodes.map fun e => if e.1 == l then (l, n) else e).find? (·.1 == l) with
    | none =>
      exact absurd (List.find?_eq_none.1 hf (l, n) (List.mem_map.2 ⟨e, he, by simp [hl]⟩)) (by simp)
    | some e' =>
      obtain ⟨d, -, rfl⟩ := List.mem_map.1 (List.mem_of_find?_eq_some hf)
      have hd := List.find?_some hf
      by_cases hc : (d.1 == l) = true
      · simp [hc]
      · simp [hc] at hd
  next hany =>
    have hnone : t.nodes.find? (·.1 == l) = none :=
      List.find?_eq_none.2 fun e he hl => hany (List.any_eq_true.2 ⟨e, he, hl⟩)
    simp [List.find?_append, hnone]

theorem node?_put_of_ne {t : FileTree} {l l' : Location} (n : FileNode) (h : l' ≠ l) :
    (t.put l n).node? l' = t.node? l' := by
  have hl : (l == l') = false := by simpa using Ne.symm h
  have key : (put t l n).nodes.find? (·.1 == l') = t.nodes.find? (·.1 == l') := by
    unfold put
    split
    · induction t.nodes with
      | nil => rfl
      | cons e rest ih =>
        by_cases he : e.1 = l
        · simp only [List.map_cons, List.find?_cons, he, beq_self_eq_true, if_true, hl, ih]
        · have he' : (e.1 == l) = false := by simpa using he
          simp only [List.map_cons, List.find?_cons, he', Bool.false_eq_true, if_false, ih]
    · simp [List.find?_append, hl]
  simp only [node?, all, List.find?_cons, key]

/-- A name may not be longer than this many octets. -/
def nameLimit : Nat := 255

/-- A path that is handed on as it is written may not be longer than this many octets. -/
def pathLimit : Nat := 4095

/-- A path may lead through at most this many links. -/
def linkLimit : Nat := 40

/-- Where a path ends before a link is followed: at a location, at a free name of a directory, or at a
link inside a directory, with names still to come. -/
inductive Stop where
  | found (l : Location)
  | vacant (directory : Location) (name : RawText)
  | link (directory : Location) (target : Path) (pending : List RawText)
  deriving DecidableEq, Repr

/-- Goes from a location along names up to the first link. Only a directory can be left, even by a name
that says nothing. -/
def advance (t : FileTree) : Location → List RawText → Except FileFault Stop
  | l, [] => .ok (.found l)
  | l, s :: pending =>
    if !t.isDirectoryAt l then .error .notDirectory
    else if Path.Cut.isIdle s then advance t l pending
    else if s = ".." then advance t l.dropLast pending
    else if nameLimit < s.length then .error .nameTooLong
    else
      match t.node? (l ++ [s]) with
      | none => if pending.isEmpty then .ok (.vacant l s) else .error .missing
      | some (.link target) => .ok (.link l target pending)
      | some _ => advance t (l ++ [s]) pending

inductive Arrival where
  | found (l : Location)
  | vacant (directory : Location) (name : RawText)
  deriving DecidableEq, Repr

def follow (t : FileTree) (links : Nat) (l : Location) (names : List RawText) :
    Except FileFault Arrival :=
  match t.advance l names with
  | .error fault => .error fault
  | .ok (.found l) => .ok (.found l)
  | .ok (.vacant l name) => .ok (.vacant l name)
  | .ok (.link l target pending) =>
    match links with
    | 0 => .error .tooManyLinks
    | n + 1 => follow t n (if target.isAbsolute then [] else l) (target.segments ++ pending)

end FileTree

/-- What the system says about a location: the time of the last change in milliseconds, and the size. -/
structure FileStat where
  modified : Int := 0
  size : Nat := 0
  deriving DecidableEq, Repr, Inhabited

/-- A file tree as a program sees it: with the directory that relative paths start from, the time that
new files get, and what the system says about directories and devices. -/
structure Workspace where
  tree : FileTree := {}
  here : Location := []
  now : Int := 0
  stats : List (Location × FileStat) := []
  deriving DecidableEq, Repr, Inhabited

namespace Workspace

def arrive (w : Workspace) (p : Path) : Except FileFault FileTree.Arrival :=
  if p.text = [] then .error .missing
  else if p.text.contains 0 then .error .nulInName
  else w.tree.follow FileTree.linkLimit (if p.isAbsolute then [] else w.here) p.segments

def locate (w : Workspace) (p : Path) : Except FileFault Location :=
  match w.arrive p with
  | .ok (.found l) => if (w.tree.node? l).isSome then .ok l else .error .missing
  | .ok (.vacant ..) => .error .missing
  | .error fault => .error fault

theorem isSome_node?_of_locate {w : Workspace} {p : Path} {l : Location}
    (h : w.locate p = .ok l) : (w.tree.node? l).isSome = true := by
  unfold locate at h
  split at h
  · split at h
    next hs => simp only [Except.ok.injEq] at h; subst h; exact hs
    next => simp at h
  · simp at h
  · simp at h

def nodeAt? (w : Workspace) (p : Path) : Except FileFault FileNode := do
  if FileTree.pathLimit < p.text.length then throw .nameTooLong
  match w.tree.node? (← w.locate p) with
  | some n => return n
  | none => throw .missing

def isFile (w : Workspace) (p : Path) : Bool :=
  match w.nodeAt? p with
  | .ok (.file ..) => true
  | _ => false

def isDirectory (w : Workspace) (p : Path) : Bool :=
  match w.nodeAt? p with
  | .ok .directory => true
  | _ => false

end Workspace

/-- What reading gives: a directory can be opened, but not read. -/
def FileNode.content : FileNode → Except FileFault Octets
  | .file content _ => .ok content
  | .device => .ok []
  | .directory | .link _ => .error .isDirectory

def Workspace.read (w : Workspace) (p : Path) : Except FileFault Octets := do
  (← w.nodeAt? p).content

def Workspace.readText (w : Workspace) (p : Path) : Except FileFault String := do
  match Utf8.decode? (← w.read p) with
  | some cs => return String.ofList cs
  | none => throw .notText

end ScriptBundle
