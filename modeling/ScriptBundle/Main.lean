import ScriptBundle.CommandLine
import ScriptBundle.Lookups

/-! # The program

The outer layer: it looks up what a request asks for in the file system, hands that part of the tree to
the library, carries out the changes that the answer brings, and prints the rest.
-/

namespace ScriptBundle.Outer

def version : String := "jsfold 0.1.0"

def usage : String :=
  "Usage: jsfold [OPTIONS] COMMAND\n\n" ++
  "Commands:\n" ++
  "  build ENTRY [-o FILE]       expand an entry file into one script\n" ++
  "  deps ENTRY [--hash ALGO]    list the files of a bundle\n" ++
  "  resolve NAME [--from FILE]  resolve a logical name\n" ++
  "  index                       list the files of the search directories\n\n" ++
  "Options: --root DIR, --config FILE, --search-path DIR, --strip-comments,\n" ++
  "  --format jsonl|json|md|raw, --pretty, --no-color, -q, -v\n"

def danglingLink : FileNode := .link ⟨"/\x00"⟩

def locationOf (p : Path) : Location := p.segments.filter (· != [])

def milliseconds (t : IO.FS.SystemTime) : Int := t.sec * 1000 + t.nsec.toNat / 1000000

abbrev Look := StateT Workspace IO

def nodeAt? (l : Location) : IO (Option (FileNode × FileStat)) := do
  let file := (← IO.currentDir) / toString l.path
  try
    let data ← file.symlinkMetadata
    let stat : FileStat := ⟨milliseconds data.modified, data.byteSize.toNat⟩
    match data.type with
    | .dir => return some (.directory, stat)
    | .file => return some (.file (← IO.FS.readBinFile file).toList stat.modified, stat)
    | .symlink =>
      try return some (.link ⟨(← IO.FS.realPath file).toString⟩, stat)
      catch _ => return some (danglingLink, stat)
    | .other => return some (.device, stat)
  catch _ => return none

def observe (l : Location) : Look (Option FileNode) := do
  let w ← get
  match w.tree.node? l with
  | some n => return some n
  | none =>
    match ← nodeAt? l with
    | some (n, stat) =>
      set { w with tree := w.tree.put l n, stats := (l, stat) :: w.stats }
      return some n
    | none => return none

/-- Looks up all locations on the way from one of them along names, and gives the last one. -/
partial def pursue (l : Location) : List RawText → Look (Option Location)
  | [] => return some l
  | s :: rest => do
    if Path.Cut.isIdle s then pursue l rest
    else if s = ".." then pursue l.dropLast rest
    else
      match ← observe (l ++ [s]) with
      | none => return none
      | some (.link target) =>
        if (FileNode.link target) == danglingLink then return none
        else
          match ← pursue [] (locationOf target) with
          | some l => pursue l rest
          | none => return none
      | some _ => pursue (l ++ [s]) rest

def lookUp (p : Path) : Look Unit := do
  let here := (← get).here
  match ← pursue (if p.isAbsolute then [] else here) p.segments with
  | none => return
  | some l =>
    if (← get).tree.isDirectoryAt l then
      let names ← try
          pure ((← ((← IO.currentDir) / toString l.path).readDir).map (·.fileName))
        catch _ => pure #[]
      for name in names do
        let _ ← pursue l [name]

/-- Looks up whatever a request asks for, until nothing new is asked for. -/
partial def gather (r : Request) (done : List Path) : Look Unit := do
  let asked := (r.lookups (← get)).filter fun p => !done.contains p
  if asked.isEmpty then return
  asked.forM lookUp
  gather r (asked ++ done)

def carryOut (before after : FileTree) : IO Unit := do
  for (l, n) in after.nodes do
    if before.node? l != some n then
      let file := (← IO.currentDir) / toString l.path
      match n with
      | .directory => IO.FS.createDirAll file
      | .file content _ => IO.FS.writeBinFile file ⟨content.toArray⟩
      | .link _ | .device => pure ()

def answer (r : Request) : IO UInt32 := do
  let here := locationOf ⟨(← IO.FS.realPath (← IO.currentDir)).toString⟩
  let stats := (← nodeAt? []).toList.map fun (_, stat) => ([], stat)
  let ((), w) ← (do lookUp here.path; gather r []).run { here, stats }
  let (result, changed) := r.run w
  carryOut w.tree changed
  match result with
  | .ok text =>
    IO.print text
    return 0
  | .error e =>
    IO.eprintln ("error: " ++ e.message)
    return 1

end ScriptBundle.Outer

def main (words : List String) : IO UInt32 := do
  match ScriptBundle.CommandLine.ofWords words (← IO.getEnv "JSFOLD_CONFIG") with
  | .ok r =>
    try ScriptBundle.Outer.answer r
    catch e =>
      IO.eprintln ("error: " ++ toString e)
      return 1
  | .error .displayVersion =>
    IO.println ScriptBundle.Outer.version
    return 0
  | .error .displayHelp =>
    IO.print ScriptBundle.Outer.usage
    return 0
  | .error fault =>
    IO.eprintln ("error: " ++ fault.message ++ "\n\n" ++ ScriptBundle.Outer.usage)
    return UInt32.ofNat fault.exitCode
