import ScriptBundle.Command

/-! # What a request looks at

The paths that the answer to a request depends on, as far as the known part of a file tree shows them. A
file tree that is known only in part is good enough for an answer once all of these have been looked up.
-/

namespace ScriptBundle

def Directive.candidates (d : Directive) (searchDirs : List Path) (requiring : Path) : List Path :=
  let file : Path := ⟨LogicalName.fileName d.target⟩
  match d.kind with
  | .quoted => [requiring.directory.join file]
  | .angle => searchDirs.map (·.join file)

/-- The paths that the directives of an included file may lead to, for each path it was asked for by. -/
def Inclusion.candidates (p : Preprocessor) (w : Workspace) (searchDirs requiring : List Path)
    (i : Inclusion) : List Path :=
  match w.tree.linesAt i.location with
  | .error _ => []
  | .ok lines =>
    (lines.filterMap p.matcher).flatMap fun d => requiring.flatMap (d.candidates searchDirs)

def Bundle.asked (b : Bundle) (entry : Path) : List Path :=
  entry :: b.inclusions.filterMap fun i => i.origin.map (·.requiredBy)

namespace Preprocessor

def searchDirs (p : Preprocessor) : List Path := p.searchPaths.map p.roots.substitute

def bundleLookups (p : Preprocessor) (w : Workspace) (entry : Path) : List Path :=
  let dirs := p.searchDirs
  let b := (p.walk w none [entry]).1.2
  let files := b.inclusions.map (·.location.path)
  let requiring := b.asked entry ++ files
  entry :: dirs ++ files ++ b.inclusions.flatMap (Inclusion.candidates p w dirs requiring)

end Preprocessor

namespace Request

def commandLookups (r : Request) (w : Workspace) (root : Path) (p : Preprocessor) : List Path :=
  match r.command with
  | .build entry output =>
    p.bundleLookups w (root.join entry) ++ (output.map root.join).toList
  | .deps entry _ => p.bundleLookups w (root.join entry)
  | .resolve name requiring =>
    let file : Path := ⟨LogicalName.fileName name⟩
    match requiring with
    | some f => [(root.join f).directory.join file]
    | none => p.searchDirs ++ p.searchDirs.map (·.join file)
  | .index => p.searchDirs

def lookups (r : Request) (w : Workspace) : List Path :=
  r.root ::
    match w.locate r.root with
    | .error _ => []
    | .ok l =>
      let root := l.path
      root.join (r.config.getD ⟨Settings.fileName⟩) ::
        match r.prepare w root with
        | .error _ => []
        | .ok (_, p) => r.commandLookups w root p

end Request

end ScriptBundle
