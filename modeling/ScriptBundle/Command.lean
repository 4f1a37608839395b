import ScriptBundle.FileTree.Change
import ScriptBundle.Listing

/-! # Commands

What the program does: build a bundle, list what a bundle is made of, resolve a name, or list the search
directories. A request names the root first; all its other paths start from there.
-/

namespace ScriptBundle

inductive CommandError where
  | rootNotFound (root : Path) (cause : FileFault)
  | failed (cause : BundleError)
  | notBundled (entry : Path) (cause : BundleError)
  | notListed (entry : Path) (cause : BundleError)
  | notCreated (directory : Path) (cause : FileFault)
  | notWritten (file : Path) (cause : FileFault)
  deriving DecidableEq, Repr, Inhabited

namespace CommandError

def chain : CommandError → List String
  | rootNotFound root cause => ["Root directory not found: " ++ toString root, cause.message]
  | failed cause => cause.chain
  | notBundled entry cause => ("Failed to bundle " ++ toString entry) :: cause.chain
  | notListed entry cause => ("Failed to resolve dependencies of " ++ toString entry) :: cause.chain
  | notCreated directory cause => ["Failed to create " ++ toString directory, cause.message]
  | notWritten file cause => ["Failed to write " ++ toString file, cause.message]

def message (e : CommandError) : String := ": ".intercalate e.chain

end CommandError

inductive Command where
  | build (entry : Path) (output : Option Path)
  | deps (entry : Path) (algorithm : Option HashAlgorithm)
  | resolve (name : String) (requiring : Option Path)
  | index
  deriving DecidableEq, Repr, Inhabited

structure Request where
  root : Path := ⟨"."⟩
  config : Option Path := none
  overrides : Overrides := {}
  format : ReportFormat := .jsonl
  layout : Json.Layout := .compact
  command : Command
  deriving DecidableEq, Repr, Inhabited

/-- What a request prints, or why it fails, and the file tree after it. -/
abbrev Answered := Except CommandError String × FileTree

def Workspace.store (w : Workspace) (file : Path) (text : String) :
    Except CommandError Unit × FileTree :=
  let directory := file.directory
  let (made, tree) :=
    if directory.text = [] then (.ok (), w.tree) else w.makeDirectories directory
  match made with
  | .error fault => (.error (.notCreated directory fault), tree)
  | .ok () =>
    match (w.withTree tree).write file (textOctets text) with
    | (.error fault, tree) => (.error (.notWritten file fault), tree)
    | (.ok (), tree) => (.ok (), tree)

namespace Preprocessor

def build (p : Preprocessor) (w : Workspace) (entry : Path) (output : Option Path) :
    Answered × Preprocessor :=
  let (result, p) := p.bundle w entry
  match result, output with
  | .error e, _ => ((.error (.notBundled entry e), w.tree), p)
  | .ok b, none => ((.ok b.output, w.tree), p)
  | .ok b, some file =>
    let (stored, tree) := w.store file b.output
    ((stored.map fun _ => "", tree), p)

end Preprocessor

namespace Request

/-- A printed report ends its line. -/
def printed (r : Request) (report : Report) : String := report.text r.layout r.format ++ "\n"

def perform (r : Request) (w : Workspace) (root : Path) (s : Settings) (p : Preprocessor) : Answered :=
  match r.command with
  | .build entry output => (p.build w (root.join entry) (output.map root.join)).1
  | .deps entry algorithm =>
    let entry := root.join entry
    match (p.bundle w entry).1 with
    | .error e => (.error (.notListed entry e), w.tree)
    | .ok b => (.ok (r.printed (b.report w p.roots.app algorithm)), w.tree)
  | .resolve name requiring =>
    match (p.resolve w name (requiring.map fun f => (root.join f).directory)).1 with
    | .error e => (.error (.failed e), w.tree)
    | .ok found => (.ok (r.printed (found.report w p.roots.app name)), w.tree)
  | .index =>
    match SearchIndex.report w s.searchPaths p.roots with
    | .error e => (.error (.failed e), w.tree)
    | .ok report => (.ok (r.printed report), w.tree)

def prepare (r : Request) (w : Workspace) (root : Path) :
    Except BundleError (Settings × Preprocessor) := do
  let s ← Settings.load w root (r.config.map root.join) r.overrides
  return (s, ← Preprocessor.ofSettings s (.ofApp root))

def run (r : Request) (w : Workspace) : Answered :=
  match w.locate r.root with
  | .error fault => (.error (.rootNotFound r.root fault), w.tree)
  | .ok l =>
    match r.prepare w l.path with
    | .error e => (.error (.failed e), w.tree)
    | .ok (s, p) => r.perform w l.path s p

end Request

end ScriptBundle
