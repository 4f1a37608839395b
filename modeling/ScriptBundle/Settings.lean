import ScriptBundle.Error
import ScriptBundle.Json.Record
import ScriptBundle.Text.Blank

/-! # Settings

Where scripts are looked for, what counts as a directive and as a comment, and whether comments are
stripped. Settings come from a JSON file, with values from the command line laid over them.
-/

namespace ScriptBundle

structure CommentPatterns where
  inline : String := "^\\s*//"
  blockLine : String := "^\\s*/\\*+.*\\*+/"
  blockStart : String := "^\\s*/\\*+([^!]|$)"
  blockEnd : String := "\\*+/"
  deriving DecidableEq, Repr, Inhabited

structure Settings where
  stripComments : Bool := false
  searchPaths : List String := []
  requirePattern : String := "^\\s*//=\\s+require\\s+([\"<])([^\">]+)[\">]"
  commentPattern : CommentPatterns := {}
  carryCommentState : Bool := false
  webroot : Option Path := none
  deriving DecidableEq, Repr, Inhabited

structure Overrides where
  searchPaths : List String := []
  stripComments : Bool := false
  deriving DecidableEq, Repr, Inhabited

namespace CommentPatterns

def shape : Json.Shape CommentPatterns where
  title := "struct CommentPattern"
  fields := [
    ⟨"inline", fun s => return { s with inline := ← Json.Scan.text "a string" }⟩,
    ⟨"blockLine", fun s => return { s with blockLine := ← Json.Scan.text "a string" }⟩,
    ⟨"blockStart", fun s => return { s with blockStart := ← Json.Scan.text "a string" }⟩,
    ⟨"blockEnd", fun s => return { s with blockEnd := ← Json.Scan.text "a string" }⟩]

def toJson (s : CommentPatterns) : Json :=
  .object [
    ("inline", .string s.inline),
    ("blockLine", .string s.blockLine),
    ("blockStart", .string s.blockStart),
    ("blockEnd", .string s.blockEnd)]

end CommentPatterns

namespace Settings

def fileName : String := "jsfold.json"

def shape : Json.Shape Settings where
  title := "struct Settings"
  fields := [
    ⟨"stripComments", fun s => return { s with stripComments := ← Json.Scan.truth }⟩,
    ⟨"searchPaths", fun s =>
      return { s with searchPaths := ← Json.Scan.list (Json.Scan.text "a string") }⟩,
    ⟨"requirePattern", fun s => return { s with requirePattern := ← Json.Scan.text "a string" }⟩,
    ⟨"commentPattern", fun s =>
      return { s with commentPattern := ← CommentPatterns.shape.read {} }⟩,
    ⟨"carryCommentState", fun s => return { s with carryCommentState := ← Json.Scan.truth }⟩,
    ⟨"webroot", fun s =>
      return { s with webroot := (← Json.Scan.optionalText "path string").map fun text => ⟨text⟩ }⟩]

/-- Settings as a value; an absent web root is left out. One that is not UTF-8 cannot be written. -/
def toJson? (s : Settings) : Option Json := do
  let webroot ← s.webroot.mapM (·.text.text?)
  return .object ([
    ("stripComments", .bool s.stripComments),
    ("searchPaths", .array (s.searchPaths.map .string)),
    ("requirePattern", .string s.requirePattern),
    ("commentPattern", s.commentPattern.toJson),
    ("carryCommentState", .bool s.carryCommentState)] ++
    webroot.toList.map fun text => ("webroot", .string text))

def ofText (text : String) : Except BundleError Settings :=
  match shape.ofText {} text with
  | .ok s => .ok s
  | .error fault => .error (.configuration (.malformed fault))

def ofFile (w : Workspace) (path : Path) : Except BundleError Settings :=
  match w.readText path with
  | .ok text => ofText text
  | .error fault => .error (.configuration (.unreadable path fault))

/-- Settings with the values of the command line: search paths replace those of the file, and stripping
can be turned on only. -/
def apply (s : Settings) (o : Overrides) : Settings :=
  { s with
    searchPaths := if o.searchPaths.isEmpty then s.searchPaths else o.searchPaths
    stripComments := s.stripComments || o.stripComments }

def isBlankEntry (entry : String) : Bool := (trim entry.toList).isEmpty

def validate (s : Settings) : Except BundleError Unit :=
  if s.searchPaths.isEmpty then .error (.configuration .noSearchPath)
  else
    match s.searchPaths.find? isBlankEntry with
    | some entry => .error (.configuration (.blankSearchPath entry))
    | none => .ok ()

/-- The settings for a root: from the given file, else from the settings file under the root, else the
default ones; with the values of the command line, and checked. -/
def load (w : Workspace) (root : Path) (config : Option Path) (o : Overrides) :
    Except BundleError Settings := do
  let base ← match config with
    | some path => ofFile w path
    | none =>
      let path := root.join ⟨fileName⟩
      if w.isFile path then ofFile w path else pure {}
  let s := base.apply o
  s.validate
  return s

end Settings

end ScriptBundle
