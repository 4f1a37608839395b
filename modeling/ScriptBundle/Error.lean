import ScriptBundle.FileTree.Basic
import ScriptBundle.Json.Scan

/-! # Errors

What can go wrong with settings and with bundling, as causes. All wording is here.
-/

namespace ScriptBundle

inductive CommentPart where
  | inline
  | blockLine
  | blockStart
  | blockEnd
  deriving DecidableEq, Repr, Inhabited

def CommentPart.label : CommentPart → String
  | inline => "inline"
  | blockLine => "blockLine"
  | blockStart => "blockStart"
  | blockEnd => "blockEnd"

inductive SettingsFault where
  | unreadable (path : Path) (cause : FileFault)
  | malformed (cause : Json.Fault)
  | noSearchPath
  | blankSearchPath (entry : String)
  | badRequirePattern (pattern : String)
  | tooFewGroups (pattern : String)
  | badCommentPattern (part : CommentPart) (pattern : String)
  deriving DecidableEq, Repr, Inhabited

def SettingsFault.message : SettingsFault → String
  | unreadable path cause => "cannot read " ++ toString path ++ ": " ++ cause.message
  | malformed cause => "invalid settings: " ++ cause.message
  | noSearchPath => "searchPaths is empty; configure at least one search path"
  | blankSearchPath entry => "searchPaths contains a blank entry: " ++ quoted entry
  | badRequirePattern pattern => "invalid requirePattern " ++ quoted pattern
  | tooFewGroups pattern =>
    "requirePattern " ++ quoted pattern ++ " needs two capture groups (quote, target)"
  | badCommentPattern part pattern =>
    "invalid commentPattern." ++ part.label ++ " " ++ quoted pattern

inductive BundleError where
  | configuration (fault : SettingsFault)
  | directoryNotFound (path : Path)
  | unresolved (name : String) (requiredBy : Option Path)
  | fileRead (path : Path) (cause : FileFault)
  deriving DecidableEq, Repr, Inhabited

namespace BundleError

def message : BundleError → String
  | configuration fault => "configuration error: " ++ fault.message
  | directoryNotFound path => "search path not found: " ++ toString path
  | unresolved name none => "could not locate file for '" ++ name ++ "'"
  | unresolved name (some path) =>
    "could not locate file for '" ++ name ++ "' (required by " ++ toString path ++ ")"
  | fileRead path _ => "failed to read " ++ toString path

def cause? : BundleError → Option String
  | configuration _ | unresolved .. => none
  | directoryNotFound _ => some "not a directory"
  | fileRead _ cause => some cause.message

def chain (e : BundleError) : List String := e.message :: e.cause?.toList

def requiredBy (e : BundleError) (path : Path) : BundleError :=
  match e with
  | unresolved name _ => unresolved name (some path)
  | e => e

end BundleError

end ScriptBundle
