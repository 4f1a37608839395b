import ScriptBundle.Settings
import ScriptBundle.Walk

/-! # Preprocessors

A preprocessor is settings that were found usable. It answers requests; the search index is built by the
first request that needs it, on the tree of that moment, and kept from then on. Since an answer may
leave an index behind, each request gives the preprocessor after it.
-/

namespace ScriptBundle

structure Preprocessor where
  searchPaths : List String
  roots : Roots
  matcher : Matcher
  stripper : Option CommentStripper
  carry : Bool
  index : Option SearchIndex := none

/-- The matcher of a directive pattern, which needs a group for the quote and one for the target. -/
def Matcher.ofText (text : String) : Except BundleError Matcher :=
  match Pattern.ofString? text with
  | none => .error (.configuration (.badRequirePattern text))
  | some p => if p.groups < 2 then .error (.configuration (.tooFewGroups text)) else .ok (.ofPattern p)

namespace CommentStripper

def patternOf (part : CommentPart) (text : String) : Except BundleError Pattern :=
  match Pattern.ofString? text with
  | none => .error (.configuration (.badCommentPattern part text))
  | some p => .ok p

def ofPatterns (s : CommentPatterns) : Except BundleError CommentStripper := do
  let inline ← patternOf .inline s.inline
  let blockLine ← patternOf .blockLine s.blockLine
  let blockStart ← patternOf .blockStart s.blockStart
  let blockEnd ← patternOf .blockEnd s.blockEnd
  return { inline, blockLine, blockStart, blockEnd }

end CommentStripper

namespace Preprocessor

/-- Makes settings ready. A web root in the settings is taken from the application root. The comment
patterns are read even where comments are kept, so that a bad one is found early. -/
def ofSettings (s : Settings) (roots : Roots) : Except BundleError Preprocessor := do
  s.validate
  let roots := match s.webroot with
    | some webroot => roots.withWebroot (roots.app.join webroot)
    | none => roots
  let matcher ← Matcher.ofText s.requirePattern
  let stripper ← CommentStripper.ofPatterns s.commentPattern
  return {
    searchPaths := s.searchPaths
    roots
    matcher
    stripper := if s.stripComments then some stripper else none
    carry := s.carryCommentState }

def withMatcher (p : Preprocessor) (matcher : Matcher) : Preprocessor := { p with matcher }

/-- The search index that a request uses: the one that is kept, or the one of the present tree. -/
def indexIn (p : Preprocessor) (w : Workspace) : Except BundleError SearchIndex :=
  match p.index with
  | some index => .ok index
  | none => SearchIndex.build w p.searchPaths p.roots

def keepIndex (p : Preprocessor) (w : Workspace) : Preprocessor :=
  match p.indexIn w with
  | .ok index => { p with index := some index }
  | .error _ => p

def context (p : Preprocessor) (w : Workspace) : WalkContext where
  workspace := w
  resolve := Resolver.resolve w (p.indexIn w)
  matcher := p.matcher
  stripper := p.stripper
  carry := p.carry

def afterWalk (p : Preprocessor) (w : Workspace) (walker : Walker) : Preprocessor :=
  if walker.searched then p.keepIndex w else p

def bundle (p : Preprocessor) (w : Workspace) (entry : Path) :
    Except BundleError Bundle × Preprocessor :=
  let (result, walker) := Walk.process (p.context w) {} entry
  (result.map fun _ => walker.bundle, p.afterWalk w walker)

/-- Walks several entries with one walker; the outcome of each, and what was put out together. -/
def walk (p : Preprocessor) (w : Workspace) (carry : Option Bool) (entries : List Path) :
    (List (Except BundleError Unit) × Bundle) × Preprocessor :=
  let ctx := p.context w
  let (results, walker) := Walk.processAll { ctx with carry := carry.getD ctx.carry } {} entries
  ((results, walker.bundle), p.afterWalk w walker)

def resolve (p : Preprocessor) (w : Workspace) (name : String) (base : Option Path) :
    Except BundleError Resolved × Preprocessor :=
  (Resolver.resolve w (p.indexIn w) name base, if base.isNone then p.keepIndex w else p)

def searchIndex (p : Preprocessor) (w : Workspace) :
    Except BundleError SearchIndex × Preprocessor :=
  (p.indexIn w, p.keepIndex w)

end Preprocessor

def preprocess (w : Workspace) (entry : Path) (s : Settings) (roots : Roots) :
    Except BundleError String := do
  let p ← Preprocessor.ofSettings s roots
  return (← (p.bundle w entry).1).output

end ScriptBundle
