import ScriptBundle.Path

/-! # Roots

A configured search path may name the application root and the web root by placeholders. Each stands for
its directory with a slash behind it; what it expands to is not searched for placeholders again.
-/

namespace ScriptBundle

structure Roots where
  app : Path
  webroot : Path
  deriving DecidableEq, Repr, Inhabited

inductive SearchPiece where
  | char (c : Char)
  | app
  | webroot
  deriving DecidableEq, Repr

namespace SearchPiece

/-- Cuts a search path at its placeholders, from the left. -/
def ofChars : List Char → List SearchPiece
  | 'W' :: 'E' :: 'B' :: 'R' :: 'O' :: 'O' :: 'T' :: rest => webroot :: ofChars rest
  | 'A' :: 'P' :: 'P' :: rest => app :: ofChars rest
  | c :: rest => char c :: ofChars rest
  | [] => []

end SearchPiece

namespace Roots

def ofApp (app : Path) : Roots := ⟨app, app.join ⟨"webroot"⟩⟩

def withWebroot (r : Roots) (webroot : Path) : Roots := { r with webroot }

/-- What a placeholder expands to: the directory, ending in a slash. -/
def expansion (dir : Path) : List Char :=
  let cs := dir.normalText.toList
  if cs.getLast? == some '/' then cs else cs ++ ['/']

def expand (r : Roots) : SearchPiece → List Char
  | .char c => [c]
  | .app => expansion r.app
  | .webroot => expansion r.webroot

/-- The directory that a configured search path names. -/
def substitute (r : Roots) (searchPath : String) : Path :=
  (Path.mk (String.ofList ((SearchPiece.ofChars searchPath.toList).flatMap r.expand))).normal

end Roots

end ScriptBundle
