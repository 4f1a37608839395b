import ScriptBundle.Text.Utf8

/-! # Paths

A path is the text it was written as; its meaning is its list of components. Joining keeps the text, so
`js/../js` stays as it is, while comparing, cutting and normalising go by components: repeated slashes
and dots in the middle say nothing. The text of a path need not be UTF-8, but what is shown of it is.
-/

namespace ScriptBundle

def slash : UInt8 := 0x2F

structure Path where
  text : RawText
  deriving DecidableEq, Repr, Inhabited, Hashable

/-- What a path is made of. A dot is a component only where it leads a relative path. -/
inductive Component where
  | root
  | here
  | up
  | name (s : RawText)
  deriving DecidableEq, Repr, Inhabited

/-- The pieces between occurrences of a separator; a list without it is one piece. -/
def splitAtSep {α : Type} [DecidableEq α] (sep : α) : List α → List (List α)
  | [] => [[]]
  | c :: rest =>
    if c = sep then [] :: splitAtSep sep rest
    else
      match splitAtSep sep rest with
      | [] => [[c]]
      | piece :: more => (c :: piece) :: more

def joinNames (names : List RawText) : RawText := [slash].intercalate names

namespace Component

def text : Component → RawText
  | root => "/"
  | here => "."
  | up => ".."
  | name s => s

def ofSegment? (s : RawText) : Option Component :=
  if s = [] ∨ s = "." then none else if s = ".." then some up else some (name s)

end Component

inductive Lead where
  | root
  | here
  deriving DecidableEq, Repr

namespace Path

instance : ToString Path := ⟨fun p => p.text.lossyText⟩

def isAbsolute (p : Path) : Bool := p.text.head? == some slash

def segments (p : Path) : List RawText := splitAtSep slash p.text

structure Cut where
  lead : Option Lead
  body : List RawText
  deriving DecidableEq, Repr

def cut (p : Path) : Cut :=
  match p.segments with
  | first :: rest =>
    if p.isAbsolute then ⟨some .root, rest⟩
    else if first = "." then ⟨some .here, rest⟩
    else ⟨none, first :: rest⟩
  | [] => ⟨none, []⟩

namespace Cut

def isIdle (s : RawText) : Bool := s == [] || s == "."

def trimBack (body : List RawText) : List RawText := (body.reverse.dropWhile isIdle).reverse

def path (c : Cut) : Path :=
  match c.lead with
  | some .root => ⟨slash :: joinNames c.body⟩
  | some .here => ⟨joinNames ("." :: c.body)⟩
  | none => ⟨joinNames c.body⟩

def components (c : Cut) : List Component :=
  let body := c.body.filterMap Component.ofSegment?
  match c.lead with
  | some .root => .root :: body
  | some .here => .here :: body
  | none => body

def next? (c : Cut) : Option (Component × Cut) :=
  match c.lead with
  | some .root => some (.root, ⟨none, c.body⟩)
  | some .here => some (.here, ⟨none, c.body⟩)
  | none =>
    match c.body.dropWhile isIdle with
    | [] => none
    | s :: rest => (Component.ofSegment? s).map fun x => (x, ⟨none, rest⟩)

def trimmedPath (c : Cut) : Path :=
  match c.lead with
  | some _ => path { c with body := trimBack c.body }
  | none => path { c with body := trimBack (c.body.dropWhile isIdle) }

def after? : Cut → List Component → Option Cut
  | c, [] => some c
  | c, x :: xs =>
    match c.next? with
    | some (y, rest) => if x = y then after? rest xs else none
    | none => none

end Cut

def components (p : Path) : List Component := p.cut.components

def ofComponents : List Component → Path
  | .root :: rest => ⟨slash :: joinNames (rest.map Component.text)⟩
  | list => ⟨joinNames (list.map Component.text)⟩

def normal (p : Path) : Path := ofComponents p.components

/-- The path `p` taken from `base`; an absolute path is not moved. -/
def join (base p : Path) : Path :=
  if p.isAbsolute then p
  else if base.text = [] then p
  else if base.text.getLast? == some slash then ⟨base.text ++ p.text⟩
  else ⟨base.text ++ slash :: p.text⟩

/-- The path without its last component; the root and the empty path have no parent. -/
def parent? (p : Path) : Option Path :=
  let c := p.cut
  match Cut.trimBack c.body, c.lead with
  | [], some .here => some ⟨[]⟩
  | [], _ => none
  | body, lead => some (Cut.path ⟨lead, Cut.trimBack body.dropLast⟩)

def directory (p : Path) : Path := p.parent?.getD ⟨[]⟩

/-- What is left of the path behind the components of `root`. -/
def relativeTo? (p root : Path) : Option Path :=
  (p.cut.after? root.components).map Cut.trimmedPath

/-- What is shown of a path: its text with `/` as its only separator, and with a replacement character
wherever it is not UTF-8. -/
def normalText (p : Path) : String := p.text.lossyText.map fun c => if c = '\\' then '/' else c

/-- How a path is shown: from `root` on where it lies under it, and in full elsewhere. -/
def shown (p root : Path) : String := ((p.relativeTo? root).getD p).normalText

end Path

example : (Path.mk "a//b/.").parent? = some ⟨"a"⟩ := by decide +kernel
example : (Path.mk "/").parent? = none := by decide +kernel
example : (Path.mk "/p/js//x").relativeTo? ⟨"/p"⟩ = some ⟨"js//x"⟩ := by decide +kernel
example : (Path.mk ".//a/../").normal = ⟨"./a/.."⟩ := by decide +kernel

end ScriptBundle
