import ScriptBundle.Text.Lowercase

/-! # Logical names

A directive names a script by its logical name. The name of its file is in lower case, with an
underscore before each capital that follows a word character, and ends in `.js`.
-/

namespace ScriptBundle.LogicalName

/-- Whether a capital behind this character starts a new word: letters, digits and the underscore do. -/
def joinsWord (c : Char) : Bool := c.isAlphanum || c == '_'

/-- The characters that one character of a name becomes, given the one before it. -/
def expand (before : Option Char) (c : Char) : List Char :=
  if c.isUpper && before.any joinsWord then '_' :: lowercase c else lowercase c

def stemAfter : Option Char → List Char → List Char
  | _, [] => []
  | before, c :: rest => expand before c ++ stemAfter (some c) rest

def stem (name : List Char) : List Char := stemAfter none name

def extension : String := ".js"

def fileName (name : String) : String := String.ofList (stem name.toList) ++ extension

end ScriptBundle.LogicalName
