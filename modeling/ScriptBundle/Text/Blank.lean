import ScriptBundle.Text.CharSet

/-! # White space

The characters with the Unicode property `White_Space`, and cutting them off the ends of a text.
-/

namespace ScriptBundle

def CharSet.blank : CharSet := .spans
  [⟨0x9, 0xD, 1⟩, ⟨0x20, 0x20, 1⟩, ⟨0x85, 0x85, 1⟩, ⟨0xA0, 0xA0, 1⟩, ⟨0x1680, 0x1680, 1⟩,
   ⟨0x2000, 0x200A, 1⟩, ⟨0x2028, 0x2029, 1⟩, ⟨0x202F, 0x202F, 1⟩, ⟨0x205F, 0x205F, 1⟩,
   ⟨0x3000, 0x3000, 1⟩]

def isBlank (c : Char) : Bool := CharSet.blank.contains c

def trimStart (cs : List Char) : List Char := cs.dropWhile isBlank

def trimEnd (cs : List Char) : List Char := (trimStart cs.reverse).reverse

def trim (cs : List Char) : List Char := trimEnd (trimStart cs)

end ScriptBundle
