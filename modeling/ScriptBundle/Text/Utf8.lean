/-! # Octets and text

Reading octets as UTF-8 one at a time. A well-formed sequence gives its character; the longest start of
a sequence that cannot be completed gives one gap, and reading goes on with the octet that broke it. The
state between two octets says what the next one has to be, so an octet that starts no continuation (a
line feed, say) always closes what came before.
-/

namespace ScriptBundle

abbrev Octets := List UInt8

namespace Utf8

inductive State where
  | start
  | inside (bits : Nat) (left : Nat) (low high : Nat)
  deriving DecidableEq, Repr, Inhabited

/-- One unit of the text: a character, or a gap where the octets are not UTF-8. -/
abbrev Piece := Option Char

def lead (b : Nat) : List Piece × State :=
  if b < 0x80 then ([some (Char.ofNat b)], .start)
  else if b < 0xC2 then ([none], .start)
  else if b < 0xE0 then ([], .inside (b - 0xC0) 1 0x80 0xBF)
  else if b = 0xE0 then ([], .inside 0 2 0xA0 0xBF)
  else if b = 0xED then ([], .inside 0xD 2 0x80 0x9F)
  else if b < 0xF0 then ([], .inside (b - 0xE0) 2 0x80 0xBF)
  else if b = 0xF0 then ([], .inside 0 3 0x90 0xBF)
  else if b < 0xF4 then ([], .inside (b - 0xF0) 3 0x80 0xBF)
  else if b = 0xF4 then ([], .inside 4 3 0x80 0x8F)
  else ([none], .start)

def step : State → UInt8 → List Piece × State
  | .start, b => lead b.toNat
  | .inside bits left low high, b =>
    let n := b.toNat
    if low ≤ n && n ≤ high then
      let bits := bits * 64 + (n - 0x80)
      if left ≤ 1 then ([some (Char.ofNat bits)], .start) else ([], .inside bits (left - 1) 0x80 0xBF)
    else
      let (rest, next) := lead n
      (none :: rest, next)

def finish : State → List Piece
  | .start => []
  | .inside .. => [none]

def piecesFrom : State → Octets → List Piece
  | s, [] => finish s
  | s, b :: rest => (step s b).1 ++ piecesFrom (step s b).2 rest

def pieces (octets : Octets) : List Piece := piecesFrom .start octets

def decodeLossy (octets : Octets) : List Char := (pieces octets).map (·.getD '\uFFFD')

def decode? (octets : Octets) : Option (List Char) := (pieces octets).mapM id

def encode (cs : List Char) : Octets := cs.flatMap String.utf8EncodeChar

end Utf8

def Octets.lossyText (octets : Octets) : String := String.ofList (Utf8.decodeLossy octets)

def textOctets (s : String) : Octets := Utf8.encode s.toList

@[simp] theorem textOctets_inj {s t : String} : textOctets s = textOctets t ↔ s = t := by
  constructor
  · intro h
    have hbytes : s.toList.utf8Encode = t.toList.utf8Encode := congrArg List.toByteArray h
    rwa [String.utf8Encode_toList, String.utf8Encode_toList, String.toByteArray_inj] at hbytes
  · rintro rfl
    rfl

@[simp] theorem textOctets_eq_nil_iff {s : String} : textOctets s = [] ↔ s = "" :=
  @textOctets_inj s ""

def textSize (s : String) : Nat := s.utf8ByteSize

/-- The text that octets are in UTF-8, if they are one. -/
def Octets.text? (octets : Octets) : Option String := (Utf8.decode? octets).map String.ofList

/-- A text of the file system, such as a name in a directory. It is octets, which need not be UTF-8. -/
abbrev RawText := Octets

instance : Coe String RawText := ⟨textOctets⟩

example : Utf8.decodeLossy [0x61, 0xE6, 0x97, 0x0A, 0xC3, 0xA9, 0xFF] =
    ['a', '\uFFFD', '\n', 'é', '\uFFFD'] := by decide +kernel

end ScriptBundle
