import ScriptBundle.Text.Utf8

/-! # Lines

A file is read in lines. A line ends with its line feed; the last one may lack it.
-/

namespace ScriptBundle

def lineFeed : UInt8 := 10

/-- Puts an octet in front of lines: it joins the first line, unless it is a line feed, which is a line
by itself there. -/
def consOctet (b : UInt8) (lines : List Octets) : List Octets :=
  if b = lineFeed then [b] :: lines
  else
    match lines with
    | [] => [[b]]
    | first :: rest => (b :: first) :: rest

def octetLines (octets : Octets) : List Octets := octets.foldr consOctet []

def textLines (octets : Octets) : List String := (octetLines octets).map Octets.lossyText

@[simp] theorem octetLines_nil : octetLines [] = [] := rfl

@[simp] theorem octetLines_cons (b : UInt8) (rest : Octets) :
    octetLines (b :: rest) = consOctet b (octetLines rest) := rfl

/-- Lines laid end to end are what was cut. -/
theorem flatten_octetLines (octets : Octets) : (octetLines octets).flatten = octets := by
  induction octets with
  | nil => rfl
  | cons b rest ih =>
    rw [octetLines_cons, consOctet.eq_def]
    split
    next h => simp [ih]
    next => cases h : octetLines rest with
      | nil => rw [h] at ih; simp [← ih]
      | cons first more => rw [h] at ih; simp [← ih]

end ScriptBundle
