import ScriptBundle.Text.Utf8

/-! # Output

The output of a request is a growing sequence of text fragments, laid end to end when it is done.
-/

namespace ScriptBundle

structure Emitter where
  fragments : List String := []
  size : Nat := 0
  deriving DecidableEq, Repr, Inhabited

namespace Emitter

def empty : Emitter := {}

/-- Output with one more fragment; an empty one leaves no trace. -/
def append (e : Emitter) (text : String) : Emitter :=
  if text = "" then e else ⟨text :: e.fragments, e.size + textSize text⟩

def isEmpty (e : Emitter) : Bool := e.size == 0

def text (e : Emitter) : String := String.join e.fragments.reverse

@[simp] theorem text_empty : empty.text = "" := rfl

theorem text_append (e : Emitter) (text : String) : (e.append text).text = e.text ++ text := by
  unfold append Emitter.text
  split
  next h => simp [h]
  next => simp [String.join_append]

end Emitter

end ScriptBundle
