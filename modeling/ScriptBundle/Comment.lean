import ScriptBundle.Pattern

/-! # Comment stripping

Lines that are comments as a whole are left out: line comments, blocks within one line, and blocks that
open on one line and close on a later one. Code with a comment behind it is kept as it is.
-/

namespace ScriptBundle

/-- Whether the next line continues a block comment. -/
inductive CommentState where
  | code
  | inBlock
  deriving DecidableEq, Repr, Inhabited

structure CommentStripper where
  inline : Pattern
  blockLine : Pattern
  blockStart : Pattern
  blockEnd : Pattern
  deriving Repr, Inhabited

namespace CommentStripper

def strip (s : CommentStripper) (line : String) : CommentState → Option String × CommentState
  | .inBlock => (none, if s.blockEnd.isMatch line then .code else .inBlock)
  | .code =>
    if s.inline.isMatch line || s.blockLine.isMatch line then (none, .code)
    else if s.blockStart.isMatch line then (none, .inBlock)
    else (some line, .code)

end CommentStripper

end ScriptBundle
