import Mathlib.Data.List.Infix
import ScriptBundle.Proofs.Comment.Boundaries

/-!
# Stripping without patterns

What the comment patterns that hold without settings do to the lines of a file can be told by looking for
slashes and asterisks alone. A line feed can only end a line of a file; within a line, where no file has
one, the pattern of a block would stop at it.
-/

namespace ScriptBundle

namespace CommentStripper

/-- What is kept of a line, and the state after it, told without patterns. A block that is opened and
closed in one line takes its two asterisks from different places. -/
def scan (line : String) : CommentState → Option String × CommentState
  | .inBlock => (none, if ['*', '/'] <:+: line.toList then .code else .inBlock)
  | .code =>
    let text := trimStart line.toList
    if ['/', '/'] <+: text ∨ ['/', '*'] <+: text ∧ ['*', '/'] <:+: text.drop 2 then (none, .code)
    else if ['/', '*'] <+: text ∧ text[2]? ≠ some '!' then (none, .inBlock)
    else (some line, .code)

variable {line : String}

theorem inline_iff_prefix :
    standard.inline.isMatch line ↔ ['/', '/'] <+: trimStart line.toList := by
  rw [inline_isMatch_iff]
  exact exists_congr fun rest => eq_comm

theorem blockStart_iff_prefix : standard.blockStart.isMatch line ↔
    ['/', '*'] <+: trimStart line.toList ∧ (trimStart line.toList)[2]? ≠ some '!' := by
  rw [blockStart_isMatch_iff]
  constructor
  · rintro ⟨rest, htext, hrest⟩
    rw [htext]
    exact ⟨⟨rest, rfl⟩, by simpa [List.head?_eq_getElem?] using hrest⟩
  · rintro ⟨⟨rest, htext⟩, hnext⟩
    rw [← htext] at hnext ⊢
    exact ⟨rest, rfl, by simpa [List.head?_eq_getElem?] using hnext⟩

theorem blockEnd_iff_infix : standard.blockEnd.isMatch line ↔ ['*', '/'] <:+: line.toList := by
  rw [blockEnd_isMatch_iff]
  refine exists_congr fun before => exists_congr fun after => ?_
  rw [List.append_assoc, eq_comm]
  rfl

theorem lineFeed_notMem_of_append {mid rest : List Char} {x : Char}
    (hline : '\n' ∉ line.toList.dropLast) (h : mid ++ x :: rest <:+ line.toList) : '\n' ∉ mid := by
  intro hmem
  obtain ⟨before, htext⟩ := h
  apply hline
  rw [← htext, List.dropLast_append_of_ne_nil (by simp), List.dropLast_append_of_ne_nil (by simp)]
  simp [hmem]

theorem blockLine_iff_infix (hline : '\n' ∉ line.toList.dropLast) :
    standard.blockLine.isMatch line ↔
      ['/', '*'] <+: trimStart line.toList ∧ ['*', '/'] <:+: (trimStart line.toList).drop 2 := by
  rw [blockLine_isMatch_iff]
  constructor
  · rintro ⟨mid, rest, htext, -⟩
    rw [htext]
    exact ⟨⟨_, rfl⟩, mid, rest, by simp⟩
  · rintro ⟨⟨inner, htext⟩, mid, rest, hinner⟩
    have hblock : trimStart line.toList = '/' :: '*' :: (mid ++ '*' :: '/' :: rest) := by
      rw [← htext] at hinner ⊢
      simpa using hinner.symm
    have hsuffix : trimStart line.toList <:+ line.toList := List.dropWhile_suffix _
    rw [hblock] at hsuffix
    have hend : mid ++ '*' :: '/' :: rest <:+ line.toList :=
      (List.suffix_append ['/', '*'] _).trans hsuffix
    exact ⟨mid, rest, hblock, lineFeed_notMem_of_append hline hend⟩

/-- Without settings, stripping a line of a file keeps what the scan keeps, and leaves the same state. -/
theorem standard_strip_eq_scan :
    ∃ s, ofPatterns {} = .ok s ∧ ∀ (line : String) (state : CommentState),
      '\n' ∉ line.toList.dropLast → s.strip line state = scan line state := by
  refine ⟨standard, ofPatterns_default, fun line state hline => ?_⟩
  cases state with
  | inBlock => simp only [strip, scan, blockEnd_iff_infix]
  | code =>
    simp only [strip, scan, Bool.or_eq_true, inline_iff_prefix, blockLine_iff_infix hline,
      blockStart_iff_prefix]

/-- One asterisk cannot both open and close a block, an exclamation mark counts only right behind the first
asterisk, and what stands behind the end of a block goes with it. -/
theorem standard_strip_eq_scan_edges : ∃ s, ofPatterns {} = .ok s ∧
    '\n' ∉ "\t/*/ a();\n".toList.dropLast ∧ s.strip "\t/*/ a();\n" .code = (none, .inBlock) ∧
    s.strip "/**! a" .code = (none, .inBlock) ∧ s.strip "/*! a\n" .code = (some "/*! a\n", .code) ∧
    s.strip "/*! a **/ b();\n" .code = (none, .code) ∧
    s.strip "a(); */ b();\n" .inBlock = (none, .code) := by
  obtain ⟨s, hs, hstrip⟩ := standard_strip_eq_scan
  refine ⟨s, hs, by decide, ?_, ?_, ?_, ?_, ?_⟩
  · exact (hstrip _ .code (by decide)).trans (by decide +kernel)
  · exact (hstrip _ .code (by decide)).trans (by decide +kernel)
  · exact (hstrip _ .code (by decide)).trans (by decide +kernel)
  · exact (hstrip _ .code (by decide)).trans (by decide +kernel)
  · exact (hstrip _ .inBlock (by decide)).trans (by decide +kernel)

end CommentStripper

end ScriptBundle
