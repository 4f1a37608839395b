import ScriptBundle.Proofs.Comment.Scanner

/-! # Comments that ask to be kept

The opener of a block whose first asterisk is followed by an exclamation mark is kept, and the lines below it
are then told as code, one by one. Main statement: such a block is kept as a whole if and only if none of the
lines below its opener is a comment by itself.
-/

namespace ScriptBundle

namespace CommentStripper

def stripLines (s : CommentStripper) :
    List String → CommentState → List (Option String) × CommentState
  | [], state => ([], state)
  | line :: lines, state =>
    let (kept, next) := s.strip line state
    let (rest, last) := s.stripLines lines next
    (kept :: rest, last)

variable {s : CommentStripper} {line : String} {lines : List String}

theorem state_of_strip_eq_some {state : CommentState} {kept : String}
    (h : (s.strip line state).1 = some kept) : (s.strip line state).2 = .code := by
  cases state with
  | inBlock =>
    simp only [strip] at h
    cases h
  | code =>
    simp only [strip] at h ⊢
    split at h
    · cases h
    · split at h
      · cases h
      · next hline hstart => rw [if_neg hline, if_neg hstart]

theorem stripLines_cons (s : CommentStripper) (line : String) (lines : List String)
    (state : CommentState) :
    s.stripLines (line :: lines) state =
      ((s.strip line state).1 :: (s.stripLines lines (s.strip line state).2).1,
        (s.stripLines lines (s.strip line state).2).2) := rfl

theorem stripLines_kept_iff :
    s.stripLines lines .code = (lines.map some, .code) ↔
      ∀ line ∈ lines, s.strip line .code = (some line, .code) := by
  induction lines with
  | nil => simp [stripLines]
  | cons line lines ih =>
    rw [List.forall_mem_cons, stripLines_cons]
    constructor
    · intro h
      obtain ⟨hkept, hlast⟩ := Prod.mk.inj h
      obtain ⟨hfirst, hrest⟩ := List.cons.inj hkept
      have hline : s.strip line .code = (some line, .code) :=
        Prod.ext hfirst (state_of_strip_eq_some hfirst)
      rw [hline] at hrest hlast
      exact ⟨hline, ih.mp (Prod.ext hrest hlast)⟩
    · rintro ⟨hline, hlines⟩
      rw [hline, ih.mpr hlines]
      rfl

theorem strip_kept_iff_of_open (hopen : ¬ ['*', '/'] <:+: line.toList) :
    standard.strip line .code = (some line, .code) ↔
      ¬ ['/', '/'] <+: trimStart line.toList ∧
      ¬ (['/', '*'] <+: trimStart line.toList ∧ (trimStart line.toList)[2]? ≠ some '!') := by
  have hblock : standard.blockLine.isMatch line = false := by
    rw [← Bool.not_eq_true, blockLine_isMatch_iff]
    rintro ⟨mid, rest, htext, -⟩
    apply hopen
    have hend : ['*', '/'] <:+: trimStart line.toList := by
      rw [htext]
      exact ⟨'/' :: '*' :: mid, rest, by simp⟩
    exact hend.trans (List.dropWhile_suffix _).isInfix
  rw [strip_code_eq_some_iff, ← Bool.not_eq_true, ← Bool.not_eq_true (standard.blockStart.isMatch line),
    inline_iff_prefix, blockStart_iff_prefix]
  simp [hblock]

theorem strip_opener (h : ['/', '*', '!'] <+: trimStart line.toList)
    (hopen : ¬ ['*', '/'] <:+: line.toList) :
    standard.strip line .code = (some line, .code) := by
  obtain ⟨rest, htext⟩ := h
  rw [strip_kept_iff_of_open hopen, ← htext]
  simp

theorem strip_inline (h : ['/', '/'] <+: trimStart line.toList) :
    standard.strip line .code = (none, .code) := by
  simp only [strip, inline_iff_prefix.mpr h, Bool.true_or, if_true]

/-- Of a block that has its end in the opening text, the end stands behind the exclamation mark. -/
theorem infix_drop_two {text : List Char} (hstart : ['/', '*', '!'] <+: text)
    (hend : ['*', '/'] <:+: text) : ['*', '/'] <:+: text.drop 2 := by
  obtain ⟨rest, rfl⟩ := hstart
  obtain ⟨before, after, h⟩ := hend
  rcases before with _ | ⟨a, _ | ⟨b, before⟩⟩
  · simp at h
  · simp at h
  · refine ⟨before, after, ?_⟩
    simp only [List.cons_append, List.cons.injEq] at h
    simpa using h.2.2

/-- The end of a block begins with no blank, so it is not taken off in front. -/
theorem infix_trimStart {text : List Char} (h : ['*', '/'] <:+: text) :
    ['*', '/'] <:+: trimStart text := by
  obtain ⟨before, after, rfl⟩ := h
  rw [trimStart, List.append_assoc, List.dropWhile_append]
  split
  · exact ⟨[], after, rfl⟩
  · exact ⟨before.dropWhile isBlank, after, List.append_assoc ..⟩

theorem strip_kept_iff_of_end (hend : ['*', '/'] <:+: line.toList)
    (hline : '\n' ∉ line.toList.dropLast) :
    standard.strip line .code = (some line, .code) ↔
      ¬ ['/', '/'] <+: trimStart line.toList ∧ ¬ ['/', '*'] <+: trimStart line.toList := by
  rw [strip_code_eq_some_iff, ← Bool.not_eq_true, ← Bool.not_eq_true, ← Bool.not_eq_true,
    inline_iff_prefix, blockLine_iff_infix hline, blockStart_iff_prefix]
  constructor
  · rintro ⟨hinline, hblock, hstart⟩
    refine ⟨hinline, ?_⟩
    intro hopen
    -- What opens here is closed in this line, or would be a block without the exclamation mark.
    have hmark : (trimStart line.toList)[2]? = some '!' := by
      by_contra hne
      exact hstart ⟨hopen, hne⟩
    apply hblock
    refine ⟨hopen, infix_drop_two ?_ (infix_trimStart hend)⟩
    obtain ⟨rest, htext⟩ := hopen
    rw [← htext] at hmark ⊢
    rcases rest with _ | ⟨x, rest⟩
    · simp at hmark
    · have hx : x = '!' := by simpa using hmark
      exact ⟨rest, by rw [hx]; rfl⟩
  · rintro ⟨hinline, hopen⟩
    exact ⟨hinline, fun h => hopen h.1, fun h => hopen h.1⟩

/-- Without settings, the opener of a block with an exclamation mark is kept. The block is kept down to its
end, and the lines below it are code again, if and only if no line of it is taken for a comment: none below
the opener begins with two slashes or opens a block without the mark, and the last one opens none at all. -/
theorem preserved_comment_kept_iff (opener : String) (body : List String) (terminator : String)
    (hopener : ['/', '*', '!'] <+: trimStart opener.toList)
    (hopen : ¬ ['*', '/'] <:+: opener.toList)
    (hbody : ∀ line ∈ body, ¬ ['*', '/'] <:+: line.toList)
    (hend : ['*', '/'] <:+: terminator.toList) (hline : '\n' ∉ terminator.toList.dropLast) :
    ∃ s, ofPatterns {} = .ok s ∧ s.strip opener .code = (some opener, .code) ∧
      (s.stripLines (opener :: body ++ [terminator]) .code =
          ((opener :: body ++ [terminator]).map some, .code) ↔
        (∀ line ∈ body, ¬ ['/', '/'] <+: trimStart line.toList ∧
          ¬ (['/', '*'] <+: trimStart line.toList ∧ (trimStart line.toList)[2]? ≠ some '!')) ∧
        ¬ ['/', '/'] <+: trimStart terminator.toList ∧
        ¬ ['/', '*'] <+: trimStart terminator.toList) := by
  have hfirst : standard.strip opener .code = (some opener, .code) := strip_opener hopener hopen
  refine ⟨standard, ofPatterns_default, hfirst, ?_⟩
  rw [stripLines_kept_iff, List.cons_append, List.forall_mem_cons, List.forall_mem_append,
    List.forall_mem_singleton, strip_kept_iff_of_end hend hline]
  have hwithin : (∀ line ∈ body, standard.strip line .code = (some line, .code)) ↔
      ∀ line ∈ body, ¬ ['/', '/'] <+: trimStart line.toList ∧
        ¬ (['/', '*'] <+: trimStart line.toList ∧ (trimStart line.toList)[2]? ≠ some '!') := by
    constructor
    · intro h line hmem
      exact (strip_kept_iff_of_open (hbody line hmem)).mp (h line hmem)
    · intro h line hmem
      exact (strip_kept_iff_of_open (hbody line hmem)).mpr (h line hmem)
  rw [hwithin]
  constructor
  · rintro ⟨-, h⟩
    exact h
  · intro h
    exact ⟨hfirst, h⟩

theorem preserved_comment_kept_license : ∃ s, ofPatterns {} = .ok s ∧
    s.stripLines ["/*! License\n", " * of a();\n", "/*! and b();\n", " */ c();\n"] .code =
      ([some "/*! License\n", some " * of a();\n", some "/*! and b();\n", some " */ c();\n"],
        .code) := by
  obtain ⟨s, hs, -, hkept⟩ := preserved_comment_kept_iff "/*! License\n"
    [" * of a();\n", "/*! and b();\n"] " */ c();\n" (by decide) (by decide) (by decide) (by decide)
    (by decide)
  exact ⟨s, hs, hkept.mpr (by decide)⟩

/-- A line of the block that begins with two slashes is lost from it. -/
theorem preserved_comment_thinned : ∃ s, ofPatterns {} = .ok s ∧
    ['/', '*', '!'] <+: trimStart "/*! License\n".toList ∧
    ¬ ['*', '/'] <:+: "/*! License\n".toList ∧ ¬ ['*', '/'] <:+: "// of a();\n".toList ∧
    ['*', '/'] <:+: "*/\n".toList ∧
    s.stripLines ["/*! License\n", "// of a();\n", "*/\n"] .code =
      ([some "/*! License\n", none, some "*/\n"], .code) := by
  have hopener : standard.strip "/*! License\n" .code = (some "/*! License\n", .code) :=
    strip_opener (by decide) (by decide)
  have hinline : standard.strip "// of a();\n" .code = (none, .code) := strip_inline (by decide)
  have hend : standard.strip "*/\n" .code = (some "*/\n", .code) := strip_of_not_slash (by decide)
  refine ⟨standard, ofPatterns_default, by decide, by decide, by decide, by decide, ?_⟩
  rw [stripLines_cons, hopener, stripLines_cons, hinline, stripLines_cons, hend]
  rfl

end CommentStripper

end ScriptBundle
