import ScriptBundle.Preprocessor
import ScriptBundle.Proofs.Pattern.Indented

/-!
# Comment boundaries

What the comment patterns that hold without settings look for in a line: two slashes, a block that
closes in the same line, a block that is left open, or the end of one. A line feed at the end of the line
has no part in it.
-/

namespace ScriptBundle

open Pattern

namespace CommentStripper

def asterisks : Node := .stretch (.single '*') false true

def standard : CommentStripper where
  inline := ⟨({} : CommentPatterns).inline, .indented (.word ['/'] (.sign '/'))⟩
  blockLine := ⟨({} : CommentPatterns).blockLine, .indented (.word ['/'] (.seq asterisks
    (.seq (.stretch (.compl (.single '\n')) true true) (.seq asterisks (.sign '/')))))⟩
  blockStart := ⟨({} : CommentPatterns).blockStart, .indented (.word ['/'] (.seq asterisks
    (.group 1 (.alt (.set (.compl (.single '!'))) (.look .finish)))))⟩
  blockEnd := ⟨({} : CommentPatterns).blockEnd, .seq asterisks (.sign '/')⟩

theorem ofPatterns_default : ofPatterns {} = .ok standard := rfl

end CommentStripper

namespace Pattern

variable {last : Option Char} {word rest : List Char} {c : List (Nat × List Char)}

theorem isMatch_iff {p : Pattern} {line : String} (hp : p.node.straight) :
    p.isMatch line ↔ ∃ c, p.node.Found line.toList c :=
  p.node.isSome_first?_iff hp

theorem contains_compl_single {x y : Char} : (CharSet.compl (.single x)).contains y ↔ y ≠ x := by
  have hcompl : (CharSet.compl (.single x)).contains y = !(CharSet.single x).contains y := rfl
  rw [hcompl, Bool.not_eq_true', Bool.eq_false_iff, ne_eq, CharSet.contains_single]

theorem reads_asterisks_iff :
    Reads CommentStripper.asterisks last word rest c ↔
      ∃ n, word = List.replicate (n + 1) '*' ∧ c = [] := by
  rw [CommentStripper.asterisks, reads_stretch_iff]
  simp only [CharSet.contains_single, Bool.false_eq_true, false_or]
  constructor
  · rintro ⟨hword, hne, rfl⟩
    obtain ⟨n, hn⟩ := Nat.exists_eq_succ_of_ne_zero (mt List.length_eq_zero_iff.mp hne)
    exact ⟨n, List.eq_replicate_iff.mpr ⟨hn, hword⟩, rfl⟩
  · rintro ⟨n, rfl, rfl⟩
    exact ⟨fun x hx => List.eq_of_mem_replicate hx, by simp [List.replicate_succ], rfl⟩

theorem reads_asterisk (last : Option Char) (rest : List Char) :
    Reads CommentStripper.asterisks last ['*'] rest [] :=
  reads_asterisks_iff.mpr ⟨0, rfl, rfl⟩

end Pattern

namespace CommentStripper

variable {line : String}

theorem inline_isMatch_iff :
    standard.inline.isMatch line ↔ ∃ rest, trimStart line.toList = '/' :: '/' :: rest := by
  rw [isMatch_iff rfl]
  constructor
  · rintro ⟨c, h⟩
    obtain ⟨v, after, hline, hv⟩ := (found_indented_word_iff slash_not_blank).mp h
    obtain ⟨rfl, -⟩ := reads_sign_iff.mp hv
    exact ⟨after, hline⟩
  · rintro ⟨rest, hline⟩
    exact ⟨[], (found_indented_word_iff slash_not_blank).mpr
      ⟨['/'], rest, hline, reads_sign_iff.mpr ⟨rfl, rfl⟩⟩⟩

theorem blockLine_isMatch_iff :
    standard.blockLine.isMatch line ↔ ∃ mid rest,
      trimStart line.toList = '/' :: '*' :: (mid ++ '*' :: '/' :: rest) ∧ '\n' ∉ mid := by
  rw [isMatch_iff rfl]
  constructor
  · rintro ⟨c, h⟩
    obtain ⟨_, after, hline, hblock⟩ := (found_indented_word_iff slash_not_blank).mp h
    obtain ⟨_, _, _, _, hopen, hbody, rfl, -⟩ := reads_seq_iff.mp hblock
    obtain ⟨mid, _, _, _, hmid, hend, rfl, -⟩ := reads_seq_iff.mp hbody
    obtain ⟨_, _, _, _, hclose, hslash, rfl, -⟩ := reads_seq_iff.mp hend
    obtain ⟨n, rfl, -⟩ := reads_asterisks_iff.mp hopen
    obtain ⟨m, rfl, -⟩ := reads_asterisks_iff.mp hclose
    obtain ⟨rfl, -⟩ := reads_sign_iff.mp hslash
    have hclean := fun x hx => contains_compl_single.mp ((reads_stretch_iff.mp hmid).1 x hx)
    refine ⟨List.replicate n '*' ++ mid ++ List.replicate m '*', after, ?_, ?_⟩
    · rw [hline, List.replicate_succ' (n := m)]
      simp [List.replicate_succ]
    · intro hmem
      simp only [List.mem_append, List.mem_replicate] at hmem
      rcases hmem with (⟨-, h⟩ | h) | ⟨-, h⟩
      · exact absurd h (by decide)
      · exact hclean _ h rfl
      · exact absurd h (by decide)
  · rintro ⟨mid, rest, hline, hmid⟩
    have hclean : ∀ x ∈ mid, (CharSet.compl (.single '\n')).contains x := by
      intro x hx
      rw [contains_compl_single]
      rintro rfl
      exact hmid hx
    have hmiddle : Reads (.stretch (.compl (.single '\n')) true true) (some '*') mid
        (['*', '/'] ++ rest) [] := .stretch hclean (Or.inl rfl)
    have hclose : Reads (.seq asterisks (.sign '/')) (mid.getLast?.or (some '*')) ['*', '/'] rest
        [] := .seq (reads_asterisk _ _) (reads_sign_iff.mpr ⟨rfl, rfl⟩)
    have hblock := Reads.seq (reads_asterisk (some '/') _) (.seq hmiddle hclose)
    exact ⟨_, (found_indented_word_iff slash_not_blank).mpr ⟨_, rest, by simpa using hline, hblock⟩⟩

theorem blockStart_isMatch_iff :
    standard.blockStart.isMatch line ↔ ∃ rest,
      trimStart line.toList = '/' :: '*' :: rest ∧ rest.head? ≠ some '!' := by
  rw [isMatch_iff rfl]
  constructor
  · rintro ⟨c, h⟩
    obtain ⟨_, after, hline, hblock⟩ := (found_indented_word_iff slash_not_blank).mp h
    obtain ⟨_, v, _, _, hopen, hgroup, rfl, -⟩ := reads_seq_iff.mp hblock
    obtain ⟨n, rfl, -⟩ := reads_asterisks_iff.mp hopen
    obtain ⟨_, hnext, -⟩ := reads_group_iff.mp hgroup
    refine ⟨List.replicate n '*' ++ (v ++ after), by simpa [List.replicate_succ] using hline, ?_⟩
    rcases n with _ | n
    · -- The character behind the only asterisk is another one than the exclamation mark, or none.
      rcases reads_alt_iff.mp hnext with hother | hnone
      · obtain ⟨x, hx, rfl, -⟩ := reads_set_iff.mp hother
        simpa using contains_compl_single.mp hx
      · obtain ⟨hfinish, rfl, -⟩ := reads_look_iff.mp hnone
        have hafter : after = [] := by simpa [Look.holds] using hfinish
        simp [hafter]
    · simp [List.replicate_succ]
  · rintro ⟨rest, hline, hrest⟩
    have hnext : ∃ v after, rest = v ++ after ∧
        Reads (.alt (.set (.compl (.single '!'))) (.look .finish)) (some '*') v after [] := by
      rcases rest with _ | ⟨x, rest⟩
      · exact ⟨[], [], rfl, .right (.look rfl)⟩
      · have hx : x ≠ '!' := by simpa using hrest
        exact ⟨[x], rest, rfl, .left (.set (contains_compl_single.mpr hx))⟩
    obtain ⟨v, after, rfl, hnext⟩ := hnext
    exact ⟨_, (found_indented_word_iff slash_not_blank).mpr
      ⟨'*' :: v, after, hline, .seq (reads_asterisk (some '/') _) (.group hnext)⟩⟩

theorem blockEnd_isMatch_iff :
    standard.blockEnd.isMatch line ↔
      ∃ before after, line.toList = before ++ '*' :: '/' :: after := by
  rw [isMatch_iff rfl]
  constructor
  · rintro ⟨c, before, word, after, hline, hword⟩
    obtain ⟨_, _, _, _, hclose, hslash, rfl, -⟩ := reads_seq_iff.mp hword
    obtain ⟨n, rfl, -⟩ := reads_asterisks_iff.mp hclose
    obtain ⟨rfl, -⟩ := reads_sign_iff.mp hslash
    exact ⟨before ++ List.replicate n '*', after, by simp [hline, List.replicate_succ']⟩
  · rintro ⟨before, after, hline⟩
    have hclose : Reads (.seq asterisks (.sign '/')) before.getLast? ['*', '/'] after [] :=
      .seq (reads_asterisk _ _) (reads_sign_iff.mpr ⟨rfl, rfl⟩)
    exact ⟨_, before, ['*', '/'], after, by simp [hline], hclose⟩

theorem toList_concat (line : String) : (line ++ "\n").toList = line.toList ++ ['\n'] := by
  rw [String.toList_append]
  rfl

theorem trimStart_lineFeed {rest : List Char} {x : Char}
    (h : trimStart (line ++ "\n").toList = x :: rest) :
    ∃ kept, trimStart line.toList = x :: kept ∧ rest = kept ++ ['\n'] := by
  rw [toList_concat, trimStart_concat lineFeed_blank] at h
  rcases htrim : trimStart line.toList with _ | ⟨y, kept⟩
  · simp [htrim] at h
  · rw [htrim, if_neg (List.cons_ne_nil _ _), List.cons_append] at h
    obtain ⟨rfl, rfl⟩ := List.cons.inj h
    exact ⟨kept, rfl, rfl⟩

theorem strip_code_eq_some_iff {s : CommentStripper} :
    s.strip line .code = (some line, .code) ↔
      s.inline.isMatch line = false ∧ s.blockLine.isMatch line = false ∧
        s.blockStart.isMatch line = false := by
  unfold strip
  cases s.inline.isMatch line <;> cases s.blockLine.isMatch line <;>
    cases s.blockStart.isMatch line <;> simp

theorem inline_of_lineFeed (h : standard.inline.isMatch (line ++ "\n")) :
    standard.inline.isMatch line := by
  obtain ⟨rest, htrim⟩ := inline_isMatch_iff.mp h
  obtain ⟨kept, hline, hrest⟩ := trimStart_lineFeed htrim
  rcases kept with _ | ⟨x, kept⟩
  · simp at hrest
  · obtain ⟨rfl, -⟩ := List.cons.inj hrest
    exact inline_isMatch_iff.mpr ⟨kept, hline⟩

theorem blockLine_of_lineFeed (h : standard.blockLine.isMatch (line ++ "\n")) :
    standard.blockLine.isMatch line := by
  obtain ⟨mid, rest, htrim, hmid⟩ := blockLine_isMatch_iff.mp h
  obtain ⟨kept, hline, hkept⟩ := trimStart_lineFeed htrim
  have hslash : kept ++ ['\n'] = ('*' :: (mid ++ ['*'])) ++ '/' :: rest := by simpa using hkept.symm
  obtain ⟨more, rfl⟩ := exists_of_concat_eq hslash (by decide)
  exact blockLine_isMatch_iff.mpr ⟨mid, more, by simpa using hline, hmid⟩

theorem blockStart_of_lineFeed (h : standard.blockStart.isMatch (line ++ "\n")) :
    standard.blockStart.isMatch line := by
  obtain ⟨rest, htrim, hhead⟩ := blockStart_isMatch_iff.mp h
  obtain ⟨kept, hline, hkept⟩ := trimStart_lineFeed htrim
  rcases kept with _ | ⟨x, kept⟩
  · simp at hkept
  · obtain ⟨rfl, rfl⟩ := List.cons.inj hkept
    refine blockStart_isMatch_iff.mpr ⟨kept, hline, ?_⟩
    rcases kept with _ | ⟨y, kept⟩
    · simp
    · simpa using hhead

theorem strip_lineFeed (h : standard.strip line .code = (some line, .code)) :
    standard.strip (line ++ "\n") .code = (some (line ++ "\n"), .code) := by
  rw [strip_code_eq_some_iff] at h ⊢
  obtain ⟨hinline, hline, hstart⟩ := h
  refine ⟨?_, ?_, ?_⟩ <;> rw [← Bool.not_eq_true]
  · exact fun h => Bool.eq_false_iff.mp hinline (inline_of_lineFeed h)
  · exact fun h => Bool.eq_false_iff.mp hline (blockLine_of_lineFeed h)
  · exact fun h => Bool.eq_false_iff.mp hstart (blockStart_of_lineFeed h)

theorem strip_of_not_slash (h : (trimStart line.toList).head? ≠ some '/') :
    standard.strip line .code = (some line, .code) := by
  have hslash : ∀ rest, trimStart line.toList ≠ '/' :: rest := by
    intro rest htrim
    rw [htrim] at h
    exact h rfl
  rw [strip_code_eq_some_iff]
  refine ⟨?_, ?_, ?_⟩ <;> rw [← Bool.not_eq_true]
  · exact fun hm => (inline_isMatch_iff.mp hm).elim fun _ htrim => hslash _ htrim
  · exact fun hm => (blockLine_isMatch_iff.mp hm).elim fun _ ⟨_, htrim, _⟩ => hslash _ htrim
  · exact fun hm => (blockStart_isMatch_iff.mp hm).elim fun _ ⟨htrim, _⟩ => hslash _ htrim

end CommentStripper

end ScriptBundle
