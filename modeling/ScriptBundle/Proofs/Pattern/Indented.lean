import ScriptBundle.Proofs.Pattern.Finding
import ScriptBundle.Text.Blank

/-!
# Patterns of indented lines

Patterns that look at the start of a line, behind the blanks that it may begin with. Such a pattern sees
nothing but the line without its leading blanks.
-/

namespace ScriptBundle

theorem CharSet.contains_single {x y : Char} : (CharSet.single x).contains y ↔ y = x := by
  have hholds : (CharSet.single x).contains y =
      (decide (x.toNat ≤ y.toNat) && decide (y.toNat ≤ x.toNat) &&
        (y.toNat - x.toNat) % 1 == 0 || false) := rfl
  rw [hholds, ← Char.toNat_inj]
  simp only [Nat.mod_one, beq_self_eq_true, Bool.and_true, Bool.or_false, Bool.and_eq_true,
    decide_eq_true_eq]
  omega

theorem slash_not_blank : isBlank '/' = false := by decide

theorem lineFeed_blank : isBlank '\n' := by decide

section

variable {cs indent rest : List Char} {x : Char}

theorem trimStart_append (h : ∀ y ∈ indent, isBlank y) :
    trimStart (indent ++ rest) = trimStart rest :=
  List.dropWhile_append_of_pos h

theorem trimStart_of_not_blank (hx : isBlank x = false) :
    trimStart (x :: rest) = x :: rest :=
  List.dropWhile_cons_of_neg (by simp [hx])

theorem exists_indent (cs : List Char) :
    ∃ indent, cs = indent ++ trimStart cs ∧ ∀ y ∈ indent, isBlank y := by
  refine ⟨cs.takeWhile isBlank, List.takeWhile_append_dropWhile.symm, ?_⟩
  intro y hy
  exact List.all_eq_true.mp List.all_takeWhile y hy

theorem trimStart_eq_cons_iff (hx : isBlank x = false) :
    trimStart cs = x :: rest ↔ ∃ indent, cs = indent ++ x :: rest ∧ ∀ y ∈ indent, isBlank y := by
  constructor
  · intro h
    obtain ⟨indent, hcs, hindent⟩ := exists_indent cs
    exact ⟨indent, h ▸ hcs, hindent⟩
  · rintro ⟨indent, rfl, hindent⟩
    rw [trimStart_append hindent, trimStart_of_not_blank hx]

/-- A line that says something still begins with it when a blank is put behind the line. -/
theorem trimStart_concat (hx : isBlank x) :
    trimStart (cs ++ [x]) = if trimStart cs = [] then [] else trimStart cs ++ [x] := by
  obtain ⟨indent, hcs, hindent⟩ := exists_indent cs
  rcases htrim : trimStart cs with _ | ⟨y, rest⟩
  · rw [htrim, List.append_nil] at hcs
    have hblank : trimStart [x] = [] := by simp [trimStart, hx]
    rw [if_pos rfl, hcs, trimStart_append hindent, hblank]
  · have hy : isBlank y = false := by
      have hhead := List.head?_dropWhile_not isBlank cs
      rw [show cs.dropWhile isBlank = y :: rest from htrim] at hhead
      simpa using hhead
    rw [htrim] at hcs
    rw [if_neg (List.cons_ne_nil _ _), hcs, List.append_assoc, trimStart_append hindent,
      List.cons_append, trimStart_of_not_blank hy]

/-- What a line holds up to some character is left when a different one is taken from its end. -/
theorem exists_of_concat_eq {a : List Char} {y : Char} (h : cs ++ [x] = a ++ y :: rest)
    (hne : x ≠ y) : ∃ more, cs = a ++ y :: more := by
  rcases List.eq_nil_or_concat rest with rfl | ⟨more, z, rfl⟩
  · have hlast := (List.append_inj' h rfl).2
    exact absurd (List.cons.inj hlast).1 hne
  · have hline : cs ++ [x] = (a ++ y :: more) ++ [z] := by simpa using h
    exact ⟨more, (List.append_inj' hline rfl).1⟩

end

namespace Pattern

def Node.sign (x : Char) : Node := .set (.single x)

def Node.word (w : List Char) (b : Node) : Node := w.foldr (fun x b => .seq (.sign x) b) b

def Node.indented (b : Node) : Node := .seq (.look .start) (.seq (.stretch .blank true true) b)

variable {b : Node} {last : Option Char} {word rest cs : List Char} {c : List (Nat × List Char)}

theorem reads_sign_iff {x : Char} :
    Reads (.sign x) last word rest c ↔ word = [x] ∧ c = [] := by
  rw [Node.sign, reads_set_iff]
  constructor
  · rintro ⟨y, hy, rfl, rfl⟩
    exact ⟨by rw [CharSet.contains_single.mp hy], rfl⟩
  · rintro ⟨rfl, rfl⟩
    exact ⟨x, CharSet.contains_single.mpr rfl, rfl, rfl⟩

theorem reads_word_iff {w : List Char} :
    Reads (.word w b) last word rest c ↔
      ∃ v, word = w ++ v ∧ Reads b (w.getLast?.or last) v rest c := by
  induction w generalizing last word with
  | nil => simp [Node.word]
  | cons x w ih =>
    have hlast : (x :: w).getLast?.or last = w.getLast?.or (some x) := by
      rw [List.getLast?_cons]
      cases w.getLast? <;> rfl
    rw [show Node.word (x :: w) b = .seq (.sign x) (Node.word w b) from rfl, reads_seq_iff, hlast]
    constructor
    · rintro ⟨u, v, d, e, hu, hv, rfl, hc⟩
      obtain ⟨rfl, rfl⟩ := reads_sign_iff.mp hu
      rw [List.append_nil] at hc
      subst hc
      obtain ⟨v, rfl, hb⟩ := ih.mp hv
      exact ⟨v, rfl, by simpa using hb⟩
    · rintro ⟨v, rfl, hv⟩
      exact ⟨[x], w ++ v, [], c, reads_sign_iff.mpr ⟨rfl, rfl⟩, ih.mpr ⟨v, rfl, hv⟩, rfl, by simp⟩

theorem found_indented_iff :
    b.indented.Found cs c ↔ ∃ indent word after, cs = indent ++ (word ++ after) ∧
      (∀ x ∈ indent, isBlank x) ∧ Reads b indent.getLast? word after c := by
  constructor
  · rintro ⟨before, word, after, rfl, hreads⟩
    obtain ⟨_, v, d, e, hlook, hv, rfl, rfl⟩ := reads_seq_iff.mp hreads
    obtain ⟨hstart, rfl, rfl⟩ := reads_look_iff.mp hlook
    obtain ⟨indent, word, d, e, hindent, hb, rfl, rfl⟩ := reads_seq_iff.mp hv
    obtain ⟨hblank, -, rfl⟩ := reads_stretch_iff.mp hindent
    have hbefore : before = [] := by
      rw [← List.getLast?_eq_none_iff]
      simpa [Look.holds] using hstart
    subst hbefore
    exact ⟨indent, word, after, by simp, hblank, by simpa using hb⟩
  · rintro ⟨indent, word, after, rfl, hblank, hb⟩
    refine ⟨[], indent ++ word, after, by simp, ?_⟩
    have hindent : Reads (.stretch .blank true true) none indent (word ++ after) [] :=
      .stretch hblank (Or.inl rfl)
    have hstart : Reads (.look .start) none [] (indent ++ word ++ after) [] := .look rfl
    have hb' : Reads b (indent.getLast?.or none) word after c := by simpa using hb
    simpa [Node.indented] using Reads.seq hstart (Reads.seq hindent hb')

/-- A pattern that starts with something other than a blank sees the line behind its indentation. -/
theorem found_indented_word_iff {x : Char} {w : List Char} (hx : isBlank x = false) :
    (Node.word (x :: w) b).indented.Found cs c ↔ ∃ v after,
      trimStart cs = x :: (w ++ (v ++ after)) ∧ Reads b (x :: w).getLast? v after c := by
  have hlast : ∀ last : Option Char, (x :: w).getLast?.or last = (x :: w).getLast? := by
    intro last
    rw [List.getLast?_eq_some_getLast (List.cons_ne_nil x w), Option.some_or]
  rw [found_indented_iff]
  constructor
  · rintro ⟨indent, word, after, hcs, hindent, hreads⟩
    obtain ⟨v, rfl, hb⟩ := reads_word_iff.mp hreads
    rw [hlast] at hb
    refine ⟨v, after, (trimStart_eq_cons_iff hx).mpr ⟨indent, ?_, hindent⟩, hb⟩
    simpa using hcs
  · rintro ⟨v, after, hcs, hb⟩
    obtain ⟨indent, rfl, hindent⟩ := (trimStart_eq_cons_iff hx).mp hcs
    refine ⟨indent, x :: w ++ v, after, by simp, hindent, reads_word_iff.mpr ⟨v, rfl, ?_⟩⟩
    rwa [hlast]

end Pattern

end ScriptBundle
