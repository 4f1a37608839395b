import ScriptBundle.LogicalName
import ScriptBundle.Proofs.Text.Lowercase

/-! # Stems of logical names

A capital behind a word character starts a new word, and behind any other character it does not. Main
statement: the other characters are exactly those that cut a name into two parts whose stems do not depend on
each other, slashes and dots stay where they are, and a stem is in lower case and its own stem.
-/

namespace ScriptBundle.LogicalName

variable {before : Option Char} {c d sep : Char} {name : List Char}

def WordCharacter (c : Char) : Prop :=
  'A' ≤ c ∧ c ≤ 'Z' ∨ 'a' ≤ c ∧ c ≤ 'z' ∨ '0' ≤ c ∧ c ≤ '9' ∨ c = '_'

instance (c : Char) : Decidable (WordCharacter c) :=
  inferInstanceAs (Decidable (_ ∧ _ ∨ _ ∧ _ ∨ _ ∧ _ ∨ _))

theorem joinsWord_eq (c : Char) : joinsWord c = (c.isUpper || c.isLower || c.isDigit || c == '_') := rfl

theorem joinsWord_iff : joinsWord c ↔ WordCharacter c := by
  have hlower : c.isLower ↔ 'a' ≤ c ∧ c ≤ 'z' :=
    Bool.and_eq_true_iff.trans (and_congr decide_eq_true_iff decide_eq_true_iff)
  have hdigit : c.isDigit ↔ '0' ≤ c ∧ c ≤ '9' :=
    Bool.and_eq_true_iff.trans (and_congr decide_eq_true_iff decide_eq_true_iff)
  rw [joinsWord_eq, Bool.or_eq_true, Bool.or_eq_true, Bool.or_eq_true, isUpper_iff, hlower, hdigit,
    beq_iff_eq, or_assoc, or_assoc]
  rfl

theorem joinsWord_eq_false_iff : joinsWord c = false ↔ ¬ WordCharacter c := by
  rw [← joinsWord_iff, Bool.not_eq_true]

theorem isUpper_eq_false_of_joinsWord (h : joinsWord c = false) : c.isUpper = false := by
  rw [joinsWord_eq, Bool.or_eq_false_iff, Bool.or_eq_false_iff, Bool.or_eq_false_iff] at h
  exact h.1.1.1

/-- A character that cuts names and comes from no other one. -/
structure Separator (c : Char) : Prop where
  lt_a : c.toNat < 'a'.toNat
  joinsWord : joinsWord c = false

theorem separator_slash : Separator '/' := ⟨by decide, by decide⟩

theorem separator_dot : Separator '.' := ⟨by decide, by decide⟩

theorem Separator.mem_lowercase_iff (h : Separator sep) : sep ∈ lowercase c ↔ c = sep :=
  ScriptBundle.mem_lowercase_iff h.lt_a (isUpper_eq_false_of_joinsWord h.joinsWord)

theorem Separator.ne_underscore (h : Separator sep) : sep ≠ '_' := by
  rintro rfl
  cases h.joinsWord

theorem Separator.lowercase (h : Separator sep) : lowercase sep = [sep] :=
  (lowercase_eq_self_iff_of_ascii (Nat.lt_trans h.lt_a (by decide))).mpr
    (isUpper_eq_false_of_joinsWord h.joinsWord)

theorem expand_none (c : Char) : expand none c = lowercase c := by
  rw [expand, Option.any_none, Bool.and_false, if_neg Bool.false_ne_true]

theorem expand_of_isUpper_eq_false (h : c.isUpper = false) : expand before c = lowercase c := by
  rw [expand, h, Bool.false_and, if_neg Bool.false_ne_true]

theorem mem_expand (h : d ∈ expand before c) : d = '_' ∨ d ∈ lowercase c := by
  unfold expand at h
  split at h
  next => exact List.mem_cons.mp h
  next => exact Or.inr h

theorem lowercase_of_mem_expand (h : d ∈ expand before c) : lowercase d = [d] := by
  rcases mem_expand h with rfl | hlower
  · decide +kernel
  · exact lowercase_of_mem_lowercase hlower

theorem Separator.mem_expand_iff (h : Separator sep) : sep ∈ expand before c ↔ c = sep := by
  unfold expand
  split <;> simp [h.mem_lowercase_iff, h.ne_underscore]

theorem stemAfter_append (before : Option Char) (a b : List Char) :
    stemAfter before (a ++ b) = stemAfter before a ++ stemAfter (a.getLast?.or before) b := by
  induction a generalizing before with
  | nil => rfl
  | cons c a ih =>
    have hlast : (c :: a).getLast?.or before = a.getLast?.or (some c) := by
      rw [List.getLast?_cons]
      cases a.getLast? <;> rfl
    rw [List.cons_append, stemAfter, stemAfter, ih, hlast, List.append_assoc]

theorem stemAfter_of_joinsWord_eq_false (h : joinsWord c = false) : stemAfter (some c) name = stem name := by
  cases name with
  | nil => rfl
  | cons d rest =>
    rw [stem, stemAfter, stemAfter, expand_none, expand, Option.any_some, h, Bool.and_false,
      if_neg Bool.false_ne_true]

theorem stem_append_cons (h : joinsWord c = false) (a b : List Char) :
    stem (a ++ c :: b) = stem a ++ lowercase c ++ stem b := by
  rw [stem, stemAfter_append, stemAfter, expand_of_isUpper_eq_false (isUpper_eq_false_of_joinsWord h),
    stemAfter_of_joinsWord_eq_false h, ← List.append_assoc]
  rfl

theorem stem_append_cons_iff :
    (∀ a b, stem (a ++ c :: b) = stem a ++ lowercase c ++ stem b) ↔ ¬ WordCharacter c := by
  rw [← joinsWord_eq_false_iff]
  refine ⟨fun h => ?_, stem_append_cons⟩
  rw [Bool.eq_false_iff]
  intro hjoins
  -- A capital behind the character tells whether it joins.
  have hcapital : expand (some c) 'A' = ['_', 'a'] := by
    rw [expand, Option.any_some, hjoins]
    decide +kernel
  have hword : stem [c, 'A'] = lowercase c ++ ['_', 'a'] := by
    rw [stem, stemAfter, stemAfter, stemAfter, expand_none, hcapital, List.append_nil]
  have halone : stem ['A'] = ['a'] := by decide +kernel
  have hcut : stem [c, 'A'] = lowercase c ++ stem ['A'] := h [] ['A']
  rw [hword, halone, List.append_cancel_left_eq] at hcut
  cases hcut

theorem Separator.mem_stemAfter_iff (h : Separator sep) : sep ∈ stemAfter before name ↔ sep ∈ name := by
  induction name generalizing before with
  | nil => rfl
  | cons c rest ih => rw [stemAfter, List.mem_append, h.mem_expand_iff, ih, List.mem_cons, eq_comm]

/-- A separator stays where it is, and what stands between two of them goes its own way. -/
theorem Separator.splitOn_stem (h : Separator sep) (name : List Char) :
    (stem name).splitOn sep = (name.splitOn sep).map stem := by
  -- Induction on the length: a separator leaves two shorter names, each of which starts anew.
  obtain ⟨n, hn⟩ : ∃ n, name.length = n := ⟨_, rfl⟩
  induction n using Nat.strong_induction_on generalizing name with
  | _ n ih =>
  by_cases hmem : sep ∈ name
  · obtain ⟨a, b, rfl, -⟩ := List.eq_append_cons_of_mem hmem
    rw [List.length_append, List.length_cons] at hn
    rw [stem_append_cons h.joinsWord, h.lowercase, List.append_assoc, List.singleton_append,
      List.splitOn_append_cons_self, List.splitOn_append_cons_self, List.map_append,
      ih a.length (by omega) a rfl, ih b.length (by omega) b rfl]
  · have hstem : sep ∉ stem name := mt h.mem_stemAfter_iff.mp hmem
    rw [List.splitOn_eq_singleton hmem, List.splitOn_eq_singleton hstem, List.map_singleton]

theorem lowercase_of_mem_stemAfter (h : d ∈ stemAfter before name) : lowercase d = [d] := by
  induction name generalizing before with
  | nil => cases h
  | cons c rest ih =>
    rw [stemAfter, List.mem_append] at h
    rcases h with hhere | hrest
    · exact lowercase_of_mem_expand hhere
    · exact ih hrest

theorem stemAfter_eq_self (h : ∀ d ∈ name, lowercase d = [d]) : stemAfter before name = name := by
  induction name generalizing before with
  | nil => rfl
  | cons c rest ih =>
    -- A character in lower case is no capital, so no underscore is put before it.
    obtain ⟨hc, hrest⟩ := List.forall_mem_cons.mp h
    rw [stemAfter, expand_of_isUpper_eq_false (isUpper_eq_false_of_lowercase hc), hc, ih hrest,
      List.singleton_append]

theorem stem_stem (name : List Char) : stem (stem name) = stem name :=
  stemAfter_eq_self fun _ => lowercase_of_mem_stemAfter

theorem slash_mem_fileName {name : String} : '/' ∈ (fileName name).toList ↔ '/' ∈ name.toList := by
  have hextension : '/' ∉ extension.toList := by decide
  simp [fileName, stem, separator_slash.mem_stemAfter_iff, hextension]

/-- The name of a file ends in a letter. -/
theorem getLast?_fileName (name : String) : (fileName name).toList.getLast? = some 's' := by
  simp [fileName, extension]

theorem fileName_ne {name s : String} (hs : s.toList.getLast? ≠ some 's') : fileName name ≠ s := by
  rintro rfl
  exact hs (getLast?_fileName name)

def fileStem (name : String) : String := String.ofList (stem name.toList)

@[simp] theorem toList_fileStem (name : String) : (fileStem name).toList = stem name.toList :=
  String.toList_ofList

theorem fileStem_append_iff :
    (∀ a b : String, fileStem (a ++ String.singleton c ++ b) =
      fileStem a ++ String.ofList (lowercase c) ++ fileStem b) ↔ ¬ WordCharacter c := by
  rw [← stem_append_cons_iff]
  constructor
  · intro h a b
    have hcut := congrArg String.toList (h (String.ofList a) (String.ofList b))
    simpa using hcut
  · intro h a b
    apply String.toList_inj.mp
    simpa using h a.toList b.toList

theorem fileStem_fileStem (name : String) : fileStem (fileStem name) = fileStem name := by
  rw [fileStem, toList_fileStem, stem_stem, fileStem]

theorem isUpper_eq_false_of_mem_fileStem {name : String} (h : c ∈ (fileStem name).toList) :
    c.isUpper = false := by
  rw [toList_fileStem] at h
  exact isUpper_eq_false_of_lowercase (lowercase_of_mem_stemAfter h)

def parts (sep : Char) (text : String) : List String := (text.toList.splitOn sep).map String.ofList

theorem Separator.parts_fileStem (h : Separator sep) (name : String) :
    parts sep (fileStem name) = (parts sep name).map fileStem := by
  have hpart : fileStem ∘ String.ofList = String.ofList ∘ stem := by
    funext part
    simp [fileStem]
  rw [parts, parts, List.map_map, hpart, ← List.map_map, ← h.splitOn_stem, fileStem, String.toList_ofList]

/-- The stem of a name is the name of its file up to the extension. The characters that cut a name, so that
the stems of the two parts do not depend on each other, are those that are no word characters; slashes and
dots are among them and stay where they are. No stem has an ASCII capital, and each is its own stem. -/
theorem stem_settles_parts :
    (∀ name : String, fileName name = fileStem name ++ ".js") ∧
    (∀ c : Char,
      (∀ a b : String, fileStem (a ++ String.singleton c ++ b) =
        fileStem a ++ String.ofList (lowercase c) ++ fileStem b) ↔ ¬ WordCharacter c) ∧
    (∀ name : String, ∀ sep ∈ ['/', '.'], parts sep (fileStem name) = (parts sep name).map fileStem) ∧
    (∀ name : String, ∀ c ∈ (fileStem name).toList, ¬ ('A' ≤ c ∧ c ≤ 'Z')) ∧
    ∀ name : String, fileStem (fileStem name) = fileStem name := by
  refine ⟨fun _ => rfl, fun _ => fileStem_append_iff, fun name sep hsep => ?places, fun name c hc => ?lower,
    fileStem_fileStem⟩
  case places =>
    have hseparators : ∀ c ∈ ['/', '.'], Separator c := by
      simp [separator_slash, separator_dot]
    exact (hseparators sep hsep).parts_fileStem name
  case lower =>
    rw [← isUpper_iff, isUpper_eq_false_of_mem_fileStem hc]
    exact Bool.false_ne_true

/-- A capital that expands and a sign with an ASCII small letter: neither starts a word, nor does the capital
behind the first. -/
theorem stem_settles_parts_expanding :
    fileStem "Lib/DateUtils.\u0130O\u212AeyPath" = "lib/date_utils.i\u0307okey_path" ∧
      '.' ∈ ['/', '.'] ∧
      parts '.' (fileStem "Lib/DateUtils.\u0130O\u212AeyPath") =
        [fileStem "Lib/DateUtils", fileStem "\u0130O\u212AeyPath"] ∧
      ¬ WordCharacter '\u0130' ∧
      fileStem ("Lib/DateUtils." ++ String.singleton '\u0130' ++ "O\u212AeyPath") =
        "lib/date_utils." ++ "i\u0307" ++ "okey_path" ∧
      'k' ∈ (fileStem "Lib/DateUtils.\u0130O\u212AeyPath").toList ∧ ¬ ('A' ≤ 'k' ∧ 'k' ≤ 'Z') := by
  obtain ⟨-, hcut, hplaces, hlower, -⟩ := stem_settles_parts
  have hdot : '.' ∈ ['/', '.'] := by decide
  have hword : ¬ WordCharacter '\u0130' := by decide
  have hstem : fileStem "Lib/DateUtils.\u0130O\u212AeyPath" = "lib/date_utils.i\u0307okey_path" := by
    decide +kernel
  have hmem : 'k' ∈ (fileStem "Lib/DateUtils.\u0130O\u212AeyPath").toList := by
    rw [hstem]
    decide +kernel
  refine ⟨hstem, hdot, ?_, hword, ?_, hmem, hlower _ _ hmem⟩
  · rw [hplaces _ '.' hdot]
    decide +kernel
  · rw [(hcut '\u0130').mpr hword]
    decide +kernel

end ScriptBundle.LogicalName
