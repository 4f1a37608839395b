import ScriptBundle.Json.Scan

/-! # Tokens that read back

A reader takes a token from the front of a text and leaves what follows. Strings are read back from their
quotes and escapes whatever follows them, and integers of 64 bits where nothing follows that could go on
with them.
-/

namespace ScriptBundle.Json

namespace Scan

/-- A reader takes `x` from the front of a text and leaves `rest`. -/
def Takes {α : Type} (s : Scan α) (cs : List Char) (x : α) (rest : List Char) : Prop :=
  s.run cs = .ok (x, rest)

section Steps

variable {α β : Type} {s : Scan α} {cs mid rest gap : List Char} {x : α} {c : Char}

theorem Takes.bind {f : α → Scan β} {y : β} (h : s.Takes cs x mid) (hf : (f x).Takes mid y rest) :
    (s >>= f).Takes cs y rest := by
  unfold Takes at h hf ⊢
  rw [StateT.run_bind, h]
  exact hf

theorem takes_pure (x : α) (cs : List Char) : (pure x : Scan α).Takes cs x cs := rfl

theorem takes_drop (c : Char) (rest : List Char) : drop.Takes (c :: rest) () rest := rfl

theorem takes_get (cs : List Char) : (get : Scan (List Char)).Takes cs cs cs := rfl

theorem takes_set (cs rest : List Char) : (set rest : Scan Unit).Takes cs () rest := rfl

theorem takes_peek? (hgap : ∀ c ∈ gap, isSpace c) (hc : isSpace c = false) :
    peek?.Takes (gap ++ c :: rest) (some c) (c :: rest) := by
  have hdrop : (gap ++ c :: rest).dropWhile isSpace = c :: rest := by
    rw [List.dropWhile_append_of_pos hgap, List.dropWhile_cons_of_neg (by simp [hc])]
  have hpeek : peek?.run (gap ++ c :: rest) =
      .ok (((gap ++ c :: rest).dropWhile isSpace).head?, (gap ++ c :: rest).dropWhile isSpace) := rfl
  rw [Takes, hpeek, hdrop, List.head?_cons]

theorem takes_peek?_next (hc : isSpace c = false) : peek?.Takes (c :: rest) (some c) (c :: rest) :=
  takes_peek? (List.forall_mem_nil _) hc

theorem takes_word (w rest : List Char) : (word w).Takes (w ++ rest) () rest := by
  induction w with
  | nil => exact takes_pure () rest
  | cons c cs ih =>
    refine (takes_get _).bind ?_
    simp only [List.cons_append, if_true]
    exact (takes_set _ _).bind ih

end Steps

theorem hexValue?_digitChar : ∀ n < 16, hexValue? n.digitChar = some n := by decide

theorem utf8Size_digitChar : ∀ n < 16, n.digitChar.utf8Size = 1 := by decide

theorem codeUnit_digits {a b : Nat} (ha : a < 16) (hb : b < 16) (rest : List Char) :
    codeUnit ('0' :: '0' :: a.digitChar :: b.digitChar :: rest) = .ok (a * 16 + b, rest) := by
  have hzero : hexValue? '0' = some 0 := rfl
  have hsize : Char.utf8Size '0' = 1 := rfl
  simp [codeUnit, hexValue?_digitChar, utf8Size_digitChar, ha, hb, hzero, hsize]

theorem escapeChar_control {c : Char} (hc : c.toNat < 0x20) (rest : List Char) :
    escapeChar ('u' :: '0' :: '0' :: (c.toNat / 16).digitChar :: (c.toNat % 16).digitChar :: rest) =
      .ok (c, rest) := by
  have hunit := codeUnit_digits (a := c.toNat / 16) (b := c.toNat % 16) (by omega) (by omega) rest
  have hvalue : c.toNat / 16 * 16 + c.toNat % 16 = c.toNat := by omega
  have hlow : ¬(0xDC00 ≤ c.toNat ∧ c.toNat ≤ 0xDFFF) := by omega
  have hplain : c.toNat < 0xD800 := by omega
  simp [escapeChar, unitEscape, hunit, hvalue, hlow, hplain, bind, Except.bind, pure, Except.pure]

variable {rest done : List Char} {fuel : Nat}

theorem stringChars_escape (fuel : Nat) (done : List Char) (c : Char) (rest : List Char) :
    stringChars (fuel + 1) done (escape c ++ rest) = stringChars fuel (c :: done) rest := by
  unfold escape
  repeat' split
  next hc => subst hc; rfl
  next hc => subst hc; rfl
  next hc => subst hc; rfl
  next hc => subst hc; rfl
  next hc => subst hc; rfl
  next hc => subst hc; rfl
  next hc => subst hc; rfl
  next hc => simp [stringChars, escapeChar_control hc]
  next hquote hback _ _ _ _ _ hplain => simp [stringChars, hquote, hback, hplain]

theorem stringChars_flatMap {cs : List Char} (hfuel : cs.length < fuel) :
    stringChars fuel done (cs.flatMap escape ++ '"' :: rest) = .ok (done.reverse ++ cs, rest) := by
  induction cs generalizing fuel done with
  | nil =>
    obtain ⟨fuel, rfl⟩ := Nat.exists_eq_add_one.mpr hfuel
    simp [stringChars]
  | cons c cs ih =>
    rw [List.length_cons] at hfuel
    obtain ⟨fuel, rfl⟩ := Nat.exists_eq_add_one.mpr (Nat.zero_lt_of_lt hfuel)
    rw [List.flatMap_cons, List.append_assoc, stringChars_escape, ih (by omega)]
    simp

theorem escape_ne_nil (c : Char) : escape c ≠ [] := by
  unfold escape
  repeat' split
  all_goals simp

theorem length_le_flatMap_escape (cs : List Char) : cs.length ≤ (cs.flatMap escape).length := by
  induction cs with
  | nil => simp
  | cons c cs ih =>
    have hpos : 0 < (escape c).length := List.length_pos_iff.mpr (escape_ne_nil c)
    simp only [List.flatMap_cons, List.length_append, List.length_cons]
    omega

theorem takes_stringRest (s : String) (rest : List Char) :
    stringRest.Takes (s.toList.flatMap escape ++ '"' :: rest) s rest := by
  have hlength := length_le_flatMap_escape s.toList
  have hfuel : s.toList.length < (s.toList.flatMap escape ++ '"' :: rest).length + 1 := by
    rw [List.length_append]
    omega
  simp only [Takes, stringRest, StateT.run, stringChars_flatMap hfuel, List.reverse_nil,
    List.nil_append, String.ofList_toList]

/-- Nothing follows, or something that comes behind a value. -/
def Ended (rest : List Char) : Prop :=
  ∀ c ∈ rest.head?, c = ',' ∨ c = ']' ∨ c = '\x7d' ∨ c = '\n'

theorem ended_cons_iff {c : Char} :
    Ended (c :: rest) ↔ c = ',' ∨ c = ']' ∨ c = '\x7d' ∨ c = '\n' := by
  simp [Ended]

theorem digits_ended (value taken : Nat) (hrest : Ended rest) :
    digits value taken 0 rest = (value, taken, 0, rest) := by
  rcases rest with _ | ⟨c, rest⟩
  · rfl
  · have hc : c.isDigit = false := by
      rcases ended_cons_iff.mp hrest with rfl | rfl | rfl | rfl <;> rfl
    simp [digits, hc]

theorem le_ofDigitChars (ds : List Char) (value : Nat) : value ≤ Nat.ofDigitChars 10 ds value := by
  rw [Nat.ofDigitChars_eq_ofDigitChars_zero]
  exact Nat.le_add_right_of_le (Nat.le_mul_of_pos_left value (Nat.pow_pos (by decide)))

/-- Digits are read to their end while their value is one of 64 bits. -/
theorem digits_append {ds : List Char} {value : Nat} (taken : Nat) (hds : ∀ c ∈ ds, c.isDigit)
    (hrest : Ended rest) (hsize : Nat.ofDigitChars 10 ds value < UInt64.size) :
    digits value taken 0 (ds ++ rest) =
      (Nat.ofDigitChars 10 ds value, taken + ds.length, 0, rest) := by
  induction ds generalizing value taken with
  | nil => exact digits_ended value taken hrest
  | cons d ds ih =>
    obtain ⟨hd, hds⟩ := List.forall_mem_cons.mp hds
    rw [Nat.ofDigitChars_cons] at hsize ⊢
    have hzero : '0'.toNat = 48 := rfl
    have hnext : value * 10 + (d.toNat - 48) < UInt64.size := by
      have := le_ofDigitChars ds (10 * value + (d.toNat - '0'.toNat))
      omega
    have hcomm : value * 10 + (d.toNat - 48) = 10 * value + (d.toNat - '0'.toNat) := by omega
    simp only [List.cons_append, digits, hd, if_true, hnext, decide_true, Bool.and_self]
    rw [hcomm, ih (taken + 1) hds hsize, List.length_cons, Nat.add_assoc, Nat.add_comm 1]

theorem eq_zero_of_toDigits_eq {n : Nat} {ds : List Char} (h : Nat.toDigits 10 n = '0' :: ds) :
    n = 0 := by
  induction n using Nat.strongRecOn generalizing ds with
  | _ n ih =>
    by_cases hn : n < 10
    · rw [Nat.toDigits_of_lt_base hn] at h
      have hchar : ∀ n < 10, n.digitChar = '0' → n = 0 := by decide
      exact hchar n hn (List.cons.inj h).1
    · rw [Nat.toDigits_of_base_le (by decide) (by omega)] at h
      obtain ⟨d, more, hd⟩ := List.exists_cons_of_ne_nil (Nat.toDigits_ne_nil (n := n / 10) (b := 10))
      rw [hd, List.cons_append, List.cons.injEq] at h
      have hzero := ih (n / 10) (by omega) (h.1 ▸ hd)
      omega

theorem whole_ended {negative : Bool} {n : Nat} (hrest : Ended rest)
    (hn : negative = true → 0 < n ∧ n ≤ Nat.pow 2 63) :
    unsigned.whole negative n 0 rest = .ok (.integer (if negative then -n else n), rest) := by
  have hwhole : unsigned.whole negative n 0 rest =
      if !negative then .ok (.integer n, rest)
      else if n = 0 || Nat.pow 2 63 < n then .ok (.decimal ⟨true, n, 0⟩, rest)
      else .ok (.integer (-n), rest) := by
    rcases rest with _ | ⟨c, rest⟩
    · rfl
    · rcases ended_cons_iff.mp hrest with rfl | rfl | rfl | rfl <;> rfl
  rw [hwhole]
  cases negative with
  | false => rfl
  | true =>
    obtain ⟨hpos, hlow⟩ := hn rfl
    have hfits : ¬Nat.pow 2 63 < n := Nat.not_lt.mpr hlow
    simp [Nat.pos_iff_ne_zero.mp hpos, hfits]

theorem unsigned_toDigits {negative : Bool} {n : Nat} (hrest : Ended rest) (hsize : n < UInt64.size)
    (hn : negative = true → 0 < n ∧ n ≤ Nat.pow 2 63) :
    unsigned negative (Nat.toDigits 10 n ++ rest) =
      .ok (.integer (if negative then -n else n), rest) := by
  have hdigits := @digits_append rest (Nat.toDigits 10 n) 0 0
    (fun c hc => Nat.isDigit_of_mem_toDigits (by decide) (by decide) hc) hrest
    (by rwa [Nat.ofDigitChars_ten_toDigits])
  rw [Nat.ofDigitChars_ten_toDigits] at hdigits
  obtain ⟨d, ds, hd⟩ := List.exists_cons_of_ne_nil (Nat.toDigits_ne_nil (n := n) (b := 10))
  have hdigit : d.isDigit := Nat.isDigit_of_mem_toDigits (n := n) (b := 10) (by decide) (by decide)
    (hd ▸ List.mem_cons_self)
  rw [← whole_ended hrest hn]
  by_cases hzero : d = '0'
  · -- A zero stands alone, and nothing that follows it is a digit.
    subst hzero
    obtain rfl := eq_zero_of_toDigits_eq hd
    rcases rest with _ | ⟨c, rest⟩
    · rfl
    · rcases ended_cons_iff.mp hrest with rfl | rfl | rfl | rfl <;> rfl
  · rw [hd] at hdigits ⊢
    simp only [List.cons_append] at hdigits ⊢
    unfold unsigned
    split
    next h => cases h
    next h => exact absurd (List.cons.inj h).1 hzero
    next h => exact absurd (List.cons.inj h).1 hzero
    next c _ _ h =>
      obtain ⟨rfl, -⟩ := List.cons.inj h
      simp [hdigit, hdigits]

end Scan

end ScriptBundle.Json
