import Mathlib.Data.Nat.ModEq
import ScriptBundle.Proofs.Text.Decoding
import ScriptBundle.Text.Lowercase

/-! # Settled lower case

No small letter of the table of capitals is a capital in turn, so what a character becomes in lower case stays
as it is. The small letters begin at the small `a`, so a character before it that is no capital stands in a
lower-case form only where it stood by itself.
-/

namespace ScriptBundle

namespace Span

variable {a b : Span} {n : Nat}

def apart (a b : Span) : Bool :=
  -- `Nat.blt` evaluates at once; the table is compared with itself span by span.
  a.last.blt b.first || b.last.blt a.first ||
    (a.step % b.step == 0 || a.first == a.last) && a.first % b.step != b.first % b.step

theorem holds_iff : a.holds n ↔ a.first ≤ n ∧ n ≤ a.last ∧ a.first ≡ n [MOD a.step] := by
  simp only [holds, Bool.and_eq_true, decide_eq_true_eq, beq_iff_eq, and_assoc, and_congr_right_iff]
  intro hfirst _
  rw [Nat.modEq_iff_dvd' hfirst, Nat.dvd_iff_mod_eq_zero]

theorem holds_eq_false_of_apart (h : a.apart b) (ha : a.holds n) : b.holds n = false := by
  rw [Bool.eq_false_iff]
  intro hb
  obtain ⟨hfirst, hlast, hstep⟩ := holds_iff.mp ha
  obtain ⟨hfirst', hlast', hstep'⟩ := holds_iff.mp hb
  simp only [apart, Bool.or_eq_true, Bool.and_eq_true, Nat.blt_eq, beq_iff_eq, bne_iff_ne] at h
  rcases h with (hbefore | hbehind) | ⟨hsteps, hne⟩
  · omega
  · omega
  · -- Along the steps of the first span the remainder does not change, and the second has another one.
    refine hne (Nat.ModEq.trans ?_ hstep'.symm)
    rcases hsteps with hmultiple | hsingle
    · exact hstep.of_dvd (Nat.dvd_of_mod_eq_zero hmultiple)
    · rw [show a.first = n by omega]

end Span

namespace CaseShift

variable {s : CaseShift} {n : Nat}

def smalls (s : CaseShift) : Span :=
  ⟨(s.capitals.first + s.distance).toNat, (s.capitals.last + s.distance).toNat, s.capitals.step⟩

theorem bounds_of_mem_table (h : s ∈ table) :
    ('a'.toNat : Int) ≤ s.capitals.first + s.distance ∧
      (s.capitals.last + s.distance < 0xD800 ∨
        0xE000 ≤ s.capitals.first + s.distance ∧ s.capitals.last + s.distance < 0x110000) := by
  revert s
  decide +kernel

/-- The table is settled: its small letters are none of its capitals. -/
theorem smalls_apart_capitals :
    ∀ s ∈ table, table.all fun t => s.smalls.apart t.capitals := by
  decide +kernel

theorem smalls_apart_dottedCapital : ∀ s ∈ table, s.smalls.apart (.single '\u0130'.toNat) := by
  decide +kernel

theorem smalls_holds (hs : s ∈ table) (h : s.capitals.holds n) :
    s.smalls.holds (n + s.distance).toNat := by
  obtain ⟨hlow, -⟩ := bounds_of_mem_table hs
  obtain ⟨hfirst, hlast, hstep⟩ := Span.holds_iff.mp h
  have hle : (s.capitals.first + s.distance).toNat ≤ (n + s.distance).toNat := by omega
  refine Span.holds_iff.mpr ⟨hle, ?_, (Nat.modEq_iff_dvd' hle).mpr ?_⟩
  · simp only [smalls]
    omega
  · have hgap : (n + s.distance).toNat - (s.capitals.first + s.distance).toNat = n - s.capitals.first := by
      omega
    simp only [smalls]
    rw [hgap]
    exact (Nat.modEq_iff_dvd' hfirst).mp hstep

end CaseShift

variable {c d x : Char}

theorem exists_smalls_holds (h : smallLetter? c = some d) :
    ∃ s ∈ CaseShift.table, s.smalls.holds d.toNat := by
  obtain ⟨s, hs, rfl⟩ := Option.map_eq_some_iff.mp h
  have hmem := List.mem_of_find?_eq_some hs
  have hholds := List.find?_some hs
  obtain ⟨hlow, hhigh⟩ := CaseShift.bounds_of_mem_table hmem
  obtain ⟨hfirst, hlast, -⟩ := Span.holds_iff.mp hholds
  have hvalid : (c.toNat + s.distance).toNat.isValidChar := by
    unfold Nat.isValidChar
    omega
  refine ⟨s, hmem, ?_⟩
  rw [Utf8.toNat_ofNat hvalid]
  exact CaseShift.smalls_holds hmem hholds

theorem toNat_a_le_of_smallLetter? (h : smallLetter? c = some d) : 'a'.toNat ≤ d.toNat := by
  obtain ⟨s, hs, hholds⟩ := exists_smalls_holds h
  obtain ⟨hlow, -⟩ := CaseShift.bounds_of_mem_table hs
  have hfirst : (s.capitals.first + s.distance).toNat ≤ d.toNat := (Span.holds_iff.mp hholds).1
  omega

theorem lowercase_eq_self (hdotted : c ≠ '\u0130') (h : smallLetter? c = none) : lowercase c = [c] := by
  rw [lowercase, if_neg hdotted, h, Option.getD_none]

theorem lowercase_smallLetter (h : smallLetter? c = some d) : lowercase d = [d] := by
  obtain ⟨s, hs, hholds⟩ := exists_smalls_holds h
  apply lowercase_eq_self
  · rintro rfl
    have hdotted := Span.holds_eq_false_of_apart (CaseShift.smalls_apart_dottedCapital s hs) hholds
    simp [Span.single, Span.holds] at hdotted
  · simp only [smallLetter?, Option.map_eq_none_iff, List.find?_eq_none, Bool.not_eq_true]
    intro t ht
    have hapart := List.all_eq_true.mp (CaseShift.smalls_apart_capitals s hs) t ht
    exact Span.holds_eq_false_of_apart hapart hholds

/-- The lower-case form of a character is in lower case. -/
theorem lowercase_of_mem_lowercase (h : d ∈ lowercase c) : lowercase d = [d] := by
  unfold lowercase at h
  split at h
  next =>
    rw [List.mem_cons, List.mem_singleton] at h
    rcases h with rfl | rfl
    · decide +kernel
    · decide +kernel
  next hdotted =>
    rw [List.mem_singleton] at h
    subst h
    rcases hsmall : smallLetter? c with _ | small
    · exact lowercase_eq_self hdotted hsmall
    · exact lowercase_smallLetter hsmall

theorem lowercase_eq_self_iff_of_ascii (h : c.toNat < 128) : lowercase c = [c] ↔ c.isUpper = false := by
  have hcore : ∀ n : Fin 128,
      (Char.ofNat n).toLower = Char.ofNat n ↔ (Char.ofNat n).isUpper = false := by
    decide +kernel
  have hc := hcore ⟨c.toNat, h⟩
  have hlower := lowercase_of_toNat_lt ⟨c.toNat, h⟩
  rw [Char.ofNat_toNat] at hc hlower
  rw [hlower, List.singleton_inj, hc]

theorem isUpper_iff : c.isUpper ↔ 'A' ≤ c ∧ c ≤ 'Z' := decide_eq_true_iff

theorem isUpper_eq_false_of_lowercase (h : lowercase c = [c]) : c.isUpper = false := by
  by_cases hascii : c.toNat < 128
  · exact (lowercase_eq_self_iff_of_ascii hascii).mp h
  · rw [Bool.eq_false_iff]
    intro hupper
    have hlast : c.toNat ≤ 'Z'.toNat := (isUpper_iff.mp hupper).2
    exact hascii (Nat.lt_of_le_of_lt hlast (by decide))

/-- A character before the small letters that is no capital stands for itself alone. -/
theorem mem_lowercase_iff (hx : x.toNat < 'a'.toNat) (hupper : x.isUpper = false) :
    x ∈ lowercase c ↔ c = x := by
  constructor
  · intro hmem
    unfold lowercase at hmem
    split at hmem
    next =>
      rw [List.mem_cons, List.mem_singleton] at hmem
      rcases hmem with rfl | rfl
      · exact absurd hx (by decide)
      · exact absurd hx (by decide)
    next =>
      rw [List.mem_singleton] at hmem
      subst hmem
      rcases hsmall : smallLetter? c with _ | small
      · rfl
      · rw [hsmall] at hx
        exact absurd (toNat_a_le_of_smallLetter? hsmall) (Nat.not_le_of_lt hx)
  · rintro rfl
    rw [(lowercase_eq_self_iff_of_ascii (Nat.lt_trans hx (by decide))).mpr hupper]
    exact List.mem_singleton.mpr rfl

end ScriptBundle
