import Mathlib.Algebra.Group.Nat.Defs
import ScriptBundle.Proofs.Text.Units

/-! # The order of texts

Texts are compared character by character, and octets octet by octet. UTF-8 keeps the order: main statement
`textOctets_lt_iff`.
-/

namespace ScriptBundle

namespace Utf8

variable {c d : Char} {cs ds : List Char} {xs ys : Octets} {m n : Nat}

theorem ofNat_cons_lt_ofNat_cons (hm : m < 256) (hn : n < 256) (h : m < n ∨ m = n ∧ xs < ys) :
    UInt8.ofNat m :: xs < UInt8.ofNat n :: ys := by
  rw [List.cons_lt_cons_iff]
  rcases h with hlt | ⟨rfl, hrest⟩
  · left
    rwa [UInt8.lt_iff_toNat_lt, UInt8.toNat_ofNat', UInt8.toNat_ofNat', Nat.mod_eq_of_lt hm,
      Nat.mod_eq_of_lt hn]
  · exact Or.inr ⟨rfl, hrest⟩

/-- The last continuation octets of a character: the digits of its number with base 64. -/
def continuation : Nat → Nat → Octets
  | 0, _ => []
  | k + 1, n => .ofNat (n / 64 ^ k % 64 + 0x80) :: continuation k n

theorem continuation_append_lt {k : Nat} (h : m < n) (hsame : m / 64 ^ k = n / 64 ^ k) (xs ys : Octets) :
    continuation k m ++ xs < continuation k n ++ ys := by
  induction k with
  | zero =>
    rw [Nat.pow_zero, Nat.div_one, Nat.div_one] at hsame
    exact absurd hsame (Nat.ne_of_lt h)
  | succ k ih =>
    rw [Nat.pow_succ, ← Nat.div_div_eq_div_mul, ← Nat.div_div_eq_div_mul] at hsame
    have hle : m / 64 ^ k ≤ n / 64 ^ k := Nat.div_le_div_right (Nat.le_of_lt h)
    refine ofNat_cons_lt_ofNat_cons (by omega) (by omega) ?_
    rcases Nat.lt_or_eq_of_le hle with hlt | heq
    · left
      omega
    · right
      exact ⟨by rw [heq], ih heq⟩

/-- The first octet of a character tells how many octets follow it. -/
theorem exists_continuation (c : Char) : ∃ b k,
    String.utf8EncodeChar c = .ofNat b :: continuation k c.toNat ∧
    (c.toNat < 0x80 ∧ b = c.toNat ∧ k = 0 ∨
      0x80 ≤ c.toNat ∧ c.toNat < 0x800 ∧ b = c.toNat / 64 + 0xC0 ∧ k = 1 ∨
      0x800 ≤ c.toNat ∧ c.toNat < 0x10000 ∧ b = c.toNat / 64 ^ 2 + 0xE0 ∧ k = 2 ∨
      0x10000 ≤ c.toNat ∧ c.toNat < 0x110000 ∧ b = c.toNat / 64 ^ 3 + 0xF0 ∧ k = 3) := by
  have hvalid : c.toNat.isValidChar := c.valid
  have hbound : c.toNat < 0x110000 := by
    unfold Nat.isValidChar at hvalid
    omega
  rw [octets_of_ofNat hvalid c.ofNat_toNat.symm]
  simp only [Nat.reducePow]
  -- What the first octet takes of the number is all that stands before the continuation octets.
  split
  next => exact ⟨_, 0, rfl, Or.inl ⟨by omega, rfl, rfl⟩⟩
  next =>
    split
    next =>
      have hfirst : c.toNat / 64 % 32 = c.toNat / 64 := Nat.mod_eq_of_lt (by omega)
      refine ⟨_, 1, ?_, Or.inr (Or.inl ⟨by omega, by omega, rfl, rfl⟩)⟩
      simp only [continuation, hfirst, Nat.reducePow, Nat.div_one]
    next =>
      split
      next =>
        have hfirst : c.toNat / 4096 % 16 = c.toNat / 4096 := Nat.mod_eq_of_lt (by omega)
        refine ⟨_, 2, ?_, Or.inr (Or.inr (Or.inl ⟨by omega, by omega, rfl, rfl⟩))⟩
        simp only [continuation, hfirst, Nat.reducePow, Nat.div_one]
      next =>
        have hfirst : c.toNat / 262144 % 8 = c.toNat / 262144 := Nat.mod_eq_of_lt (by omega)
        refine ⟨_, 3, ?_, Or.inr (Or.inr (Or.inr ⟨by omega, hbound, rfl, rfl⟩))⟩
        simp only [continuation, hfirst, Nat.reducePow, Nat.div_one]

/-- The octets of two characters differ before the first ones of them end, as no first octet of a sequence
begins sequences of different lengths. -/
theorem utf8EncodeChar_append_lt (h : c < d) (xs ys : Octets) :
    String.utf8EncodeChar c ++ xs < String.utf8EncodeChar d ++ ys := by
  have hcd : c.toNat < d.toNat := h
  obtain ⟨b, k, hc, hck⟩ := exists_continuation c
  obtain ⟨b', k', hd, hdk⟩ := exists_continuation d
  rw [hc, hd]
  refine ofNat_cons_lt_ofNat_cons (by omega) (by omega) ?_
  have hfirst : b < b' ∨ b = b' ∧ k = k' ∧ c.toNat / 64 ^ k = d.toNat / 64 ^ k' := by
    rcases hck with ⟨h, rfl, rfl⟩ | ⟨h, h', rfl, rfl⟩ | ⟨h, h', rfl, rfl⟩ | ⟨h, h', rfl, rfl⟩ <;>
      rcases hdk with ⟨l, rfl, rfl⟩ | ⟨l, l', rfl, rfl⟩ | ⟨l, l', rfl, rfl⟩ | ⟨l, l', rfl, rfl⟩ <;> omega
  rcases hfirst with hlt | ⟨rfl, rfl, hsame⟩
  · exact Or.inl hlt
  · exact Or.inr ⟨rfl, continuation_append_lt hcd hsame xs ys⟩

theorem encode_lt_encode (h : cs < ds) : encode cs < encode ds := by
  induction cs generalizing ds with
  | nil =>
    cases ds with
    | nil => exact absurd h (List.lt_irrefl _)
    | cons d ds =>
      have hd : encode (d :: ds) = String.utf8EncodeChar d ++ encode ds := List.flatMap_cons
      obtain ⟨b, k, hb, -⟩ := exists_continuation d
      rw [hd, hb]
      exact List.nil_lt_cons _ _
  | cons c cs ih =>
    cases ds with
    | nil => exact absurd h (List.not_lt_nil _)
    | cons d ds =>
      have hc : encode (c :: cs) = String.utf8EncodeChar c ++ encode cs := List.flatMap_cons
      have hd : encode (d :: ds) = String.utf8EncodeChar d ++ encode ds := List.flatMap_cons
      rw [hc, hd]
      rcases List.cons_lt_cons_iff.mp h with hlt | ⟨rfl, hrest⟩
      · exact utf8EncodeChar_append_lt hlt _ _
      · exact List.append_left_lt (ih hrest)

end Utf8

theorem textOctets_lt_iff {s t : String} : textOctets s < textOctets t ↔ s < t := by
  have hmono : ∀ {s t : String}, s < t → textOctets s < textOctets t := fun h =>
    Utf8.encode_lt_encode (String.lt_iff.mp h)
  constructor
  · intro h
    refine Decidable.byContradiction fun hst => ?_
    have hle : t ≤ s := String.not_lt.mp hst
    by_cases hts : t < s
    · exact List.lt_asymm h (hmono hts)
    · rw [String.le_antisymm hle (String.not_lt.mp hts)] at h
      exact List.lt_irrefl _ h
  · exact hmono

end ScriptBundle
