import ScriptBundle.Text.Utf8

/-!
# Decoding

A line feed is never part of a longer sequence, so octets can be decoded line by line. Octets that were
written as text are read back as that text.
-/

namespace ScriptBundle

namespace Utf8

variable {s : State} {b : UInt8}

/-- Within a sequence, the next octet has to be a continuation and can be one, and the character at the
end of the sequence is beyond ASCII. -/
def State.Proper : State → Prop
  | .start => True
  | .inside bits left low high =>
    0x80 ≤ low ∧ low ≤ high ∧ high ≤ 0xBF ∧ 2 ≤ bits * 64 + (low - 0x80) ∧
      (left ≤ 1 → 0x80 ≤ bits * 64 + (low - 0x80))

theorem State.proper_start : State.start.Proper := trivial

theorem lead_proper (n : Nat) : (lead n).2.Proper := by
  unfold lead
  repeat' split
  all_goals
    simp only [State.Proper]
    try omega

theorem step_proper (hs : s.Proper) (b : UInt8) : (step s b).2.Proper := by
  cases s with
  | start => exact lead_proper b.toNat
  | inside bits left low high =>
    obtain ⟨hlow, -, -, hbits, -⟩ := hs
    simp only [step]
    split
    next h =>
      simp only [Bool.and_eq_true, decide_eq_true_eq] at h
      split
      · trivial
      · simp only [State.Proper]
        omega
    next => exact lead_proper b.toNat

theorem toNat_ofNat {n : Nat} (hn : n.isValidChar) : (Char.ofNat n).toNat = n := by
  rw [Char.ofNat, dif_pos hn]
  rfl

theorem eq_toNat_of_ofNat_eq {n : Nat} {c : Char} (hc : c ≠ '\x00') (h : Char.ofNat n = c) :
    n = c.toNat := by
  by_cases hn : n.isValidChar
  · rw [← h, toNat_ofNat hn]
  · rw [Char.ofNat, dif_neg hn] at h
    exact absurd h.symm hc

theorem lineFeed_mem_lead {n : Nat} (h : some '\n' ∈ (lead n).1) : n = 10 := by
  unfold lead at h
  split at h
  next =>
    rw [List.mem_singleton, Option.some.injEq] at h
    exact eq_toNat_of_ofNat_eq (by decide) h.symm
  next =>
    repeat' split at h
    all_goals simp at h

theorem lineFeed_mem_step (hs : s.Proper) (h : some '\n' ∈ (step s b).1) : b = 10 := by
  cases s with
  | start => exact UInt8.toNat_inj.mp (lineFeed_mem_lead h)
  | inside bits left low high =>
    obtain ⟨hlow, -, -, -, hlast⟩ := hs
    simp only [step] at h
    split at h
    next hb =>
      simp only [Bool.and_eq_true, decide_eq_true_eq] at hb
      split at h
      next hleft =>
        rw [List.mem_singleton, Option.some.injEq] at h
        have hten : _ = 10 := eq_toNat_of_ofNat_eq (by decide) h.symm
        have hge := hlast hleft
        omega
      next => cases h
    next =>
      have hmem : some '\n' ∈ (lead b.toNat).1 := by simpa using h
      exact UInt8.toNat_inj.mp (lineFeed_mem_lead hmem)

theorem step_lineFeed (hs : s.Proper) :
    step s 10 = (finish s ++ [some '\n'], .start) := by
  cases s with
  | start => rfl
  | inside bits left low high =>
    have hlow : 0x80 ≤ low := hs.1
    have hout : (decide (low ≤ (10 : UInt8).toNat) && decide ((10 : UInt8).toNat ≤ high)) = false := by
      have hten : (10 : UInt8).toNat = 10 := rfl
      rw [hten, decide_eq_false (by omega), Bool.false_and]
    simp only [step, hout]
    rfl

theorem piecesFrom_lineFeed (hs : s.Proper) (front rest : Octets) :
    piecesFrom s (front ++ 10 :: rest) = piecesFrom s front ++ some '\n' :: piecesFrom .start rest := by
  induction front generalizing s with
  | nil =>
    have hnext : piecesFrom s (10 :: rest) = (step s 10).1 ++ piecesFrom (step s 10).2 rest := rfl
    rw [List.nil_append, hnext, step_lineFeed hs, List.append_assoc]
    rfl
  | cons b front ih =>
    rw [List.cons_append, piecesFrom, ih (step_proper hs b), piecesFrom, List.append_assoc]

theorem lineFeed_notMem_piecesFrom (hs : s.Proper) {octets : Octets} (h : 10 ∉ octets) :
    some '\n' ∉ piecesFrom s octets := by
  induction octets generalizing s with
  | nil => cases s <;> simp [piecesFrom, finish]
  | cons b rest ih =>
    obtain ⟨hb, hrest⟩ := not_or.mp (mt List.mem_cons.mpr h)
    rw [piecesFrom, List.mem_append, not_or]
    exact ⟨fun hmem => hb (lineFeed_mem_step hs hmem).symm, ih (step_proper hs b) hrest⟩

theorem decodeLossy_lineFeed (front rest : Octets) :
    decodeLossy (front ++ 10 :: rest) = decodeLossy front ++ '\n' :: decodeLossy rest := by
  simp [decodeLossy, pieces, piecesFrom_lineFeed State.proper_start]

theorem lineFeed_notMem_decodeLossy {octets : Octets} (h : 10 ∉ octets) :
    '\n' ∉ decodeLossy octets := by
  intro hmem
  obtain ⟨piece, hpiece, heq⟩ := List.mem_map.mp hmem
  rcases piece with _ | x
  · exact absurd heq (by decide)
  · obtain rfl : x = '\n' := heq
    exact lineFeed_notMem_piecesFrom State.proper_start h hpiece

theorem lead_one {n : Nat} (h : n < 0x80) : lead n = ([some (Char.ofNat n)], .start) := by
  simp [lead, h]

theorem lead_two {n : Nat} (h : 0xC2 ≤ n) (h' : n < 0xE0) :
    lead n = ([], .inside (n - 0xC0) 1 0x80 0xBF) := by
  unfold lead
  rw [if_neg (by omega), if_neg (by omega), if_pos h']

theorem lead_three {n : Nat} (h : 0xE0 ≤ n) (h' : n < 0xF0) :
    lead n = ([], .inside (n - 0xE0) 2 (if n = 0xE0 then 0xA0 else 0x80)
      (if n = 0xED then 0x9F else 0xBF)) := by
  unfold lead
  rw [if_neg (by omega), if_neg (by omega), if_neg (by omega)]
  by_cases hlow : n = 0xE0
  · subst hlow
    rfl
  by_cases hhigh : n = 0xED
  · subst hhigh
    rfl
  simp [hlow, hhigh, h']

theorem lead_four {n : Nat} (h : 0xF0 ≤ n) (h' : n ≤ 0xF4) :
    lead n = ([], .inside (n - 0xF0) 3 (if n = 0xF0 then 0x90 else 0x80)
      (if n = 0xF4 then 0x8F else 0xBF)) := by
  unfold lead
  rw [if_neg (by omega), if_neg (by omega), if_neg (by omega), if_neg (by omega), if_neg (by omega),
    if_neg (by omega)]
  by_cases hlow : n = 0xF0
  · subst hlow
    rfl
  by_cases hhigh : n = 0xF4
  · subst hhigh
    rfl
  have hlt : n < 0xF4 := by omega
  simp [hlow, hhigh, hlt]

variable {bits left low high n : Nat}

theorem step_inside_more (hn : n < 256) (hlow : low ≤ n) (hhigh : n ≤ high) (hleft : 1 < left) :
    step (.inside bits left low high) (.ofNat n) =
      ([], .inside (bits * 64 + (n - 0x80)) (left - 1) 0x80 0xBF) := by
  have hoctet : (UInt8.ofNat n).toNat = n := Nat.mod_eq_of_lt hn
  simp [step, hoctet, hlow, hhigh, Nat.not_le.mpr hleft]

theorem step_inside_last (hn : n < 256) (hlow : low ≤ n) (hhigh : n ≤ high) (hleft : left ≤ 1) :
    step (.inside bits left low high) (.ofNat n) =
      ([some (Char.ofNat (bits * 64 + (n - 0x80)))], .start) := by
  have hoctet : (UInt8.ofNat n).toNat = n := Nat.mod_eq_of_lt hn
  simp [step, hoctet, hlow, hhigh, hleft]

theorem step_start (hn : n < 256) : step .start (.ofNat n) = lead n := by
  have hoctet : (UInt8.ofNat n).toNat = n := Nat.mod_eq_of_lt hn
  rw [step, hoctet]

theorem ofNat_of_eq {c : Char} (h : n = c.val.toNat) : Char.ofNat n = c := by
  rw [h]
  exact Char.ofNat_toNat c

inductive Completes : State → Octets → Char → Prop
  | last {s b c} (h : step s b = ([some c], .start)) : Completes s [b] c
  | more {s b next rest c} (h : step s b = ([], next)) (hrest : Completes next rest c) :
      Completes s (b :: rest) c

theorem Completes.piecesFrom_append {octets : Octets} {c : Char} (h : Completes s octets c)
    (rest : Octets) : piecesFrom s (octets ++ rest) = some c :: piecesFrom .start rest := by
  induction h with
  | last h => rw [List.singleton_append, piecesFrom, h, List.singleton_append]
  | more h _ ih => rw [List.cons_append, piecesFrom, h, List.nil_append, ih]

theorem completes_utf8EncodeChar (c : Char) : Completes .start (String.utf8EncodeChar c) c := by
  have hvalid : c.val.toNat < 0xD800 ∨ 0xDFFF < c.val.toNat ∧ c.val.toNat < 0x110000 := c.valid
  unfold String.utf8EncodeChar
  generalize hv : c.val.toNat = v at hvalid
  simp only
  split
  next h =>
    refine .last ?_
    rw [step_start (by omega), lead_one (by omega), ofNat_of_eq hv.symm]
  split
  next h =>
    refine .more ((step_start (by omega)).trans (lead_two (by omega) (by omega))) (.last ?_)
    rw [step_inside_last (by omega) (by omega) (by omega) (by omega), ofNat_of_eq (c := c) (by omega)]
  split
  next h =>
    refine .more ((step_start (by omega)).trans (lead_three (by omega) (by omega))) ?_
    refine .more (step_inside_more (by omega) (by split <;> omega) (by split <;> omega) (by omega))
      (.last ?_)
    rw [step_inside_last (by omega) (by omega) (by omega) (by omega), ofNat_of_eq (c := c) (by omega)]
  next h =>
    refine .more ((step_start (by omega)).trans (lead_four (by omega) (by omega))) ?_
    refine .more (step_inside_more (by omega) (by split <;> omega) (by split <;> omega) (by omega)) ?_
    refine .more (step_inside_more (by omega) (by omega) (by omega) (by omega)) (.last ?_)
    rw [step_inside_last (by omega) (by omega) (by omega) (by omega), ofNat_of_eq (c := c) (by omega)]

/-- The octets of a character are read as this character, whatever comes behind them. -/
theorem piecesFrom_utf8EncodeChar (c : Char) (rest : Octets) :
    piecesFrom .start (String.utf8EncodeChar c ++ rest) = some c :: piecesFrom .start rest :=
  (completes_utf8EncodeChar c).piecesFrom_append rest

theorem encode_cons (c : Char) (cs : List Char) :
    encode (c :: cs) = String.utf8EncodeChar c ++ encode cs :=
  List.flatMap_cons

theorem pieces_encode (cs : List Char) : pieces (encode cs) = cs.map some := by
  induction cs with
  | nil => rfl
  | cons c cs ih =>
    rw [pieces, encode_cons, piecesFrom_utf8EncodeChar, List.map_cons]
    rw [pieces] at ih
    rw [ih]

theorem decodeLossy_encode (cs : List Char) : decodeLossy (encode cs) = cs := by
  rw [decodeLossy, pieces_encode, List.map_map]
  exact List.map_id cs

theorem encode_append (a b : List Char) : encode (a ++ b) = encode a ++ encode b :=
  List.flatMap_append

/-- A character of ASCII is one octet, and no other character has this octet. -/
theorem mem_utf8EncodeChar_iff (hn : n < 0x80) (c : Char) :
    UInt8.ofNat n ∈ String.utf8EncodeChar c ↔ c.toNat = n := by
  have hoctet : ∀ m, m < 256 → (UInt8.ofNat n = UInt8.ofNat m ↔ n = m) := by
    intro m hm
    have hleft : (UInt8.ofNat n).toNat = n := Nat.mod_eq_of_lt (by omega)
    have hright : (UInt8.ofNat m).toNat = m := Nat.mod_eq_of_lt hm
    rw [← UInt8.toNat_inj, hleft, hright]
  have hvalue : c.toNat = c.val.toNat := rfl
  have hvalid : c.val.toNat < 0xD800 ∨ 0xDFFF < c.val.toNat ∧ c.val.toNat < 0x110000 := c.valid
  unfold String.utf8EncodeChar
  rw [hvalue]
  generalize c.val.toNat = v at hvalid
  simp only
  repeat' split
  all_goals
    simp only [List.mem_cons, List.not_mem_nil, or_false]
    repeat rw [hoctet _ (by omega)]
    omega

theorem mem_encode_iff {c : Char} {cs : List Char} (hc : c.toNat < 0x80) :
    UInt8.ofNat c.toNat ∈ encode cs ↔ c ∈ cs := by
  rw [encode, List.mem_flatMap]
  constructor
  · rintro ⟨x, hx, hmem⟩
    rwa [← Char.toNat_inj.mp ((mem_utf8EncodeChar_iff hc x).mp hmem)]
  · intro h
    exact ⟨c, h, (mem_utf8EncodeChar_iff hc c).mpr rfl⟩

end Utf8

theorem lossyText_textOctets (text : String) : (textOctets text).lossyText = text := by
  rw [Octets.lossyText, textOctets, Utf8.decodeLossy_encode, String.ofList_toList]

end ScriptBundle
