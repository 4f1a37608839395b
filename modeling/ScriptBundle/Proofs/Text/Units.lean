import ScriptBundle.Proofs.Text.Decoding

/-! # Units of octets

Octets are read as characters and gaps. A character stands wherever its octets do. A gap is as long as its
octets are the start of a character that is not completed, or one octet where no character starts so. Octets
without gaps are those of their characters.
-/

namespace ScriptBundle

namespace Utf8

variable {s next : State} {b : UInt8} {front rest octets : Octets} {c : Char}

def Begins (front : Octets) : Prop := ∃ c, front <+: String.utf8EncodeChar c

/-- Octets taken apart from the front. Where no character stands, there is a gap: the longest start of a
character, or one octet if none starts there. -/
inductive Units : Octets → List Piece → Prop
  | nil : Units [] []
  | char (c : Char) {rest units} (h : Units rest units) :
      Units (String.utf8EncodeChar c ++ rest) (some c :: units)
  | gap {front rest units} (hne : front ≠ []) (hstart : Begins front ∨ front.length = 1)
      (hnone : ∀ c, ¬String.utf8EncodeChar c <+: front ++ rest)
      (hlongest : ∀ more, more <+: front ++ rest → Begins more → more.length ≤ front.length)
      (h : Units rest units) : Units (front ++ rest) (none :: units)

theorem lead_none {n : Nat} (h : 0x80 ≤ n) (h' : n < 0xC2 ∨ 0xF4 < n) :
    lead n = ([none], .start) := by
  unfold lead
  rw [if_neg (by omega)]
  rcases h' with h' | h'
  · rw [if_pos h']
  · repeat rw [if_neg (by omega)]

/-- Where no sequence is open, an octet is a character, or a gap, or opens a sequence. -/
theorem step_start_cases (b : UInt8) :
    (b.toNat < 0x80 ∧ step .start b = ([some (Char.ofNat b.toNat)], .start)) ∨
    step .start b = ([none], .start) ∨
    ∃ bits left low high, step .start b = ([], .inside bits left low high) := by
  have hstep : step .start b = lead b.toNat := rfl
  rw [hstep]
  by_cases hascii : b.toNat < 0x80
  · exact Or.inl ⟨hascii, lead_one hascii⟩
  by_cases hnone : b.toNat < 0xC2 ∨ 0xF4 < b.toNat
  · exact Or.inr (Or.inl (lead_none (by omega) hnone))
  refine Or.inr (Or.inr ?_)
  by_cases htwo : b.toNat < 0xE0
  · exact ⟨_, _, _, _, lead_two (by omega) htwo⟩
  by_cases hthree : b.toNat < 0xF0
  · exact ⟨_, _, _, _, lead_three (by omega) hthree⟩
  · exact ⟨_, _, _, _, lead_four (by omega) (by omega)⟩

section

variable {bits left low high : Nat}

/-- An octet inside of a sequence ends it, or goes on with it, or breaks it off. -/
theorem step_inside_cases (bits left low high : Nat) (b : UInt8) :
    (low ≤ b.toNat ∧ b.toNat ≤ high ∧ left ≤ 1 ∧ step (.inside bits left low high) b =
      ([some (Char.ofNat (bits * 64 + (b.toNat - 0x80)))], .start)) ∨
    (low ≤ b.toNat ∧ b.toNat ≤ high ∧ 1 < left ∧ step (.inside bits left low high) b =
      ([], .inside (bits * 64 + (b.toNat - 0x80)) (left - 1) 0x80 0xBF)) ∨
    (¬(low ≤ b.toNat ∧ b.toNat ≤ high) ∧ step (.inside bits left low high) b =
      (none :: (lead b.toNat).1, (lead b.toNat).2)) := by
  by_cases hb : low ≤ b.toNat ∧ b.toNat ≤ high
  · by_cases hleft : left ≤ 1
    · exact Or.inl ⟨hb.1, hb.2, hleft, by simp [step, hb, hleft]⟩
    · exact Or.inr (Or.inl ⟨hb.1, hb.2, Nat.lt_of_not_le hleft, by simp [step, hb, hleft]⟩)
  · have hout : (decide (low ≤ b.toNat) && decide (b.toNat ≤ high)) = false := by
      simpa using hb
    exact Or.inr (Or.inr ⟨hb, by simp [step, hout]⟩)

theorem Completes.of_last (h : Completes (.inside bits 1 low high) octets c) :
    ∃ b : UInt8, octets = [b] ∧ low ≤ b.toNat ∧ b.toNat ≤ high ∧
      c = Char.ofNat (bits * 64 + (b.toNat - 0x80)) := by
  cases h with
  | @last _ b _ hstep =>
    rcases step_inside_cases bits 1 low high b with ⟨hlow, hhigh, -, heq⟩ | ⟨-, -, hleft, -⟩ | ⟨-, heq⟩
    · have hpieces := (Prod.mk.inj (hstep.symm.trans heq)).1
      exact ⟨b, rfl, hlow, hhigh, Option.some.inj (List.cons.inj hpieces).1⟩
    · omega
    · rw [hstep] at heq
      cases heq
  | @more _ b _ _ _ hstep _ =>
    rcases step_inside_cases bits 1 low high b with ⟨-, -, -, heq⟩ | ⟨-, -, hleft, -⟩ | ⟨-, heq⟩
    · rw [hstep] at heq
      cases heq
    · omega
    · rw [hstep] at heq
      cases heq

theorem Completes.of_more (h : Completes (.inside bits left low high) octets c) (hleft : 1 < left) :
    ∃ (b : UInt8) (rest : Octets), octets = b :: rest ∧ low ≤ b.toNat ∧ b.toNat ≤ high ∧
      Completes (.inside (bits * 64 + (b.toNat - 0x80)) (left - 1) 0x80 0xBF) rest c := by
  cases h with
  | @last _ b _ hstep =>
    rcases step_inside_cases bits left low high b with ⟨-, -, hle, -⟩ | ⟨-, -, -, heq⟩ | ⟨-, heq⟩
    · omega
    · rw [hstep] at heq
      cases heq
    · rw [hstep] at heq
      cases heq
  | @more _ b _ rest _ hstep hrest =>
    rcases step_inside_cases bits left low high b with ⟨-, -, hle, -⟩ | ⟨hlow, hhigh, -, heq⟩ | ⟨-, heq⟩
    · omega
    · rw [hstep] at heq
      cases heq
      exact ⟨b, rest, rfl, hlow, hhigh, hrest⟩
    · rw [hstep] at heq
      cases heq

theorem exists_completes (bits left : Nat) (hlow : low ≤ high) (hhigh : high ≤ 0xBF) :
    ∃ octets c, Completes (.inside bits left low high) octets c := by
  induction left generalizing bits low high with
  | zero => exact ⟨_, _, .last (step_inside_last (n := low) (by omega) (Nat.le_refl low) hlow (by omega))⟩
  | succ left ih =>
    by_cases hleft : left + 1 ≤ 1
    · exact ⟨_, _, .last (step_inside_last (n := low) (by omega) (Nat.le_refl low) hlow hleft)⟩
    · obtain ⟨octets, c, hrest⟩ := @ih 0x80 0xBF (bits * 64 + (low - 0x80)) (by decide) (by decide)
      exact ⟨_, _, .more (step_inside_more (n := low) (by omega) (Nat.le_refl low) hlow (by omega))
        hrest⟩

end

theorem octets_of_ofNat {n : Nat} (hn : n.isValidChar) (hc : c = Char.ofNat n) :
    String.utf8EncodeChar c =
      if n ≤ 0x7F then [.ofNat n]
      else if n ≤ 0x7FF then [.ofNat (n / 64 % 32 + 0xC0), .ofNat (n % 64 + 0x80)]
      else if n ≤ 0xFFFF then
        [.ofNat (n / 4096 % 16 + 0xE0), .ofNat (n / 64 % 64 + 0x80), .ofNat (n % 64 + 0x80)]
      else
        [.ofNat (n / 262144 % 8 + 0xF0), .ofNat (n / 4096 % 64 + 0x80), .ofNat (n / 64 % 64 + 0x80),
          .ofNat (n % 64 + 0x80)] := by
  have hval : c.val.toNat = n := by rw [hc]; exact toNat_ofNat hn
  unfold String.utf8EncodeChar
  rw [hval]

theorem ofNat_eq {n : Nat} (h : n = b.toNat) : UInt8.ofNat n = b := by
  rw [h]
  exact UInt8.ofNat_toNat

/-- What completes a sequence from its start is the octets of the character at its end. -/
theorem Completes.eq_utf8EncodeChar (h : Completes .start octets c) :
    octets = String.utf8EncodeChar c := by
  cases h with
  | @last _ b _ hstep =>
    rcases step_start_cases b with ⟨hascii, heq⟩ | heq | ⟨_, _, _, _, heq⟩
    · have hc := Option.some.inj (List.cons.inj (Prod.mk.inj (hstep.symm.trans heq)).1).1
      rw [octets_of_ofNat (Or.inl (by omega)) hc, if_pos (by omega), ofNat_eq rfl]
    · cases hstep.symm.trans heq
    · cases hstep.symm.trans heq
  | @more _ b next rest _ hstep hrest =>
    have hlead : lead b.toNat = ([], next) := hstep
    by_cases hascii : b.toNat < 0x80
    · cases hlead.symm.trans (lead_one hascii)
    by_cases hnone : b.toNat < 0xC2 ∨ 0xF4 < b.toNat
    · cases hlead.symm.trans (lead_none (by omega) hnone)
    by_cases htwo : b.toNat < 0xE0
    · cases hlead.symm.trans (lead_two (by omega) htwo)
      obtain ⟨x, rfl, hlow, hhigh, hc⟩ := hrest.of_last
      rw [octets_of_ofNat (Or.inl (by omega)) hc, if_neg (by omega), if_pos (by omega),
        ofNat_eq (b := b) (by omega), ofNat_eq (b := x) (by omega)]
    by_cases hthree : b.toNat < 0xF0
    · cases hlead.symm.trans (lead_three (by omega) hthree)
      obtain ⟨x, rest, rfl, hlow, hhigh, hrest⟩ := hrest.of_more (by decide)
      obtain ⟨y, rfl, hlow', hhigh', hc⟩ := hrest.of_last
      have hvalue : 0x7FF < ((b.toNat - 0xE0) * 64 + (x.toNat - 0x80)) * 64 + (y.toNat - 0x80) := by
        split at hlow <;> omega
      have hvalid : (((b.toNat - 0xE0) * 64 + (x.toNat - 0x80)) * 64 +
          (y.toNat - 0x80)).isValidChar := by
        unfold Nat.isValidChar
        split at hhigh <;> omega
      have hmore : 0x80 ≤ x.toNat ∧ x.toNat ≤ 0xBF := by
        split at hlow <;> split at hhigh <;> omega
      rw [octets_of_ofNat hvalid hc, if_neg (by omega), if_neg (by omega), if_pos (by omega),
        ofNat_eq (b := b) (by omega), ofNat_eq (b := x) (by omega), ofNat_eq (b := y) (by omega)]
    · cases hlead.symm.trans (lead_four (by omega) (by omega))
      obtain ⟨x, rest, rfl, hlow, hhigh, hrest⟩ := hrest.of_more (by decide)
      obtain ⟨y, rest, rfl, hlow', hhigh', hrest⟩ := hrest.of_more (by decide)
      obtain ⟨z, rfl, hlow'', hhigh'', hc⟩ := hrest.of_last
      have hvalue : 0xFFFF < (((b.toNat - 0xF0) * 64 + (x.toNat - 0x80)) * 64 +
          (y.toNat - 0x80)) * 64 + (z.toNat - 0x80) := by
        split at hlow <;> omega
      have hvalid : ((((b.toNat - 0xF0) * 64 + (x.toNat - 0x80)) * 64 + (y.toNat - 0x80)) * 64 +
          (z.toNat - 0x80)).isValidChar := by
        unfold Nat.isValidChar
        split at hhigh <;> omega
      have hmore : 0x80 ≤ x.toNat ∧ x.toNat ≤ 0xBF := by
        split at hlow <;> split at hhigh <;> omega
      rw [octets_of_ofNat hvalid hc, if_neg (by omega), if_neg (by omega), if_neg (by omega),
        ofNat_eq (b := b) (by omega), ofNat_eq (b := x) (by omega), ofNat_eq (b := y) (by omega),
        ofNat_eq (b := z) (by omega)]

theorem completes_start_iff : Completes .start octets c ↔ octets = String.utf8EncodeChar c := by
  constructor
  · exact Completes.eq_utf8EncodeChar
  · rintro rfl
    exact completes_utf8EncodeChar c

inductive Unfinished : Octets → State → Prop
  | nil : Unfinished [] .start
  | concat {front : Octets} {b : UInt8} {s next : State} (h : Unfinished front s)
      (hstep : step s b = ([], next)) : Unfinished (front ++ [b]) next

namespace Unfinished

theorem proper (h : Unfinished front s) : s.Proper := by
  induction h with
  | nil => exact State.proper_start
  | @concat _ b s _ _ hstep hs =>
    have hnext := step_proper hs b
    rwa [hstep] at hnext

theorem append_eq_iff (h : Unfinished front s) :
    front ++ octets = String.utf8EncodeChar c ↔ Completes s octets c := by
  induction h generalizing octets with
  | nil => exact completes_start_iff.symm
  | @concat front b s next _ hstep ih =>
    rw [List.append_assoc, List.singleton_append, ih]
    constructor
    · intro h
      cases h with
      | last h => cases hstep.symm.trans h
      | more h hrest =>
        cases hstep.symm.trans h
        exact hrest
    · exact .more hstep

theorem begins (h : Unfinished front s) : Begins front := by
  obtain ⟨octets, c, hcompletes⟩ : ∃ octets c, Completes s octets c := by
    cases s with
    | start => exact ⟨_, 'a', completes_utf8EncodeChar 'a'⟩
    | inside bits left low high => exact exists_completes bits left h.proper.2.1 h.proper.2.2.1
  exact ⟨c, octets, h.append_eq_iff.mpr hcompletes⟩

theorem of_prefix {a : Octets} (h : Unfinished front s) (ha : a <+: front) :
    ∃ s, Unfinished a s := by
  induction h with
  | nil => exact ⟨.start, List.prefix_nil.mp ha ▸ .nil⟩
  | concat h hstep ih =>
    rcases List.prefix_concat_iff.mp ha with rfl | ha
    · exact ⟨_, h.concat hstep⟩
    · exact ih ha

theorem not_prefix (h : Unfinished front s) (c : Char) : ¬String.utf8EncodeChar c <+: front := by
  intro hprefix
  obtain ⟨t, ht⟩ := h.of_prefix hprefix
  have hcompletes : Completes t [] c := ht.append_eq_iff.mp (List.append_nil _)
  cases hcompletes

theorem eq_nil (h : Unfinished front .start) : front = [] := by
  cases h with
  | nil => rfl
  | @concat _ b s _ _ hstep =>
    cases s with
    | start =>
      rcases step_start_cases b with ⟨-, heq⟩ | heq | ⟨_, _, _, _, heq⟩
      · cases hstep.symm.trans heq
      · cases hstep.symm.trans heq
      · cases hstep.symm.trans heq
    | inside bits left low high =>
      rcases step_inside_cases bits left low high b with ⟨-, -, -, heq⟩ | ⟨-, -, -, heq⟩ | ⟨-, heq⟩
      · cases hstep.symm.trans heq
      · cases hstep.symm.trans heq
      · cases hstep.symm.trans heq

theorem ne_nil {bits left low high : Nat} (h : Unfinished front (.inside bits left low high)) :
    front ≠ [] := by
  cases h
  simp

/-- Where an open sequence cannot be completed, no character stands, and no longer start of one. -/
theorem stuck (h : Unfinished front s)
    (hrest : ∀ b more c, [b] <+: rest → ¬Completes s (b :: more) c) :
    (∀ c, ¬String.utf8EncodeChar c <+: front ++ rest) ∧
    ∀ more, more <+: front ++ rest → Begins more → more.length ≤ front.length := by
  have hbeyond : ∀ b more c, [b] <+: rest → ¬front ++ b :: more <+: String.utf8EncodeChar c := by
    rintro b more c hb ⟨t, ht⟩
    rw [List.append_assoc, List.cons_append, h.append_eq_iff] at ht
    exact hrest b _ c hb ht
  have hlongest : ∀ more, more <+: front ++ rest → Begins more → more.length ≤ front.length := by
    rintro more hmore ⟨c, hc⟩
    refine Nat.le_of_not_lt fun hlonger => ?_
    obtain ⟨tail, rfl⟩ := List.prefix_of_prefix_length_le (List.prefix_append front rest) hmore
      (by omega)
    rw [List.prefix_append_right_inj] at hmore
    cases tail with
    | nil => simp at hlonger
    | cons b tail => exact hbeyond b tail c ((List.prefix_append [b] tail).trans hmore) hc
  refine ⟨fun c hc => ?_, hlongest⟩
  have hlength := hlongest _ hc ⟨c, List.prefix_refl _⟩
  exact h.not_prefix c (List.prefix_of_prefix_length_le hc (List.prefix_append front rest) hlength)

end Unfinished

theorem Unfinished.stuck_of_step {pieces : List Piece} (h : Unfinished front s)
    (hstep : step s b = (none :: pieces, next)) (rest : Octets) :
    (∀ c, ¬String.utf8EncodeChar c <+: front ++ b :: rest) ∧
    ∀ more, more <+: front ++ b :: rest → Begins more → more.length ≤ front.length := by
  apply h.stuck
  intro b' more c hb hcompletes
  obtain rfl : b' = b := by simpa using hb
  cases hcompletes with
  | last h => cases hstep.symm.trans h
  | more h => cases hstep.symm.trans h

/-- An octet where no sequence is open, with what is read behind it. -/
theorem units_cons (b : UInt8)
    (hrest : ∀ {front s}, Unfinished front s → Units (front ++ rest) (piecesFrom s rest)) :
    Units (b :: rest) (piecesFrom .start (b :: rest)) := by
  rw [piecesFrom]
  rcases step_start_cases b with ⟨-, heq⟩ | heq | ⟨_, _, _, _, heq⟩
  · have hchar := (Completes.last heq).eq_utf8EncodeChar
    rw [heq, ← List.singleton_append, hchar]
    exact .char _ (hrest .nil)
  · obtain ⟨hnone, hlongest⟩ := Unfinished.nil.stuck_of_step heq rest
    rw [heq]
    refine @Units.gap [b] rest _ (List.cons_ne_nil b []) (Or.inr rfl) hnone ?_ (hrest .nil)
    intro more hmore hbegins
    exact Nat.le_trans (hlongest more hmore hbegins) (Nat.zero_le 1)
  · rw [heq]
    exact hrest (Unfinished.nil.concat heq)

theorem units_piecesFrom (h : Unfinished front s) (octets : Octets) :
    Units (front ++ octets) (piecesFrom s octets) := by
  induction octets generalizing front s with
  | nil =>
    cases s with
    | start =>
      rw [h.eq_nil]
      exact .nil
    | inside bits left low high =>
      have hend : ∀ b more c, [b] <+: ([] : Octets) →
          ¬Completes (.inside bits left low high) (b :: more) c := by simp
      obtain ⟨hnone, hlongest⟩ := h.stuck hend
      exact .gap h.ne_nil (Or.inl h.begins) hnone hlongest .nil
  | cons b octets ih =>
    cases s with
    | start =>
      rw [h.eq_nil]
      exact units_cons b ih
    | inside bits left low high =>
      rcases step_inside_cases bits left low high b with
        ⟨-, -, -, heq⟩ | ⟨-, -, -, heq⟩ | ⟨-, heq⟩
      · have hchar := h.append_eq_iff.mpr (.last heq)
        rw [piecesFrom, heq, List.append_cons, hchar]
        exact .char _ (ih .nil)
      · rw [piecesFrom, heq, List.append_cons]
        exact ih (h.concat heq)
      · obtain ⟨hnone, hlongest⟩ := h.stuck_of_step heq octets
        rw [piecesFrom, heq]
        exact .gap h.ne_nil (Or.inl h.begins) hnone hlongest (units_cons b ih)

theorem Units.length_le {front front' rest rest' : Octets} (hne : front' ≠ [])
    (hstart : Begins front ∨ front.length = 1) (heq : front ++ rest = front' ++ rest')
    (hlongest : ∀ more, more <+: front' ++ rest' → Begins more → more.length ≤ front'.length) :
    front.length ≤ front'.length := by
  rcases hstart with hbegins | hone
  · exact hlongest front (heq ▸ List.prefix_append front rest) hbegins
  · rw [hone]
    exact List.length_pos_iff.mpr hne

theorem Units.unique {units units' : List Piece} (h : Units octets units) (h' : Units octets units') :
    units = units' := by
  induction h generalizing units' with
  | nil =>
    generalize hoctets : ([] : Octets) = octets at h'
    cases h' with
    | nil => rfl
    | char c _ => exact absurd (List.append_eq_nil_iff.mp hoctets.symm).1 String.utf8EncodeChar_ne_nil
    | gap hne => exact absurd (List.append_eq_nil_iff.mp hoctets.symm).1 hne
  | @char c rest units _ ih =>
    generalize hoctets : String.utf8EncodeChar c ++ rest = octets at h'
    cases h' with
    | nil => exact absurd (List.append_eq_nil_iff.mp hoctets).1 String.utf8EncodeChar_ne_nil
    | @char c' rest' _ h' =>
      have hpieces : pieces _ = pieces _ := congrArg pieces hoctets
      rw [pieces, pieces, piecesFrom_utf8EncodeChar, piecesFrom_utf8EncodeChar] at hpieces
      obtain rfl := Option.some.inj (List.cons.inj hpieces).1
      obtain rfl := List.append_cancel_left hoctets
      rw [ih h']
    | gap _ _ hnone => exact absurd (hoctets ▸ List.prefix_append _ rest) (hnone c)
  | @gap front rest units hne hstart hnone hlongest _ ih =>
    generalize hoctets : front ++ rest = octets at h'
    cases h' with
    | nil => exact absurd (List.append_eq_nil_iff.mp hoctets).1 hne
    | @char c _ _ _ => exact absurd (hoctets ▸ List.prefix_append _ _) (hnone c)
    | @gap front' rest' _ hne' hstart' _ hlongest' h' =>
      have hlength : front.length = front'.length :=
        Nat.le_antisymm (length_le hne' hstart hoctets hlongest')
          (length_le hne hstart' hoctets.symm hlongest)
      obtain ⟨-, rfl⟩ := List.append_inj hoctets hlength
      rw [ih h']

theorem units_iff {units : List Piece} : Units octets units ↔ units = pieces octets := by
  have hpieces : Units octets (pieces octets) := units_piecesFrom .nil octets
  constructor
  · exact fun h => h.unique hpieces
  · rintro rfl
    exact hpieces

theorem Units.eq_encode {units : List Piece} {cs : List Char} (h : Units octets units)
    (hcs : units = cs.map some) : octets = encode cs := by
  induction h generalizing cs with
  | nil =>
    rw [List.map_eq_nil_iff.mp hcs.symm]
    rfl
  | char c _ ih =>
    obtain ⟨c', cs', rfl, hc, rfl⟩ := List.map_eq_cons_iff.mp hcs.symm
    cases hc
    rw [ih rfl]
    rfl
  | gap =>
    obtain ⟨c', cs', -, hc, -⟩ := List.map_eq_cons_iff.mp hcs.symm
    cases hc

theorem mapM_id_eq_some_iff {units : List Piece} {cs : List Char} :
    units.mapM id = some cs ↔ units = cs.map some := by
  induction units generalizing cs with
  | nil => cases cs <;> simp
  | cons unit units ih =>
    rw [List.mapM_cons, id_eq]
    rcases unit with _ | c
    · cases cs <;> simp
    rcases hunits : units.mapM id with _ | cs'
    · rw [hunits] at ih
      cases cs <;> simp [← ih]
    · rw [ih.mp hunits, ← List.map_cons, List.map_inj_right fun _ _ => Option.some.inj]
      simp [eq_comm]

/-- Octets are read as text if they are those of characters. -/
theorem decode?_eq_some_iff {cs : List Char} : decode? octets = some cs ↔ octets = encode cs := by
  rw [decode?, mapM_id_eq_some_iff]
  constructor
  · intro h
    exact (units_iff.mpr h.symm).eq_encode rfl
  · rintro rfl
    exact pieces_encode cs

end Utf8

/-- Octets are a text if they are the octets of it. -/
theorem Octets.text?_eq_some_iff {octets : Octets} {s : String} :
    octets.text? = some s ↔ octets = textOctets s := by
  rw [Octets.text?, Option.map_eq_some_iff]
  constructor
  · rintro ⟨cs, hcs, rfl⟩
    rw [textOctets, String.toList_ofList]
    exact Utf8.decode?_eq_some_iff.mp hcs
  · rintro rfl
    exact ⟨s.toList, Utf8.decode?_eq_some_iff.mpr rfl, String.ofList_toList⟩

end ScriptBundle
