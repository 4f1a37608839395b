import ScriptBundle.Proofs.Path.Joining
import ScriptBundle.Proofs.Text.Units

/-! # Paths that are text

An octet of ASCII is read as its character wherever it stands, so what is shown of a path begins with a
slash if the path does. A path that is UTF-8 is cut between the octets of its characters only: its pieces
are texts, and what is shown of it is its own text, with slashes for the backslashes.
-/

namespace ScriptBundle

namespace Utf8

variable {octets : Octets} {c : Char} {cs : List Char}

theorem utf8EncodeChar_of_ascii (hc : c.toNat < 0x80) : String.utf8EncodeChar c = [.ofNat c.toNat] := by
  have hvalue : c.val.toNat ≤ 0x7F := Nat.le_of_lt_succ hc
  unfold String.utf8EncodeChar
  rw [if_pos hvalue]
  rfl

theorem head?_decodeLossy_iff (hc : c.toNat < 0x80) :
    (decodeLossy octets).head? = some c ↔ octets.head? = some (.ofNat c.toNat) := by
  constructor
  · intro h
    rw [decodeLossy] at h
    generalize hunits : pieces octets = units at h
    cases units_iff.mpr hunits.symm with
    | nil => cases h
    | char d =>
      obtain rfl : d = c := by simpa using h
      rw [utf8EncodeChar_of_ascii hc]
      rfl
    | gap =>
      -- A gap is shown as a character beyond ASCII.
      obtain rfl : '\uFFFD' = c := by simpa using h
      exact absurd hc (by decide)
  · intro h
    obtain ⟨rest, rfl⟩ := List.head?_eq_some_iff.mp h
    have hread := piecesFrom_utf8EncodeChar c rest
    rw [utf8EncodeChar_of_ascii hc, List.singleton_append] at hread
    rw [decodeLossy, pieces, hread]
    rfl

theorem head?_decodeLossy_slash_iff :
    (decodeLossy octets).head? = some '/' ↔ octets.head? = some slash :=
  head?_decodeLossy_iff (by decide)

theorem decodeLossy_eq_nil_iff : decodeLossy octets = [] ↔ octets = [] := by
  rw [decodeLossy, List.map_eq_nil_iff]
  constructor
  · intro h
    exact (units_iff.mpr h.symm).eq_encode List.map_nil.symm
  · rintro rfl
    rfl

end Utf8

@[simp] theorem textOctets_append (a b : String) : textOctets (a ++ b) = textOctets a ++ textOctets b := by
  rw [textOctets, String.toList_append, Utf8.encode_append, textOctets, textOctets]

@[simp] theorem textOctets_slash : textOctets "/" = [slash] := rfl

@[simp] theorem textOctets_ofList (cs : List Char) : textOctets (String.ofList cs) = Utf8.encode cs := by
  rw [textOctets, String.toList_ofList]

def backslash : UInt8 := 0x5C

namespace Path

variable {p : Path} {text : String}

def IsText (p : Path) : Prop := ∃ text : String, p = ⟨text⟩

theorem isAbsolute_text : (Path.mk text).isAbsolute ↔ text.toList.head? = some '/' := by
  rw [isAbsolute, beq_iff_eq, ← Utf8.head?_decodeLossy_slash_iff, textOctets, Utf8.decodeLossy_encode]

theorem toList_normalText (p : Path) : p.normalText.toList =
    (Utf8.decodeLossy p.text).map fun c => if c = '\\' then '/' else c := by
  rw [normalText, String.toList_map, Octets.lossyText, String.toList_ofList]

theorem normalText_eq_empty_iff : p.normalText = "" ↔ p.text = [] := by
  rw [← String.toList_inj, toList_normalText, ← Utf8.decodeLossy_eq_nil_iff]
  exact List.map_eq_nil_iff

theorem head?_normalText (h : p.isAbsolute) : p.normalText.toList.head? = some '/' := by
  have hread : (Utf8.decodeLossy p.text).head? = some '/' :=
    Utf8.head?_decodeLossy_slash_iff.mpr (beq_iff_eq.mp h)
  rw [toList_normalText, List.head?_map, hread]
  rfl

theorem normalText_text (text : String) :
    (Path.mk text).normalText = text.map fun c => if c = '\\' then '/' else c := by
  rw [normalText, lossyText_textOctets]

theorem IsText.text_eq (h : p.IsText) (hp : backslash ∉ p.text) : p.text = p.normalText := by
  obtain ⟨text, rfl⟩ := h
  have hnone : '\\' ∉ text.toList := mt (Utf8.mem_encode_iff (by decide)).mpr hp
  have hkeep : ∀ c ∈ text.toList, (if c = '\\' then '/' else c) = c :=
    fun c hc => if_neg (ne_of_mem_of_not_mem hc hnone)
  rw [normalText_text, textOctets_inj, ← String.toList_inj, String.toList_map, List.map_congr_left hkeep]
  exact (List.map_id _).symm

end Path

end ScriptBundle
