import ScriptBundle.Proofs.Text.Decoding
import ScriptBundle.Text.Line

/-!
# The lines of a text

A file is cut behind each line feed, so all of its lines but the last end with the only line feed they
hold. Lines of this kind that are laid end to end are cut at the same places again.
-/

namespace ScriptBundle

def Terminated (line : String) : Prop := ∃ body : String, line = body ++ "\n" ∧ '\n' ∉ body.toList

/-- Lines as a text is cut into: only the last one may lack its line feed. -/
inductive Cut : List String → Prop
  | nil : Cut []
  | last {line : String} (h : '\n' ∉ line.toList) : Cut [line]
  | cons {line : String} {rest : List String} (h : Terminated line) (hrest : Cut rest) :
      Cut (line :: rest)

theorem octetLines_open {octets : Octets} (h : 10 ∉ octets) (hne : octets ≠ []) :
    octetLines octets = [octets] := by
  induction octets with
  | nil => exact absurd rfl hne
  | cons b rest ih =>
    obtain ⟨hb, hrest⟩ := not_or.mp (mt List.mem_cons.mpr h)
    have hne' : b ≠ lineFeed := fun h => hb h.symm
    rcases rest with _ | ⟨x, rest⟩
    · simp [consOctet, hne']
    · rw [octetLines_cons, ih hrest (List.cons_ne_nil _ _), consOctet, if_neg hne']

theorem octetLines_lineFeed {front : Octets} (h : 10 ∉ front) (rest : Octets) :
    octetLines (front ++ 10 :: rest) = (front ++ [10]) :: octetLines rest := by
  induction front with
  | nil => rfl
  | cons b front ih =>
    obtain ⟨hb, hfront⟩ := not_or.mp (mt List.mem_cons.mpr h)
    have hne : b ≠ lineFeed := fun h => hb h.symm
    rw [List.cons_append, octetLines_cons, ih hfront, consOctet, if_neg hne]
    rfl

/-- Octets are nothing, or one line that is not ended, or a line in front of others. -/
theorem lines_induction {P : Octets → Prop} (nil : P [])
    (last : ∀ octets, 10 ∉ octets → octets ≠ [] → P octets)
    (line : ∀ front rest, 10 ∉ front → P rest → P (front ++ 10 :: rest)) (octets : Octets) :
    P octets := by
  induction hn : octets.length using Nat.strongRecOn generalizing octets with
  | _ n ih =>
    by_cases hmem : 10 ∈ octets
    · obtain ⟨front, rest, rfl, hfront⟩ := List.eq_append_cons_of_mem hmem
      have hlt : rest.length < n := by
        rw [← hn, List.length_append, List.length_cons]
        omega
      exact line front rest hfront (ih rest.length hlt rest rfl)
    · by_cases hne : octets = []
      · rw [hne]
        exact nil
      · exact last octets hmem hne

theorem textLines_open {octets : Octets} (h : 10 ∉ octets) (hne : octets ≠ []) :
    textLines octets = [octets.lossyText] := by
  rw [textLines, octetLines_open h hne]
  rfl

theorem textLines_lineFeed {front : Octets} (h : 10 ∉ front) (rest : Octets) :
    textLines (front ++ 10 :: rest) = (front ++ [10]).lossyText :: textLines rest := by
  rw [textLines, octetLines_lineFeed h, List.map_cons]
  rfl

/-- Where a line ends, a text can be cut into its lines on either side. -/
theorem textLines_append {front : Octets} (h : front = [] ∨ front.getLast? = some 10) (back : Octets) :
    textLines (front ++ back) = textLines front ++ textLines back := by
  induction front using lines_induction with
  | nil => rfl
  | last front hopen hne => exact absurd (List.mem_of_getLast? (h.resolve_left hne)) hopen
  | line line rest hline ih =>
    have hrest : rest = [] ∨ rest.getLast? = some 10 := by
      rcases List.eq_nil_or_concat rest with hnil | ⟨more, x, rfl⟩
      · exact Or.inl hnil
      · refine Or.inr ?_
        have hlast := h.resolve_left (by simp)
        rw [List.getLast?_append, List.getLast?_cons] at hlast
        simpa using hlast
    rw [List.append_assoc, List.cons_append, textLines_lineFeed hline, textLines_lineFeed hline,
      ih hrest, List.cons_append]

theorem terminated_lossyText {front : Octets} (h : 10 ∉ front) :
    Terminated (front ++ [10]).lossyText := by
  refine ⟨front.lossyText, ?_, ?_⟩
  · rw [Octets.lossyText, Utf8.decodeLossy_lineFeed, String.ofList_append]
    rfl
  · rw [Octets.lossyText, String.toList_ofList]
    exact Utf8.lineFeed_notMem_decodeLossy h

theorem cut_textLines (octets : Octets) : Cut (textLines octets) := by
  induction octets using lines_induction with
  | nil => exact .nil
  | last octets hopen hne =>
    rw [textLines_open hopen hne]
    apply Cut.last
    rw [Octets.lossyText, String.toList_ofList]
    exact Utf8.lineFeed_notMem_decodeLossy hopen
  | line front rest hfront ih =>
    rw [textLines_lineFeed hfront]
    exact .cons (terminated_lossyText hfront) ih

/-- Decoding line by line is decoding as a whole. -/
theorem join_textLines (octets : Octets) : String.join (textLines octets) = octets.lossyText := by
  induction octets using lines_induction with
  | nil => rfl
  | last octets hopen hne => simp [textLines_open hopen hne]
  | line front rest hfront ih =>
    rw [textLines_lineFeed hfront, String.join_cons, ih, Octets.lossyText, Octets.lossyText,
      Octets.lossyText, ← String.ofList_append, Utf8.decodeLossy_lineFeed,
      Utf8.decodeLossy_lineFeed, List.append_assoc]
    rfl

theorem Cut.cons_iff {line : String} {rest : List String} :
    Cut (line :: rest) ↔ (Terminated line ∧ Cut rest) ∨ ('\n' ∉ line.toList ∧ rest = []) := by
  constructor
  · rintro (_ | h | ⟨h, hrest⟩)
    · exact Or.inr ⟨h, rfl⟩
    · exact Or.inl ⟨h, hrest⟩
  · rintro (⟨h, hrest⟩ | ⟨h, rfl⟩)
    · exact .cons h hrest
    · exact .last h

theorem Cut.tail {line : String} {rest : List String} (h : Cut (line :: rest)) : Cut rest := by
  rcases Cut.cons_iff.mp h with ⟨-, hrest⟩ | ⟨-, rfl⟩
  · exact hrest
  · exact .nil

/-- Lines that are written one behind the other are read back one by one. -/
theorem textLines_join {lines : List String} (h : ∀ line ∈ lines, Terminated line) :
    textLines (textOctets (String.join lines)) = lines := by
  induction lines with
  | nil => rfl
  | cons line rest ih =>
    obtain ⟨⟨body, hline, hbody⟩, hrest⟩ := List.forall_mem_cons.mp h
    have hfront : 10 ∉ textOctets body := mt (Utf8.mem_encode_iff (c := '\n') (by decide)).mp hbody
    have hoctets : textOctets line = textOctets body ++ [10] := by
      rw [hline, textOctets, String.toList_append, Utf8.encode_append]
      rfl
    have hjoin : textOctets (String.join (line :: rest)) =
        textOctets body ++ 10 :: textOctets (String.join rest) := by
      rw [String.join_cons, textOctets, String.toList_append, Utf8.encode_append, ← textOctets,
        ← textOctets, hoctets, List.append_assoc]
      rfl
    rw [hjoin, textLines_lineFeed hfront, ih hrest, ← hoctets, lossyText_textOctets]

end ScriptBundle
