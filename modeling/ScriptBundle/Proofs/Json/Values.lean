import ScriptBundle.Proofs.Json.Parts

/-! # Values that read back

A value without decimals is read back from its text in either layout, with the members of its objects in
the order of their names.
-/

namespace ScriptBundle.Json

namespace Scan

variable {depth : Nat} {v : Json} {layout : Layout} {level : Nat} {cs rest gap : List Char} {c : Char}

theorem takes_value_blanks {x : Json} (hgap : ∀ c ∈ gap, isSpace c) (hc : isSpace c = false)
    (h : (value (depth + 1)).Takes (c :: cs) x rest) :
    (value (depth + 1)).Takes (gap ++ c :: cs) x rest := by
  have hpeek : peek?.run (gap ++ c :: cs) = peek?.run (c :: cs) :=
    (takes_peek? hgap hc).trans (takes_peek?_next hc).symm
  unfold Takes at h ⊢
  rw [value, StateT.run_bind] at h ⊢
  rw [hpeek]
  exact h

theorem takes_number {negative : Bool} {n : Nat} (hrest : Ended rest) (hsize : n < UInt64.size)
    (hn : negative = true → 0 < n ∧ n ≤ Nat.pow 2 63) :
    (number negative).Takes (Nat.toDigits 10 n ++ rest) (.integer (if negative then -n else n)) rest :=
  unsigned_toDigits hrest hsize hn

theorem takes_value_digit {x : Numeral} (hc : c.isDigit)
    (h : (number false).Takes (c :: cs) x rest) :
    (value (depth + 1)).Takes (c :: cs) (value.ofNumeral x) rest := by
  rw [value]
  refine (takes_peek?_next (opens_of_isDigit hc).1).bind ?_
  split
  next hnone => cases hnone
  iterate 7
    next hsome =>
      cases Option.some.inj hsome
      cases hc
  next hsome =>
    obtain rfl := Option.some.inj hsome
    rw [if_pos hc]
    exact h.bind (takes_pure _ _)

theorem takes_value_integer {n : Int} (hlow : Int64.minValue.toInt ≤ n) (hhigh : n < UInt64.size)
    (hrest : Ended rest) :
    (value (depth + 1)).Takes (chars layout level (.integer n) ++ rest) (.integer n) rest := by
  have hmin : Int64.minValue.toInt = -(Nat.pow 2 63 : Nat) := by decide
  have hsize : Nat.pow 2 63 < UInt64.size := by decide
  rw [chars_integer]
  split
  next hn =>
    have hread := @takes_number rest false n.toNat hrest (by omega) (by simp)
    obtain ⟨d, ds, hd⟩ := List.exists_cons_of_ne_nil (Nat.toDigits_ne_nil (n := n.toNat) (b := 10))
    have hdigit : d.isDigit := Nat.isDigit_of_mem_toDigits (n := n.toNat) (b := 10) (by decide)
      (by decide) (hd ▸ List.mem_cons_self)
    have hvalue : ((n.toNat : Nat) : Int) = n := Int.toNat_of_nonneg hn
    rw [hd, List.cons_append] at hread ⊢
    have htakes : (value (depth + 1)).Takes _ _ rest := takes_value_digit hdigit hread
    simpa [value.ofNumeral, hvalue] using htakes
  next hn =>
    have hread := @takes_number rest true (-n).toNat hrest (by omega) (by omega)
    have hvalue : -(((-n).toNat : Nat) : Int) = n := by omega
    rw [if_pos rfl, hvalue] at hread
    rw [value]
    refine (takes_peek?_next (c := '-') (by decide)).bind ?_
    refine (takes_drop _ _).bind ?_
    exact hread.bind (takes_pure _ _)

theorem takes_value_array {items : List Json} (hplain : ∀ v ∈ items, v.Plain depth)
    (hread : ∀ v ∈ items, ∀ rest, Ended rest →
      (value (depth + 1)).Takes (chars layout (level + 1) v ++ rest) v.ordered rest) :
    (value (depth + 2)).Takes (chars layout level (.array items) ++ rest)
      (.array (items.map ordered)) rest := by
  obtain ⟨cs, htext, hitems⟩ := exists_takes_items hplain hread Json.array rest
  rw [List.map_id'] at htext
  rw [htext, value]
  refine (takes_peek?_next rfl).bind ?_
  refine (takes_drop _ _).bind ?_
  rw [if_neg (Nat.succ_ne_zero depth)]
  exact hitems

theorem takes_value_object {members : List (String × Json)} (hplain : ∀ m ∈ members, m.2.Plain depth)
    (hread : ∀ m ∈ members, ∀ rest, Ended rest →
      (value (depth + 1)).Takes (chars layout (level + 1) m.2 ++ rest) m.2.ordered rest) :
    (value (depth + 2)).Takes (chars layout level (.object members) ++ rest)
      (ofMembers (members.map fun m => (m.1, m.2.ordered))) rest := by
  obtain ⟨layout', htext, hlength⟩ := exists_object_text layout level members rest
  have hvalue : ∀ m ∈ members, ∀ rest, Ended rest → (value (depth + 1)).Takes
      (layout.colon.tail ++ (chars layout (level + 1) m.2 ++ rest)) m.2.ordered rest := by
    intro m hm rest hrest
    have hm' := hread m hm rest hrest
    obtain ⟨c, cs, hc, hopens⟩ := exists_opens (hplain m hm) layout (level + 1)
    rw [hc, List.cons_append] at hm' ⊢
    exact takes_value_blanks isSpace_of_mem_colon hopens.1 hm'
  rw [htext, value]
  refine (takes_peek?_next rfl).bind ?_
  refine (takes_drop _ _).bind ?_
  rw [if_neg (Nat.succ_ne_zero depth)]
  refine (takes_get _).bind ?_
  refine (takes_members hvalue (Nat.lt_succ_of_le hlength) [] rest).bind ?_
  exact takes_objectEnd.bind (takes_pure _ _)

theorem takes_value {v : Json} (h : v.Plain depth) (layout : Layout) (level : Nat)
    (hrest : Ended rest) :
    (value (depth + 1)).Takes (chars layout level v ++ rest) v.ordered rest := by
  induction h generalizing layout level rest with
  | null =>
    rw [value]
    refine (takes_peek?_next (by decide)).bind ?_
    refine (takes_drop _ _).bind ?_
    exact (takes_word ['u', 'l', 'l'] rest).bind (takes_pure _ _)
  | bool b =>
    rw [value]
    cases b with
    | true =>
      refine (takes_peek?_next (by decide)).bind ?_
      refine (takes_drop _ _).bind ?_
      exact (takes_word ['r', 'u', 'e'] rest).bind (takes_pure _ _)
    | false =>
      refine (takes_peek?_next (by decide)).bind ?_
      refine (takes_drop _ _).bind ?_
      exact (takes_word ['a', 'l', 's', 'e'] rest).bind (takes_pure _ _)
  | integer hlow hhigh => exact takes_value_integer hlow hhigh hrest
  | string s =>
    have htext : chars layout level (.string s) ++ rest =
        '"' :: (s.toList.flatMap escape ++ '"' :: rest) := by
      simp [chars, stringText]
    rw [htext, value]
    refine (takes_peek?_next rfl).bind ?_
    refine (takes_drop _ _).bind ?_
    exact (takes_stringRest s rest).bind (takes_pure _ _)
  | array hitems ih =>
    rw [ordered, orderedItems_eq_map]
    exact takes_value_array hitems fun v hv rest hrest => ih v hv layout (level + 1) hrest
  | object hmembers ih =>
    rw [ordered, orderedMembers_eq_map]
    exact takes_value_object hmembers fun m hm rest hrest => ih m hm layout (level + 1) hrest

theorem takes_textEnd : textEnd.Takes [] () [] := rfl

end Scan

theorem ofText_text {v : Json} (h : v.Plain (depthLimit - 1)) (layout : Layout) :
    ofText (v.text layout) = .ok v.ordered := by
  have hended : Scan.Ended [] := by simp [Scan.Ended]
  have hread := Scan.takes_value h layout 0 hended
  rw [List.append_nil] at hread
  have hrun := hread.bind (f := fun v => do Scan.textEnd; return v)
    (Scan.takes_textEnd.bind (Scan.takes_pure v.ordered []))
  unfold ofText
  rw [text, String.toList_ofList]
  exact congrArg (fun r : Except Fault (Json × List Char) => r >>= fun r => pure r.1) hrun

end ScriptBundle.Json
