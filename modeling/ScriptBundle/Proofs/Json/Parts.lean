import ScriptBundle.Proofs.Json.Tokens

/-! # Parts of values that read back

The items of an array and the members of an object are read back one after the other, provided that each
of their values is. The layout makes no difference, since what it adds are blanks before a part.
-/

namespace ScriptBundle.Json

mutual

/-- The value with the members of every object in the order of their names, each of them once. -/
def ordered : Json → Json
  | null => null
  | bool b => bool b
  | integer n => integer n
  | decimal d => decimal d
  | string s => string s
  | array items => array (orderedItems items)
  | object members => ofMembers (orderedMembers members)

def orderedItems : List Json → List Json
  | [] => []
  | v :: rest => ordered v :: orderedItems rest

def orderedMembers : List (String × Json) → List (String × Json)
  | [] => []
  | (n, v) :: rest => (n, ordered v) :: orderedMembers rest

end

/-- A value that its text says everything about: it has no decimals, its integers are of 64 bits, and its
arrays and objects are nested at most `depth` deep. -/
inductive Plain : Nat → Json → Prop where
  | null {depth} : Plain depth null
  | bool {depth} (b) : Plain depth (bool b)
  | integer {depth n} (hlow : Int64.minValue.toInt ≤ n) (hhigh : n < UInt64.size) :
      Plain depth (integer n)
  | string {depth} (s) : Plain depth (string s)
  | array {depth items} (h : ∀ v ∈ items, Plain depth v) : Plain (depth + 1) (array items)
  | object {depth members} (h : ∀ m ∈ members, Plain depth m.2) :
      Plain (depth + 1) (object members)

theorem orderedItems_eq_map (items : List Json) : orderedItems items = items.map ordered := by
  induction items with
  | nil => rfl
  | cons v rest ih => rw [orderedItems, ih, List.map_cons]

theorem orderedMembers_eq_map (members : List (String × Json)) :
    orderedMembers members = members.map fun m => (m.1, m.2.ordered) := by
  induction members with
  | nil => rfl
  | cons m rest ih => rw [orderedMembers, ih, List.map_cons]

theorem Plain.mono {depth depth' : Nat} {v : Json} (h : v.Plain depth) (hle : depth ≤ depth') :
    v.Plain depth' := by
  induction h generalizing depth' with
  | null => exact .null
  | bool b => exact .bool b
  | integer hlow hhigh => exact .integer hlow hhigh
  | string s => exact .string s
  | array _ ih =>
    obtain ⟨k, rfl⟩ := Nat.exists_eq_add_one.mpr (Nat.zero_lt_of_lt hle)
    exact .array fun v hv => ih v hv (Nat.le_of_succ_le_succ hle)
  | object _ ih =>
    obtain ⟨k, rfl⟩ := Nat.exists_eq_add_one.mpr (Nat.zero_lt_of_lt hle)
    exact .object fun m hm => ih m hm (Nat.le_of_succ_le_succ hle)

theorem isSpace_of_mem_lineStart {layout : Layout} {level : Nat} :
    ∀ c ∈ layout.lineStart level, Scan.isSpace c := by
  intro c hc
  cases layout with
  | compact => cases hc
  | pretty =>
    rcases List.mem_cons.mp hc with rfl | hc
    · rfl
    · rw [List.eq_of_mem_replicate hc]
      rfl

theorem isSpace_of_mem_colon {layout : Layout} : ∀ c ∈ layout.colon.tail, Scan.isSpace c := by
  cases layout <;> simp [Layout.colon, Scan.isSpace]

theorem chars_array (layout : Layout) (level : Nat) (items : List Json) : ∃ layout' : Layout,
    chars layout level (array items) =
      '[' :: (itemsChars layout (level + 1) true items ++ (layout'.lineStart level ++ [']'])) := by
  rcases items with _ | ⟨v, rest⟩
  · exact ⟨.compact, by simp [chars, itemsChars, Layout.lineStart]⟩
  · exact ⟨layout, by simp [chars]⟩

theorem chars_object (layout : Layout) (level : Nat) (members : List (String × Json)) :
    ∃ layout' : Layout, chars layout level (object members) =
      '\x7b' :: (membersChars layout (level + 1) true members ++
        (layout'.lineStart level ++ ['\x7d'])) := by
  rcases members with _ | ⟨m, rest⟩
  · exact ⟨.compact, by simp [chars, membersChars, Layout.lineStart]⟩
  · exact ⟨layout, by simp [chars]⟩

theorem chars_integer (layout : Layout) (level : Nat) (n : Int) : chars layout level (integer n) =
    if 0 ≤ n then Nat.toDigits 10 n.toNat else '-' :: Nat.toDigits 10 (-n).toNat := by
  have hrepr : toString n = n.repr := rfl
  rw [chars, hrepr, Int.repr_eq_if]
  split <;> simp [Nat.repr_eq_ofList_toDigits]

/-- What the text of a value can begin with. -/
def Opens (c : Char) : Prop := Scan.isSpace c = false ∧ c ≠ ']' ∧ c ≠ ','

instance (c : Char) : Decidable (Opens c) := inferInstanceAs (Decidable (_ ∧ _ ∧ _))

theorem opens_of_isDigit {c : Char} (hc : c.isDigit) : Opens c := by
  refine ⟨?_, ?_, ?_⟩
  · rw [Bool.eq_false_iff]
    intro hspace
    simp only [Scan.isSpace, Bool.or_eq_true, beq_iff_eq] at hspace
    rcases hspace with ((rfl | rfl) | rfl) | rfl <;> cases hc
  · rintro rfl
    cases hc
  · rintro rfl
    cases hc

theorem exists_opens {depth : Nat} {v : Json} (h : v.Plain depth) (layout : Layout) (level : Nat) :
    ∃ c cs, chars layout level v = c :: cs ∧ Opens c := by
  cases h with
  | null => exact ⟨'n', ['u', 'l', 'l'], rfl, by decide⟩
  | bool b =>
    cases b
    · exact ⟨'f', ['a', 'l', 's', 'e'], rfl, by decide⟩
    · exact ⟨'t', ['r', 'u', 'e'], rfl, by decide⟩
  | @integer _ n =>
    rw [chars_integer]
    split
    · obtain ⟨d, ds, hd⟩ :=
        List.exists_cons_of_ne_nil (Nat.toDigits_ne_nil (n := n.toNat) (b := 10))
      refine ⟨d, ds, hd, opens_of_isDigit ?_⟩
      exact Nat.isDigit_of_mem_toDigits (n := n.toNat) (b := 10) (by decide) (by decide)
        (hd ▸ List.mem_cons_self)
    · exact ⟨'-', _, rfl, by decide⟩
  | string s => exact ⟨'"', _, rfl, by decide⟩
  | array =>
    obtain ⟨_, hchars⟩ := chars_array layout level _
    exact ⟨'[', _, hchars, by decide⟩
  | object =>
    obtain ⟨_, hchars⟩ := chars_object layout level _
    exact ⟨'\x7b', _, hchars, by decide⟩

namespace Scan

variable {layout : Layout} {level : Nat} {rest : List Char} {c : Char}

theorem takes_peek?_line (layout : Layout) (level : Nat) (hc : isSpace c = false) :
    peek?.Takes (layout.lineStart level ++ c :: rest) (some c) (c :: rest) :=
  takes_peek? isSpace_of_mem_lineStart hc

theorem ended_lineStart (layout : Layout) (level : Nat) (hc : Ended (c :: rest)) :
    Ended (layout.lineStart level ++ c :: rest) := by
  cases layout with
  | compact => exact hc
  | pretty => exact ended_cons_iff.mpr (by simp)

theorem takes_anotherItem_first (hc : Opens c) :
    (anotherItem true).Takes (layout.lineStart level ++ c :: rest) true (c :: rest) := by
  refine (takes_peek?_line layout level hc.1).bind ?_
  split
  next h => exact absurd (Option.some.inj h) hc.2.1
  next h => exact absurd (Option.some.inj h) hc.2.2
  next => exact takes_pure true _
  next h => cases h

theorem takes_anotherItem_next (hc : Opens c) :
    (anotherItem false).Takes (',' :: (layout.lineStart level ++ c :: rest)) true (c :: rest) := by
  refine (takes_peek?_next rfl).bind ?_
  refine (takes_drop _ _).bind ?_
  refine (takes_peek?_line layout level hc.1).bind ?_
  split
  next h => exact absurd (Option.some.inj h) hc.2.1
  next h => cases h
  next => exact takes_pure true _

theorem takes_anotherItem_end (first : Bool) :
    (anotherItem first).Takes (layout.lineStart level ++ ']' :: rest) false (']' :: rest) :=
  (takes_peek?_line layout level rfl).bind (takes_pure false _)

theorem takes_anotherItem (first : Bool) (hc : Opens c) :
    (anotherItem first).Takes
      ((if first then [] else [',']) ++ (layout.lineStart level ++ c :: rest)) true (c :: rest) := by
  cases first with
  | true => exact takes_anotherItem_first hc
  | false => exact takes_anotherItem_next hc

theorem takes_listEnd : listEnd.Takes (']' :: rest) () rest :=
  (takes_peek?_next rfl).bind (takes_drop _ _)

theorem takes_anotherName? (first : Bool) (name : String) :
    (anotherName? first).Takes
      ((if first then [] else [',']) ++ (layout.lineStart level ++ (stringText name ++ rest)))
      (some name) rest := by
  have htext : stringText name ++ rest = '"' :: (name.toList.flatMap escape ++ '"' :: rest) := by
    simp [stringText]
  have hname : anotherName?.name.Takes ('"' :: (name.toList.flatMap escape ++ '"' :: rest))
      (some name) rest :=
    (takes_drop _ _).bind ((takes_stringRest name rest).bind (takes_pure _ _))
  rw [htext]
  cases first with
  | true => exact (takes_peek?_line layout level rfl).bind hname
  | false =>
    refine (takes_peek?_next rfl).bind ?_
    refine (takes_drop _ _).bind ?_
    exact (takes_peek?_line layout level rfl).bind hname

theorem takes_anotherName?_end (first : Bool) :
    (anotherName? first).Takes (layout.lineStart level ++ '\x7d' :: rest) none ('\x7d' :: rest) :=
  (takes_peek?_line layout level rfl).bind (takes_pure none _)

theorem takes_colon (layout : Layout) (rest : List Char) :
    colon.Takes (layout.colon ++ rest) () (layout.colon.tail ++ rest) := by
  cases layout <;> exact (takes_peek?_next rfl).bind (takes_drop _ _)

theorem takes_objectEnd : objectEnd.Takes ('\x7d' :: rest) () rest :=
  (takes_peek?_next rfl).bind (takes_drop _ _)

section

variable {α : Type} {item : Scan α} {f : Json → α} {layout' : Layout} {level' : Nat}

theorem ended_itemsChars (vs : List Json) (hrest : Ended rest) :
    Ended (itemsChars layout level false vs ++ rest) := by
  cases vs with
  | nil => exact hrest
  | cons v vs => exact ended_cons_iff.mpr (by simp)

theorem ended_membersChars (ms : List (String × Json)) (hrest : Ended rest) :
    Ended (membersChars layout level false ms ++ rest) := by
  cases ms with
  | nil => exact hrest
  | cons m ms => exact ended_cons_iff.mpr (by simp)

theorem length_le_itemsChars {vs : List Json}
    (hopens : ∀ v ∈ vs, ∃ c cs, chars layout level v = c :: cs ∧ Opens c) (first : Bool) :
    vs.length ≤ (itemsChars layout level first vs).length := by
  induction vs generalizing first with
  | nil => simp
  | cons v vs ih =>
    obtain ⟨⟨c, cs, hchars, -⟩, hvs⟩ := List.forall_mem_cons.mp hopens
    have hmore := ih hvs false
    simp only [itemsChars, hchars, List.length_append, List.length_cons]
    omega

theorem length_le_membersChars (ms : List (String × Json)) (first : Bool) :
    ms.length ≤ (membersChars layout level first ms).length := by
  induction ms generalizing first with
  | nil => simp
  | cons m ms ih =>
    have hmore := ih false
    simp only [membersChars, stringText, List.length_append, List.length_cons]
    omega

theorem exists_object_text (layout : Layout) (level : Nat) (ms : List (String × Json))
    (rest : List Char) : ∃ layout' : Layout,
    chars layout level (.object ms) ++ rest = '\x7b' ::
      (membersChars layout (level + 1) true ms ++ (layout'.lineStart level ++ '\x7d' :: rest)) ∧
    ms.length ≤
      (membersChars layout (level + 1) true ms ++ (layout'.lineStart level ++ '\x7d' :: rest)).length := by
  obtain ⟨layout', hchars⟩ := chars_object layout level ms
  have hlength : ms.length ≤ (membersChars layout (level + 1) true ms).length :=
    length_le_membersChars ms true
  refine ⟨layout', by simp [hchars], ?_⟩
  rw [List.length_append]
  exact Nat.le_add_right_of_le hlength

theorem takes_items {ι : Type} {xs : List ι} {value : ι → Json} {f : ι → α} {fuel : Nat}
    (hopens : ∀ x ∈ xs, ∃ c cs, chars layout level (value x) = c :: cs ∧ Opens c)
    (hitem : ∀ x ∈ xs, ∀ rest, Ended rest →
      item.Takes (chars layout level (value x) ++ rest) (f x) rest)
    (hfuel : xs.length < fuel) (done : List α) (rest : List Char) :
    (items item fuel done).Takes
      (itemsChars layout level done.isEmpty (xs.map value) ++ (layout'.lineStart level' ++ ']' :: rest))
      (done.reverse ++ xs.map f) (']' :: rest) := by
  obtain ⟨fuel, rfl⟩ := Nat.exists_eq_add_one.mpr (Nat.zero_lt_of_lt hfuel)
  induction xs generalizing fuel done with
  | nil =>
    rw [List.map_nil, List.map_nil, List.append_nil]
    exact (takes_anotherItem_end _).bind (takes_pure _ _)
  | cons x xs ih =>
    obtain ⟨hx, hxs⟩ := List.forall_mem_cons.mp hopens
    obtain ⟨hx', hxs'⟩ := List.forall_mem_cons.mp hitem
    obtain ⟨c, cs, hchars, hc⟩ := hx
    have hrest : Ended (itemsChars layout level false (xs.map value) ++
        (layout'.lineStart level' ++ ']' :: rest)) :=
      ended_itemsChars _ (ended_lineStart layout' level' (ended_cons_iff.mpr (Or.inr (Or.inl rfl))))
    have hread := hx' _ hrest
    rw [hchars, List.cons_append] at hread
    simp only [List.map_cons, itemsChars, hchars, List.append_assoc, List.cons_append]
    refine (takes_anotherItem done.isEmpty hc).bind ?_
    refine hread.bind ?_
    rw [List.length_cons] at hfuel
    obtain ⟨fuel, rfl⟩ := Nat.exists_eq_add_one.mpr (show 0 < fuel by omega)
    have hmore := ih hxs hxs' (f x :: done) fuel (by omega)
    rwa [List.reverse_cons, List.append_assoc] at hmore

/-- What follows the opening bracket of an array is read as its items. -/
theorem exists_takes_items {ι β : Type} {xs : List ι} {value : ι → Json} {f : ι → α} {depth : Nat}
    (hplain : ∀ x ∈ xs, (value x).Plain depth)
    (hitem : ∀ x ∈ xs, ∀ rest, Ended rest →
      item.Takes (chars layout (level + 1) (value x) ++ rest) (f x) rest)
    (g : List α → β) (rest : List Char) :
    ∃ cs, chars layout level (.array (xs.map value)) ++ rest = '[' :: cs ∧
      (do
        let read ← items item ((← get).length + 1) []
        listEnd
        return g read : Scan β).Takes cs (g (xs.map f)) rest := by
  obtain ⟨layout', hchars⟩ := chars_array layout level (xs.map value)
  have hopens : ∀ x ∈ xs, ∃ c cs, chars layout (level + 1) (value x) = c :: cs ∧ Opens c :=
    fun x hx => exists_opens (hplain x hx) layout (level + 1)
  refine ⟨itemsChars layout (level + 1) true (xs.map value) ++
    (layout'.lineStart level ++ ']' :: rest), by simp [hchars], ?_⟩
  have hfuel : xs.length < (itemsChars layout (level + 1) true (xs.map value) ++
      (layout'.lineStart level ++ ']' :: rest)).length + 1 := by
    have hlength := length_le_itemsChars (List.forall_mem_map.mpr hopens) true
    rw [List.length_map] at hlength
    rw [List.length_append]
    omega
  refine (takes_get _).bind ?_
  refine (takes_items hopens hitem hfuel [] rest).bind ?_
  exact takes_listEnd.bind (takes_pure _ _)

theorem takes_members {ms : List (String × Json)} {fuel : Nat}
    (hvalue : ∀ m ∈ ms, ∀ rest, Ended rest →
      item.Takes (layout.colon.tail ++ (chars layout level m.2 ++ rest)) (f m.2) rest)
    (hfuel : ms.length < fuel) (done : List (String × α)) (rest : List Char) :
    (members item fuel done).Takes
      (membersChars layout level done.isEmpty ms ++ (layout'.lineStart level' ++ '\x7d' :: rest))
      (done.reverse ++ ms.map fun m => (m.1, f m.2)) ('\x7d' :: rest) := by
  obtain ⟨fuel, rfl⟩ := Nat.exists_eq_add_one.mpr (Nat.zero_lt_of_lt hfuel)
  induction ms generalizing fuel done with
  | nil =>
    rw [List.map_nil, List.append_nil]
    exact (takes_anotherName?_end _).bind (takes_pure _ _)
  | cons m ms ih =>
    obtain ⟨hm, hms⟩ := List.forall_mem_cons.mp hvalue
    have hrest : Ended (membersChars layout level false ms ++
        (layout'.lineStart level' ++ '\x7d' :: rest)) :=
      ended_membersChars ms
        (ended_lineStart layout' level' (ended_cons_iff.mpr (Or.inr (Or.inr (Or.inl rfl)))))
    simp only [membersChars, List.append_assoc]
    refine (takes_anotherName? done.isEmpty m.1).bind ?_
    refine (takes_colon layout _).bind ?_
    refine (hm _ hrest).bind ?_
    rw [List.length_cons] at hfuel
    obtain ⟨fuel, rfl⟩ := Nat.exists_eq_add_one.mpr (show 0 < fuel by omega)
    have hmore := ih hms ((m.1, f m.2) :: done) fuel (by omega)
    rwa [List.reverse_cons, List.append_assoc] at hmore

end

end Scan

end ScriptBundle.Json
