import Mathlib.Data.List.Nodup
import ScriptBundle.Json.Record
import ScriptBundle.Proofs.Json.Values

/-! # Records that read back

A record is read back from the object of its members. A member that says what the record holds anyhow may be
left out, and a name that the record does not have is a fault wherever it stands.
-/

namespace ScriptBundle.Json

namespace Scan

section

variable {α β : Type} {s : Scan α} {f : α → Scan β} {cs mid : List Char} {x : α} {v : Json} {fault : Fault}

/-- A reader stops with a fault. -/
def Stops (s : Scan α) (cs : List Char) (fault : Fault) : Prop := s.run cs = .error fault

theorem Takes.run_bind (h : s.Takes cs x mid) (f : α → Scan β) : (s >>= f).run cs = (f x).run mid := by
  unfold Takes at h
  rw [StateT.run_bind, h]
  rfl

theorem Takes.bind_stops (h : s.Takes cs x mid) (hf : (f x).Stops mid fault) :
    (s >>= f).Stops cs fault := by
  rwa [Stops, h.run_bind]

theorem Stops.bind (h : s.Stops cs fault) (f : α → Scan β) : (s >>= f).Stops cs fault := by
  unfold Stops at h ⊢
  rw [StateT.run_bind, h]
  rfl

/-- A reader takes the text of a value, in whatever layout it is set, for `x`. -/
def Reads (s : Scan α) (v : Json) (x : α) : Prop :=
  ∀ layout level gap rest, (∀ c ∈ gap, isSpace c) → Ended rest →
    s.Takes (gap ++ (chars layout level v ++ rest)) x rest

/-- A reader stops at the text of a value, in whatever layout it is set. -/
def Refuses (s : Scan α) (v : Json) (fault : Fault) : Prop :=
  ∀ layout level gap rest, (∀ c ∈ gap, isSpace c) → Ended rest →
    s.Stops (gap ++ (chars layout level v ++ rest)) fault

theorem Reads.map (h : s.Reads v x) (g : α → β) : (s >>= fun x => pure (g x)).Reads v (g x) :=
  fun layout level gap rest hgap hrest => (h layout level gap rest hgap hrest).bind (takes_pure _ _)

theorem Refuses.bind (h : s.Refuses v fault) (f : α → Scan β) : (s >>= f).Refuses v fault :=
  fun layout level gap rest hgap hrest => (h layout level gap rest hgap hrest).bind f

end

theorem reads_truth (b : Bool) : truth.Reads (.bool b) b := by
  intro layout level gap rest hgap _
  cases b with
  | true =>
    refine (takes_peek? (c := 't') hgap rfl).bind ?_
    refine (takes_drop _ _).bind ?_
    exact (takes_word ['r', 'u', 'e'] rest).bind (takes_pure _ _)
  | false =>
    refine (takes_peek? (c := 'f') hgap rfl).bind ?_
    refine (takes_drop _ _).bind ?_
    exact (takes_word ['a', 'l', 's', 'e'] rest).bind (takes_pure _ _)

theorem chars_string (layout : Layout) (level : Nat) (s : String) (rest : List Char) :
    chars layout level (.string s) ++ rest = '"' :: (s.toList.flatMap escape ++ '"' :: rest) := by
  simp [chars, stringText]

theorem reads_text (expected s : String) : (text expected).Reads (.string s) s := by
  intro layout level gap rest hgap _
  rw [chars_string]
  refine (takes_peek? hgap rfl).bind ?_
  exact (takes_drop _ _).bind (takes_stringRest s rest)

theorem reads_optionalText (expected s : String) :
    (optionalText expected).Reads (.string s) (some s) := by
  intro layout level gap rest hgap hrest
  have htext := reads_text expected s layout level [] rest (List.forall_mem_nil _) hrest
  rw [List.nil_append, chars_string] at htext
  rw [chars_string]
  refine (takes_peek? hgap rfl).bind ?_
  exact htext.bind (takes_pure _ _)

theorem reads_list {α : Type} {item : Scan α} {value : α → Json} {xs : List α} {depth : Nat}
    (hplain : ∀ x ∈ xs, (value x).Plain depth) (hitem : ∀ x ∈ xs, item.Reads (value x) x) :
    (list item).Reads (.array (xs.map value)) xs := by
  intro layout level gap rest hgap _
  have hread : ∀ x ∈ xs, ∀ rest, Ended rest →
      item.Takes (chars layout (level + 1) (value x) ++ rest) x rest :=
    fun x hx rest hrest => hitem x hx layout (level + 1) [] rest (List.forall_mem_nil _) hrest
  obtain ⟨cs, htext, hitems⟩ := exists_takes_items hplain hread id rest
  rw [List.map_id', id_eq] at hitems
  rw [htext]
  refine (takes_peek? hgap rfl).bind ?_
  exact (takes_drop _ _).bind hitems

end Scan

namespace Shape

open Scan

variable {α : Type} {shape : Shape α} {field : Field α} {r r' : α} {name : String} {v : Json}
  {front back ms : List (String × Json)} {seen : List String} {fault : Fault}
  {layout : Layout} {level fuel : Nat} {rest : List Char}

inductive Fills (shape : Shape α) : α → List (String × Json) → α → Prop
  | nil (r : α) : Fills shape r [] r
  | cons {r r' r'' : α} {field : Field α} {name : String} {v : Json} {ms : List (String × Json)}
      (hfield : shape.fields.find? (·.name == name) = some field) (hread : (field.read r).Reads v r')
      (h : Fills shape r' ms r'') : Fills shape r ((name, v) :: ms) r''

theorem fills_append_iff : shape.Fills r (front ++ back) r' ↔
    ∃ mid, shape.Fills r front mid ∧ shape.Fills mid back r' := by
  induction front generalizing r with
  | nil =>
    constructor
    · exact fun h => ⟨r, .nil r, h⟩
    · rintro ⟨mid, hfront, hback⟩
      cases hfront
      exact hback
  | cons m front ih =>
    constructor
    · intro h
      cases h with
      | cons hfield hread h =>
        obtain ⟨mid, hfront, hback⟩ := ih.mp h
        exact ⟨mid, .cons hfield hread hfront, hback⟩
    · rintro ⟨mid, hfront, hback⟩
      cases hfront with
      | cons hfield hread hfront => exact .cons hfield hread (ih.mpr ⟨mid, hfront, hback⟩)

theorem find?_eq_none_iff : shape.fields.find? (·.name == name) = none ↔
    name ∉ shape.fields.map (·.name) := by
  rw [List.find?_eq_none, List.mem_map]
  constructor
  · rintro h ⟨field, hfield, rfl⟩
    exact h field hfield (beq_self_eq_true _)
  · intro h field hfield heq
    exact h ⟨field, hfield, eq_of_beq heq⟩

theorem run_readMembers_cons (hfield : shape.fields.find? (·.name == name) = some field)
    (hnew : name ∉ seen) :
    (shape.readMembers (fuel + 1) seen r).run
        (membersChars layout level seen.isEmpty ((name, v) :: ms) ++ rest) =
      (field.read r >>= shape.readMembers fuel (name :: seen)).run
        (layout.colon.tail ++ (chars layout level v ++ (membersChars layout level false ms ++ rest))) := by
  have hunseen : ¬seen.contains name = true := by simpa using hnew
  simp only [membersChars, List.append_assoc]
  rw [readMembers, (takes_anotherName? seen.isEmpty name).run_bind]
  simp only [hfield, if_neg hunseen]
  rw [(takes_colon layout _).run_bind]

/-- Members that fill a record are read, and what follows them is read on behind them. -/
theorem run_readMembers_append (layout : Layout) (level fuel : Nat) (h : shape.Fills r front r')
    (hnames : (front.map (·.1) ++ seen).Nodup) (back : List (String × Json)) (hrest : Ended rest) :
    (shape.readMembers (fuel + front.length) seen r).run
        (membersChars layout level seen.isEmpty (front ++ back) ++ rest) =
      (shape.readMembers fuel ((front.map (·.1)).reverse ++ seen) r').run
        (membersChars layout level ((front.map (·.1)).reverse ++ seen).isEmpty back ++ rest) := by
  induction h generalizing seen with
  | nil r => rfl
  | @cons r r₁ r' field name v front hfield hread _ ih =>
    obtain ⟨hnew, -⟩ := List.nodup_cons.mp hnames
    have hnames' : (front.map (·.1) ++ name :: seen).Nodup := List.perm_middle.nodup_iff.mpr hnames
    have hmore := ih hnames'
    have hfollows : Ended (membersChars layout level false (front ++ back) ++ rest) :=
      ended_membersChars _ hrest
    have hvalue := hread layout level layout.colon.tail _ isSpace_of_mem_colon hfollows
    rw [List.map_cons, List.reverse_cons, List.append_assoc, List.singleton_append, ← hmore,
      List.cons_append, List.length_cons, ← Nat.add_assoc,
      run_readMembers_cons hfield fun hseen => hnew (List.mem_append_right _ hseen),
      hvalue.run_bind]
    rfl

/-- Of an object, the members that fill a record are read, and then the others. -/
theorem run_read_object {start : α} {gap : List Char} (h : shape.Fills start front r)
    (hnames : (front.map (·.1)).Nodup) (back : List (String × Json)) (layout : Layout) (level : Nat)
    (rest : List Char) (hgap : ∀ c ∈ gap, isSpace c) :
    ∃ (layout' : Layout) (fuel : Nat),
      (shape.read start).run (gap ++ (chars layout level (.object (front ++ back)) ++ rest)) =
        (shape.readMembers (fuel + 1) (front.map (·.1)).reverse r >>= fun record => do
          objectEnd
          return record).run
          (membersChars layout (level + 1) (front.map (·.1)).reverse.isEmpty back ++
            (layout'.lineStart level ++ '\x7d' :: rest)) := by
  obtain ⟨layout', htext, hlength⟩ := exists_object_text layout level (front ++ back) rest
  rw [List.length_append] at hlength
  obtain ⟨fuel, hfuel⟩ := Nat.exists_eq_add_of_le (Nat.le_of_add_right_le hlength)
  have hended : Ended (layout'.lineStart level ++ '\x7d' :: rest) :=
    ended_lineStart layout' level (ended_cons_iff.mpr (Or.inr (Or.inr (Or.inl rfl))))
  have hunseen : (front.map (·.1) ++ ([] : List String)).Nodup := by rwa [List.append_nil]
  have hread := run_readMembers_append layout (level + 1) (fuel + 1) h hunseen back hended
  rw [List.append_nil, List.isEmpty_nil] at hread
  refine ⟨layout', fuel, ?_⟩
  rw [htext]
  refine ((takes_peek? hgap rfl).run_bind _).trans ?_
  refine ((takes_drop _ _).run_bind _).trans ?_
  refine ((takes_get _).run_bind _).trans ?_
  rw [hfuel, Nat.add_assoc, Nat.add_comm front.length, StateT.run_bind, hread, StateT.run_bind]

theorem reads_object {start : α} (h : shape.Fills start ms r) (hnames : (ms.map (·.1)).Nodup) :
    (shape.read start).Reads (.object ms) r := by
  intro layout level gap rest hgap _
  obtain ⟨layout', fuel, hrun⟩ := run_read_object h hnames [] layout level rest hgap
  rw [List.append_nil] at hrun
  refine hrun.trans ?_
  have hend : (shape.readMembers (fuel + 1) (ms.map (·.1)).reverse r).Takes
      (layout'.lineStart level ++ '\x7d' :: rest) r ('\x7d' :: rest) :=
    (takes_anotherName?_end _).bind (takes_pure _ _)
  exact hend.bind (takes_objectEnd.bind (takes_pure _ _))

theorem refuses_unknown {start : α} (h : shape.Fills start front r)
    (hnames : (front.map (·.1)).Nodup) (hname : name ∉ shape.fields.map (·.name)) (v : Json)
    (back : List (String × Json)) :
    (shape.read start).Refuses (.object (front ++ (name, v) :: back))
      (.unknownField name (shape.fields.map (·.name))) := by
  intro layout level gap rest hgap _
  obtain ⟨layout', fuel, hrun⟩ :=
    run_read_object h hnames ((name, v) :: back) layout level rest hgap
  refine hrun.trans ?_
  refine Stops.bind ?_ _
  simp only [membersChars, List.append_assoc]
  refine (takes_anotherName? _ name).bind_stops ?_
  simp only [find?_eq_none_iff.mpr hname]
  rfl

theorem refuses_member {start : α} (h : shape.Fills start front r)
    (hnames : (front.map (·.1)).Nodup) (hnew : name ∉ front.map (·.1))
    (hfield : shape.fields.find? (·.name == name) = some field) (hvalue : (field.read r).Refuses v fault)
    (back : List (String × Json)) :
    (shape.read start).Refuses (.object (front ++ (name, v) :: back)) fault := by
  intro layout level gap rest hgap _
  obtain ⟨layout', fuel, hrun⟩ :=
    run_read_object h hnames ((name, v) :: back) layout level rest hgap
  refine hrun.trans ?_
  refine Stops.bind ?_ _
  have hunseen : name ∉ (front.map (·.1)).reverse := by rwa [List.mem_reverse]
  have hended : Ended (layout'.lineStart level ++ '\x7d' :: rest) :=
    ended_lineStart layout' level (ended_cons_iff.mpr (Or.inr (Or.inr (Or.inl rfl))))
  refine (run_readMembers_cons hfield hunseen).trans ?_
  exact (hvalue layout (level + 1) _ _ isSpace_of_mem_colon (ended_membersChars back hended)).bind _

theorem ofText_text {start : α} (h : (shape.read start).Reads v r) (layout : Layout) :
    shape.ofText start (v.text layout) = .ok r := by
  have hread := h layout 0 [] [] (List.forall_mem_nil _) (by simp [Ended])
  rw [List.nil_append, List.append_nil] at hread
  have hrun := hread.bind (f := fun record => do textEnd; return record)
    (takes_textEnd.bind (takes_pure r []))
  unfold ofText
  rw [text, String.toList_ofList]
  exact congrArg (fun x : Except Fault (α × List Char) => x >>= fun x => pure x.1) hrun

theorem ofText_text_error {start : α} (h : (shape.read start).Refuses v fault) (layout : Layout) :
    shape.ofText start (v.text layout) = .error fault := by
  have hread := h layout 0 [] [] (List.forall_mem_nil _) (by simp [Ended])
  rw [List.nil_append, List.append_nil] at hread
  have hrun := hread.bind fun record => do textEnd; return record
  unfold ofText
  rw [text, String.toList_ofList]
  exact congrArg (fun x : Except Fault (α × List Char) => x >>= fun x => pure x.1) hrun

structure Entry (α : Type) where
  member : String × Json
  update : α → α

def updateAll (entries : List (Entry α)) (r : α) : α := entries.foldl (fun r e => e.update r) r

structure Independent (shape : Shape α) (entries : List (Entry α)) : Prop where
  once : (entries.map (·.member.1)).Nodup
  reads : ∀ e ∈ entries, ∃ field, shape.fields.find? (·.name == e.member.1) = some field ∧
    ∀ r, (field.read r).Reads e.member.2 (e.update r)
  comm : ∀ e ∈ entries, ∀ e' ∈ entries, ∀ r, e.update (e'.update r) = e'.update (e.update r)
  idem : ∀ e ∈ entries, ∀ r, e.update (e.update r) = e.update r

namespace Independent

variable {entries : List (Entry α)} {e : Entry α}

theorem updateAll_comm {some : List (Entry α)} (h : shape.Independent entries) (he : e ∈ entries)
    (hsome : ∀ e' ∈ some, e' ∈ entries) (r : α) :
    updateAll some (e.update r) = e.update (updateAll some r) := by
  induction some generalizing r with
  | nil => rfl
  | cons e' some ih =>
    obtain ⟨he', hsome⟩ := List.forall_mem_cons.mp hsome
    rw [updateAll, updateAll, List.foldl_cons, List.foldl_cons, h.comm e' he' e he]
    exact ih hsome (e'.update r)

theorem update_updateAll {some : List (Entry α)} (h : shape.Independent entries) (he : e ∈ some)
    (hsome : ∀ e' ∈ some, e' ∈ entries) (r : α) :
    e.update (updateAll some r) = updateAll some r := by
  induction some generalizing r with
  | nil => cases he
  | cons e' some ih =>
    obtain ⟨he', hmore⟩ := List.forall_mem_cons.mp hsome
    rw [updateAll, List.foldl_cons]
    rcases List.mem_cons.mp he with rfl | he
    · exact (h.updateAll_comm he' hmore (e.update r)).symm.trans
        (congrArg (updateAll some) (h.idem e he' r))
    · exact ih he hmore (e'.update r)

theorem updateAll_update (h : shape.Independent entries) (he : e ∈ entries) (r : α) :
    updateAll entries (e.update r) = updateAll entries r :=
  (h.updateAll_comm he (fun _ h => h) r).trans (h.update_updateAll he (fun _ h => h) r)

theorem updateAll_eq_self (hdone : ∀ e ∈ entries, e.update r = r) : updateAll entries r = r := by
  induction entries with
  | nil => rfl
  | cons e entries ih =>
    obtain ⟨he, hentries⟩ := List.forall_mem_cons.mp hdone
    rw [updateAll, List.foldl_cons, he]
    exact ih hentries

/-- Members are read in any order, and those that would change nothing may be missing. -/
theorem fills (h : shape.Independent entries) (hknown : ∀ m ∈ ms, m ∈ entries.map (·.member))
    (henough : ∀ e ∈ entries, e.member ∈ ms ∨ e.update r = r) :
    shape.Fills r ms (updateAll entries r) := by
  induction ms generalizing r with
  | nil =>
    rw [updateAll_eq_self fun e he => (henough e he).resolve_left List.not_mem_nil]
    exact .nil r
  | cons m ms ih =>
    obtain ⟨hm, hms⟩ := List.forall_mem_cons.mp hknown
    obtain ⟨e, he, rfl⟩ := List.mem_map.mp hm
    obtain ⟨field, hfield, hread⟩ := h.reads e he
    rw [← h.updateAll_update he]
    refine .cons hfield (hread r) (ih hms fun e' he' => ?_)
    rcases henough e' he' with hmem | hdone
    · rcases List.mem_cons.mp hmem with hsame | hmem
      · rw [List.inj_on_of_nodup_map h.once he' he (congrArg Prod.fst hsame)]
        exact Or.inr (h.idem e he r)
      · exact Or.inl hmem
    · right
      rw [h.comm e' he' e he, hdone]

end Independent

/-- Members in any order, each of them once, without some of those that are among the default ones. -/
structure Abridges (defaults members ms : List (String × Json)) : Prop where
  once : (ms.map (·.1)).Nodup
  known : ∀ m ∈ ms, m ∈ members
  enough : ∀ m ∈ members, m ∈ ms ∨ m ∈ defaults

theorem Abridges.refl (defaults : List (String × Json)) (honce : (ms.map (·.1)).Nodup) :
    Abridges defaults ms ms :=
  ⟨honce, fun _ h => h, fun _ h => Or.inl h⟩

theorem Independent.fills_abridged {entries : List (Entry α)} {defaults : List (String × Json)}
    {start : α} (h : shape.Independent entries)
    (hdefault : ∀ e ∈ entries, e.member ∈ defaults → e.update start = start)
    (hms : Abridges defaults (entries.map (·.member)) ms) :
    shape.Fills start ms (updateAll entries start) := by
  refine h.fills hms.known fun e he => ?_
  rcases hms.enough e.member (List.mem_map_of_mem he) with hmem | hmem
  · exact Or.inl hmem
  · exact Or.inr (hdefault e he hmem)

end Shape

end ScriptBundle.Json
