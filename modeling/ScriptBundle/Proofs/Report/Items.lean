import ScriptBundle.Proofs.Json.Values
import ScriptBundle.Report.Item

/-! # Items that read back

An item is written with its members in the order of its fields and read back by their names, so the order
in which the text gives them plays no part. A member that is left out is read as one that is not there.
-/

namespace ScriptBundle

namespace Json

theorem get?_cons (name k : String) (v : Json) (rest : List (String × Json)) :
    (object ((k, v) :: rest)).get? name = if k = name then some v else (object rest).get? name := by
  by_cases hk : k = name <;> simp [get?, hk]

theorem get?_insertMember (name n : String) (value : Json) (members : List (String × Json)) :
    (object (insertMember n value members)).get? name =
      if n = name then some value else (object members).get? name := by
  induction members with
  | nil => rw [insertMember, get?_cons]
  | cons m rest ih =>
    obtain ⟨k, v⟩ := m
    unfold insertMember
    by_cases hlt : n < k
    · rw [if_pos hlt, get?_cons]
    by_cases heq : n = k
    · rw [if_neg hlt, if_pos heq, get?_cons, get?_cons]
      by_cases hn : n = name
      · rw [if_pos hn, if_pos hn]
      · rw [if_neg hn, if_neg hn, if_neg (heq ▸ hn)]
    · rw [if_neg hlt, if_neg heq, get?_cons, get?_cons, ih]
      by_cases hn : n = name
      · rw [if_pos hn, if_neg fun hk => heq (hn.trans hk.symm), if_pos hn]
      · rw [if_neg hn, if_neg hn]

/-- Of several members with one name the last one counts. -/
theorem get?_ofMembers (name : String) (members : List (String × Json)) :
    (ofMembers members).get? name = (object members.reverse).get? name := by
  have key : ∀ ms : List (String × Json),
      (object (ms.foldr (fun m acc => insertMember m.1 m.2 acc) [])).get? name =
        (object ms).get? name := by
    intro ms
    induction ms with
    | nil => rfl
    | cons m ms ih => rw [List.foldr_cons, get?_insertMember, ih, get?_cons]
  rw [ofMembers, ← List.foldr_reverse]
  exact key members.reverse

theorem parts?_ofMembers (names : List String) (members : List (String × Json)) :
    (ofMembers members).parts? names =
      some (names.map fun n => ((object members.reverse).get? n).getD null) := by
  simp only [← get?_ofMembers]
  rfl

variable {name n : String} {o : Option Json} {rest : List (String × Json)}

theorem get?_nil (name : String) : (object []).get? name = none := rfl

theorem get?_member?_append : (object (member? n o ++ rest)).get? name =
    if n = name then o.or ((object rest).get? name) else (object rest).get? name := by
  cases o with
  | none => simp [member?]
  | some v => simp [member?, get?_cons]

theorem get?_member? : (object (member? n o)).get? name = if n = name then o else none := by
  cases o with
  | none => simp [member?, get?_nil]
  | some v => simp [member?, get?_cons, get?_nil]

theorem reverse_member? : (member? n o).reverse = member? n o := by
  cases o <;> rfl

theorem map_member? {f : Json → Json} :
    (member? n o).map (fun m => (m.1, f m.2)) = member? n (o.map f) := by
  cases o <;> rfl

theorem asOptional?_getD {α β : Type} {read : Json → Option β} {write : α → Json} {f : α → β}
    (o : Option α) (hread : ∀ a ∈ o, read (write a) = some (f a)) (hnull : ∀ a ∈ o, write a ≠ null) :
    ((o.map write).getD null).asOptional? read = some (o.map f) := by
  cases o with
  | none => rfl
  | some a =>
    rw [Option.map_some, Option.getD_some, asOptional?, hread a rfl]
    · rfl
    · exact hnull a rfl

theorem asInteger?_integer {low high n : Int} (hlow : low ≤ n) (hhigh : n ≤ high) :
    (integer n).asInteger? low high = some n := if_pos ⟨hlow, hhigh⟩

end Json

open Json (ordered orderedMembers orderedMembers_eq_map parts?_ofMembers get?_cons get?_nil get?_member?
  get?_member?_append reverse_member? map_member? asOptional?_getD asInteger?_integer)

theorem LineRange.ofJson?_ordered (r : LineRange) : ofJson? r.toJson.ordered = some r := by
  have hbound (n : UInt32) :
      (Json.integer n.toNat).asInteger? 0 (UInt32.size - 1) = some (n.toNat : Int) := by
    have hlt := n.toNat_lt
    have hsize : (UInt32.size : Int) = 2 ^ 32 := rfl
    exact asInteger?_integer (by omega) (by omega)
  have hparts : r.toJson.ordered.parts? ["start", "end"] =
      some [.integer r.first.toNat, .integer r.last.toNat] := by
    simp [toJson, ordered, orderedMembers, parts?_ofMembers, get?_cons]
  simp only [ofJson?, hparts, hbound, Option.bind_eq_bind, Option.bind_some, Int.toNat_natCast,
    UInt32.ofNat_toNat]
  rfl

theorem FileMeta.ofJson?_ordered (m : FileMeta) : ofJson? m.toJson.ordered = some m := by
  have hmodified : ((m.modified.map fun n => Json.integer n.toInt).getD .null).asOptional?
      (Json.asInteger? Int64.minValue.toInt Int64.maxValue.toInt) =
      some (m.modified.map Int64.toInt) :=
    asOptional?_getD m.modified
      (fun n _ => asInteger?_integer n.minValue_le_toInt n.toInt_le) (by simp)
  have hsize : ((m.size.map fun n => Json.integer n.toNat).getD .null).asOptional?
      (Json.asInteger? 0 (UInt64.size - 1)) = some (m.size.map fun n => (n.toNat : Int)) := by
    refine asOptional?_getD m.size (fun n _ => asInteger?_integer ?_ ?_) (by simp)
    · omega
    · have hlt := n.toNat_lt_size
      omega
  have hhash : ((m.hash.map Json.string).getD .null).asOptional? Json.asString? = some m.hash := by
    have hread : ∀ s ∈ m.hash, (Json.string s).asString? = some (id s) := fun s _ => rfl
    simpa using asOptional?_getD m.hash hread (by simp)
  have hparts : m.toJson.ordered.parts? ["mtime_ms", "size", "hash"] =
      some [(m.modified.map fun n => .integer n.toInt).getD .null,
        (m.size.map fun n => .integer n.toNat).getD .null, (m.hash.map .string).getD .null] := by
    simp [toJson, ordered, orderedMembers_eq_map, parts?_ofMembers, map_member?,
      get?_member?_append, get?_member?, reverse_member?, Function.comp_def]
  simp only [ofJson?, hparts, hmodified, hsize, hhash, Option.bind_eq_bind, Option.bind_some,
    Option.map_map, Function.comp_def, Int64.ofInt_toInt, Int.toNat_natCast, UInt64.ofNat_toNat,
    Option.map_id']
  rfl

namespace Item

/-- What the text of an item says everything about: its further facts are not null, have no decimals, are
nested at most `depth` deep, and their members are in the order of their names. -/
def Portable (depth : Nat) (i : Item) : Prop :=
  ∀ v ∈ i.data, v ≠ .null ∧ v.Plain depth ∧ v.ordered = v

theorem asChoice?_kind (k : ItemKind) :
    (Json.string k.label).asChoice? ItemKind.all ItemKind.label = some k := by
  cases k <;> decide

theorem asChoice?_mode (m : SourceMode) :
    (Json.string m.label).asChoice? SourceMode.all SourceMode.label = some m := by
  cases m <;> decide

theorem ofJson?_ordered {depth : Nat} {i : Item} (h : i.Portable depth) :
    ofJson? i.toJson.ordered = some i := by
  have hrange : ((i.range.map fun r : LineRange => r.toJson.ordered).getD Json.null).asOptional?
      LineRange.ofJson? = some i.range := by
    have hnull : ∀ r ∈ i.range, ordered (LineRange.toJson r) ≠ Json.null := fun r _ => nofun
    simpa using asOptional?_getD (f := id) i.range (fun r _ => r.ofJson?_ordered) hnull
  have hdata : ((i.data.map ordered).getD .null).asOptional? some = some i.data := by
    have hread : ∀ v ∈ i.data, some v.ordered = some (id v) := fun v hv => by
      rw [(h v hv).2.2, id]
    have hnull : ∀ v ∈ i.data, v.ordered ≠ .null := fun v hv => by
      rw [(h v hv).2.2]
      exact (h v hv).1
    simpa using asOptional?_getD i.data hread hnull
  have hparts : i.toJson.ordered.parts? ["kind", "path", "range", "data", "source_mode", "meta"] =
      some [.string i.kind.label, .string i.path,
        (i.range.map fun r => r.toJson.ordered).getD .null, (i.data.map ordered).getD .null,
        .string i.mode.label, i.facts.toJson.ordered] := by
    simp [toJson, ordered, orderedMembers_eq_map, parts?_ofMembers, map_member?, get?_cons, get?_nil,
      get?_member?_append, reverse_member?, Function.comp_def]
  simp only [ofJson?, hparts, hrange, hdata, asChoice?_kind, asChoice?_mode, Json.asString?,
    FileMeta.ofJson?_ordered, Option.bind_eq_bind, Option.bind_some]
  rfl

theorem plain_member? {depth : Nat} {name : String} {o : Option Json}
    (h : ∀ v ∈ o, v.Plain depth) : ∀ m ∈ Json.member? name o, m.2.Plain depth := by
  intro m hm
  obtain ⟨v, hv, rfl⟩ := List.mem_map.mp hm
  exact h v (Option.mem_toList.mp hv)

theorem plain_natural (depth : Nat) {n : Nat} (h : n < UInt64.size) :
    (Json.integer n).Plain depth := by
  have hmin : Int64.minValue.toInt ≤ 0 := by decide
  exact .integer (by omega) (Int.ofNat_lt.mpr h)

theorem plain_range (depth : Nat) (r : LineRange) : r.toJson.Plain (depth + 1) := by
  have hbound (n : UInt32) : (Json.integer n.toNat).Plain depth :=
    plain_natural depth (Nat.lt_trans n.toNat_lt_size (by decide))
  refine .object ?_
  simpa using ⟨hbound r.first, hbound r.last⟩

theorem plain_facts (depth : Nat) (m : FileMeta) : m.toJson.Plain (depth + 1) := by
  have hmodified (n : Int64) : (Json.integer n.toInt).Plain depth := by
    have hmax : Int64.maxValue.toInt < UInt64.size := by decide
    have hhigh := n.toInt_le
    exact .integer n.minValue_le_toInt (by omega)
  have hsize (n : UInt64) : (Json.integer n.toNat).Plain depth := plain_natural depth n.toNat_lt_size
  refine .object (List.forall_mem_append.mpr ⟨List.forall_mem_append.mpr ⟨?_, ?_⟩, ?_⟩)
  · exact plain_member? (by simpa using fun n _ => hmodified n)
  · exact plain_member? (by simpa using fun n _ => hsize n)
  · exact plain_member? (by simpa using fun s _ => .string s)

/-- The further facts are one level down in the value of an item. -/
theorem plain_toJson {depth : Nat} {i : Item} (h : i.Portable (depth + 1)) :
    i.toJson.Plain (depth + 2) := by
  refine .object ?_
  simp only [List.forall_mem_append]
  refine ⟨⟨⟨?_, ?_⟩, ?_⟩, ?_⟩
  · simpa using ⟨.string i.kind.label, .string i.path⟩
  · exact plain_member? (by simpa using fun r _ => plain_range depth r)
  · exact plain_member? fun v hv => (h v hv).2.1
  · simpa using ⟨.string i.mode.label, plain_facts depth i.facts⟩

end Item

end ScriptBundle
