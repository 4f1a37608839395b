import ScriptBundle.Proofs.Json.Layout
import ScriptBundle.Proofs.Report.Items
import ScriptBundle.Report

/-! # Reports that read back

A report written as values holds its items and nothing else: it can be taken apart at the ends of lines in
the compact layout and at empty lines in the other one, or read as one array.
-/

namespace ScriptBundle

def Item.ofText? (s : String) : Option Item := (Json.ofText s).toOption.bind Item.ofJson?

namespace Report

def ofText? (s : String) : Option Report :=
  match Json.ofText s with
  | .ok (.array values) => values.mapM Item.ofJson?
  | _ => none

/-- The texts that the ends of lines separate, or that empty lines separate. An empty text has none. -/
def records (layout : Json.Layout) (s : String) : List String :=
  if s = "" then []
  else match layout with
    | .compact => (s.toList.splitOn '\n').map String.ofList
    | .pretty => ((s.toList.splitOn '\n').splitOn []).map fun lines =>
        String.ofList (['\n'].intercalate lines)

theorem splitOn_intercalate_gap {texts : List (List Char)} (hne : texts ≠ []) :
    (['\n', '\n'].intercalate texts).splitOn '\n' =
      [[]].intercalate (texts.map (List.splitOn '\n')) := by
  induction texts with
  | nil => exact absurd rfl hne
  | cons t rest ih =>
    cases rest with
    | nil => simp
    | cons t' rest =>
      have hnil : ([] : List Char).splitOn '\n' = [[]] := rfl
      rw [List.intercalate_cons_cons, List.append_assoc, List.cons_append, List.cons_append,
        List.nil_append, List.splitOn_append_cons_self, ← List.nil_append ('\n' :: _),
        List.splitOn_append_cons_self, ih (List.cons_ne_nil t' rest), hnil, List.map_cons,
        List.map_cons, List.map_cons, List.intercalate_cons_cons, List.append_assoc]

theorem intercalate_ne_empty {sep : String} {texts : List String} (hne : texts ≠ [])
    (htexts : ∀ t ∈ texts, t.toList ≠ []) : sep.intercalate texts ≠ "" := by
  intro hempty
  have hnil : (sep.intercalate texts).toList = [] := by rw [hempty]; rfl
  rw [String.toList_intercalate] at hnil
  obtain ⟨t, rest, rfl⟩ := List.exists_cons_of_ne_nil hne
  obtain ⟨ht, -⟩ := List.forall_mem_cons.mp htexts
  cases rest with
  | nil => exact ht (by simpa using hnil)
  | cons t' rest =>
    rw [List.map_cons, List.map_cons, List.intercalate_cons_cons, List.append_assoc] at hnil
    exact ht (List.append_eq_nil_iff.mp hnil).1

theorem records_compact {texts : List String} (hne : texts ≠ [])
    (htexts : ∀ t ∈ texts, t.toList ≠ [] ∧ '\n' ∉ t.toList) :
    records .compact ("\n".intercalate texts) = texts := by
  have hsplit : (['\n'].intercalate (texts.map String.toList)).splitOn '\n' =
      texts.map String.toList :=
    List.splitOn_intercalate '\n' (List.forall_mem_map.mpr fun t ht => (htexts t ht).2)
      (by simpa using hne)
  have hgap : "\n".toList = ['\n'] := rfl
  rw [records, if_neg (intercalate_ne_empty hne fun t ht => (htexts t ht).1)]
  simp [String.toList_intercalate, hgap, hsplit]

theorem records_pretty {texts : List String} (hne : texts ≠ [])
    (htexts : ∀ t ∈ texts, Json.Lined t.toList) :
    records .pretty ("\n\n".intercalate texts) = texts := by
  have hblocks : ([[]].intercalate ((texts.map String.toList).map (List.splitOn '\n'))).splitOn [] =
      (texts.map String.toList).map (List.splitOn '\n') :=
    List.splitOn_intercalate [] (by simpa using fun t ht => (htexts t ht).nil_notMem_splitOn)
      (by simpa using hne)
  have hgap : "\n\n".toList = ['\n', '\n'] := rfl
  rw [records, if_neg (intercalate_ne_empty hne fun t ht => (htexts t ht).ne_nil)]
  simp only [String.toList_intercalate, hgap]
  rw [splitOn_intercalate_gap (by simpa using hne), hblocks]
  simp [Function.comp_def, List.intercalate_splitOn]

theorem ofText?_item {i : Item} (h : i.Portable (Json.depthLimit - 2)) (layout : Json.Layout) :
    Item.ofText? (i.toJson.text layout) = some i := by
  have hplain : i.toJson.Plain (Json.depthLimit - 1) := Item.plain_toJson h
  rw [Item.ofText?, Json.ofText_text hplain]
  exact Item.ofJson?_ordered h

theorem mapM_map_eq_some {β : Type} {read : β → Option Item} {write : Item → β} {r : Report}
    (h : ∀ i ∈ r, read (write i) = some i) : (r.map write).mapM read = some r := by
  induction r with
  | nil => rfl
  | cons i r ih =>
    obtain ⟨hi, hr⟩ := List.forall_mem_cons.mp h
    rw [List.map_cons, List.mapM_cons, hi, ih hr]
    rfl

theorem records_text {r : Report} (h : ∀ i ∈ r, i.Portable (Json.depthLimit - 2))
    (layout : Json.Layout) :
    records layout (r.text layout .jsonl) = r.map fun i => i.toJson.text layout := by
  by_cases hr : r = []
  · subst hr
    rfl
  have hne : (r.map fun i => i.toJson.text layout) ≠ [] := by simpa using hr
  have hplain : ∀ i ∈ r, i.toJson.Plain (Json.depthLimit - 1) := fun i hi =>
    Item.plain_toJson (h i hi)
  have hlined : ∀ t ∈ r.map fun i => i.toJson.text layout, Json.Lined t.toList := by
    refine List.forall_mem_map.mpr fun i hi => ?_
    rw [Json.text, String.toList_ofList]
    exact (Json.composed_lined layout).value (hplain i hi) 0
  cases layout with
  | compact =>
    refine records_compact hne fun t ht => ⟨(hlined t ht).ne_nil, ?_⟩
    obtain ⟨i, hi, rfl⟩ := List.mem_map.mp ht
    rw [Json.text, String.toList_ofList]
    exact Json.composed_oneLine.value (hplain i hi) 0
  | pretty => exact records_pretty hne hlined

theorem ofText?_array {r : Report} (h : ∀ i ∈ r, i.Portable (Json.depthLimit - 3))
    (layout : Json.Layout) : ofText? (r.text layout .json) = some r := by
  have hplain : (Json.array (r.map Item.toJson)).Plain (Json.depthLimit - 1) :=
    .array (List.forall_mem_map.mpr fun i hi => Item.plain_toJson (h i hi))
  have hread : Json.ofText (r.text layout .json) =
      .ok (.array ((r.map Item.toJson).map Json.ordered)) := by
    rw [text, Json.ofText_text hplain, Json.ordered, Json.orderedItems_eq_map]
  rw [ofText?, hread, List.map_map]
  exact mapM_map_eq_some fun i hi => Item.ofJson?_ordered (h i hi)

/-- Nothing of a report is lost in its text: the records that the text consists of hold the items, one each
and in their order, and so does the one array. -/
theorem text_reads_back (r : Report) (layout : Json.Layout) :
    ((∀ i ∈ r, i.Portable (Json.depthLimit - 2)) →
      (records layout (r.text layout .jsonl)).mapM Item.ofText? = some r) ∧
    ((∀ i ∈ r, i.Portable (Json.depthLimit - 3)) → ofText? (r.text layout .json) = some r) ∧
    (r = [] → r.text layout .jsonl = "" ∧ r.text layout .json = "[]") := by
  refine ⟨fun h => ?_, fun h => ofText?_array h layout, ?_⟩
  · rw [records_text h layout]
    exact mapM_map_eq_some fun i hi => ofText?_item (h i hi) layout
  · rintro rfl
    cases layout <;> exact ⟨rfl, rfl⟩

/-- A dependency with a line end and quotes in its path and with nested facts, and a file with nothing but
its kind and way. -/
def oddReport : Report :=
  [{ kind := .dependency
     path := "js/\"é\"\n.js"
     range := some (.ofLine 3)
     data := some (.object [
      ("depth", .integer (-1)), ("parts", .array [.null, .array [], .object [], .string "\n\n"])])
     mode := .relative
     facts := { modified := some 0, size := some 18446744073709551615, hash := some "\x00" } },
   { kind := .file, path := "", mode := .index }]

theorem oddReport_reads_back :
    (∀ i ∈ oddReport, i.Portable (Json.depthLimit - 3)) ∧
      (records .pretty (oddReport.text .pretty .jsonl)).mapM Item.ofText? = some oddReport ∧
      ofText? (oddReport.text .pretty .json) = some oddReport := by
  have hportable : ∀ depth, ∀ i ∈ oddReport, i.Portable (depth + 3) := by
    intro depth
    simp only [oddReport, List.forall_mem_cons, List.not_mem_nil, false_imp_iff, implies_true,
      and_true]
    refine ⟨?_, nofun⟩
    rintro v ⟨⟩
    refine ⟨nofun, .object ?_, rfl⟩
    simp only [List.forall_mem_cons, List.not_mem_nil, false_imp_iff, implies_true, and_true]
    refine ⟨.integer (by decide) (by decide), .array ?_⟩
    simpa using ⟨.null, .array (by simp), .object (by simp), .string "\n\n"⟩
  exact ⟨hportable _, (text_reads_back oddReport .pretty).1 (hportable _),
    (text_reads_back oddReport .pretty).2.1 (hportable _)⟩

end Report

end ScriptBundle
