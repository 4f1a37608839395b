import ScriptBundle.Proofs.Json.Parts

/-! # Lines of texts

A value takes one line in the compact layout. In the other layout it may take several, but none of them is
empty, so that values with an empty line between them can be told apart.
-/

namespace ScriptBundle.Json

inductive Lined : List Char → Prop where
  | line {cs} (hne : cs ≠ []) (hline : '\n' ∉ cs) : Lined cs
  | more {cs rest} (hne : cs ≠ []) (hline : '\n' ∉ cs) (h : Lined rest) :
      Lined (cs ++ '\n' :: rest)

namespace Lined

variable {a b : List Char}

theorem ne_nil (h : Lined a) : a ≠ [] := by
  cases h with
  | line hne => exact hne
  | more hne => exact List.append_ne_nil_of_left_ne_nil hne _

theorem lineFeed (ha : Lined a) (hb : Lined b) : Lined (a ++ '\n' :: b) := by
  induction ha with
  | line hne hline => exact .more hne hline hb
  | more hne hline _ ih =>
    rw [List.append_assoc, List.cons_append]
    exact .more hne hline ih

theorem append_left (hline : '\n' ∉ a) (hb : Lined b) : Lined (a ++ b) := by
  cases hb with
  | line hne hb =>
    refine .line (List.append_ne_nil_of_right_ne_nil a hne) ?_
    rw [List.mem_append, not_or]
    exact ⟨hline, hb⟩
  | more hne hb h =>
    rw [← List.append_assoc]
    refine .more (List.append_ne_nil_of_right_ne_nil a hne) ?_ h
    rw [List.mem_append, not_or]
    exact ⟨hline, hb⟩

theorem append (ha : Lined a) (hb : Lined b) : Lined (a ++ b) := by
  induction ha with
  | line _ hline => exact hb.append_left hline
  | more hne hline _ ih =>
    rw [List.append_assoc, List.cons_append]
    exact .more hne hline ih

theorem lineStart (ha : Lined a) (hb : Lined b) (layout : Layout) (level : Nat) :
    Lined (a ++ (layout.lineStart level ++ b)) := by
  cases layout with
  | compact => exact ha.append hb
  | pretty => exact ha.lineFeed (hb.append_left (by simp [List.mem_replicate]))

theorem nil_notMem_splitOn (h : Lined a) : [] ∉ a.splitOn '\n' := by
  induction h with
  | line hne hline =>
    rw [List.splitOn_eq_singleton hline, List.mem_singleton]
    exact hne.symm
  | more hne hline _ ih =>
    rw [List.splitOn_append_cons_self_of_not_mem hline, List.mem_cons, not_or]
    exact ⟨hne.symm, ih⟩

end Lined

theorem lineFeed_notMem_escape (c : Char) : '\n' ∉ escape c := by
  have hdigit : ∀ n < 32, (n / 16).digitChar ≠ '\n' ∧ (n % 16).digitChar ≠ '\n' := by decide
  unfold escape
  repeat' split
  next => decide
  next => decide
  next => decide
  next => decide
  next => decide
  next => decide
  next => decide
  next hc =>
    obtain ⟨hhigh, hlow⟩ := hdigit c.toNat hc
    simp [hhigh.symm, hlow.symm]
  next hc _ _ _ => simpa using Ne.symm hc

theorem lineFeed_notMem_stringText (s : String) : '\n' ∉ stringText s := by
  simp [stringText, lineFeed_notMem_escape]

/-- What holds of every token, and is kept where parts are laid end to end, on one line or on two. -/
structure Composed (P : List Char → Prop) (layout : Layout) : Prop where
  token : ∀ cs, cs ≠ [] → '\n' ∉ cs → P cs
  append : ∀ a b, P a → P b → P (a ++ b)
  lineStart : ∀ a b level, P a → P b → P (a ++ (layout.lineStart level ++ b))

namespace Composed

variable {P : List Char → Prop} {layout : Layout} {level : Nat}

theorem behind_comma (hP : Composed P layout) {a : List Char} (ha : P a) (first : Bool) :
    P (a ++ if first then [] else [',']) := by
  cases first with
  | true => simpa using ha
  | false => exact hP.append a _ ha (hP.token _ (by decide) (by decide))

theorem items (hP : Composed P layout) {vs : List Json} (hvs : ∀ v ∈ vs, P (chars layout level v))
    {a : List Char} (ha : P a) (first : Bool) : P (a ++ itemsChars layout level first vs) := by
  induction vs generalizing a first with
  | nil =>
    rw [itemsChars, List.append_nil]
    exact ha
  | cons v vs ih =>
    obtain ⟨hv, hvs⟩ := List.forall_mem_cons.mp hvs
    have hstart := hP.lineStart _ _ level (hP.behind_comma ha first) hv
    have hmore := ih hvs hstart false
    simpa only [itemsChars, List.append_assoc] using hmore

theorem members (hP : Composed P layout) {ms : List (String × Json)}
    (hms : ∀ m ∈ ms, P (chars layout level m.2)) {a : List Char} (ha : P a) (first : Bool) :
    P (a ++ membersChars layout level first ms) := by
  induction ms generalizing a first with
  | nil =>
    rw [membersChars, List.append_nil]
    exact ha
  | cons m ms ih =>
    obtain ⟨hm, hms⟩ := List.forall_mem_cons.mp hms
    have hname : P (stringText m.1) :=
      hP.token _ (by simp [stringText]) (lineFeed_notMem_stringText m.1)
    have hcolon : P layout.colon := by
      cases layout <;> exact hP.token _ (by decide) (by decide)
    have hvalue := hP.append _ _ (hP.append _ _ hname hcolon) hm
    have hstart := hP.lineStart _ _ level (hP.behind_comma ha first) hvalue
    have hmore := ih hms hstart false
    simpa only [membersChars, List.append_assoc] using hmore

theorem value (hP : Composed P layout) {depth : Nat} {v : Json} (h : v.Plain depth) (level : Nat) :
    P (chars layout level v) := by
  induction h generalizing level with
  | null => exact hP.token ['n', 'u', 'l', 'l'] (by decide) (by decide)
  | bool b =>
    cases b with
    | true => exact hP.token ['t', 'r', 'u', 'e'] (by decide) (by decide)
    | false => exact hP.token ['f', 'a', 'l', 's', 'e'] (by decide) (by decide)
  | @integer _ n =>
    have hdigits : ∀ k, '\n' ∉ Nat.toDigits 10 k := by
      intro k hk
      cases Nat.isDigit_of_mem_toDigits (by decide) (by decide) hk
    rw [chars_integer]
    split
    · exact hP.token _ Nat.toDigits_ne_nil (hdigits _)
    · exact hP.token _ (by simp) (by simp [hdigits])
  | string s => exact hP.token _ (by simp [chars, stringText]) (lineFeed_notMem_stringText s)
  | @array _ vs _ ih =>
    rcases vs with _ | ⟨v, vs⟩
    · exact hP.token ['[', ']'] (by decide) (by decide)
    · have hopen : P ['['] := hP.token _ (by decide) (by decide)
      have hclose : P [']'] := hP.token _ (by decide) (by decide)
      have hitems := hP.items (fun x hx => ih x hx (level + 1)) hopen true
      simpa only [chars, List.append_assoc] using hP.lineStart _ _ level hitems hclose
  | @object _ ms _ ih =>
    rcases ms with _ | ⟨m, ms⟩
    · exact hP.token ['\x7b', '\x7d'] (by decide) (by decide)
    · have hopen : P ['\x7b'] := hP.token _ (by decide) (by decide)
      have hclose : P ['\x7d'] := hP.token _ (by decide) (by decide)
      have hmembers := hP.members (fun x hx => ih x hx (level + 1)) hopen true
      simpa only [chars, List.append_assoc] using hP.lineStart _ _ level hmembers hclose

end Composed

theorem composed_lined (layout : Layout) : Composed Lined layout where
  token := fun _ => .line
  append := fun _ _ => Lined.append
  lineStart := fun _ _ level ha hb => ha.lineStart hb layout level

theorem composed_oneLine : Composed ('\n' ∉ ·) .compact where
  token := fun _ _ hline => hline
  append := fun a b ha hb => by
    rw [List.mem_append, not_or]
    exact ⟨ha, hb⟩
  lineStart := fun a b level ha hb => by
    rw [List.mem_append, not_or]
    exact ⟨ha, hb⟩

end ScriptBundle.Json
