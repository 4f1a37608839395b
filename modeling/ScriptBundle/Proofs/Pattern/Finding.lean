import Std.Data.HashSet.Lemmas
import ScriptBundle.Proofs.Pattern.Words

/-!
# Finding words

Matching misses no word: wherever a pattern has one, a thread comes to its end. Threads are dropped for
the sake of others at the same position, and a run stops where an earlier run has been; so the invariant
is that the positions come to so far are closed under further steps.
-/

namespace ScriptBundle.Pattern

open Thread (Comes)

variable {cs : List Char} {s : CharSet} {t u : Thread} {ts : List Thread}

/-- Positions of a text from which further characters of a set lead to no others. -/
structure Settled (cs : List Char) (s : CharSet) (o : Cursor → Prop) : Prop where
  on : ∀ c, o c → c.On cs
  step : ∀ c d, o c → c.step? s = some d → o d

theorem Settled.past {o : Cursor → Prop} (h : Settled cs s o) {c : Cursor} {word rest : List Char}
    (hc : o c) (hrest : c.rest = word ++ rest) (hword : ∀ x ∈ word, s.contains x) :
    o (c.past word rest) := by
  induction word generalizing c with
  | nil => rwa [Cursor.past_nil (by simpa using hrest)]
  | cons x word ih =>
    obtain ⟨hx, hword⟩ := List.forall_mem_cons.mp hword
    have hstep : c.step? s = some (c.past [x] (word ++ rest)) :=
      Cursor.step?_eq_some_iff.mpr ⟨x, _, hrest, hx, rfl⟩
    rw [Cursor.past_cons]
    exact ih (h.step _ _ hc hstep) rfl hword

/-- The numbers of the positions that have been come to. -/
def Marks (seen : Std.HashSet Nat) (o : Cursor → Prop) : Prop :=
  ∀ n, seen.contains n → ∃ c, o c ∧ c.pos = n

section

variable {optional : Bool} {seen : Std.HashSet Nat} {o : Cursor → Prop} {c d : Cursor}

theorem Marks.mem (h : Marks seen o) (ho : ∀ c, o c → c.On cs) (hc : c.On cs)
    (hseen : seen.contains c.pos) : o c := by
  obtain ⟨d, hd, hpos⟩ := h _ hseen
  rwa [← (ho d hd).eq_of_pos hc hpos]

theorem Marks.insertMany (h : Marks seen o) (ends : List Cursor) :
    Marks (seen.insertMany (ends.map (·.pos))) (fun c => o c ∨ c ∈ ends) := by
  intro n hn
  rw [Std.HashSet.contains_insertMany_list, Bool.or_eq_true] at hn
  rcases hn with hn | hn
  · obtain ⟨c, hc, hpos⟩ := h n hn
    exact ⟨c, Or.inl hc, hpos⟩
  · obtain ⟨c, hc, hpos⟩ := List.mem_map.mp (List.contains_iff_mem.mp hn)
    exact ⟨c, Or.inr hc, hpos⟩

theorem mem_stretchEnds_optional (h : seen.contains c.pos = false) :
    d ∈ stretchEnds s true seen c ↔ d = c ∨ d ∈ Cursor.chain s seen c.pos c.rest := by
  simp [stretchEnds, h, Cursor.run_eq_chain, or_comm]

theorem mem_stretchEnds_required :
    d ∈ stretchEnds s false seen c ↔ d ∈ Cursor.chain s seen c.pos c.rest := by
  simp [stretchEnds, Cursor.run_eq_chain]

theorem On.of_mem_stretchEnds (hc : c.On cs) (h : d ∈ stretchEnds s optional seen c) : d.On cs := by
  obtain ⟨word, rest, hrest, -, -, rfl⟩ := exists_of_mem_stretchEnds h
  exact hc.past hrest

/-- A step from where a run has been leads into the run or to where an earlier one has been. -/
theorem stretchEnds_step (ho : Settled cs s o) (hm : Marks seen o) (hc : c.On cs) {e : Cursor}
    (hd : d ∈ stretchEnds s optional seen c ∨ d = c) (hstep : d.step? s = some e) :
    o e ∨ e ∈ stretchEnds s optional seen c := by
  have hseen : seen.contains e.pos → e.On cs → o e := fun h he => hm.mem ho.on he h
  have hon : e.On cs := by
    obtain ⟨x, rest, hrest, -, rfl⟩ := Cursor.step?_eq_some_iff.mp hstep
    apply Cursor.On.past _ hrest
    rcases hd with hd | rfl
    · exact On.of_mem_stretchEnds hc hd
    · exact hc
  cases optional with
  | false =>
    rw [mem_stretchEnds_required] at hd ⊢
    exact (Cursor.chain_closed hd.symm hstep).imp_left (hseen · hon)
  | true =>
    rcases hpos : seen.contains c.pos with _ | _
    · rw [mem_stretchEnds_optional hpos] at hd ⊢
      have hchain : d = c ∨ d ∈ Cursor.chain s seen c.pos c.rest :=
        hd.elim id Or.inl
      rcases Cursor.chain_closed hchain hstep with h | h
      · exact Or.inl (hseen h hon)
      · exact Or.inr (Or.inr h)
    · have hends : stretchEnds s true seen c = [] := by simp [stretchEnds, hpos]
      rw [hends] at hd ⊢
      rcases hd with hd | rfl
      · cases hd
      · exact Or.inl (ho.step _ _ (hm.mem ho.on hc hpos) hstep)

theorem Settled.stretchEnds (ho : Settled cs s o) (hm : Marks seen o) (hc : c.On cs) :
    Settled cs s (fun d => o d ∨ d ∈ stretchEnds s optional seen c) where
  on d hd := hd.elim (ho.on d) (On.of_mem_stretchEnds hc)
  step d e hd hstep := by
    rcases hd with hd | hd
    · exact Or.inl (ho.step d e hd hstep)
    · exact stretchEnds_step ho hm hc (Or.inl hd) hstep

/-- A run comes to every place it could, or an earlier one has come there. -/
theorem stretchEnds_reaches (ho : Settled cs s o) (hm : Marks seen o) (hc : c.On cs)
    {word rest : List Char} (hrest : c.rest = word ++ rest) (hne : optional = true ∨ word ≠ [])
    (hword : ∀ x ∈ word, s.contains x) :
    o (c.past word rest) ∨ c.past word rest ∈ stretchEnds s optional seen c := by
  have hsettled : Settled cs s (fun d => o d ∨ d ∈ stretchEnds s optional seen c) :=
    ho.stretchEnds hm hc
  rcases word with _ | ⟨x, word⟩
  · have hoptional : optional = true := by simpa using hne
    subst hoptional
    rw [Cursor.past_nil (by simpa using hrest)]
    rcases hpos : seen.contains c.pos with _ | _
    · exact Or.inr ((mem_stretchEnds_optional hpos).mpr (Or.inl rfl))
    · exact Or.inl (hm.mem ho.on hc hpos)
  · obtain ⟨hx, hword⟩ := List.forall_mem_cons.mp hword
    have hstep : c.step? s = some (c.past [x] (word ++ rest)) :=
      Cursor.step?_eq_some_iff.mpr ⟨x, _, hrest, hx, rfl⟩
    rw [Cursor.past_cons]
    exact hsettled.past (stretchEnds_step ho hm hc (Or.inr rfl) hstep) rfl hword

end

theorem stretchThreads_reaches {optional greedy : Bool} {seen : Std.HashSet Nat}
    {o : Cursor → Prop} (ho : Settled cs s o) (hm : Marks seen o)
    (hts : ∀ t ∈ ts, t.cursor.On cs) (ht : t ∈ ts) {word rest : List Char}
    (hrest : t.cursor.rest = word ++ rest) (hne : optional = true ∨ word ≠ [])
    (hword : ∀ x ∈ word, s.contains x) :
    o (t.cursor.past word rest) ∨
      ∃ u ∈ stretchThreads s optional greedy seen ts, u.cursor = t.cursor.past word rest := by
  induction ts generalizing seen o with
  | nil => cases ht
  | cons first ts ih =>
    obtain ⟨hfirst, hts⟩ := List.forall_mem_cons.mp hts
    have hout : ∀ d ∈ stretchEnds s optional seen first.cursor,
        ∃ u ∈ stretchThreads s optional greedy seen (first :: ts), u.cursor = d :=
      fun d hd => ⟨first.moveTo d, mem_stretchThreads_cons.mpr (Or.inl ⟨d, hd, rfl⟩), rfl⟩
    rcases List.mem_cons.mp ht with rfl | ht
    · exact (stretchEnds_reaches ho hm hfirst hrest hne hword).imp_right (hout _)
    · -- What the first thread has come to counts as come to for those behind it.
      have hsettled : Settled cs s
          (fun d => o d ∨ d ∈ stretchEnds s optional seen first.cursor) := ho.stretchEnds hm hfirst
      have hlater := ih hsettled (hm.insertMany _) hts ht
      rcases hlater with (h | h) | ⟨u, hu, hcursor⟩
      · exact Or.inl h
      · exact Or.inr (hout _ h)
      · exact Or.inr ⟨u, mem_stretchThreads_cons.mpr (Or.inr hu), hcursor⟩

namespace Thread

theorem exists_mem_firsts {seen : Std.HashSet Nat} (ht : t ∈ ts)
    (hseen : seen.contains t.cursor.pos = false) :
    ∃ u ∈ firsts seen ts, u.cursor.pos = t.cursor.pos := by
  induction ts generalizing seen with
  | nil => cases ht
  | cons x ts ih =>
    unfold firsts
    rcases List.mem_cons.mp ht with rfl | ht
    · rw [hseen]
      exact ⟨t, List.mem_cons_self, rfl⟩
    split
    · exact ih ht hseen
    · by_cases hx : x.cursor.pos = t.cursor.pos
      · exact ⟨x, List.mem_cons_self, hx⟩
      · have hnext : (seen.insert x.cursor.pos).contains t.cursor.pos = false := by
          simp [Std.HashSet.contains_insert, hx, hseen]
        obtain ⟨u, hu, hpos⟩ := ih ht hnext
        exact ⟨u, List.mem_cons_of_mem _ hu, hpos⟩

theorem exists_mem_dedup (hts : ∀ t ∈ ts, t.cursor.On cs) (ht : t ∈ ts) :
    ∃ u ∈ dedup ts, u.cursor = t.cursor := by
  have hmem : ∃ u ∈ dedup ts, u.cursor.pos = t.cursor.pos := by
    unfold dedup
    split
    · cases ht
    · exact ⟨t, ht, rfl⟩
    · exact exists_mem_firsts ht (by simp)
  obtain ⟨u, hu, hpos⟩ := hmem
  exact ⟨u, hu, (hts u (mem_of_mem_dedup hu)).eq_of_pos (hts t ht) hpos⟩

theorem Comes.on {a : Node} {word rest : List Char} {c : List (Nat × List Char)}
    (h : Comes a t u word rest c) (ht : t.cursor.On cs) : u.cursor.On cs := by
  rw [h.cursor]
  exact ht.past h.start

end Thread

theorem Node.on_of_mem_run {a : Node} (ha : a.straight) (hts : ∀ t ∈ ts, t.cursor.On cs)
    (hu : u ∈ a.run ts) : u.cursor.On cs := by
  obtain ⟨t, ht, word, rest, c, hc⟩ := a.comes_of_mem_run ha hu
  exact hc.on (hts t ht)

theorem Node.on_of_mem_branches {a b : Node} (ha : a.straight) (hb : b.straight)
    (hts : ∀ t ∈ ts, t.cursor.On cs) (hu : u ∈ ts.flatMap fun t => a.run [t] ++ b.run [t]) :
    u.cursor.On cs := by
  obtain ⟨t, ht, hu⟩ := List.mem_flatMap.mp hu
  have hone : ∀ x ∈ [t], x.cursor.On cs := by simpa using hts t ht
  rcases List.mem_append.mp hu with hu | hu
  · exact a.on_of_mem_run ha hone hu
  · exact b.on_of_mem_run hb hone hu

theorem Node.exists_mem_run_alt {a b : Node} (ha : a.straight) (hb : b.straight)
    (hts : ∀ t ∈ ts, t.cursor.On cs) (ht : t ∈ ts) (hu : u ∈ a.run [t] ++ b.run [t]) :
    ∃ v ∈ (Node.alt a b).run ts, v.cursor = u.cursor := by
  have hbranch : u ∈ ts.flatMap fun t => a.run [t] ++ b.run [t] :=
    List.mem_flatMap.mpr ⟨t, ht, hu⟩
  have hall : ∀ x ∈ ts.flatMap fun t => a.run [t] ++ b.run [t], x.cursor.On cs := by
    intro x hx
    exact Node.on_of_mem_branches ha hb hts hx
  exact Thread.exists_mem_dedup hall hbranch

theorem Reads.mem_run {a : Node} {last : Option Char} {word rest : List Char}
    {c : List (Nat × List Char)} (h : Reads a last word rest c) (ha : a.straight)
    (hts : ∀ t ∈ ts, t.cursor.On cs) (ht : t ∈ ts) (hlast : t.cursor.last = last)
    (hrest : t.cursor.rest = word ++ rest) :
    ∃ u ∈ a.run ts, u.cursor = t.cursor.past word rest := by
  induction h generalizing t ts with
  | empty => exact ⟨t, ht, (Cursor.past_nil hrest).symm⟩
  | @set s last x rest hx =>
    refine ⟨t.moveTo (t.cursor.past [x] rest), ?_, rfl⟩
    apply List.mem_filterMap.mpr
    have hstep := Cursor.step?_eq_some_iff.mpr ⟨x, rest, hrest, hx, rfl⟩
    exact ⟨t, ht, by rw [hstep]; rfl⟩
  | @look l last rest hl =>
    refine ⟨t, List.mem_filter.mpr ⟨ht, ?_⟩, (Cursor.past_nil hrest).symm⟩
    have hcursor : t.cursor = ⟨last, rest, t.cursor.pos⟩ := by
      rw [← hlast, show rest = t.cursor.rest from hrest.symm]
    rw [hcursor, l.holds_pos]
    exact hl
  | @seq a b last word v rest c d _ _ iha ihb =>
    rw [Node.straight, Bool.and_eq_true] at ha
    rw [List.append_assoc] at hrest
    obtain ⟨m, hm, hcursor⟩ := iha ha.1 hts ht hlast hrest
    have hmid : ∀ u ∈ a.run ts, u.cursor.On cs := fun u hu => a.on_of_mem_run ha.1 hts hu
    obtain ⟨u, hu, hend⟩ := ihb ha.2 hmid hm (by simp [hcursor, hlast]) (by simp [hcursor])
    refine ⟨u, hu, ?_⟩
    rw [hend, hcursor, ← Cursor.past_append]
  | @left a b last word rest c _ ih =>
    rw [Node.straight, Bool.and_eq_true] at ha
    have hone : ∀ x ∈ [t], x.cursor.On cs := by simpa using hts t ht
    obtain ⟨u, hu, hend⟩ := ih ha.1 hone List.mem_cons_self hlast hrest
    obtain ⟨v, hv, hcursor⟩ := Node.exists_mem_run_alt ha.1 ha.2 hts ht (List.mem_append_left _ hu)
    exact ⟨v, hv, hcursor.trans hend⟩
  | @right a b last word rest c _ ih =>
    rw [Node.straight, Bool.and_eq_true] at ha
    have hone : ∀ x ∈ [t], x.cursor.On cs := by simpa using hts t ht
    obtain ⟨u, hu, hend⟩ := ih ha.2 hone List.mem_cons_self hlast hrest
    obtain ⟨v, hv, hcursor⟩ := Node.exists_mem_run_alt ha.1 ha.2 hts ht (List.mem_append_right _ hu)
    exact ⟨v, hv, hcursor.trans hend⟩
  | @group i a last word rest c _ ih =>
    have hopen : ∀ x ∈ ts.map Thread.openGroup, x.cursor.On cs := by
      intro x hx
      obtain ⟨t', ht', rfl⟩ := List.mem_map.mp hx
      exact hts t' ht'
    obtain ⟨u, hu, hend⟩ := ih ha hopen (List.mem_map_of_mem ht) hlast hrest
    refine ⟨u.closeGroup i, List.mem_map_of_mem hu, ?_⟩
    have hclose : (u.closeGroup i).cursor = u.cursor := by
      unfold Thread.closeGroup
      split <;> rfl
    rw [hclose, hend]
    rfl
  | @stretch s optional greedy last word rest hword hne =>
    have hnone : Settled cs s (fun _ => False) := ⟨fun _ h => h.elim, fun _ _ h => h.elim⟩
    have hmarks : Marks {} (fun _ => False) := fun n hn => by simp at hn
    exact (stretchThreads_reaches hnone hmarks hts ht hrest hne hword).resolve_left id

/-- A word that a pattern matches somewhere in a text, with what its groups hold. -/
def Node.Found (a : Node) (cs : List Char) (c : List (Nat × List Char)) : Prop :=
  ∃ before word after, cs = before ++ word ++ after ∧ Reads a before.getLast? word after c

theorem Node.found_of_first? {a : Node} (ha : a.straight) (h : a.first? cs = some t) :
    a.Found cs t.held := by
  have hmem := List.mem_of_mem_head? (Option.mem_def.mpr h)
  obtain ⟨start, hstart, word, after, c, hc⟩ := a.comes_of_mem_run ha hmem
  obtain ⟨position, hposition, rfl⟩ := List.mem_map.mp hstart
  obtain ⟨before, hcs, -, hlast⟩ := Cursor.mem_all.mp hposition
  refine ⟨before, word, after, ?_, ?_⟩
  · rw [hcs, hc.start, List.append_assoc]
  · have hheld : t.held = c := by simpa [Thread.held] using hc.held
    rw [hheld, ← hlast]
    exact hc.reads

theorem Node.isSome_first?_iff {a : Node} (ha : a.straight) :
    (a.first? cs).isSome ↔ ∃ c, a.Found cs c := by
  constructor
  · intro h
    obtain ⟨t, ht⟩ := Option.isSome_iff_exists.mp h
    exact ⟨t.held, a.found_of_first? ha ht⟩
  · rintro ⟨c, before, word, after, rfl, hreads⟩
    have hon : (⟨before.getLast?, word ++ after, before.length⟩ : Cursor).On
        (before ++ word ++ after) := ⟨before, by simp, rfl, rfl⟩
    have hall : ∀ t ∈ (Cursor.all (before ++ word ++ after)).map fun c => ({ cursor := c } : Thread),
        t.cursor.On (before ++ word ++ after) := by
      intro t ht
      obtain ⟨c, hc, rfl⟩ := List.mem_map.mp ht
      exact Cursor.mem_all.mp hc
    obtain ⟨u, hu, -⟩ := hreads.mem_run ha hall
      (List.mem_map_of_mem (Cursor.mem_all.mpr hon)) rfl rfl
    rw [Node.first?, List.isSome_head?]
    exact List.ne_nil_of_mem hu

end ScriptBundle.Pattern
