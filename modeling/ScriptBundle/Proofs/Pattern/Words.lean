import ScriptBundle.Pattern

/-!
# The words of a pattern

Which words a pattern matches, as rules that know nothing of threads and positions. Matching finds
nothing but such words, and it finds one wherever there is one, although it drops every thread that
comes to a position where another one has been. Patterns that repeat more than single characters are
not covered.
-/

namespace ScriptBundle.Pattern

/-- A pattern matches a word that stands between the character `last`, if there is one, and the
characters of `rest`. The groups that take part hold the listed words, those matched latest first. -/
inductive Reads :
    Node → Option Char → List Char → List Char → List (Nat × List Char) → Prop where
  | empty {last rest} : Reads .empty last [] rest []
  | set {s last x rest} (hx : s.contains x) : Reads (.set s) last [x] rest []
  | look {l last rest} (hl : l.holds ⟨last, rest, 0⟩) : Reads (.look l) last [] rest []
  | seq {a b last u v rest c d} (ha : Reads a last u (v ++ rest) c)
      (hb : Reads b (u.getLast?.or last) v rest d) : Reads (.seq a b) last (u ++ v) rest (d ++ c)
  | left {a b last word rest c} (ha : Reads a last word rest c) :
      Reads (.alt a b) last word rest c
  | right {a b last word rest c} (hb : Reads b last word rest c) :
      Reads (.alt a b) last word rest c
  | group {i a last word rest c} (ha : Reads a last word rest c) :
      Reads (.group i a) last word rest ((i, word) :: c)
  | stretch {s optional greedy last word rest} (hword : ∀ x ∈ word, s.contains x)
      (hne : optional = true ∨ word ≠ []) :
      Reads (.stretch s optional greedy) last word rest []

def Node.straight : Node → Bool
  | .empty | .set _ | .look _ | .stretch .. => true
  | .seq a b | .alt a b => a.straight && b.straight
  | .group _ a => a.straight
  | .times .. | .upTo .. | .loop .. => false

theorem Look.holds_pos (l : Look) (last : Option Char) (rest : List Char) (pos : Nat) :
    l.holds ⟨last, rest, pos⟩ = l.holds ⟨last, rest, 0⟩ := by
  cases l <;> rfl

section

variable {a b : Node} {last : Option Char} {word rest : List Char} {c : List (Nat × List Char)}

theorem reads_set_iff {s : CharSet} :
    Reads (.set s) last word rest c ↔ ∃ x, s.contains x ∧ word = [x] ∧ c = [] := by
  constructor
  · rintro ⟨⟩
    next x hx => exact ⟨x, hx, rfl, rfl⟩
  · rintro ⟨x, hx, rfl, rfl⟩
    exact .set hx

theorem reads_look_iff {l : Look} :
    Reads (.look l) last word rest c ↔ l.holds ⟨last, rest, 0⟩ ∧ word = [] ∧ c = [] := by
  constructor
  · rintro ⟨⟩
    next hl => exact ⟨hl, rfl, rfl⟩
  · rintro ⟨hl, rfl, rfl⟩
    exact .look hl

theorem reads_seq_iff :
    Reads (.seq a b) last word rest c ↔ ∃ u v d e, Reads a last u (v ++ rest) d ∧
      Reads b (u.getLast?.or last) v rest e ∧ word = u ++ v ∧ c = e ++ d := by
  constructor
  · rintro ⟨⟩
    next u v d e ha hb => exact ⟨u, v, d, e, ha, hb, rfl, rfl⟩
  · rintro ⟨u, v, d, e, ha, hb, rfl, rfl⟩
    exact .seq ha hb

theorem reads_alt_iff :
    Reads (.alt a b) last word rest c ↔ Reads a last word rest c ∨ Reads b last word rest c := by
  constructor
  · rintro (_ | _ | _ | _ | ha | hb)
    · exact Or.inl ha
    · exact Or.inr hb
  · exact fun h => h.elim .left .right

theorem reads_group_iff {i : Nat} :
    Reads (.group i a) last word rest c ↔
      ∃ d, Reads a last word rest d ∧ c = (i, word) :: d := by
  constructor
  · rintro ⟨⟩
    next d ha => exact ⟨d, ha, rfl⟩
  · rintro ⟨d, ha, rfl⟩
    exact .group ha

theorem reads_stretch_iff {s : CharSet} {optional greedy : Bool} :
    Reads (.stretch s optional greedy) last word rest c ↔
      (∀ x ∈ word, s.contains x) ∧ (optional = true ∨ word ≠ []) ∧ c = [] := by
  constructor
  · rintro ⟨⟩
    next hword hne => exact ⟨hword, hne, rfl⟩
  · rintro ⟨hword, hne, rfl⟩
    exact .stretch hword hne

end

namespace Cursor

def past (c : Cursor) (word rest : List Char) : Cursor :=
  ⟨word.getLast?.or c.last, rest, c.pos + word.length⟩

@[simp] theorem past_last (c : Cursor) (word rest : List Char) :
    (c.past word rest).last = word.getLast?.or c.last := rfl
@[simp] theorem past_rest (c : Cursor) (word rest : List Char) : (c.past word rest).rest = rest := rfl
@[simp] theorem past_pos (c : Cursor) (word rest : List Char) :
    (c.past word rest).pos = c.pos + word.length := rfl

theorem past_nil {c : Cursor} {rest : List Char} (h : c.rest = rest) : c.past [] rest = c := by
  subst h
  rfl

theorem past_append (c : Cursor) (u v rest : List Char) :
    c.past (u ++ v) rest = (c.past u (v ++ rest)).past v rest := by
  simp [past, List.getLast?_append, Option.or_assoc, Nat.add_assoc]

theorem past_cons (c : Cursor) (x : Char) (word rest : List Char) :
    c.past (x :: word) rest = (c.past [x] (word ++ rest)).past word rest :=
  past_append c [x] word rest

theorem step?_eq_some_iff {s : CharSet} {c d : Cursor} :
    c.step? s = some d ↔ ∃ x rest, c.rest = x :: rest ∧ s.contains x ∧ d = c.past [x] rest := by
  unfold step?
  rcases hc : c.rest with _ | ⟨x, rest⟩
  · simp
  · by_cases hx : s.contains x
    · simp only [hx, if_true, Option.some.injEq, List.cons.injEq]
      constructor
      · rintro rfl
        exact ⟨x, rest, ⟨rfl, rfl⟩, hx, rfl⟩
      · rintro ⟨_, _, ⟨rfl, rfl⟩, -, rfl⟩
        rfl
    · simp only [hx, Bool.false_eq_true, if_false, reduceCtorEq, List.cons.injEq, false_iff]
      rintro ⟨_, _, ⟨rfl, rfl⟩, hy, -⟩
      exact hx hy

/-- A position of a text. -/
def On (cs : List Char) (c : Cursor) : Prop :=
  ∃ before, cs = before ++ c.rest ∧ c.pos = before.length ∧ c.last = before.getLast?

theorem On.past {cs word rest : List Char} {c : Cursor} (h : On cs c) (hc : c.rest = word ++ rest) :
    On cs (c.past word rest) := by
  obtain ⟨before, hcs, hpos, hlast⟩ := h
  refine ⟨before ++ word, ?_, ?_, ?_⟩
  · rw [hcs, hc, past_rest, List.append_assoc]
  · rw [past_pos, hpos, List.length_append]
  · rw [past_last, hlast, List.getLast?_append]

/-- There is one position of a text for each number. -/
theorem On.eq_of_pos {cs : List Char} {c d : Cursor} (hc : On cs c) (hd : On cs d)
    (h : c.pos = d.pos) : c = d := by
  obtain ⟨before, hcs, hpos, hlast⟩ := hc
  obtain ⟨before', hcs', hpos', hlast'⟩ := hd
  have hlength : before.length = before'.length := by omega
  obtain ⟨rfl, hrest⟩ := List.append_inj (hcs.symm.trans hcs') hlength
  cases c
  cases d
  simp_all

theorem mem_onward {last : Option Char} {pos : Nat} {cs : List Char} {c : Cursor} :
    c ∈ onward last pos cs ↔
      ∃ word rest, cs = word ++ rest ∧ c = (⟨last, cs, pos⟩ : Cursor).past word rest := by
  induction cs generalizing last pos with
  | nil =>
    simp only [onward, List.mem_singleton, List.nil_eq, List.append_eq_nil_iff]
    constructor
    · rintro rfl
      exact ⟨[], [], ⟨rfl, rfl⟩, rfl⟩
    · rintro ⟨word, rest, ⟨rfl, rfl⟩, rfl⟩
      rfl
  | cons x cs ih =>
    rw [onward, List.mem_cons, ih]
    constructor
    · rintro (rfl | ⟨word, rest, rfl, rfl⟩)
      · exact ⟨[], x :: cs, rfl, rfl⟩
      · exact ⟨x :: word, rest, rfl, (past_cons ⟨last, _, pos⟩ x word rest).symm⟩
    · rintro ⟨_ | ⟨y, word⟩, rest, hcs, rfl⟩
      · exact Or.inl (past_nil (by simpa using hcs))
      · obtain ⟨rfl, rfl⟩ := List.cons.inj hcs
        exact Or.inr ⟨word, rest, rfl, past_cons ⟨last, _, pos⟩ x word rest⟩

theorem mem_all {cs : List Char} {c : Cursor} : c ∈ all cs ↔ On cs c := by
  rw [all, mem_onward]
  constructor
  · rintro ⟨word, rest, rfl, rfl⟩
    exact ⟨word, rfl, by simp, by simp⟩
  · rintro ⟨before, hcs, hpos, hlast⟩
    refine ⟨before, c.rest, hcs, ?_⟩
    cases c
    simp_all [past]

/-- The positions that a run of characters of a set comes to, the nearest first. -/
def chain (s : CharSet) (seen : Std.HashSet Nat) : Nat → List Char → List Cursor
  | _, [] => []
  | pos, x :: rest =>
    if s.contains x && !seen.contains (pos + 1) then
      ⟨some x, rest, pos + 1⟩ :: chain s seen (pos + 1) rest
    else []

theorem run_eq_chain (s : CharSet) (seen : Std.HashSet Nat) (pos : Nat) (cs : List Char)
    (reached : List Cursor) :
    run s seen pos cs reached = (chain s seen pos cs).reverse ++ reached := by
  induction cs generalizing pos reached with
  | nil => rfl
  | cons x rest ih =>
    unfold run chain
    split
    · simp [ih]
    · rfl

variable {s : CharSet} {seen : Std.HashSet Nat}

theorem exists_of_mem_chain {c d : Cursor} (h : d ∈ chain s seen c.pos c.rest) :
    ∃ word rest, c.rest = word ++ rest ∧ word ≠ [] ∧ (∀ x ∈ word, s.contains x) ∧
      d = c.past word rest := by
  induction hcs : c.rest generalizing c with
  | nil => simp [hcs, chain] at h
  | cons x rest ih =>
    rw [hcs, chain] at h
    split at h
    next hx =>
      rw [Bool.and_eq_true] at hx
      rcases List.mem_cons.mp h with rfl | h
      · exact ⟨[x], rest, rfl, by simp, by simpa using hx.1, rfl⟩
      · obtain ⟨word, more, rfl, -, hword, rfl⟩ := ih (c := c.past [x] rest) h rfl
        have hall : ∀ y ∈ x :: word, s.contains y := List.forall_mem_cons.mpr ⟨hx.1, hword⟩
        exact ⟨x :: word, more, rfl, by simp, hall, (past_cons ..).symm⟩
    next => cases h

/-- From every position of a run, a further step leads into the run or to where another one was. -/
theorem chain_closed {c d e : Cursor} (hd : d = c ∨ d ∈ chain s seen c.pos c.rest)
    (hstep : d.step? s = some e) : seen.contains e.pos ∨ e ∈ chain s seen c.pos c.rest := by
  induction hcs : c.rest generalizing c with
  | nil =>
    obtain ⟨x, rest, hrest, -⟩ := step?_eq_some_iff.mp hstep
    rcases hd with rfl | hd
    · simp [hcs] at hrest
    · simp [hcs, chain] at hd
  | cons x rest ih =>
    rw [hcs, chain] at hd
    rw [chain]
    by_cases hx : (s.contains x && !seen.contains (c.pos + 1)) = true
    · rw [if_pos hx] at hd ⊢
      rcases hd with rfl | hd
      · obtain ⟨y, rest', hrest, -, rfl⟩ := step?_eq_some_iff.mp hstep
        obtain ⟨rfl, rfl⟩ := List.cons.inj (hcs.symm.trans hrest)
        exact Or.inr List.mem_cons_self
      · have hnext := ih (c := c.past [x] rest) (List.mem_cons.mp hd) rfl
        exact hnext.imp_right (List.mem_cons_of_mem _)
    · rw [if_neg hx] at hd
      rcases hd with rfl | hd
      · obtain ⟨y, rest', hrest, hy, rfl⟩ := step?_eq_some_iff.mp hstep
        obtain ⟨rfl, rfl⟩ := List.cons.inj (hcs.symm.trans hrest)
        left
        simpa [hy] using hx
      · cases hd

end Cursor

namespace Thread

/-- What the groups of a thread hold, those matched latest first. -/
def held (t : Thread) : List (Nat × List Char) := t.captures.map fun c => (c.index, c.text)

theorem capture?_eq (t : Thread) (index : Nat) :
    t.capture? index = (t.held.find? (·.1 == index)).map (·.2) := by
  rw [capture?, held, List.find?_map, Option.map_map]
  rfl

structure Comes (a : Node) (t u : Thread) (word rest : List Char) (c : List (Nat × List Char)) :
    Prop where
  start : t.cursor.rest = word ++ rest
  reads : Reads a t.cursor.last word rest c
  cursor : u.cursor = t.cursor.past word rest
  pending : u.pending = t.pending
  held : u.held = c ++ t.held

variable {a b : Node} {t u m : Thread} {word rest : List Char} {c : List (Nat × List Char)}

theorem comes_of_reads_nil (h : Reads a t.cursor.last [] t.cursor.rest []) :
    Comes a t t [] t.cursor.rest [] :=
  ⟨rfl, h, (Cursor.past_nil rfl).symm, rfl, rfl⟩

theorem comes_moveTo (hstart : t.cursor.rest = word ++ rest)
    (h : Reads a t.cursor.last word rest []) :
    Comes a t (t.moveTo (t.cursor.past word rest)) word rest [] :=
  ⟨hstart, h, rfl, rfl, rfl⟩

theorem Comes.left (h : Comes a t u word rest c) : Comes (.alt a b) t u word rest c :=
  ⟨h.start, .left h.reads, h.cursor, h.pending, h.held⟩

theorem Comes.right (h : Comes b t u word rest c) : Comes (.alt a b) t u word rest c :=
  ⟨h.start, .right h.reads, h.cursor, h.pending, h.held⟩

theorem Comes.seq {v rest' : List Char} {d : List (Nat × List Char)}
    (ha : Comes a t m word rest' c) (hb : Comes b m u v rest d) :
    Comes (.seq a b) t u (word ++ v) rest (d ++ c) := by
  have hrest : rest' = v ++ rest := by
    have hstart := hb.start
    rwa [ha.cursor, Cursor.past_rest] at hstart
  subst hrest
  refine ⟨?_, ?_, ?_, ?_, ?_⟩
  · rw [ha.start, List.append_assoc]
  · have hreads := hb.reads
    rw [ha.cursor, Cursor.past_last] at hreads
    exact .seq ha.reads hreads
  · rw [hb.cursor, ha.cursor, Cursor.past_append]
  · rw [hb.pending, ha.pending]
  · rw [hb.held, ha.held, List.append_assoc]

theorem Comes.group {i : Nat} (h : Comes a t.openGroup m word rest c) :
    Comes (.group i a) t (m.closeGroup i) word rest ((i, word) :: c) := by
  have hpending : m.pending = t.cursor :: t.pending := h.pending
  have hcursor : m.cursor = t.cursor.past word rest := h.cursor
  have hclosed : m.closeGroup i = { m with
      pending := t.pending
      captures := ⟨i, t.cursor.rest, m.cursor.pos - t.cursor.pos⟩ :: m.captures } := by
    unfold closeGroup
    rw [hpending]
  have htext : Capture.text ⟨i, t.cursor.rest, m.cursor.pos - t.cursor.pos⟩ = word := by
    have hstart : t.cursor.rest = word ++ rest := h.start
    rw [Capture.text, hcursor, Cursor.past_pos, hstart, Nat.add_sub_cancel_left, List.take_left]
  refine ⟨h.start, .group h.reads, ?_, ?_, ?_⟩
  · rw [hclosed, hcursor]
  · rw [hclosed]
  · have hheld : m.held = c ++ t.held := h.held
    rw [hclosed, List.cons_append, ← hheld]
    unfold Thread.held
    rw [List.map_cons, htext]

theorem mem_of_mem_firsts {seen : Std.HashSet Nat} {ts : List Thread} (h : t ∈ firsts seen ts) :
    t ∈ ts := by
  induction ts generalizing seen with
  | nil => cases h
  | cons x ts ih =>
    unfold firsts at h
    split at h
    · exact List.mem_cons_of_mem _ (ih h)
    · rcases List.mem_cons.mp h with rfl | h
      · exact List.mem_cons_self
      · exact List.mem_cons_of_mem _ (ih h)

theorem mem_of_mem_dedup {ts : List Thread} (h : t ∈ dedup ts) : t ∈ ts := by
  unfold dedup at h
  split at h
  · exact h
  · exact h
  · exact mem_of_mem_firsts h

end Thread

/-- Where the run of one thread through a stretch may end. -/
def stretchEnds (s : CharSet) (optional : Bool) (seen : Std.HashSet Nat) (c : Cursor) :
    List Cursor :=
  if optional then if seen.contains c.pos then [] else Cursor.run s seen c.pos c.rest [c]
  else Cursor.run s seen c.pos c.rest []

theorem mem_stretchThreads_cons {s : CharSet} {optional greedy : Bool} {seen : Std.HashSet Nat}
    {t u : Thread} {ts : List Thread} :
    u ∈ stretchThreads s optional greedy seen (t :: ts) ↔
      (∃ c ∈ stretchEnds s optional seen t.cursor, u = t.moveTo c) ∨
        u ∈ stretchThreads s optional greedy
          (seen.insertMany ((stretchEnds s optional seen t.cursor).map (·.pos))) ts := by
  have hmem : ∀ ends : List Cursor,
      u ∈ (if greedy then ends else ends.reverse).map t.moveTo ↔ ∃ c ∈ ends, u = t.moveTo c := by
    intro ends
    rw [List.mem_map]
    cases greedy
    · simp only [Bool.false_eq_true, if_false, List.mem_reverse, eq_comm]
    · simp only [if_true, eq_comm]
  rw [stretchThreads, List.mem_append, hmem]
  rfl

theorem exists_of_mem_stretchEnds {s : CharSet} {optional : Bool} {seen : Std.HashSet Nat}
    {c d : Cursor} (h : d ∈ stretchEnds s optional seen c) :
    ∃ word rest, c.rest = word ++ rest ∧ (optional = true ∨ word ≠ []) ∧
      (∀ x ∈ word, s.contains x) ∧ d = c.past word rest := by
  have hchain : d ∈ Cursor.chain s seen c.pos c.rest → ∃ word rest, c.rest = word ++ rest ∧
      (optional = true ∨ word ≠ []) ∧ (∀ x ∈ word, s.contains x) ∧ d = c.past word rest := by
    intro h
    obtain ⟨word, rest, hrest, hne, hword, hd⟩ := Cursor.exists_of_mem_chain h
    exact ⟨word, rest, hrest, Or.inr hne, hword, hd⟩
  unfold stretchEnds at h
  split at h
  next ho =>
    split at h
    · cases h
    · rw [Cursor.run_eq_chain, List.mem_append, List.mem_reverse, List.mem_singleton] at h
      rcases h with h | rfl
      · exact hchain h
      · exact ⟨[], d.rest, rfl, Or.inl ho, by simp, (Cursor.past_nil rfl).symm⟩
  next =>
    rw [Cursor.run_eq_chain, List.append_nil, List.mem_reverse] at h
    exact hchain h

theorem comes_of_mem_stretchThreads {s : CharSet} {optional greedy : Bool}
    {seen : Std.HashSet Nat} {u : Thread} {ts : List Thread}
    (h : u ∈ stretchThreads s optional greedy seen ts) :
    ∃ t ∈ ts, ∃ word rest c, Thread.Comes (.stretch s optional greedy) t u word rest c := by
  induction ts generalizing seen with
  | nil => cases h
  | cons t ts ih =>
    rcases mem_stretchThreads_cons.mp h with ⟨d, hd, rfl⟩ | h
    · obtain ⟨word, rest, hrest, hne, hword, rfl⟩ := exists_of_mem_stretchEnds hd
      exact ⟨t, List.mem_cons_self, word, rest, [],
        Thread.comes_moveTo hrest (.stretch hword hne)⟩
    · obtain ⟨t', ht', hcomes⟩ := ih h
      exact ⟨t', List.mem_cons_of_mem _ ht', hcomes⟩

/-- Every thread behind a pattern comes from one before it by a word. -/
theorem Node.comes_of_mem_run {a : Node} (ha : a.straight) {ts : List Thread} {u : Thread}
    (h : u ∈ a.run ts) : ∃ t ∈ ts, ∃ word rest c, Thread.Comes a t u word rest c := by
  induction a generalizing ts u with
  | empty => exact ⟨u, h, _, _, _, Thread.comes_of_reads_nil .empty⟩
  | set s =>
    rw [Node.run, List.mem_filterMap] at h
    obtain ⟨t, ht, hu⟩ := h
    obtain ⟨d, hd, rfl⟩ := Option.map_eq_some_iff.mp hu
    obtain ⟨x, rest, hrest, hx, rfl⟩ := Cursor.step?_eq_some_iff.mp hd
    exact ⟨t, ht, [x], rest, [], Thread.comes_moveTo hrest (.set hx)⟩
  | look l =>
    rw [Node.run, List.mem_filter] at h
    have hl : l.holds ⟨u.cursor.last, u.cursor.rest, 0⟩ := by
      rw [← l.holds_pos _ _ u.cursor.pos]
      exact h.2
    exact ⟨u, h.1, _, _, _, Thread.comes_of_reads_nil (.look hl)⟩
  | seq a b iha ihb =>
    rw [Node.straight, Bool.and_eq_true] at ha
    obtain ⟨m, hm, v, rest, d, hb⟩ := ihb ha.2 h
    obtain ⟨t, ht, word, rest', c, ha⟩ := iha ha.1 hm
    exact ⟨t, ht, _, _, _, ha.seq hb⟩
  | alt a b iha ihb =>
    rw [Node.straight, Bool.and_eq_true] at ha
    rw [Node.run] at h
    obtain ⟨t, ht, hu⟩ := List.mem_flatMap.mp (Thread.mem_of_mem_dedup h)
    rcases List.mem_append.mp hu with hu | hu
    · obtain ⟨t', ht', word, rest, c, hc⟩ := iha ha.1 hu
      rw [List.mem_singleton.mp ht'] at hc
      exact ⟨t, ht, word, rest, c, hc.left⟩
    · obtain ⟨t', ht', word, rest, c, hc⟩ := ihb ha.2 hu
      rw [List.mem_singleton.mp ht'] at hc
      exact ⟨t, ht, word, rest, c, hc.right⟩
  | group i a iha =>
    rw [Node.run, List.mem_map] at h
    obtain ⟨m, hm, rfl⟩ := h
    obtain ⟨t', ht', word, rest, c, hc⟩ := iha ha hm
    obtain ⟨t, ht, rfl⟩ := List.mem_map.mp ht'
    exact ⟨t, ht, word, rest, _, hc.group⟩
  | stretch s optional greedy => exact comes_of_mem_stretchThreads h
  | times n a => cases ha
  | upTo n greedy a => cases ha
  | loop a optional greedy => cases ha

end ScriptBundle.Pattern
