import Mathlib.Data.List.Forall2
import ScriptBundle.Proofs.Walk.Frames

/-! # The require tree of a call

A call logs a file when it starts on it, so its log is flat, and the depths alone tell which entry is the
parent of which. The log is the preorder of a tree all the same: while a call goes on, every file being
read is the last entry of its depth, and nothing behind that entry lies as high. Files that are skipped or
come to their end leave the log alone, and so does a step that fails.
-/

namespace ScriptBundle

/-- The entry at `m` of a log is the nearest one before the entry at `k` that lies one level higher. -/
structure IsParent (log : List Inclusion) (m k : Nat) : Prop where
  before : m < k
  level : ∃ p i, log[m]? = some p ∧ log[k]? = some i ∧ i.depth = p.depth + 1
  nearest : ∀ n x i, m < n → n < k → log[n]? = some x → log[k]? = some i → i.depth ≠ x.depth + 1

theorem getElem?_concat_eq_some_iff {log : List Inclusion} {i x : Inclusion} {k : Nat} :
    (log ++ [i])[k]? = some x ↔ log[k]? = some x ∨ k = log.length ∧ x = i := by
  by_cases hk : k < log.length
  · rw [List.getElem?_append_left hk]
    have hne : k ≠ log.length := by omega
    simp [hne]
  · rw [List.getElem?_append_right (by omega), List.getElem?_singleton]
    have hnone : log[k]? = none := List.getElem?_eq_none (by omega)
    by_cases he : k = log.length
    · simp [he, eq_comm]
    · have hpos : k - log.length ≠ 0 := by omega
      simp [hnone, he, hpos]

namespace IsParent

variable {log : List Inclusion} {m m' k : Nat}

theorem not_lt_parent (h : IsParent log m k) (h' : IsParent log m' k) : ¬m < m' := by
  intro hlt
  obtain ⟨p, i, hp, hi, hdepth⟩ := h'.level
  exact h.nearest m' p i hlt h'.before hp hi hdepth

theorem unique (h : IsParent log m k) (h' : IsParent log m' k) : m = m' :=
  Nat.le_antisymm (Nat.le_of_not_lt (h'.not_lt_parent h)) (Nat.le_of_not_lt (h.not_lt_parent h'))

theorem lt_length (h : IsParent log m k) : k < log.length := by
  obtain ⟨p, i, -, hi, -⟩ := h.level
  exact (List.getElem?_eq_some_iff.mp hi).1

theorem concat_iff {i : Inclusion} (hk : k < log.length) :
    IsParent (log ++ [i]) m k ↔ IsParent log m k := by
  have hold : ∀ n, n ≤ k → (log ++ [i])[n]? = log[n]? := fun n hn =>
    List.getElem?_append_left (by omega)
  constructor
  · rintro ⟨hm, hlevel, hnearest⟩
    rw [hold m (by omega), hold k (by omega)] at hlevel
    refine ⟨hm, hlevel, fun n x j hmn hnk hx hj => ?_⟩
    exact hnearest n x j hmn hnk (by rwa [hold n (by omega)]) (by rwa [hold k (by omega)])
  · rintro ⟨hm, hlevel, hnearest⟩
    refine ⟨hm, by rwa [hold m (by omega), hold k (by omega)], fun n x j hmn hnk hx hj => ?_⟩
    rw [hold n (by omega)] at hx
    rw [hold k (by omega)] at hj
    exact hnearest n x j hmn hnk hx hj

end IsParent

namespace Origin

/-- The directive stands on one of the first `n` lines. -/
def Within (o : Origin) (n : Nat) : Prop := ∃ k < n, o.line = .ofNat (k + 1)

variable {o o' : Origin} {n n' : Nat}

theorem Within.mono (h : o.Within n) (hn : n ≤ n') : o.Within n' := by
  obtain ⟨k, hk, hline⟩ := h
  exact ⟨k, Nat.lt_of_lt_of_le hk hn, hline⟩

/-- Counting with 32 bits keeps the order of lines, as long as there are not too many of them. -/
theorem Within.line_lt (h : o.Within n) (hline : o'.line = .ofNat (n + 1))
    (hn : n + 1 < UInt32.size) : o.line < o'.line := by
  obtain ⟨k, hk, hk'⟩ := h
  rw [hk', hline, UInt32.ofNat_lt_iff_lt (by omega) hn]
  omega

end Origin

namespace Walk

/-- The origin names a line of the file at `parent` that asks for the file at `l`. -/
structure Names (ctx : WalkContext) (o : Origin) (parent l : Location) : Prop where
  located : ctx.workspace.locate o.requiredBy = .ok parent
  matched : ∃ lines line n, ctx.workspace.tree.linesAt parent = .ok lines ∧ o.line = .ofNat (n + 1) ∧
    lines[n]? = some line ∧ ctx.matcher line = some o.directive
  leads : ∃ r, Leads ctx o.requiredBy o.directive r l ∧ r.mode = o.mode

/-- What a call for a path logs is the preorder of a tree, whose root is the file that the path leads to.
Every other entry has a parent, its origin names a line of the parent's file, and the lines of the entries
with one parent come in their order. -/
structure RequireTree (ctx : WalkContext) (path : Path) (log : List Inclusion) : Prop where
  first : ∀ k i, log[k]? = some i → (i.origin = none ↔ i.depth = 0) ∧ (i.depth = 0 ↔ k = 0)
  entry : ∀ i, log[0]? = some i → ctx.workspace.locate path = .ok i.location
  gradual : ∀ k i j, log[k]? = some i → log[k + 1]? = some j → j.depth ≤ i.depth + 1
  required : ∀ k i, log[k]? = some i → 0 < i.depth → ∃ m p o, IsParent log m k ∧
    log[m]? = some p ∧ i.origin = some o ∧ Names ctx o p.location i.location
  ordered : ∀ m k k' i i' o o', IsParent log m k → IsParent log m k' → k < k' →
    log[k]? = some i → log[k']? = some i' → i.origin = some o → i'.origin = some o' →
    ∀ p lines, log[m]? = some p → ctx.workspace.tree.linesAt p.location = .ok lines →
      lines.length < UInt32.size → o.line < o'.line

/-- A file being read stands in the log as the last entry of its depth, behind which all entries lie
deeper, and its children were asked for on lines that have been read. -/
structure Open (log : List Inclusion) (f : Frame) (depth m : Nat) : Prop where
  logged : ∃ p, log[m]? = some p ∧ p.location = f.location ∧ p.depth = depth
  deeper : ∀ n x, m < n → log[n]? = some x → depth < x.depth
  asked : ∀ k i o, IsParent log m k → log[k]? = some i → i.origin = some o → o.Within f.line

/-- All files being read are open in the log, each at the depth of its place on the stack. -/
def Spine (log : List Inclusion) : List Frame → Prop
  | [] => True
  | f :: below => (∃ m, Open log f below.length m) ∧ Spine log below

variable {ctx : WalkContext} {path : Path} {log : List Inclusion} {i : Inclusion} {f f' : Frame}
  {below : List Frame} {depth m : Nat}

theorem requireTree_nil (ctx : WalkContext) (path : Path) : RequireTree ctx path [] := by
  constructor <;> simp

theorem requireTree_root {l : Location} (hl : ctx.workspace.locate path = .ok l) :
    RequireTree ctx path [⟨l, none, 0⟩] := by
  have honly : ∀ {k : Nat} {i : Inclusion}, [(⟨l, none, 0⟩ : Inclusion)][k]? = some i →
      k = 0 ∧ i = ⟨l, none, 0⟩ := by
    intro k i hi
    have hk : k = 0 := by simpa using (List.getElem?_eq_some_iff.mp hi).1
    subst hk
    exact ⟨rfl, (Option.some.inj hi).symm⟩
  constructor
  · intro k i hi
    obtain ⟨rfl, rfl⟩ := honly hi
    simp
  · intro i hi
    obtain ⟨-, rfl⟩ := honly hi
    exact hl
  · intro k i j hi hj
    exact absurd (honly hj).1 (by omega)
  · intro k i hi hdepth
    obtain ⟨-, rfl⟩ := honly hi
    exact absurd hdepth (Nat.lt_irrefl 0)
  · intro m k k' i i' o o' hk hk' hlt hi hi'
    obtain ⟨rfl, -⟩ := honly hi'
    exact absurd hlt (Nat.not_lt_zero k)

theorem Open.isParent (h : Open log f depth m) (hdepth : i.depth = depth + 1) :
    IsParent (log ++ [i]) m log.length := by
  obtain ⟨p, hp, -, rfl⟩ := h.logged
  have hm : m < log.length := (List.getElem?_eq_some_iff.mp hp).1
  refine ⟨hm, ⟨p, i, ?_, by simp, hdepth⟩, ?_⟩
  · rwa [List.getElem?_append_left hm]
  · intro n x j hmn hn hx hj he
    rw [List.getElem?_append_left hn] at hx
    obtain rfl : i = j := by simpa using hj
    have hdeeper := h.deeper n x hmn hx
    omega

/-- A file stays open when an entry below it is logged, which may be a child asked for on a line read by
now. -/
theorem Open.concat (h : Open log f depth m) (hl : f'.location = f.location)
    (hline : f.line ≤ f'.line) (hdepth : depth < i.depth)
    (hchild : i.depth = depth + 1 → ∀ o, i.origin = some o → o.Within f'.line) :
    Open (log ++ [i]) f' depth m := by
  obtain ⟨p, hp, hpl, rfl⟩ := h.logged
  constructor
  · exact ⟨p, getElem?_concat_eq_some_iff.mpr (Or.inl hp), hpl.trans hl.symm, rfl⟩
  · intro n x hn hx
    rcases getElem?_concat_eq_some_iff.mp hx with hx | ⟨-, rfl⟩
    · exact h.deeper n x hn hx
    · exact hdepth
  · intro k j o hk hj ho
    rcases getElem?_concat_eq_some_iff.mp hj with hj | ⟨rfl, rfl⟩
    · have hlt := (List.getElem?_eq_some_iff.mp hj).1
      exact (h.asked k j o ((IsParent.concat_iff hlt).mp hk) hj ho).mono hline
    · obtain ⟨q, j', hq, hj', hlevel⟩ := hk.level
      rw [List.getElem?_append_left (List.getElem?_eq_some_iff.mp hp).1, hp] at hq
      obtain rfl := Option.some.inj hq
      obtain rfl : j = j' := by simpa using hj'
      exact hchild hlevel o ho

theorem Open.advance (h : Open log f depth m) (hl : f'.location = f.location)
    (hline : f.line ≤ f'.line) : Open log f' depth m where
  logged := hl ▸ h.logged
  deeper := h.deeper
  asked := fun k i o hk hi ho => (h.asked k i o hk hi ho).mono hline

theorem open_concat (log : List Inclusion) (hl : i.location = f.location) :
    Open (log ++ [i]) f i.depth log.length := by
  constructor
  · exact ⟨i, by simp, hl, rfl⟩
  · intro n x hn hx
    have := (List.getElem?_eq_some_iff.mp hx).1
    simp at this
    omega
  · intro k j o hk
    have hbefore := hk.before
    have := hk.lt_length
    simp at this
    omega

theorem Spine.concat (h : Spine log below) (hdepth : below.length < i.depth) :
    Spine (log ++ [i]) below := by
  induction below with
  | nil => trivial
  | cons g below ih =>
    obtain ⟨⟨m, hm⟩, hbelow⟩ := h
    rw [List.length_cons] at hdepth
    refine ⟨⟨m, hm.concat rfl (Nat.le_refl _) (by omega) fun he => ?_⟩, ih hbelow (by omega)⟩
    omega

theorem Spine.handOver (h : Spine log below) (carry : Bool) (state : CommentState) :
    Spine log (handOver carry state below) := by
  rcases below with _ | ⟨f, below⟩
  · trivial
  obtain ⟨⟨m, hm⟩, hbelow⟩ := h
  cases carry
  · exact ⟨⟨m, hm⟩, hbelow⟩
  · exact ⟨⟨m, hm.advance rfl (Nat.le_refl _)⟩, hbelow⟩

/-- The tree with a child of the file being read, asked for on a line behind those of its siblings. -/
theorem RequireTree.concat {o : Origin} (h : RequireTree ctx path log) (hf : Open log f depth m)
    (hdepth : i.depth = depth + 1) (ho : i.origin = some o) (hline : o.line = .ofNat (f.line + 1))
    (hread : ∀ lines, ctx.workspace.tree.linesAt f.location = .ok lines → f.line < lines.length)
    (hnames : Names ctx o f.location i.location) : RequireTree ctx path (log ++ [i]) := by
  obtain ⟨p, hp, hpl, hpd⟩ := hf.logged
  have hm : m < log.length := (List.getElem?_eq_some_iff.mp hp).1
  constructor
  · intro k j hj
    rcases getElem?_concat_eq_some_iff.mp hj with hj | ⟨rfl, rfl⟩
    · exact h.first k j hj
    · have hk : log.length ≠ 0 := by omega
      simp [ho, hdepth, hk]
  · intro j hj
    rw [List.getElem?_append_left (by omega)] at hj
    exact h.entry j hj
  · intro k j j' hj hj'
    rcases getElem?_concat_eq_some_iff.mp hj' with hj' | ⟨hk, rfl⟩
    · have hlt := (List.getElem?_eq_some_iff.mp hj').1
      rw [List.getElem?_append_left (by omega)] at hj
      exact h.gradual k j j' hj hj'
    · rw [List.getElem?_append_left (by omega)] at hj
      -- The entry before the new one is the file being read itself, or lies deeper.
      by_cases hmk : m = k
      · subst hmk
        obtain rfl := Option.some.inj (hp.symm.trans hj)
        omega
      · have hdeeper := hf.deeper k j (by omega) hj
        omega
  · intro k j hj hpos
    rcases getElem?_concat_eq_some_iff.mp hj with hj | ⟨rfl, rfl⟩
    · obtain ⟨n, q, o', hparent, hq, ho', hq'⟩ := h.required k j hj hpos
      have hlt := (List.getElem?_eq_some_iff.mp hj).1
      exact ⟨n, q, o', (IsParent.concat_iff hlt).mpr hparent,
        getElem?_concat_eq_some_iff.mpr (Or.inl hq), ho', hq'⟩
    · exact ⟨m, p, o, hf.isParent hdepth, getElem?_concat_eq_some_iff.mpr (Or.inl hp), ho,
        hpl ▸ hnames⟩
  · intro n k k' j j' a a' hk hk' hlt hj hj' ha ha' q lines hq hlines hcount
    have hlast := hk'.lt_length
    rw [List.length_append, List.length_singleton] at hlast
    have hklt : k < log.length := by omega
    rw [List.getElem?_append_left hklt] at hj
    rw [IsParent.concat_iff hklt] at hk
    rcases getElem?_concat_eq_some_iff.mp hj' with hold | ⟨rfl, rfl⟩
    · rw [IsParent.concat_iff (List.getElem?_eq_some_iff.mp hold).1] at hk'
      rw [List.getElem?_append_left (Nat.lt_trans hk.before hklt)] at hq
      exact h.ordered n k k' j j' a a' hk hk' hlt hj hold ha ha' q lines hq hlines hcount
    · obtain rfl := hk'.unique (hf.isParent hdepth)
      obtain rfl := Option.some.inj (ha'.symm.trans ho)
      rw [List.getElem?_append_left hm, hp] at hq
      obtain rfl := Option.some.inj hq
      rw [hpl] at hlines
      exact (hf.asked k j a hk hj ha).line_lt hline (Nat.lt_of_le_of_lt (hread lines hlines) hcount)

/-- What the call has logged since it started is the tree of its path, and the files being read are open
in it. -/
structure Charted (ctx : WalkContext) (path : Path) (start : List Inclusion) (s : State) : Prop where
  reads : ∀ f ∈ s.stack, f.Reads ctx
  tree : ∃ log, s.walker.inclusions.reverse = start ++ log ∧ RequireTree ctx path log ∧
    Spine log s.stack

variable {start : List Inclusion}

theorem names_of_asks {d : Directive} {rest : List String} {r : Resolved} {l : Location}
    (hf : f.Reads ctx) (hd : Asks ctx f d rest) (ht : Leads ctx f.path d r l) :
    Names ctx (f.origin d r.mode) f.location l := by
  obtain ⟨line, hu, hm⟩ := hd
  obtain ⟨lines, ha, hline, -⟩ := hf.next hu
  exact ⟨hf.located, ⟨lines, line, f.line, ha, rfl, hline, hm⟩, ⟨r, ht, rfl⟩⟩

theorem step_preserves_charted {s s' : State} (h : Charted ctx path start s)
    (hs : Step ctx s s') : Charted ctx path start s' := by
  have hreads := step_preserves_reads h.reads hs
  obtain ⟨log, hlog, htree, hspine⟩ := h.tree
  cases hs with
  | finish hf => exact ⟨hreads, log, hlog, htree, hspine.2.handOver _ _⟩
  | keep hf hm =>
    obtain ⟨⟨m, hopen⟩, hbelow⟩ := hspine
    exact ⟨hreads, log, hlog, htree, ⟨m, hopen.advance rfl (Nat.le_succ _)⟩, hbelow⟩
  | skip hd ht hl =>
    obtain ⟨⟨m, hopen⟩, hbelow⟩ := hspine
    exact ⟨hreads, log, hlog, htree, ⟨m, hopen.advance rfl (Nat.le_succ _)⟩, hbelow⟩
  | @descend w f below d rest r l hd ht hl =>
    obtain ⟨⟨m, hopen⟩, hbelow⟩ := hspine
    have hnames := names_of_asks (h.reads f List.mem_cons_self) hd ht
    let i : Inclusion := ⟨l, some (f.origin d r.mode), below.length + 1⟩
    refine ⟨hreads, log ++ [i], ?_, ?_, ?_, ?_, ?_⟩
    · simp only [Walker.meet, Walker.ask, List.reverse_cons] at hlog ⊢
      rw [hlog, List.append_assoc]
    · exact htree.concat hopen rfl rfl rfl (fun _ => (h.reads f List.mem_cons_self).line_lt hd) hnames
    · exact ⟨log.length, open_concat log rfl⟩
    · refine ⟨m, hopen.concat rfl (Nat.le_succ _) (Nat.lt_succ_self _) ?_⟩
      rintro - o ho
      obtain rfl := Option.some.inj ho
      exact ⟨f.line, Nat.lt_succ_self _, rfl⟩
    · exact hbelow.concat (Nat.lt_succ_self _)

theorem charted_opening {w : Walker} {l : Location} (hl : ctx.workspace.locate path = .ok l) :
    Charted ctx path w.inclusions.reverse (opening ctx w path l) where
  reads := by simpa [opening] using reads_frame hl
  tree := ⟨[⟨l, none, 0⟩], by simp [opening, Walker.meet], requireTree_root hl,
    ⟨0, open_concat [] rfl⟩, trivial⟩

theorem run_logs_tree {s : State} (h : Charted ctx path start s) :
    ∃ log, (run ctx s.walker s.stack).2.inclusions.reverse = start ++ log ∧
      RequireTree ctx path log := by
  refine run_preserves (P := Charted ctx path start)
    (Q := fun w => ∃ log, w.inclusions.reverse = start ++ log ∧ RequireTree ctx path log)
    (fun _ _ => step_preserves_charted) ?_ ?_ h
  · rintro s hs
    obtain ⟨log, hlog, htree, -⟩ := hs.tree
    exact ⟨log, hlog, htree⟩
  · intro s e w' hs hh
    obtain ⟨log, hlog, htree, -⟩ := hs.tree
    rw [hh.inclusions_eq]
    exact ⟨log, hlog, htree⟩

theorem process_logs_tree (ctx : WalkContext) (w : Walker) (path : Path) :
    ∃ log, (process ctx w path).2.bundle.inclusions = w.bundle.inclusions ++ log ∧
      RequireTree ctx path log := by
  rcases hl : ctx.workspace.locate path with fault | l
  · exact ⟨[], by simp [process_unlocated hl], requireTree_nil ctx path⟩
  by_cases hv : l ∈ w.visited
  · exact ⟨[], by simp [process_met hl hv], requireTree_nil ctx path⟩
  · rw [process_unmet hl hv]
    exact run_logs_tree (charted_opening hl)

/-- Whatever calls a walker gets, and whether they succeed or fail, its log is made of what the calls have
added one after the other, and each of these parts is the preorder of the tree of its call. -/
theorem calls_log_require_trees (ctx : WalkContext) (w : Walker) (paths : List Path) :
    ∃ logs, List.Forall₂ (RequireTree ctx) paths logs ∧
      ∀ n, (processAll ctx w (paths.take n)).2.bundle.inclusions =
        w.bundle.inclusions ++ (logs.take n).flatten := by
  induction paths generalizing w with
  | nil => exact ⟨[], .nil, fun n => by simp [processAll]⟩
  | cons path rest ih =>
    obtain ⟨log, hlog, htree⟩ := process_logs_tree ctx w path
    obtain ⟨logs, htrees, hlogs⟩ := ih (process ctx w path).2
    refine ⟨log :: logs, .cons htree htrees, fun n => ?_⟩
    cases n with
    | zero => simp [processAll]
    | succ n =>
      rw [List.take_succ_cons, List.take_succ_cons, List.flatten_cons, ← List.append_assoc, ← hlog]
      exact hlogs n

end Walk

end ScriptBundle
