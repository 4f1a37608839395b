import Mathlib.Data.List.Nodup
import ScriptBundle.Proofs.Walk.RequireGraph
import ScriptBundle.Proofs.Walk.RequireTree

/-! # Requested paths

A file of a call is asked for by the path of the call or by what a directive of another file was resolved
to. The log does not keep this path, but names the one by which the file of the directive was asked for.
-/

namespace ScriptBundle

namespace Walk

/-- The path by which a logged file was asked for: the one that the call was made with, or the answer to the
directive that the file was met for, which stands in a logged file that was itself asked for. -/
inductive Requested (ctx : WalkContext) (path : Path) (log : List Inclusion) :
    Inclusion → Path → Prop where
  | argument {i} (hi : i ∈ log) (ho : i.origin = none)
      (hl : ctx.workspace.locate path = .ok i.location) : Requested ctx path log i path
  | answer {i parent o q} (hi : i ∈ log) (ho : i.origin = some o)
      (hparent : Requested ctx path log parent o.requiredBy)
      (hd : Holds ctx parent.location o.directive)
      (hr : ctx.resolve o.directive.target (o.directive.base o.requiredBy) = .ok ⟨q, o.mode⟩)
      (hl : ctx.workspace.locate q = .ok i.location) : Requested ctx path log i q

/-- The file that a frame reads is logged, and was asked for by the path of the frame. -/
def Traced (ctx : WalkContext) (path : Path) (log : List Inclusion) (f : Frame) : Prop :=
  ∃ i, Requested ctx path log i f.path ∧ i.location = f.location

variable {ctx : WalkContext} {path q : Path} {log : List Inclusion} {i : Inclusion} {f : Frame}
  {below : List Frame} {d : Directive} {rest : List String}

theorem Requested.concat (h : Requested ctx path log i q) (j : Inclusion) :
    Requested ctx path (log ++ [j]) i q := by
  induction h with
  | argument hi ho hl => exact .argument (List.mem_append_left _ hi) ho hl
  | answer hi ho _ hd hr hl ih => exact .answer (List.mem_append_left _ hi) ho ih hd hr hl

theorem Requested.mem (h : Requested ctx path log i q) : i ∈ log := by
  cases h with
  | argument hi => exact hi
  | answer hi => exact hi

theorem Requested.located (h : Requested ctx path log i q) :
    ctx.workspace.locate q = .ok i.location := by
  cases h with
  | argument _ _ hl => exact hl
  | answer _ _ _ _ _ hl => exact hl

theorem Traced.concat (h : Traced ctx path log f) (j : Inclusion) :
    Traced ctx path (log ++ [j]) f := by
  obtain ⟨i, hi, hl⟩ := h
  exact ⟨i, hi.concat j, hl⟩

theorem holds_of_asks (hf : f.Reads ctx) (hd : Asks ctx f d rest) : Holds ctx f.location d := by
  obtain ⟨line, hu, hm⟩ := hd
  obtain ⟨all, ha, hline, -⟩ := hf.next hu
  exact ⟨all, ha, List.mem_filterMap.mpr ⟨line, List.mem_of_getElem? hline, hm⟩⟩

structure Tracked (ctx : WalkContext) (path : Path) (start : List Inclusion) (s : State) : Prop where
  reads : ∀ f ∈ s.stack, f.Reads ctx
  traced : ∃ log, s.walker.inclusions.reverse = start ++ log ∧
    (∀ i ∈ log, ∃ q, Requested ctx path log i q) ∧ ∀ f ∈ s.stack, Traced ctx path log f

variable {start : List Inclusion}

theorem step_preserves_tracked {s s' : State} (h : Tracked ctx path start s)
    (hs : Step ctx s s') : Tracked ctx path start s' := by
  have hreads := step_preserves_reads h.reads hs
  obtain ⟨log, hlog, hall, htraced⟩ := h.traced
  cases hs with
  | finish hf =>
    have hbelow := (List.forall_mem_cons.mp htraced).2
    exact ⟨hreads, log, hlog, hall, forall_handOver (fun _ _ hf => hf) hbelow⟩
  | keep hf hm =>
    obtain ⟨htop, hbelow⟩ := List.forall_mem_cons.mp htraced
    exact ⟨hreads, log, hlog, hall, List.forall_mem_cons.mpr ⟨htop, hbelow⟩⟩
  | skip hd ht hl =>
    obtain ⟨htop, hbelow⟩ := List.forall_mem_cons.mp htraced
    exact ⟨hreads, log, hlog, hall, List.forall_mem_cons.mpr ⟨htop, hbelow⟩⟩
  | @descend w f below d rest r l hd ht hl =>
    obtain ⟨htop, hbelow⟩ := List.forall_mem_cons.mp htraced
    let i : Inclusion := ⟨l, some (f.origin d r.mode), below.length + 1⟩
    obtain ⟨parent, hparent, hplace⟩ := htop
    have hholds : Holds ctx parent.location d :=
      hplace ▸ holds_of_asks (h.reads f List.mem_cons_self) hd
    have hi : Requested ctx path (log ++ [i]) i r.path :=
      .answer (by simp) rfl (hparent.concat i) hholds ht.resolved ht.located
    refine ⟨hreads, log ++ [i], ?_, ?_, ?_⟩
    · simp only [Walker.meet, Walker.ask, List.reverse_cons] at hlog ⊢
      rw [hlog, List.append_assoc]
    · rintro j hj
      rcases List.mem_append.mp hj with hj | hj
      · obtain ⟨q, hq⟩ := hall j hj
        exact ⟨q, hq.concat i⟩
      · rw [List.mem_singleton.mp hj]
        exact ⟨_, hi⟩
    · refine List.forall_mem_cons.mpr ⟨⟨i, hi, rfl⟩, List.forall_mem_cons.mpr ⟨?_, ?_⟩⟩
      · exact ⟨parent, hparent.concat i, hplace⟩
      · exact fun g hg => (hbelow g hg).concat i

theorem tracked_opening {w : Walker} {l : Location} (hl : ctx.workspace.locate path = .ok l) :
    Tracked ctx path w.inclusions.reverse (opening ctx w path l) where
  reads := by simpa [opening] using reads_frame hl
  traced := by
    have hroot : Requested ctx path [⟨l, none, 0⟩] ⟨l, none, 0⟩ path :=
      .argument List.mem_cons_self rfl hl
    refine ⟨[⟨l, none, 0⟩], by simp [opening, Walker.meet], ?_, ?_⟩
    · simpa using ⟨path, hroot⟩
    · simpa [opening] using ⟨_, hroot, rfl⟩

theorem process_logs_requested (ctx : WalkContext) (w : Walker) (path : Path) :
    ∃ log, (process ctx w path).2.bundle.inclusions = w.bundle.inclusions ++ log ∧
      ∀ i ∈ log, ∃ q, Requested ctx path log i q := by
  rcases hl : ctx.workspace.locate path with fault | l
  · exact ⟨[], by simp [process_unlocated hl], List.forall_mem_nil _⟩
  by_cases hv : l ∈ w.visited
  · exact ⟨[], by simp [process_met hl hv], List.forall_mem_nil _⟩
  rw [process_unmet hl hv]
  refine run_preserves (P := Tracked ctx path w.inclusions.reverse)
    (Q := fun w' => ∃ log, w'.inclusions.reverse = w.inclusions.reverse ++ log ∧
      ∀ i ∈ log, ∃ q, Requested ctx path log i q)
    (fun _ _ => step_preserves_tracked) ?_ ?_ (tracked_opening hl)
  · rintro s hs
    obtain ⟨log, hlog, hall, -⟩ := hs.traced
    exact ⟨log, hlog, hall⟩
  · intro s e w' hs hh
    obtain ⟨log, hlog, hall, -⟩ := hs.traced
    rw [hh.inclusions_eq]
    exact ⟨log, hlog, hall⟩

/-- Each file that a first call logs behind the first one names its parent, by the path that the parent was
asked for by. -/
theorem process_names_parents (ctx : WalkContext) (path : Path) {k : Nat}
    (hi : (process ctx {} path).2.bundle.inclusions[k]? = some i) (hk : 0 < k) :
    ∃ m parent o, IsParent (process ctx {} path).2.bundle.inclusions m k ∧
      (process ctx {} path).2.bundle.inclusions[m]? = some parent ∧ i.origin = some o ∧
      Requested ctx path (process ctx {} path).2.bundle.inclusions parent o.requiredBy := by
  obtain ⟨log, hlog, htree⟩ := process_logs_tree ctx {} path
  obtain ⟨log', hlog', hall⟩ := process_logs_requested ctx {} path
  obtain rfl : log = log' := List.append_cancel_left (hlog.symm.trans hlog')
  have hcoherent := process_preserves_coherent (coherent_empty ctx.workspace) path
  have hnodup : (log.map (·.location)).Nodup := by
    have hreverse : (process ctx {} path).2.inclusions.reverse = log := hlog
    have hvisited := hcoherent.nodup
    rw [hcoherent.visited_eq, ← List.nodup_reverse, ← List.map_reverse, hreverse] at hvisited
    exact hvisited
  rw [hlog] at hi ⊢
  rw [show ({} : Walker).bundle.inclusions = [] from rfl, List.nil_append] at hi ⊢
  obtain ⟨-, hroot⟩ := htree.first k i hi
  obtain ⟨m, parent, o, hparent, hm, ho, hnames⟩ :=
    htree.required k i hi (Nat.pos_of_ne_zero fun hd => by omega)
  refine ⟨m, parent, o, hparent, hm, ho, ?_⟩
  obtain ⟨q, hq⟩ := hall i (List.mem_of_getElem? hi)
  cases hq with
  | argument _ hnone => rw [ho] at hnone; cases hnone
  | @answer _ asker o' _ _ ho' hasker =>
    obtain rfl : o = o' := Option.some.inj (ho.symm.trans ho')
    -- Two logged files at one location are one.
    have hlocation : asker.location = parent.location :=
      Except.ok.inj (hasker.located.symm.trans hnames.located)
    have hsame := List.inj_on_of_nodup_map hnodup hasker.mem (List.mem_of_getElem? hm) hlocation
    rwa [hsame] at hasker

end Walk

end ScriptBundle
