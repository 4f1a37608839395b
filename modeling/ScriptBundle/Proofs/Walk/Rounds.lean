import Mathlib.Algebra.BigOperators.Group.Finset.Basic
import Mathlib.Data.Nat.Find
import ScriptBundle.Proofs.FileTree.Canonical
import ScriptBundle.Proofs.Walk.Frames

/-!
# Rounds of a walk

Each round of the loop over the suspended files reads one line or comes to the end of a file. Files are
met by their canonical locations, so a walk is over after as many rounds as the locations not met before
have lines, with one more for each location. What the paths look like does not count: they may grow with
every directive.
-/

namespace ScriptBundle

namespace FileTree

def isLinkAt (t : FileTree) (l : Location) : Bool :=
  match t.node? l with
  | some (.link _) => true
  | _ => false

theorem isLinkAt_eq_false_iff {t : FileTree} {l : Location} :
    t.isLinkAt l = false ↔ ∀ target, t.node? l ≠ some (.link target) := by
  unfold isLinkAt
  rcases t.node? l with _ | _ | _ | _ | _ <;> simp

theorem canonical_iff {t : FileTree} {l : Location} :
    t.Canonical l ↔ (∀ s ∈ l, IsName s) ∧ (∀ k < l.length, t.isDirectoryAt (l.take k)) ∧
      t.isLinkAt l = false := by
  rw [isLinkAt_eq_false_iff]
  constructor
  · intro h
    refine ⟨h.names, ?_, h.noLink⟩
    intro k hk
    apply h.above (l.take k) l[k] (l.drop (k + 1))
    rw [← List.drop_eq_getElem_cons hk, List.take_append_drop]
  · rintro ⟨hnames, habove, hlink⟩
    refine ⟨hnames, ?_, hlink⟩
    rintro d s e rfl
    have hd := habove d.length (by simp)
    rwa [List.take_left] at hd

instance (t : FileTree) (l : Location) : Decidable (t.Canonical l) := decidable_of_iff' _ canonical_iff

/-- The canonical locations where something stands: files and directories, but no links. -/
def places (t : FileTree) : Finset Location := (t.all.map Prod.fst).toFinset.filter t.Canonical

theorem mem_places {t : FileTree} {l : Location} (hl : t.Canonical l)
    (hn : (t.node? l).isSome) : l ∈ t.places := by
  obtain ⟨n, hn⟩ := Option.isSome_iff_exists.mp hn
  have hmem : l ∈ t.all.map Prod.fst := List.mem_map_of_mem (mem_all_of_node? hn)
  exact Finset.mem_filter.mpr ⟨List.mem_toFinset.mpr hmem, hl⟩

def lineCount (t : FileTree) (l : Location) : Nat :=
  match t.linesAt l with
  | .ok lines => lines.length
  | .error _ => 0

theorem readingCost_linesAt (t : FileTree) (l : Location) :
    Walk.readingCost (t.linesAt l) = t.lineCount l + 1 := by
  unfold lineCount
  cases t.linesAt l <;> rfl

end FileTree

namespace Walk

/-- The loop over the suspended files, given up where it is not over after so many rounds. -/
def runWithin (ctx : WalkContext) : Nat → Walker → List Frame → Option (Result Unit)
  | _, w, [] => some (.ok (), w)
  | 0, _, _ :: _ => none
  | rounds + 1, w, f :: below =>
    match step ctx w f below with
    | (.error e, w') => some (.error e, w')
    | (.ok stack, w') => runWithin ctx rounds w' stack

def processWithin (ctx : WalkContext) (rounds : Nat) (w : Walker) (path : Path) :
    Option (Result Unit) :=
  match enter ctx w path none .code [] with
  | (.error e, w') => some (.error e, w')
  | (.ok stack, w') => runWithin ctx rounds w' stack

variable {ctx : WalkContext} {w : Walker} {path : Path} {rounds : Nat}

@[simp] theorem runWithin_nil (ctx : WalkContext) (rounds : Nat) (w : Walker) :
    runWithin ctx rounds w [] = some (.ok (), w) := by
  cases rounds <;> rfl

theorem Step.runWithin_succ {s s' : State} (h : Step ctx s s') :
    runWithin ctx (rounds + 1) s.walker s.stack = runWithin ctx rounds s'.walker s'.stack := by
  obtain ⟨w, _ | ⟨f, below⟩⟩ := s
  · cases h
  · simp [runWithin, h.step_eq]

theorem Halt.runWithin_succ {s : State} {e : BundleError} {w' : Walker} (h : Halt ctx s e w') :
    runWithin ctx (rounds + 1) s.walker s.stack = some (.error e, w') := by
  obtain ⟨w, _ | ⟨f, below⟩⟩ := s
  · cases h
  · simp [runWithin, h.step_eq]

theorem eq_run_of_runWithin {s : State} {r : Result Unit}
    (h : runWithin ctx rounds s.walker s.stack = some r) : r = run ctx s.walker s.stack := by
  induction rounds generalizing s with
  | zero =>
    obtain ⟨w, _ | ⟨f, below⟩⟩ := s
    · simpa using h.symm
    · cases h
  | succ rounds ih =>
    obtain ⟨w, _ | ⟨f, below⟩⟩ := s
    · simpa using h.symm
    rcases step_or_halt ctx w f below with ⟨s', hs⟩ | ⟨e, w', hh⟩
    · rw [hs.run_eq]
      exact ih (hs.runWithin_succ.symm.trans h)
    · rw [hh.run_eq]
      exact Option.some.inj (h.symm.trans hh.runWithin_succ)

theorem processWithin_unlocated {fault : FileFault}
    (hl : ctx.workspace.locate path = .error fault) :
    processWithin ctx rounds w path = some (process ctx w path) := by
  simp [processWithin, process_unlocated hl, enter, hl]

theorem processWithin_met {l : Location} (hl : ctx.workspace.locate path = .ok l)
    (hv : l ∈ w.visited) : processWithin ctx rounds w path = some (process ctx w path) := by
  simp [processWithin, process_met hl hv, enter, hl, hv]

theorem processWithin_unmet {l : Location} (hl : ctx.workspace.locate path = .ok l)
    (hv : l ∉ w.visited) :
    processWithin ctx rounds w path =
      runWithin ctx rounds (opening ctx w path l).walker (opening ctx w path l).stack := by
  simp [processWithin, enter, hl, hv, opening, Walker.meet, WalkContext.frame]

theorem eq_process_of_processWithin {r : Result Unit}
    (h : processWithin ctx rounds w path = some r) : r = process ctx w path := by
  rcases hl : ctx.workspace.locate path with fault | l
  · exact Option.some.inj (h.symm.trans (processWithin_unlocated hl))
  by_cases hv : l ∈ w.visited
  · exact Option.some.inj (h.symm.trans (processWithin_met hl hv))
  · rw [processWithin_unmet hl hv] at h
    rw [process_unmet hl hv]
    exact eq_run_of_runWithin h

/-- The rounds that the locations not met yet can take: one for each line, and one for each location. -/
def unmetRounds (t : FileTree) (visited : List Location) : Nat :=
  ∑ l ∈ t.places \ visited.toFinset, (t.lineCount l + 1)

def roundsLeft (ctx : WalkContext) (s : State) : Nat :=
  unmetRounds ctx.workspace.tree s.walker.visited + stackCost s.stack

theorem unmetRounds_cons {t : FileTree} {l : Location} {visited : List Location}
    (hl : l ∈ t.places) (hv : l ∉ visited) :
    unmetRounds t (l :: visited) + (t.lineCount l + 1) = unmetRounds t visited := by
  have hmem : l ∈ t.places \ visited.toFinset := by simp [hl, hv]
  unfold unmetRounds
  rw [List.toFinset_cons, Finset.sdiff_insert]
  exact Finset.sum_erase_add _ _ hmem

theorem mem_places_of_locate {l : Location}
    (hhere : ctx.workspace.tree.Canonical ctx.workspace.here)
    (hl : ctx.workspace.locate path = .ok l) : l ∈ ctx.workspace.tree.places :=
  FileTree.mem_places (Workspace.canonical_of_locate hhere hl)
    (Workspace.isSome_node?_of_locate hl)

theorem unmetRounds_meet (state : CommentState) {l : Location} {visited : List Location}
    (hhere : ctx.workspace.tree.Canonical ctx.workspace.here)
    (hl : ctx.workspace.locate path = .ok l) (hv : l ∉ visited) :
    unmetRounds ctx.workspace.tree (l :: visited) +
      readingCost (ctx.frame l path state).unread = unmetRounds ctx.workspace.tree visited := by
  have hcost := FileTree.readingCost_linesAt ctx.workspace.tree l
  rw [WalkContext.frame, hcost]
  exact unmetRounds_cons (mem_places_of_locate hhere hl) hv

theorem Step.roundsLeft_eq {s s' : State}
    (hhere : ctx.workspace.tree.Canonical ctx.workspace.here) (h : Step ctx s s') :
    roundsLeft ctx s = roundsLeft ctx s' + 1 := by
  -- In each case the topmost file has one line less, or nothing to read any more.
  have hread : ∀ {f : Frame} {d : Directive} {rest : List String}, Asks ctx f d rest →
      readingCost f.unread = readingCost (.ok rest) + 1 := by
    rintro f d rest ⟨line, hf, -⟩
    rw [hf]
    rfl
  cases h with
  | finish hf =>
    simp only [roundsLeft, stackCost_cons, stackCost_handOver, hf, Walker.emit, readingCost,
      List.length_nil]
    omega
  | keep hf hm =>
    simp only [roundsLeft, stackCost_cons, hf, Walker.emitKept, Frame.advance_unread, readingCost,
      List.length_cons]
    omega
  | skip hd ht hl =>
    simp only [roundsLeft, stackCost_cons, hread hd, Walker.ask, Frame.advance_unread]
    omega
  | @descend w f below d rest r l hd ht hl =>
    have hmeet := unmetRounds_meet (ctx.childState f.state) hhere ht.located hl
    simp only [roundsLeft, stackCost_cons, hread hd, Walker.ask, Walker.meet,
      Frame.advance_unread, ← hmeet]
    omega

theorem runWithin_of_roundsLeft_le {s : State}
    (hhere : ctx.workspace.tree.Canonical ctx.workspace.here) (h : roundsLeft ctx s ≤ rounds) :
    runWithin ctx rounds s.walker s.stack = some (run ctx s.walker s.stack) := by
  induction rounds generalizing s with
  | zero =>
    obtain ⟨w, _ | ⟨f, below⟩⟩ := s
    · simp
    · have hpos := readingCost_pos f.unread
      simp only [roundsLeft, stackCost_cons] at h
      omega
  | succ rounds ih =>
    obtain ⟨w, _ | ⟨f, below⟩⟩ := s
    · simp
    rcases step_or_halt ctx w f below with ⟨s', hs⟩ | ⟨e, w', hh⟩
    · have hleft := hs.roundsLeft_eq hhere
      have hle : roundsLeft ctx s' ≤ rounds := by omega
      rw [hs.runWithin_succ, hs.run_eq]
      exact ih hle
    · rw [hh.runWithin_succ, hh.run_eq]

theorem processWithin_unmetRounds (w : Walker) (path : Path)
    (hhere : ctx.workspace.tree.Canonical ctx.workspace.here) :
    processWithin ctx (unmetRounds ctx.workspace.tree w.visited) w path =
      some (process ctx w path) := by
  rcases hl : ctx.workspace.locate path with fault | l
  · exact processWithin_unlocated hl
  by_cases hv : l ∈ w.visited
  · exact processWithin_met hl hv
  · have hmeet := unmetRounds_meet .code hhere hl hv
    have hleft : roundsLeft ctx (opening ctx w path l) = unmetRounds ctx.workspace.tree w.visited := by
      rw [← hmeet, roundsLeft, opening, stackCost_cons]
      rfl
    rw [processWithin_unmet hl hv, process_unmet hl hv]
    exact runWithin_of_roundsLeft_le hhere (Nat.le_of_eq hleft)

/-- The loop of every call comes to an end: the number of its rounds is at most the number of lines at
the canonical locations that the walker had not met, with one more for each of these locations. This
takes no account of what the files ask for, nor by which paths. -/
theorem process_rounds_le (ctx : WalkContext) (w : Walker) (path : Path)
    (hhere : ctx.workspace.tree.Canonical ctx.workspace.here) :
    ∃ rounds ≤ ∑ l ∈ ctx.workspace.tree.places \ w.visited.toFinset,
        (ctx.workspace.tree.lineCount l + 1),
      processWithin ctx rounds w path = some (process ctx w path) ∧
        ∀ fewer < rounds, processWithin ctx fewer w path = none := by
  classical
  have hbound := processWithin_unmetRounds w path hhere
  have hends : ∃ rounds, processWithin ctx rounds w path = some (process ctx w path) := ⟨_, hbound⟩
  refine ⟨Nat.find hends, Nat.find_min' hends hbound, Nat.find_spec hends, ?_⟩
  intro fewer hfewer
  rcases hr : processWithin ctx fewer w path with _ | r
  · rfl
  · have hprocess := eq_process_of_processWithin hr
    exact absurd (hprocess ▸ hr) (Nat.find_min hends hfewer)

def detourContext : WalkContext where
  workspace := { tree := ⟨[(["s"], .directory),
    (["s", "a.js"], .file [35, 46, 46, 47, 115, 47, 98, 10, 120] 0),
    (["s", "b.js"], .file [35, 46, 46, 47, 115, 47, 97, 10] 0)]⟩ }
  resolve := Resolver.resolve {} (.ok [])
  matcher := .ofMarker "#" .quoted
  stripper := none
  carry := false

def detourVisited : List Location := [["s", "b.js"], ["s", "a.js"]]

/-- The two files have three lines, and with the two directories there are four locations. -/
theorem process_rounds_le_detour :
    detourContext.workspace.tree.Canonical detourContext.workspace.here ∧
    (process detourContext {} ⟨"s/a.js"⟩).2.visited = detourVisited ∧
    ∃ rounds ≤ 7, processWithin detourContext rounds {} ⟨"s/a.js"⟩ =
        some (process detourContext {} ⟨"s/a.js"⟩) ∧
      ∀ fewer < rounds, processWithin detourContext fewer {} ⟨"s/a.js"⟩ = none := by
  have hhere := FileTree.canonical_nil detourContext.workspace.tree
  have hvisited : (process detourContext {} ⟨"s/a.js"⟩).2.visited = detourVisited := by decide +kernel
  have hsum : ∑ l ∈ detourContext.workspace.tree.places \ ([] : List Location).toFinset,
      (detourContext.workspace.tree.lineCount l + 1) = 7 := by decide +kernel
  obtain ⟨rounds, hle, hends⟩ := process_rounds_le detourContext {} ⟨"s/a.js"⟩ hhere
  exact ⟨hhere, hvisited, rounds, hsum ▸ hle, hends⟩

end Walk

end ScriptBundle
