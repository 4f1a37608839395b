import Mathlib.Control.Monad.Basic
import ScriptBundle.Proofs.FileTree.Canonical
import ScriptBundle.Proofs.Walk.Inclusion

/-! # Coherent walkers

A walker may be used for many calls, and a call that fails leaves behind what it had done. Through all of
them the files met are those of the log, each of them once and under its canonical location, and calls
only add. Whether the calls succeed plays no part.
-/

namespace ScriptBundle

structure Walker.Coherent (ws : Workspace) (w : Walker) : Prop where
  visited_eq : w.visited = w.inclusions.map (·.location)
  nodup : w.visited.Nodup
  located : ∀ l ∈ w.visited, ∃ p, ws.locate p = .ok l

namespace Walk

variable {ctx : WalkContext} {ws : Workspace} {w w' : Walker}

theorem coherent_empty (ws : Workspace) : Walker.Coherent ws {} :=
  ⟨rfl, List.nodup_nil, by simp⟩

theorem coherent_meet {l : Location} {p : Path} {origin : Option Origin} {depth : Nat}
    (hw : w.Coherent ws) (hl : ws.locate p = .ok l) (hv : l ∉ w.visited) :
    (w.meet l origin depth).Coherent ws where
  visited_eq := by simp [Walker.meet, hw.visited_eq]
  nodup := List.nodup_cons.mpr ⟨hv, hw.nodup⟩
  located := by
    intro m hm
    rcases List.mem_cons.mp hm with rfl | hm
    · exact ⟨p, hl⟩
    · exact hw.located m hm

/-- Output and questions to the search index are no concern of the log. -/
theorem coherent_congr (hw : w.Coherent ws) (hv : w'.visited = w.visited)
    (hi : w'.inclusions = w.inclusions) : w'.Coherent ws where
  visited_eq := by rw [hv, hi, hw.visited_eq]
  nodup := hv ▸ hw.nodup
  located := hv ▸ hw.located

theorem step_preserves_coherent {s s' : State} (hs : s.walker.Coherent ctx.workspace)
    (h : Step ctx s s') : s'.walker.Coherent ctx.workspace := by
  cases h with
  | finish hf => exact coherent_congr hs rfl rfl
  | keep hf hm => exact coherent_congr hs rfl rfl
  | skip hd ht hl => exact coherent_congr hs rfl rfl
  | descend hd ht hl =>
    exact coherent_meet (coherent_congr hs rfl rfl) ht.located hl

theorem halt_preserves_coherent {s : State} {e : BundleError}
    (hs : s.walker.Coherent ctx.workspace) (h : Halt ctx s e w') :
    w'.Coherent ctx.workspace := by
  cases h with
  | unreadable hf => exact hs
  | unresolved hd hr => exact coherent_congr hs rfl rfl
  | unlocated hd hr hl => exact coherent_congr hs rfl rfl

theorem process_preserves_coherent (hw : w.Coherent ctx.workspace) (path : Path) :
    (process ctx w path).2.Coherent ctx.workspace :=
  process_preserves (P := fun s => s.walker.Coherent ctx.workspace)
    (fun _ _ _ h hl hv => coherent_meet h hl hv) (fun _ _ => step_preserves_coherent)
    (fun _ _ _ => halt_preserves_coherent) hw path

theorem processAll_preserves_coherent (hw : w.Coherent ctx.workspace) (paths : List Path) :
    (processAll ctx w paths).2.Coherent ctx.workspace :=
  processAll_preserves (P := fun w => w.Coherent ctx.workspace)
    (fun _ path h => process_preserves_coherent h path) hw paths

theorem process_appends (ctx : WalkContext) (w : Walker) (path : Path) :
    (∃ text, (process ctx w path).2.bundle.output = w.bundle.output ++ text) ∧
      w.bundle.inclusions <+: (process ctx w path).2.bundle.inclusions := by
  rw [process_eq_extend, bundle_extend]
  exact ⟨⟨_, rfl⟩, List.prefix_append _ _⟩

/-- Any sequence of calls, failing or not, meets every file at most once and under the location that
its paths lead to, whatever they are called; a further call only adds, and it does nothing at all where
the file has been met. Canonical locations need the current directory to be at one. -/
theorem calls_meet_files_once (ctx : WalkContext) (paths : List Path) :
    let w := (processAll ctx {} paths).2
    ((w.inclusions.map (·.location)).Nodup ∧
      (∀ l, l ∈ w.visited ↔ l ∈ w.inclusions.map (·.location)) ∧
      (∀ i ∈ w.inclusions, ∃ p, ctx.workspace.locate p = .ok i.location) ∧
      (ctx.workspace.tree.Canonical ctx.workspace.here →
        ∀ i ∈ w.inclusions, ctx.workspace.tree.Canonical i.location)) ∧
    ∀ path,
      (∃ text, (process ctx w path).2.bundle.output = w.bundle.output ++ text) ∧
      w.bundle.inclusions <+: (process ctx w path).2.bundle.inclusions ∧
      ∀ l, ctx.workspace.locate path = .ok l → l ∈ w.visited →
        process ctx w path = (.ok (), w) := by
  intro w
  have hw : w.Coherent ctx.workspace :=
    processAll_preserves_coherent (coherent_empty ctx.workspace) paths
  have hlocated : ∀ i ∈ w.inclusions, ∃ p, ctx.workspace.locate p = .ok i.location := by
    intro i hi
    exact hw.located _ (hw.visited_eq ▸ List.mem_map_of_mem hi)
  refine ⟨⟨hw.visited_eq ▸ hw.nodup, fun l => by rw [hw.visited_eq], hlocated, ?_⟩, ?_⟩
  · intro hhere i hi
    obtain ⟨p, hp⟩ := hlocated i hi
    exact Workspace.canonical_of_locate hhere hp
  · intro path
    obtain ⟨hout, hlog⟩ := process_appends ctx w path
    exact ⟨hout, hlog, fun l hl hv => process_met hl hv⟩

def linkedContext : WalkContext where
  workspace := { tree := ⟨[(["a.js"], .file [97, 10] 0), (["b.js"], .link ⟨"a.js"⟩)]⟩ }
  resolve := Resolver.resolve {} (.ok [])
  matcher := .ofMarker "#" .quoted
  stripper := none
  carry := false

/-- A file that has been met is not met again through a link to it. -/
theorem calls_meet_linked_file_once :
    linkedContext.workspace.tree.Canonical linkedContext.workspace.here ∧
    linkedContext.workspace.locate ⟨"b.js"⟩ = .ok ["a.js"] ∧
    (["a.js"] : Location) ∈ (processAll linkedContext {} [⟨"/a.js"⟩]).2.visited ∧
    (∀ i ∈ (processAll linkedContext {} [⟨"/a.js"⟩]).2.inclusions,
      linkedContext.workspace.tree.Canonical i.location) ∧
    process linkedContext (processAll linkedContext {} [⟨"/a.js"⟩]).2 ⟨"b.js"⟩ =
      (.ok (), (processAll linkedContext {} [⟨"/a.js"⟩]).2) := by
  obtain ⟨⟨-, -, -, hcanonical⟩, hcalls⟩ := calls_meet_files_once linkedContext [⟨"/a.js"⟩]
  have hhere := FileTree.canonical_nil linkedContext.workspace.tree
  have hlocate : linkedContext.workspace.locate ⟨"b.js"⟩ = .ok ["a.js"] := by decide +kernel
  have hvisited : (["a.js"] : Location) ∈ (processAll linkedContext {} [⟨"/a.js"⟩]).2.visited := by
    decide +kernel
  exact ⟨hhere, hlocate, hvisited, hcanonical hhere,
    (hcalls ⟨"b.js"⟩).2.2 _ hlocate hvisited⟩

end Walk

end ScriptBundle
