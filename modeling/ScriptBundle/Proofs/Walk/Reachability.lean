import Mathlib.Control.Monad.Basic
import ScriptBundle.Proofs.FileTree.Beside
import ScriptBundle.Proofs.FileTree.Rewrite
import ScriptBundle.Proofs.Walk.RequireGraph

/-! # Bundles and reachability

In a tree without links a quoted name is looked for in the directory above the requiring file, whatever
the file was called, and a name in angles is looked for in the same places everywhere. So requests are a
matter of the require graph: a bundle holds the files that the graph reaches from its entry.
-/

namespace ScriptBundle

namespace Walk

variable {p : Preprocessor} {ws : Workspace}

theorem leads_angle_iff {ctx : WalkContext} {path path' : Path} {d : Directive} {r : Resolved}
    {target : Location} (hd : d.kind = .angle) :
    Leads ctx path d r target ↔ Leads ctx path' d r target := by
  have hbase : d.base path = d.base path' := by simp [Directive.base, hd]
  constructor
  · exact fun h => ⟨hbase ▸ h.resolved, h.located⟩
  · exact fun h => ⟨hbase ▸ h.resolved, h.located⟩

theorem leads_quoted_iff {path : Path} {d : Directive} {target : Location}
    (hd : d.kind = .quoted) :
    (∃ r, Leads (p.context ws) path d r target) ↔
      ws.locate (path.directory.join ⟨LogicalName.fileName d.target⟩) = .ok target := by
  have hresolve : (p.context ws).resolve d.target (d.base path) =
      .ok (Resolver.beside d.target path.directory) := by
    simp [Preprocessor.context, Directive.base, hd, Resolver.resolve]
  constructor
  · rintro ⟨r, hr⟩
    obtain rfl : r = Resolver.beside d.target path.directory :=
      Except.ok.inj (hr.resolved.symm.trans hresolve)
    simpa only [Preprocessor.context, Resolver.beside] using hr.located
  · intro h
    refine ⟨_, hresolve, ?_⟩
    simpa only [Preprocessor.context, Resolver.beside] using h

theorem spellingFree_context (p : Preprocessor) (ht : ws.tree.Linkless) (hhere : ws.Placed) :
    SpellingFree (p.context ws) := by
  intro path l d target hl hread
  have hlocation : ws.locate (Location.path l) = .ok l := hhere.locate_path ht hl
  rcases hd : d.kind with _ | _
  · rw [leads_quoted_iff hd, leads_quoted_iff hd]
    refine Workspace.locate_beside_congr ht hhere.canonical hl hlocation hread.not_directory ?_
    simp [LogicalName.fileName, LogicalName.extension]
  · exact exists_congr fun r => leads_angle_iff hd

def ReachedFrom (ctx : WalkContext) (entry : Path) (l : Location) : Prop :=
  ∃ e, ctx.workspace.locate entry = .ok e ∧ Relation.ReflTransGen (Needs ctx) e l

theorem process_iff_reached {ctx : WalkContext} (hctx : SpellingFree ctx) (entry : Path) :
    ((process ctx {} entry).1 = .ok () ↔
      (∃ e, ctx.workspace.locate entry = .ok e) ∧ ∀ l, ReachedFrom ctx entry l → Whole ctx l) ∧
    ((process ctx {} entry).1 = .ok () →
      ∀ l, l ∈ (process ctx {} entry).2.visited ↔ ReachedFrom ctx entry l) := by
  rcases hl : ctx.workspace.locate entry with fault | e
  · simp [process_unlocated hl]
  have hreached : ∀ l, ReachedFrom ctx entry l ↔ Relation.ReflTransGen (Needs ctx) e l := by
    simp [ReachedFrom, hl]
  constructor
  · simp [process_ok_iff hctx hl, hreached]
  · intro hok l
    rw [visited_iff_of_process hctx hl hok, hreached]

/-- Contents that hold the same directives, in any order and any number of times. -/
def SameDirectives (m : Matcher) (g : Location → Octets → Octets) : Prop :=
  ∀ l content d, d ∈ (textLines (g l content)).filterMap m ↔ d ∈ (textLines content).filterMap m

variable {g : Location → Octets → Octets}

theorem holds_iff {ctx : WalkContext} {l : Location} {d : Directive} :
    Holds ctx l d ↔ ∃ n content, ctx.workspace.tree.node? l = some n ∧ n.content = .ok content ∧
      d ∈ (textLines content).filterMap ctx.matcher := by
  unfold Holds FileTree.linesAt
  rcases ctx.workspace.tree.node? l with _ | n
  · simp
  rcases hc : n.content with fault | content
  · simp [hc, Except.map]
  · simp [hc, Except.map]

theorem holds_rewrite (hg : SameDirectives p.matcher g) (l : Location) (d : Directive) :
    Holds (p.context (ws.rewrite g)) l d ↔ Holds (p.context ws) l d := by
  rw [holds_iff, holds_iff]
  simp only [Preprocessor.context, Workspace.tree_rewrite, FileTree.node?_rewrite]
  rcases ws.tree.node? l with _ | n
  · simp
  · cases n with
    | file content modified => simpa [FileNode.rewrite, FileNode.content] using hg l content d
    | _ => simp [FileNode.rewrite, FileNode.content]

theorem readable_rewrite (ws : Workspace) (g : Location → Octets → Octets) (l : Location) :
    Readable (ws.rewrite g).tree l ↔ Readable ws.tree l := by
  unfold Readable
  rw [Workspace.tree_rewrite, FileTree.node?_rewrite]
  rcases ws.tree.node? l with _ | n
  · simp
  · cases n <;> simp [FileNode.rewrite]

theorem leads_rewrite (p : Preprocessor) (ws : Workspace) (g : Location → Octets → Octets)
    {path : Path} {d : Directive} {r : Resolved} {target : Location} :
    Leads (p.context (ws.rewrite g)) path d r target ↔ Leads (p.context ws) path d r target := by
  rw [Preprocessor.context_rewrite]
  constructor
  · rintro ⟨hr, hl⟩
    exact ⟨hr, (Workspace.locate_rewrite ws g r.path).symm.trans hl⟩
  · rintro ⟨hr, hl⟩
    exact ⟨hr, (Workspace.locate_rewrite ws g r.path).trans hl⟩

theorem graph_rewrite (hg : SameDirectives p.matcher g) :
    Needs (p.context (ws.rewrite g)) = Needs (p.context ws) ∧
      Whole (p.context (ws.rewrite g)) = Whole (p.context ws) := by
  constructor
  · funext l target
    simp only [Needs, holds_rewrite hg, leads_rewrite]
  · funext l
    refine propext ⟨fun h => ⟨?_, ?_⟩, fun h => ⟨?_, ?_⟩⟩
    · exact (readable_rewrite ws g l).mp h.readable
    · intro d hd
      obtain ⟨r, target, hr⟩ := h.resolves d ((holds_rewrite hg l d).mpr hd)
      exact ⟨r, target, (leads_rewrite p ws g).mp hr⟩
    · exact (readable_rewrite ws g l).mpr h.readable
    · intro d hd
      obtain ⟨r, target, hr⟩ := h.resolves d ((holds_rewrite hg l d).mp hd)
      exact ⟨r, target, (leads_rewrite p ws g).mpr hr⟩

theorem reachedFrom_rewrite (hg : SameDirectives p.matcher g) (entry : Path) (l : Location) :
    ReachedFrom (p.context (ws.rewrite g)) entry l ↔ ReachedFrom (p.context ws) entry l := by
  unfold ReachedFrom
  rw [(graph_rewrite hg).1]
  simp [Preprocessor.context]

end Walk

namespace FileTree

theorem Linkless.rewrite {t : FileTree} (ht : t.Linkless) (g : Location → Octets → Octets) :
    (t.rewrite g).Linkless := by
  intro l target h
  rw [node?_rewrite] at h
  obtain ⟨n, hn, he⟩ := Option.map_eq_some_iff.mp h
  cases n with
  | link target' => exact ht l target' hn
  | _ => cases he

end FileTree

theorem Workspace.Placed.rewrite {ws : Workspace} (h : ws.Placed)
    (g : Location → Octets → Octets) : (ws.rewrite g).Placed := by
  rw [Placed, locate_rewrite]
  exact h

namespace Walk

theorem bundle_ok_iff (p : Preprocessor) {ws : Workspace} (ht : ws.tree.Linkless)
    (hhere : ws.Placed) (entry : Path) :
    ((∃ b, (p.bundle ws entry).1 = .ok b) ↔
      (∃ e, ws.locate entry = .ok e) ∧
        ∀ l, ReachedFrom (p.context ws) entry l → Whole (p.context ws) l) ∧
    ∀ b, (p.bundle ws entry).1 = .ok b →
      ∀ l, l ∈ b.inclusions.map (·.location) ↔ ReachedFrom (p.context ws) entry l := by
  obtain ⟨hok, hvisited⟩ := process_iff_reached (spellingFree_context p ht hhere) entry
  have hcoherent := process_preserves_coherent (coherent_empty (p.context ws).workspace) entry
  constructor
  · refine Iff.trans ?_ hok
    constructor
    · rintro ⟨b, hb⟩
      exact (Preprocessor.bundle_eq_ok_iff.mp hb).1
    · exact fun h => ⟨_, Preprocessor.bundle_eq_ok_iff.mpr ⟨h, rfl⟩⟩
  · intro b hb l
    obtain ⟨hsuccess, rfl⟩ := Preprocessor.bundle_eq_ok_iff.mp hb
    rw [← hvisited hsuccess l, hcoherent.visited_eq]
    simp [Walker.bundle]

/-- In a tree without links a request succeeds if and only if its entry is there and every file that the
require graph reaches from the entry can be read and has no directive that leads nowhere. The bundle then
holds exactly these files, so neither the order of the directives in the files nor how often they are
repeated makes a difference. -/
theorem bundle_iff_reachable_whole (p : Preprocessor) {ws : Workspace} (ht : ws.tree.Linkless)
    (hhere : ws.Placed) (entry : Path) :
    ((∃ b, (p.bundle ws entry).1 = .ok b) ↔
      (∃ e, ws.locate entry = .ok e) ∧
        ∀ l, ReachedFrom (p.context ws) entry l → Whole (p.context ws) l) ∧
    (∀ b, (p.bundle ws entry).1 = .ok b →
      ∀ l, l ∈ b.inclusions.map (·.location) ↔ ReachedFrom (p.context ws) entry l) ∧
    ∀ g, SameDirectives p.matcher g →
      ((∃ b, (p.bundle (ws.rewrite g) entry).1 = .ok b) ↔ ∃ b, (p.bundle ws entry).1 = .ok b) ∧
      ∀ b b', (p.bundle ws entry).1 = .ok b → (p.bundle (ws.rewrite g) entry).1 = .ok b' →
        ∀ l, l ∈ b'.inclusions.map (·.location) ↔ l ∈ b.inclusions.map (·.location) := by
  obtain ⟨hok, hholds⟩ := bundle_ok_iff p ht hhere entry
  refine ⟨hok, hholds, fun g hg => ?_⟩
  obtain ⟨hok', hholds'⟩ := bundle_ok_iff p (ht.rewrite g) (hhere.rewrite g) entry
  constructor
  · rw [hok, hok', (graph_rewrite hg).2]
    simp only [reachedFrom_rewrite hg, Workspace.locate_rewrite]
  · intro b b' hb hb' l
    rw [hholds b hb, hholds' b' hb', reachedFrom_rewrite hg]

theorem linkless_of_nodes {t : FileTree} (h : ∀ e ∈ t.nodes, ∀ target, e.2 ≠ .link target) :
    t.Linkless := by
  intro l target hn
  rcases List.mem_cons.mp (FileTree.mem_all_of_node? hn) with he | he
  · cases he
  · exact h _ he target rfl

def mutualWorkspace : Workspace where
  tree := ⟨[(["a.js"], .file [35, 98, 10, 35, 46, 47, 98, 10] 0), (["b.js"], .file [35, 97, 10] 0)]⟩

def quotingPreprocessor : Preprocessor where
  searchPaths := []
  roots := .ofApp ⟨"/"⟩
  matcher := .ofMarker "#" .quoted
  stripper := none
  carry := false

def swapLines (content : Octets) : Octets :=
  if content = [35, 98, 10, 35, 46, 47, 98, 10] then [35, 46, 47, 98, 10, 35, 98, 10] else content

theorem sameDirectives_swapLines :
    SameDirectives quotingPreprocessor.matcher fun _ => swapLines := by
  intro l content d
  by_cases hc : content = [35, 98, 10, 35, 46, 47, 98, 10]
  · have hold : (textLines content).filterMap quotingPreprocessor.matcher =
        [⟨.quoted, "b"⟩, ⟨.quoted, "./b"⟩] := by
      rw [hc]
      decide +kernel
    have hnew : (textLines (swapLines content)).filterMap quotingPreprocessor.matcher =
        [⟨.quoted, "./b"⟩, ⟨.quoted, "b"⟩] := by
      rw [hc]
      decide +kernel
    rw [hold, hnew]
    simp [or_comm]
  · simp only [swapLines, if_neg hc]

/-- The graph reaches both files from either spelling of the entry, and a swap of lines changes nothing. -/
theorem bundle_iff_reachable_whole_mutual :
    mutualWorkspace.tree.Linkless ∧ mutualWorkspace.Placed ∧
    (∀ l, ReachedFrom (quotingPreprocessor.context mutualWorkspace) ⟨".//a.js"⟩ l ↔
      l = (["a.js"] : Location) ∨ l = (["b.js"] : Location)) ∧
    (∀ l, ReachedFrom (quotingPreprocessor.context mutualWorkspace) ⟨".//a.js"⟩ l →
      Whole (quotingPreprocessor.context mutualWorkspace) l) ∧
    ∃ b, (quotingPreprocessor.bundle (mutualWorkspace.rewrite fun _ => swapLines)
      ⟨".//a.js"⟩).1 = .ok b := by
  have ht : mutualWorkspace.tree.Linkless :=
    linkless_of_nodes (by simp [mutualWorkspace])
  have hhere : mutualWorkspace.Placed := show mutualWorkspace.locate ⟨"/"⟩ = .ok [] by decide +kernel
  obtain ⟨hiff, hholds, hrewrite⟩ :=
    bundle_iff_reachable_whole quotingPreprocessor ht hhere ⟨".//a.js"⟩
  obtain ⟨b, hb, hlocations⟩ : ∃ b,
      (quotingPreprocessor.bundle mutualWorkspace ⟨".//a.js"⟩).1 = .ok b ∧
        b.inclusions.map (·.location) = ([["a.js"], ["b.js"]] : List Location) := by
    have hok : (process (quotingPreprocessor.context mutualWorkspace) {} ⟨".//a.js"⟩).1 = .ok () := by
      decide +kernel
    refine ⟨_, Preprocessor.bundle_eq_ok_iff.mpr ⟨hok, rfl⟩, ?_⟩
    decide +kernel
  refine ⟨ht, hhere, fun l => ?_, (hiff.mp ⟨b, hb⟩).2, ?_⟩
  · rw [← hholds b hb l, hlocations]
    simp
  · exact (hrewrite _ sameDirectives_swapLines).1.mpr ⟨b, hb⟩

def deviceWorkspace : Workspace where
  tree := ⟨[(["dev"], .directory), (["dev", "null"], .device)]⟩

theorem bundle_device :
    deviceWorkspace.tree.Linkless ∧ deviceWorkspace.Placed ∧
    ¬((∃ b, (quotingPreprocessor.bundle deviceWorkspace ⟨"/dev/null"⟩).1 = .ok b) ↔
      (∃ e, deviceWorkspace.locate ⟨"/dev/null"⟩ = .ok e) ∧
        ∀ l, ReachedFrom (quotingPreprocessor.context deviceWorkspace) ⟨"/dev/null"⟩ l →
          (∃ content modified, deviceWorkspace.tree.node? l = some (.file content modified)) ∧
          ∀ d, Holds (quotingPreprocessor.context deviceWorkspace) l d →
            ∃ r target, Leads (quotingPreprocessor.context deviceWorkspace) (Location.path l) d r
              target) := by
  have hlocate : deviceWorkspace.locate ⟨"/dev/null"⟩ = .ok ["dev", "null"] := by decide +kernel
  have hok : (process (quotingPreprocessor.context deviceWorkspace) {} ⟨"/dev/null"⟩).1 = .ok () := by
    decide +kernel
  refine ⟨linkless_of_nodes (by simp [deviceWorkspace]),
    show deviceWorkspace.locate ⟨"/"⟩ = .ok [] by decide +kernel, fun h => ?_⟩
  have hregular := (h.mp ⟨_, Preprocessor.bundle_eq_ok_iff.mpr ⟨hok, rfl⟩⟩).2
  obtain ⟨⟨content, modified, hn⟩, -⟩ := hregular ["dev", "null"] ⟨_, hlocate, .refl⟩
  cases hn

end Walk

end ScriptBundle
