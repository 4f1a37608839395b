import Mathlib.Control.Monad.Basic
import ScriptBundle.Proofs.FileTree.Rewrite
import ScriptBundle.Proofs.Walk.InclusionRules

/-! # What a walk depends on

A walk reads no file before it has logged it. Two trees of one shape that agree on what the logged files
hold are therefore the same to a walk, also to one that fails: of the surroundings, the rules of inclusion
look at the shape, and at the files that they log.
-/

namespace ScriptBundle

namespace FileTree

def contentAt? (t : FileTree) (l : Location) : Option (Except FileFault Octets) :=
  (t.node? l).map FileNode.content

theorem linesAt_eq_of_contentAt? {t t' : FileTree} {l : Location}
    (h : t'.contentAt? l = t.contentAt? l) : t'.linesAt l = t.linesAt l := by
  have hlines : ∀ t : FileTree, t.linesAt l =
      match t.contentAt? l with
      | some content => content.map textLines
      | none => .error .missing := by
    intro t
    unfold linesAt contentAt?
    cases t.node? l <;> rfl
  rw [hlines t, hlines t', h]

theorem linesAt_of_contentAt? {t : FileTree} {l : Location} {content : Octets}
    (h : t.contentAt? l = some (.ok content)) : t.linesAt l = .ok (textLines content) := by
  obtain ⟨n, hn, hcontent⟩ := Option.map_eq_some_iff.mp h
  rw [linesAt, hn]
  simp only [hcontent, Except.map]

theorem contentAt?_rewrite {t : FileTree} {g : Location → Octets → Octets} {l : Location}
    (hg : ∀ content, g l content = content) : (t.rewrite g).contentAt? l = t.contentAt? l := by
  have hnode : ∀ n : FileNode, (n.rewrite (g l)).content = n.content := by
    intro n
    cases n with
    | file content modified => exact congrArg Except.ok (hg content)
    | _ => rfl
  unfold contentAt?
  rw [node?_rewrite, Option.map_map]
  congr 1
  funext n
  exact hnode n

end FileTree

namespace Walk

/-- Two trees hold the same in the files of a log. -/
def AgreeOn (log : List Inclusion) (t t' : FileTree) : Prop :=
  ∀ i ∈ log, t'.contentAt? i.location = t.contentAt? i.location

variable {ctx : WalkContext} {ws : Workspace}

theorem seesAlike_of_agreeOn {y : Yield} (hshape : ctx.workspace.SameShape ws)
    (hagree : AgreeOn y.inclusions ctx.workspace.tree ws.tree) :
    SeesAlike ctx ws ctx.resolve y where
  locate := hshape.locate_eq
  resolve := fun _ _ _ => rfl
  lines := fun i hi => FileTree.linesAt_eq_of_contentAt? (hagree i hi)

theorem process_over (hshape : ctx.workspace.SameShape ws) (path : Path)
    (hagree : AgreeOn (process ctx {} path).2.inclusions ctx.workspace.tree ws.tree) :
    process (within ctx ws ctx.resolve) {} path = process ctx {} path := by
  have hlog : (process ctx {} path).2.inclusions =
      (includeFile ctx [] 0 path none .code).2.inclusions.reverse := by
    simp [process_eq_extend, Walker.extend]
  apply process_within
  apply seesAlike_of_agreeOn hshape
  intro i hi
  exact hagree i (by rwa [hlog, List.mem_reverse])

theorem bundle_over (p : Preprocessor) {ws ws' : Workspace} (hshape : ws.SameShape ws')
    (entry : Path)
    (hagree : AgreeOn (process (p.context ws) {} entry).2.inclusions ws.tree ws'.tree) :
    process (p.context ws') {} entry = process (p.context ws) {} entry ∧
      p.bundle ws' entry = p.bundle ws entry := by
  have hprocess : process (p.context ws') {} entry = process (p.context ws) {} entry := by
    rw [hshape.context_eq]
    exact process_over hshape entry hagree
  refine ⟨hprocess, ?_⟩
  unfold Preprocessor.bundle Preprocessor.afterWalk Preprocessor.keepIndex
  rw [hprocess, hshape.indexIn_eq]

/-- A request depends on the shape of the tree and on the files that it logs: over another tree of the same
shape that agrees in these files it does the same, step for step, and has the same outcome, output and log,
whether it succeeds or fails. So other files may hold whatever they like. -/
theorem bundle_depends_on_log (p : Preprocessor) (ws : Workspace) (entry : Path) :
    let log := (process (p.context ws) {} entry).2.inclusions
    (∀ ws', ws.SameShape ws' → AgreeOn log ws.tree ws'.tree →
      process (p.context ws') {} entry = process (p.context ws) {} entry ∧
        p.bundle ws' entry = p.bundle ws entry) ∧
    ∀ g : Location → Octets → Octets, (∀ i ∈ log, ∀ content, g i.location content = content) →
      process (p.context (ws.rewrite g)) {} entry = process (p.context ws) {} entry ∧
        p.bundle (ws.rewrite g) entry = p.bundle ws entry := by
  intro log
  constructor
  · intro ws' hshape hagree
    exact bundle_over p hshape entry hagree
  · intro g hg
    refine bundle_over p (ws.sameShape_rewrite g) entry fun i hi => ?_
    exact FileTree.contentAt?_rewrite (hg i hi)

def failingWorkspace : Workspace where
  tree := ⟨[(["a.js"], .file [35, 98, 10, 35, 103, 10] 0), (["b.js"], .file [120, 10] 0),
    (["c.js"], .file [121, 10] 0)]⟩

def changedWorkspace : Workspace where
  tree := ⟨[(["c.js"], .file [35, 97, 10, 122] 7), (["b.js"], .file [120, 10] 8),
    (["a.js"], .file [35, 98, 10, 35, 103, 10] 9)]⟩

def searchingPreprocessor : Preprocessor where
  searchPaths := []
  roots := .ofApp ⟨"/"⟩
  matcher := .ofMarker "#" .angle
  stripper := none
  carry := false
  index := some [⟨⟨"/"⟩, ["a.js", "b.js", "c.js"]⟩]

theorem sameShape_changed : failingWorkspace.SameShape changedWorkspace := by
  refine ⟨⟨fun l => ?_, fun l => ?_⟩, rfl⟩
  · by_cases ha : l = (["a.js"] : Location)
    · subst ha
      rfl
    by_cases hb : l = (["b.js"] : Location)
    · subst hb
      rfl
    by_cases hc : l = (["c.js"] : Location)
    · subst hc
      rfl
    simp [FileTree.node?, FileTree.all, failingWorkspace, changedWorkspace, List.find?_cons,
      Ne.symm ha, Ne.symm hb, Ne.symm hc]
  · by_cases hl : l = []
    · subst hl
      decide
    · simp [FileTree.entries, failingWorkspace, changedWorkspace, Ne.symm hl]

/-- The request fails at the second directive, over the changed tree as over the first one. -/
theorem bundle_depends_on_log_failing :
    (searchingPreprocessor.bundle failingWorkspace ⟨"/a.js"⟩).1 =
        .error (.unresolved "g" (some ⟨"/a.js"⟩)) ∧
      failingWorkspace.SameShape changedWorkspace ∧
      searchingPreprocessor.bundle changedWorkspace ⟨"/a.js"⟩ =
        searchingPreprocessor.bundle failingWorkspace ⟨"/a.js"⟩ ∧
      searchingPreprocessor.bundle (failingWorkspace.rewrite fun l content =>
          if l = (["c.js"] : Location) then [] else content) ⟨"/a.js"⟩ =
        searchingPreprocessor.bundle failingWorkspace ⟨"/a.js"⟩ := by
  obtain ⟨hchanged, hrewritten⟩ :=
    bundle_depends_on_log searchingPreprocessor failingWorkspace ⟨"/a.js"⟩
  have hlog : (process (searchingPreprocessor.context failingWorkspace) {} ⟨"/a.js"⟩).2.inclusions =
      [⟨["b.js"], some ⟨⟨.angle, "b"⟩, ⟨"/a.js"⟩, 1, .searchPath⟩, 1⟩, ⟨["a.js"], none, 0⟩] := by
    decide +kernel
  rw [hlog] at hchanged hrewritten
  refine ⟨by decide +kernel, sameShape_changed, ?_, ?_⟩
  · refine (hchanged changedWorkspace sameShape_changed ?_).2
    simp only [AgreeOn, List.forall_mem_cons, List.not_mem_nil, false_implies, implies_true]
    exact ⟨rfl, rfl, trivial⟩
  · refine (hrewritten _ ?_).2
    simp

end Walk

end ScriptBundle
