import ScriptBundle.Proofs.FileTree.Shape

/-! # Other contents

Where paths lead, which files a search directory lists and what a name resolves to are matters of names
alone: none of it changes when the contents of the files do.
-/

namespace ScriptBundle

def FileNode.rewrite (g : Octets → Octets) : FileNode → FileNode
  | .file content modified => .file (g content) modified
  | .directory => .directory
  | .link target => .link target
  | .device => .device

theorem FileNode.outline_rewrite (n : FileNode) (g : Octets → Octets) :
    (n.rewrite g).outline = n.outline := by
  cases n <;> rfl

namespace FileTree

def rewrite (t : FileTree) (g : Location → Octets → Octets) : FileTree :=
  ⟨t.nodes.map fun e => (e.1, e.2.rewrite (g e.1))⟩

variable (t : FileTree) (g : Location → Octets → Octets)

theorem node?_rewrite (l : Location) :
    (t.rewrite g).node? l = (t.node? l).map (FileNode.rewrite (g l)) := by
  have key : ∀ entries : List (Location × FileNode),
      ((entries.map fun e => (e.1, e.2.rewrite (g e.1))).find? (·.1 == l)).map (·.2) =
        ((entries.find? (·.1 == l)).map (·.2)).map (FileNode.rewrite (g l)) := by
    intro entries
    induction entries with
    | nil => rfl
    | cons e rest ih =>
      by_cases he : e.1 = l
      · simp [he]
      · simpa [he] using ih
  exact key t.all

theorem entries_rewrite (l : Location) :
    (t.rewrite g).entries l =
      (t.entries l).map fun e => (e.1, e.2.rewrite (g (l ++ [e.1]))) := by
  unfold entries rewrite
  rw [List.filterMap_map, List.map_filterMap]
  congr 1
  funext e
  rcases List.eq_nil_or_concat e.1 with he | ⟨d, s, he⟩
  · simp [he]
  · by_cases hd : d = l
    · simp [he, hd]
    · simp [he, hd]

theorem sameShape_rewrite : t.SameShape (t.rewrite g) where
  nodes := fun l => by
    rw [node?_rewrite, Option.map_map]
    congr 1
    funext n
    exact (n.outline_rewrite (g l)).symm
  listings := fun l => by
    rw [entries_rewrite, List.map_map]
    refine List.Perm.of_eq (List.map_congr_left fun e _ => ?_)
    simp only [Function.comp_apply, FileNode.outline_rewrite]

end FileTree

namespace Workspace

def rewrite (w : Workspace) (g : Location → Octets → Octets) : Workspace :=
  { w with tree := w.tree.rewrite g }

variable (w : Workspace) (g : Location → Octets → Octets)

@[simp] theorem tree_rewrite : (w.rewrite g).tree = w.tree.rewrite g := rfl

theorem sameShape_rewrite : w.SameShape (w.rewrite g) := ⟨w.tree.sameShape_rewrite g, rfl⟩

@[simp] theorem locate_rewrite (p : Path) : (w.rewrite g).locate p = w.locate p :=
  (w.sameShape_rewrite g).locate_eq p

end Workspace

/-- What the walks of a request depend on does not change with the contents of the files, but for the
files. -/
theorem Preprocessor.context_rewrite (p : Preprocessor) (w : Workspace)
    (g : Location → Octets → Octets) :
    p.context (w.rewrite g) = { p.context w with workspace := w.rewrite g } :=
  (w.sameShape_rewrite g).context_eq p

end ScriptBundle
