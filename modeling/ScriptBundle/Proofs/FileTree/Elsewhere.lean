import ScriptBundle.FileMeta
import ScriptBundle.FileTree.Change
import ScriptBundle.Proofs.FileTree.Beside
import ScriptBundle.Proofs.Path.Absolute

/-! # The current directory and absolute paths

Where relative paths start from is of no concern to absolute ones: they lead to the same places and change
the tree in the same way.
-/

namespace ScriptBundle

namespace Workspace

def standing (w : Workspace) (here : Location) : Workspace := { w with here }

variable {w : Workspace} {here : Location} {p : Path}

@[simp] theorem tree_standing : (w.standing here).tree = w.tree := rfl

@[simp] theorem withTree_standing (t : FileTree) :
    (w.standing here).withTree t = (w.withTree t).standing here := rfl

theorem arrive_standing (hp : p.isAbsolute) : (w.standing here).arrive p = w.arrive p := by
  simp [arrive, standing, hp]

theorem locate_standing (hp : p.isAbsolute) : (w.standing here).locate p = w.locate p := by
  rw [locate, locate, arrive_standing hp]
  rfl

theorem nodeAt?_standing (hp : p.isAbsolute) : (w.standing here).nodeAt? p = w.nodeAt? p := by
  rw [nodeAt?, nodeAt?, locate_standing hp]
  rfl

theorem isFile_standing (hp : p.isAbsolute) : (w.standing here).isFile p = w.isFile p := by
  rw [isFile, isFile, nodeAt?_standing hp]

theorem isDirectory_standing (hp : p.isAbsolute) :
    (w.standing here).isDirectory p = w.isDirectory p := by
  rw [isDirectory, isDirectory, nodeAt?_standing hp]

theorem read_standing (hp : p.isAbsolute) : (w.standing here).read p = w.read p := by
  rw [read, read, nodeAt?_standing hp]

theorem readText_standing (hp : p.isAbsolute) : (w.standing here).readText p = w.readText p := by
  rw [readText, readText, read_standing hp]

theorem stat_standing (hp : p.isAbsolute) : (w.standing here).stat p = w.stat p := by
  rw [stat, stat, nodeAt?_standing hp, locate_standing hp]
  rfl

theorem fileMeta_standing (hp : p.isAbsolute) (algorithm : Option HashAlgorithm) :
    (w.standing here).fileMeta p algorithm = w.fileMeta p algorithm := by
  simp only [fileMeta, hash, stat_standing hp, read_standing hp]

/-- An absolute path that leads to something else than a directory stands in an absolute directory. -/
theorem isAbsolute_directory_of_locate {l : Location} (hp : p.isAbsolute) (hl : w.locate p = .ok l)
    (hfile : ¬w.tree.isDirectoryAt l) : p.directory.isAbsolute := by
  refine Path.isAbsolute_directory hp fun hnone => hfile ?_
  have hidle := (Path.parent?_eq_none_iff hp).mp hnone
  have hroot : w.tree.isDirectoryAt [] := by simp [FileTree.isDirectoryAt]
  have hadvance : ∀ names, (∀ s ∈ names, Path.Cut.isIdle s) →
      w.tree.advance [] names = .ok (.found []) := by
    intro names hnames
    induction names with
    | nil => rfl
    | cons s rest ih =>
      obtain ⟨hs, hrest⟩ := List.forall_mem_cons.mp hnames
      simp [FileTree.advance, hroot, hs, ih hrest]
  have hfollow := (follow_of_locate hl).2.2
  rw [start, if_pos hp, FileTree.follow, hadvance _ hidle] at hfollow
  cases hfollow
  exact hroot

theorem locateNames_standing (hp : p.isAbsolute) (names : List RawText) :
    (w.standing here).locateNames p names = w.locateNames p names := by
  simp only [locateNames, hp, if_true]
  rfl

theorem vacancy_standing (hp : p.isAbsolute) : (w.standing here).vacancy p = w.vacancy p := by
  simp only [vacancy, locateNames_standing hp]
  rfl

theorem ensureDirectory_standing (hp : p.isAbsolute) :
    (w.standing here).ensureDirectory p = w.ensureDirectory p := by
  simp only [ensureDirectory, makeDirectory, vacancy_standing hp, isDirectory_standing hp, tree_standing]

theorem makeDirectoriesWithin_standing (hp : p.isAbsolute) (fuel : Nat) :
    makeDirectoriesWithin fuel (w.standing here) p = makeDirectoriesWithin fuel w p := by
  induction fuel generalizing p with
  | zero => rfl
  | succ fuel ih =>
    rcases hparent : p.parent? with _ | outer
    · simp only [makeDirectoriesWithin, ensureDirectory_standing hp, hparent, tree_standing]
    · have houter := ih (Path.isAbsolute_parent? hp hparent)
      simp only [makeDirectoriesWithin, ensureDirectory_standing hp, hparent, houter,
        withTree_standing, tree_standing]

theorem writingPlace_standing (hp : p.isAbsolute) :
    (w.standing here).writingPlace p = w.writingPlace p := by
  simp only [writingPlace, locateNames_standing hp, arrive_standing hp]
  rfl

theorem write_standing (hp : p.isAbsolute) (content : Octets) :
    (w.standing here).write p content = w.write p content := by
  rw [write, write, writingPlace_standing hp]
  rfl

end Workspace

end ScriptBundle
