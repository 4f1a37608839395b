import ScriptBundle.Preprocessor

/-! # The shape of a file tree

Two trees have one shape if the same directories, files, links and devices stand at the same locations;
what the files hold and when they were written is left open. Where paths lead, what the search directories
list and what a name resolves to are matters of shape.
-/

namespace ScriptBundle

/-- What a node is apart from what a file holds. -/
def FileNode.outline : FileNode → FileNode
  | .file _ _ => .file [] 0
  | .directory => .directory
  | .link target => .link target
  | .device => .device

/-- The same kinds of things stand at the same locations, and directories list the same entries, in
whatever order the trees name them. -/
structure FileTree.SameShape (t t' : FileTree) : Prop where
  nodes : ∀ l, (t.node? l).map FileNode.outline = (t'.node? l).map FileNode.outline
  listings : ∀ l, ((t.entries l).map fun e => (e.1, e.2.outline)).Perm
    ((t'.entries l).map fun e => (e.1, e.2.outline))

structure Workspace.SameShape (w w' : Workspace) : Prop where
  tree : w.tree.SameShape w'.tree
  here : w.here = w'.here

namespace FileTree.SameShape

variable {t t' : FileTree}

theorem symm (h : t.SameShape t') : t'.SameShape t where
  nodes := fun l => (h.nodes l).symm
  listings := fun l => (h.listings l).symm

theorem isDirectoryAt_eq (h : t.SameShape t') (l : Location) :
    t'.isDirectoryAt l = t.isDirectoryAt l := by
  have houtline : ∀ t : FileTree,
      t.isDirectoryAt l = ((t.node? l).map FileNode.outline == some .directory) := by
    intro t
    unfold isDirectoryAt
    rcases t.node? l with _ | _ | _ | _ | _ <;> rfl
  rw [houtline, houtline, h.nodes]

theorem isSome_node?_eq (h : t.SameShape t') (l : Location) :
    (t'.node? l).isSome = (t.node? l).isSome := by
  have hl := congrArg Option.isSome (h.nodes l)
  rw [Option.isSome_map, Option.isSome_map] at hl
  exact hl.symm

theorem advance_eq (h : t.SameShape t') (l : Location) (names : List RawText) :
    t'.advance l names = t.advance l names := by
  induction names generalizing l with
  | nil => rfl
  | cons s pending ih =>
    have hs := h.nodes (l ++ [s])
    unfold advance
    rw [h.isDirectoryAt_eq, ih, ih]
    generalize t.node? (l ++ [s]) = here, t'.node? (l ++ [s]) = there at hs
    rcases here with _ | n <;> rcases there with _ | n'
    · rfl
    · cases hs
    · cases hs
    · cases n <;> cases n' <;> simp_all [FileNode.outline]

theorem follow_eq (h : t.SameShape t') (links : Nat) (l : Location) (names : List RawText) :
    t'.follow links l names = t.follow links l names := by
  induction links generalizing l names with
  | zero =>
    unfold follow
    rw [h.advance_eq]
  | succ links ih =>
    unfold follow
    rw [h.advance_eq]
    simp only [ih]

end FileTree.SameShape

theorem mergeSort_eq_of_perm {names names' : List String} (h : names.Perm names') :
    names.mergeSort (· ≤ ·) = names'.mergeSort (· ≤ ·) := by
  have hsorted : ∀ names : List String,
      (names.mergeSort (· ≤ ·)).Pairwise fun a b => decide (a ≤ b) = true := by
    intro names
    refine List.pairwise_mergeSort ?_ ?_ names
    · intro a b c hab hbc
      exact decide_eq_true (String.le_trans (of_decide_eq_true hab) (of_decide_eq_true hbc))
    · intro a b
      simpa using String.le_total a b
  refine List.Perm.eq_of_pairwise ?_ (hsorted names) (hsorted names') ?_
  · intro a b _ _ hab hba
    exact String.le_antisymm (of_decide_eq_true hab) (of_decide_eq_true hba)
  · exact (List.mergeSort_perm _ _).trans (h.trans (List.mergeSort_perm _ _).symm)

theorem SearchIndex.fileNames_outline (entries : List (RawText × FileNode)) :
    fileNames (entries.map fun e => (e.1, e.2.outline)) = fileNames entries := by
  have hlisted : ∀ n : FileNode, isListed n.outline = isListed n := by
    intro n
    cases n <;> rfl
  rw [fileNames, List.filter_map, List.filterMap_map, fileNames]
  congr 2
  exact List.filter_congr fun e _ => hlisted e.2

theorem SearchIndex.fileNames_eq_of_perm {entries entries' : List (RawText × FileNode)}
    (h : entries.Perm entries') : fileNames entries = fileNames entries' :=
  mergeSort_eq_of_perm ((h.filter _).filterMap _)

namespace Workspace

theorem nodeAt?_eq_ok_iff {w : Workspace} {p : Path} {n : FileNode} :
    w.nodeAt? p = .ok n ↔
      p.text.length ≤ FileTree.pathLimit ∧ ∃ l, w.locate p = .ok l ∧ w.tree.node? l = some n := by
  unfold nodeAt?
  by_cases hsize : FileTree.pathLimit < p.text.length
  · simp [hsize, Nat.not_le.mpr hsize, throw, throwThe, MonadExceptOf.throw, bind, Except.bind]
  rcases w.locate p with fault | l
  · simp [hsize, bind, Except.bind]
  rcases hn : w.tree.node? l with _ | m <;>
    simp [hsize, hn, Nat.le_of_not_lt hsize, throw, throwThe, MonadExceptOf.throw, bind, Except.bind,
      pure, Except.pure]

theorem isFile_iff {w : Workspace} {p : Path} :
    w.isFile p ↔ ∃ n, w.nodeAt? p = .ok n ∧ n.outline = .file [] 0 := by
  unfold isFile
  rcases w.nodeAt? p with _ | _ | _ | _ | _ <;> simp [FileNode.outline]

theorem isDirectory_iff {w : Workspace} {p : Path} :
    w.isDirectory p ↔ ∃ n, w.nodeAt? p = .ok n ∧ n.outline = .directory := by
  unfold isDirectory
  rcases w.nodeAt? p with _ | _ | _ | _ | _ <;> simp [FileNode.outline]

namespace SameShape

variable {w w' : Workspace}

theorem symm (h : w.SameShape w') : w'.SameShape w := ⟨h.tree.symm, h.here.symm⟩

theorem locate_eq (h : w.SameShape w') (p : Path) : w'.locate p = w.locate p := by
  have harrive : w'.arrive p = w.arrive p := by
    unfold arrive
    rw [h.here, h.tree.follow_eq]
  unfold locate
  rw [harrive]
  simp only [h.tree.isSome_node?_eq]

/-- A path leads to the same kind of thing. -/
theorem nodeAt?_outline (h : w.SameShape w') {p : Path} {n : FileNode} (hn : w.nodeAt? p = .ok n) :
    ∃ n', w'.nodeAt? p = .ok n' ∧ n'.outline = n.outline := by
  obtain ⟨hsize, l, hl, hnode⟩ := nodeAt?_eq_ok_iff.mp hn
  have houtline := h.tree.nodes l
  rw [hnode, Option.map_some] at houtline
  obtain ⟨n', hn', he⟩ := Option.map_eq_some_iff.mp houtline.symm
  exact ⟨n', nodeAt?_eq_ok_iff.mpr ⟨hsize, l, (h.locate_eq p).trans hl, hn'⟩, he⟩

theorem exists_outline_iff (h : w.SameShape w') (p : Path) (o : FileNode) :
    (∃ n, w'.nodeAt? p = .ok n ∧ n.outline = o) ↔ ∃ n, w.nodeAt? p = .ok n ∧ n.outline = o := by
  constructor
  · rintro ⟨n, hn, rfl⟩
    exact h.symm.nodeAt?_outline hn
  · rintro ⟨n, hn, rfl⟩
    exact h.nodeAt?_outline hn

theorem isFile_eq (h : w.SameShape w') (p : Path) : w'.isFile p = w.isFile p := by
  rw [Bool.eq_iff_iff, isFile_iff, isFile_iff]
  exact h.exists_outline_iff p _

theorem isDirectory_eq (h : w.SameShape w') (p : Path) : w'.isDirectory p = w.isDirectory p := by
  rw [Bool.eq_iff_iff, isDirectory_iff, isDirectory_iff]
  exact h.exists_outline_iff p _

theorem listFiles_eq (h : w.SameShape w') (dir : Path) :
    SearchIndex.listFiles w' dir = SearchIndex.listFiles w dir := by
  have hlisted : ∀ l, SearchIndex.fileNames (w'.tree.entries l) =
      SearchIndex.fileNames (w.tree.entries l) := by
    intro l
    have hnames := SearchIndex.fileNames_eq_of_perm (h.tree.listings l).symm
    rwa [SearchIndex.fileNames_outline, SearchIndex.fileNames_outline] at hnames
  unfold SearchIndex.listFiles
  rw [h.isDirectory_eq, h.locate_eq]
  rcases w.isDirectory dir with _ | _
  · rfl
  rcases w.locate dir with _ | l
  · rfl
  · simp only [hlisted]

theorem build_eq (h : w.SameShape w') (searchPaths : List String) (roots : Roots) :
    SearchIndex.build w' searchPaths roots = SearchIndex.build w searchPaths roots := by
  have hadd : SearchIndex.addDir w' = SearchIndex.addDir w := by
    funext index dir
    simp only [SearchIndex.addDir, h.listFiles_eq]
  rw [SearchIndex.build, hadd, SearchIndex.build]

theorem resolve_eq (h : w.SameShape w') : Resolver.resolve w' = Resolver.resolve w := by
  have hoffer : Resolver.offer? w' = Resolver.offer? w := by
    funext file d
    simp only [Resolver.offer?, h.isFile_eq]
  have hsearch : Resolver.search w' = Resolver.search w := by
    funext index name
    simp only [Resolver.search, hoffer]
  funext index name base
  cases base <;> simp only [Resolver.resolve, hsearch]

theorem indexIn_eq (h : w.SameShape w') (p : Preprocessor) : p.indexIn w' = p.indexIn w := by
  simp only [Preprocessor.indexIn, h.build_eq]

/-- What the walks of a request depend on is a matter of shape, but for what the files hold. -/
theorem context_eq (h : w.SameShape w') (p : Preprocessor) :
    p.context w' = { p.context w with workspace := w' } := by
  simp only [Preprocessor.context, h.indexIn_eq, h.resolve_eq]

end SameShape

end Workspace

end ScriptBundle
