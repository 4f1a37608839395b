import ScriptBundle.Command
import ScriptBundle.Proofs.FileTree.Directories

/-!
# Stored texts

Storing a text fills one place, the one that the path leads to afterwards. What else is new are the
directories that were missing above the file. Nothing else changes, and a link or a directory is never
written over.
-/

namespace ScriptBundle

/-- What a write can go to. -/
def FileNode.Writable : FileNode → Prop
  | .file _ _ | .device => True
  | .directory | .link _ => False

namespace Workspace

variable {w : Workspace} {file : Path} {content : Octets} {place : Location} {t : FileTree}

theorem write_eq (w : Workspace) (p : Path) (content : Octets) : w.write p content =
    match w.writingPlace p with
    | .error fault => (.error fault, w.tree)
    | .ok place =>
      (.ok (), if w.tree.node? place = some .device then w.tree
        else w.tree.put place (.file content w.now)) := by
  unfold write
  rcases w.writingPlace p with fault | place
  · rfl
  by_cases hdevice : w.tree.node? place = some .device
  · simp [hdevice]
  · simp [hdevice]

/-- The place that writing fills is free, or the path leads to a file or a device there. -/
theorem node?_writingPlace (hhere : w.tree.Canonical w.here) (h : w.writingPlace file = .ok place) :
    w.tree.node? place = none ∨
      (w.locate file = .ok place ∧ ∃ n, w.tree.node? place = some n ∧ n.Writable) := by
  rcases writingPlace_eq_ok h with ⟨harrive, hdirectory⟩ | ⟨d, name, harrive, rfl⟩
  · obtain ⟨htext, hnul, hfollow⟩ := arrive_eq_ok_iff.mp harrive
    have hplace : w.tree.Canonical place :=
      (canonical_start hhere file).follow (fun _ => Path.slash_notMem_of_mem_segments) hfollow
    rcases hn : w.tree.node? place with _ | n
    · exact Or.inl rfl
    refine Or.inr ⟨locate_eq_ok_iff.mpr ⟨htext, hnul, hfollow, by simp [hn]⟩, n, rfl, ?_⟩
    cases n with
    | file => trivial
    | device => trivial
    | directory => exact absurd (by simp [FileTree.isDirectoryAt, hn]) hdirectory
    | link target => exact absurd hn (hplace.noLink target)
  · exact Or.inl (FileTree.node?_of_follow_vacant (arrive_eq_ok_iff.mp harrive).2.2)

/-- What writing leaves at a place: a device takes what is written and stays as it is. -/
def leftAt (w : Workspace) (place : Location) (content : Octets) : FileNode :=
  if w.tree.node? place = some .device then .device else .file content w.now

/-- The trees before and after a write differ in what stands at one place, and the path leads there. -/
structure Written (w : Workspace) (p : Path) (content : Octets) (place : Location)
    (t : FileTree) : Prop where
  leads : (w.withTree t).locate p = .ok place
  filled : ∀ n, w.tree.node? place = some n → n.Writable
  holds : t.node? place = some (w.leftAt place content)
  others : ∀ l, l ≠ place → t.node? l = w.tree.node? l

theorem Written.keeps (h : w.Written file content place t) : w.tree.Keeps t := by
  intro l n hn
  by_cases hl : l = place
  · subst hl
    refine ⟨_, h.holds, ?_⟩
    have hwritable := h.filled n hn
    cases n with
    | file => simp [leftAt, hn, FileNode.outline]
    | device => simp [leftAt, hn]
    | directory => cases hwritable
    | link => cases hwritable
  · exact ⟨n, (h.others l hl).trans hn, rfl⟩

theorem written_of_write (hhere : w.tree.Canonical w.here)
    (h : w.write file content = (.ok (), t)) : ∃ place, w.Written file content place t := by
  rw [write_eq] at h
  rcases hplace : w.writingPlace file with fault | place
  · rw [hplace] at h
    cases h
  rw [hplace] at h
  obtain rfl := (Prod.mk.inj h).2
  refine ⟨place, ?_⟩
  rcases node?_writingPlace hhere hplace with hfree | ⟨hlocate, n, hn, hwritable⟩
  · have hroot : place ≠ [] := (FileTree.ne_of_node?_eq_some hfree (FileTree.node?_nil w.tree)).symm
    simp only [hfree, reduceCtorEq, if_false]
    exact {
      leads := locate_put_file hplace hfree
      filled := by simp [hfree]
      holds := by simp [leftAt, hfree, FileTree.node?_put_self _ hroot]
      others := fun _ => FileTree.node?_put_of_ne _ }
  have hfilled : ∀ n', w.tree.node? place = some n' → n'.Writable := by
    intro n' hn'
    exact Option.some.inj (hn.symm.trans hn') ▸ hwritable
  cases n with
  | device =>
    simp only [hn, if_true]
    exact {
      leads := hlocate
      filled := hfilled
      holds := by simp [leftAt, hn]
      others := fun _ _ => rfl }
  | file c m =>
    have hroot : place ≠ [] := by
      rintro rfl
      simp at hn
    simp only [hn, Option.some.injEq, reduceCtorEq, if_false]
    exact {
      leads := locate_keeps (.put_file hn) hlocate
      filled := hfilled
      holds := by simp [leftAt, hn, FileTree.node?_put_self _ hroot]
      others := fun _ => FileTree.node?_put_of_ne _ }
  | directory => cases hwritable
  | link => cases hwritable

/-- What a file tree is like after a text has been stored: the path leads to what was written, the paths
above it lead to directories, and beyond the one place only such directories are new. -/
structure Stored (w : Workspace) (file : Path) (content : Octets) (place : Location)
    (t : FileTree) : Prop where
  leads : (w.withTree t).locate file = .ok place
  same : ∀ l, w.locate file = .ok l → l = place
  filled : ∀ n, w.tree.node? place = some n → n.Writable
  holds : t.node? place = some (w.leftAt place content)
  above : ∀ q, Path.Above q file → q.text ≠ [] → (w.withTree t).LeadsToDirectory q
  others : ∀ l, l ≠ place → t.node? l = w.tree.node? l ∨
    w.tree.node? l = none ∧ t.node? l = some .directory ∧
      ∃ q, Path.Above q file ∧ (w.withTree t).locate q = .ok l

theorem Stored.of_written {dirs : FileTree} (hgrown : w.Grown (Path.Above · file) dirs)
    (h : (w.withTree dirs).Written file content place t) : w.Stored file content place t where
  leads := h.leads
  same := fun l hl => by
    have hthere := locate_keeps (w := w.withTree dirs) h.keeps (locate_keeps hgrown.keeps hl)
    exact Except.ok.inj (hthere.symm.trans h.leads)
  filled := fun n hn => h.filled n (hgrown.kept place n hn)
  holds := by
    -- The write looks for a device in the new tree, but a device there is an old one.
    have hdevice : dirs.node? place = some .device ↔ w.tree.node? place = some .device := by
      refine ⟨fun hd => ?_, hgrown.kept place _⟩
      rcases hn : w.tree.node? place with _ | n
      · cases (hgrown.fresh place _ hn hd).1
      · rw [← hd, hgrown.kept place n hn]
    rw [h.holds, leftAt, leftAt]
    simp only [withTree, hdevice]
  above := fun q hq hne => leadsToDirectory_of_above h.leads hq hne
  others := fun l hl => by
    have hother : t.node? l = dirs.node? l := h.others l hl
    rcases hn : w.tree.node? l with _ | n
    · rcases hd : dirs.node? l with _ | n
      · exact Or.inl (hother.trans hd)
      · obtain ⟨rfl, q, hq, hlocate⟩ := hgrown.fresh l n hn hd
        exact Or.inr ⟨rfl, hother.trans hd, q, hq,
          locate_keeps (w := w.withTree dirs) h.keeps hlocate⟩
    · exact Or.inl (hother.trans (hgrown.kept l n hn))

/-- Making the directory of a file lets only directories above the file appear. -/
theorem grown_directory (w : Workspace) (file : Path) : w.Grown (Path.Above · file)
    (if file.directory.text = [] then (.ok (), w.tree) else w.makeDirectories file.directory).2 := by
  split
  · exact .refl w _
  next hne =>
    obtain ⟨outer, hparent⟩ : ∃ outer, file.parent? = some outer := by
      rw [← Option.isSome_iff_exists, ← Option.ne_none_iff_isSome]
      intro hnone
      simp [Path.directory, hnone] at hne
    have houter : file.directory = outer := by rw [Path.directory, hparent, Option.getD_some]
    rw [houter]
    exact (grown_makeDirectoriesWithin rfl).1.mono fun q hq => Path.Above.of_atOrAbove hparent hq

/-- Storing a text makes the missing directories above the file, and then it writes the file. -/
theorem store_cases {text : String} {r : Except CommandError Unit}
    (h : w.store file text = (r, t)) : ∃ dirs, w.Grown (Path.Above · file) dirs ∧
      ((∃ e, r = .error e ∧ t = dirs) ∨
        (r = .ok () ∧ (w.withTree dirs).write file (textOctets text) = (.ok (), t))) := by
  refine ⟨_, grown_directory w file, ?_⟩
  simp only [store] at h
  split at h
  · cases h
    exact Or.inl ⟨_, rfl, rfl⟩
  split at h
  next fault t' hwrite =>
    cases h
    refine Or.inl ⟨_, rfl, ?_⟩
    rw [write_eq] at hwrite
    split at hwrite
    · exact (Prod.mk.inj hwrite).2.symm
    · cases (Prod.mk.inj hwrite).1
  next t' hwrite =>
    cases h
    exact Or.inr ⟨rfl, hwrite⟩

theorem stored_of_store {text : String} (hhere : w.tree.Canonical w.here)
    (h : w.store file text = (.ok (), t)) : ∃ place, w.Stored file (textOctets text) place t := by
  obtain ⟨dirs, hgrown, ⟨e, he, -⟩ | ⟨-, hwrite⟩⟩ := store_cases h
  · cases he
  · obtain ⟨place, hwritten⟩ := written_of_write (hgrown.canonical hhere) hwrite
    exact ⟨place, .of_written hgrown hwritten⟩

/-- A text that could not be stored leaves behind nothing but directories above the file. -/
theorem grown_of_store {text : String} {e : CommandError} (h : w.store file text = (.error e, t)) :
    w.Grown (Path.Above · file) t := by
  obtain ⟨dirs, hgrown, ⟨e', -, rfl⟩ | ⟨hok, -⟩⟩ := store_cases h
  · exact hgrown
  · cases hok

end Workspace

end ScriptBundle
