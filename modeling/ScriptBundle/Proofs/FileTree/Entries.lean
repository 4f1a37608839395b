import Mathlib.Data.List.Nodup
import ScriptBundle.Proofs.FileTree.Keeping
import ScriptBundle.Proofs.Walk.Frames

/-! # Names directly inside a directory

A name taken from the path of a directory leads to what stands under it directly inside the directory, or on
from there if that is a link. Trees of a file system take each place once, so that what a directory lists is
what its names lead to.
-/

namespace ScriptBundle

namespace FileTree

variable {t : FileTree} {l m : Location} {xs : List RawText} {links : Nat}

theorem follow_of_blank (h : t.follow links l (xs ++ [[]]) = .ok (.found m)) :
    t.follow links l xs = .ok (.found m) := by
  obtain ⟨k, hk, hd⟩ := follow_split h (List.cons_ne_nil _ _)
  have hidle : Path.Cut.isIdle [] := rfl
  have hblank := follow_append hk (.idle hd hidle (.arrived k))
  rw [h] at hblank
  cases hblank
  exact hk

/-- A tree as it stands in a file system: every place is taken once, under names that can be given. -/
structure Proper (t : FileTree) : Prop where
  once : (t.nodes.map (·.1)).Nodup
  names : ∀ e ∈ t.nodes, ∀ s ∈ e.1, IsName s ∧ 0 ∉ s

theorem Proper.node?_iff (h : t.Proper) {n : FileNode} (hl : l ≠ []) :
    t.node? l = some n ↔ (l, n) ∈ t.nodes := by
  constructor
  · intro hn
    rcases List.mem_cons.mp (mem_all_of_node? hn) with hroot | hmem
    · exact absurd (congrArg Prod.fst hroot) hl
    · exact hmem
  · intro hmem
    have hroot : (([] : Location) == l) = false := by simpa using Ne.symm hl
    rw [node?, all, List.find?_cons, hroot]
    obtain ⟨e, he⟩ : ∃ e, t.nodes.find? (·.1 == l) = some e := by
      rw [← Option.isSome_iff_exists, List.find?_isSome]
      exact ⟨_, hmem, beq_self_eq_true l⟩
    have hel : e.1 = l := by simpa using List.find?_some he
    have heq := List.inj_on_of_nodup_map h.once (List.mem_of_find?_eq_some he) hmem hel
    simp only [he, heq, Option.map_some]

end FileTree

namespace Workspace

variable {w : Workspace} {dir : Path} {name : RawText} {l : Location}

/-- A name taken from a directory is followed from where the directory is. -/
theorem follow_join_name (hl : w.locate dir = .ok l) (hname : slash ∉ name) :
    ∃ fewer, w.tree.follow FileTree.linkLimit (w.start (dir.join ⟨name⟩)) (dir.join ⟨name⟩).segments =
      w.tree.follow fewer l [name] := by
  obtain ⟨htext, -, hfollow⟩ := follow_of_locate hl
  obtain ⟨front, hjoin, hfront, habsolute⟩ := Path.segments_join_name htext hname
  have hstart : w.start (dir.join ⟨name⟩) = w.start dir := by
    unfold start
    rw [habsolute]
  have hdir : w.tree.follow FileTree.linkLimit (w.start dir) front = .ok (.found l) := by
    rcases hfront with hfront | hfront
    · rwa [hfront] at hfollow
    · rw [hfront] at hfollow
      exact FileTree.follow_of_blank hfollow
  rw [hjoin, hstart]
  exact FileTree.follow_append_eq hdir [name]

theorem nul_notMem_join (hl : w.locate dir = .ok l) (hname : slash ∉ name)
    (hnul : 0 ∉ name) : 0 ∉ (dir.join ⟨name⟩).text := by
  obtain ⟨htext, hdir, -⟩ := follow_of_locate hl
  obtain ⟨front, hjoin, hfront, -⟩ := Path.segments_join_name htext hname
  rw [Path.mem_text_iff (by decide)] at hdir ⊢
  rintro ⟨s, hs, hnulS⟩
  rw [hjoin] at hs
  rcases List.mem_append.mp hs with hs | hs
  · apply hdir
    refine ⟨s, ?_, hnulS⟩
    rcases hfront with hfront | hfront
    · rwa [hfront]
    · rw [hfront]
      exact List.mem_append_left _ hs
  · rw [List.mem_singleton.mp hs] at hnulS
    exact hnul hnulS

/-- A file that stands directly inside a directory is found by its name, unless the path is too long. -/
theorem isFile_join_of_node? {content : Octets} {modified : Int} (hl : w.locate dir = .ok l)
    (hd : w.tree.isDirectoryAt l) (hname : FileTree.IsName name) (hnul : 0 ∉ name)
    (hn : w.tree.node? (l ++ [name]) = some (.file content modified))
    (hsize : (dir.join ⟨name⟩).text.length ≤ FileTree.pathLimit) :
    w.isFile (dir.join ⟨name⟩) := by
  obtain ⟨fewer, hfollow⟩ := follow_join_name hl hname.noSlash
  have hgoes : w.tree.Goes l [name] (.found (l ++ [name])) :=
    .entry hd hname.toIsPlain hn (by simp) (.arrived _)
  have hnonempty : name ≠ [] := by
    rintro rfl
    exact absurd hname.notIdle (by decide)
  have hlocate : w.locate (dir.join ⟨name⟩) = .ok (l ++ [name]) := by
    refine locate_eq_ok_iff.mpr ⟨Path.join_text_ne hnonempty, nul_notMem_join hl hname.noSlash hnul,
      ?_, by simp [hn]⟩
    rw [hfollow, FileTree.follow, hgoes.advance_eq]
  exact isFile_iff.mpr ⟨_, nodeAt?_eq_ok_iff.mpr ⟨hsize, _, hlocate, hn⟩, rfl⟩

/-- A file that is found by its name in a directory is listed there, by itself or as a link. -/
theorem node?_of_isFile_join (hl : w.locate dir = .ok l)
    (hname : slash ∉ name) (hidle : Path.Cut.isIdle name = false) (hup : name ≠ "..")
    (hfile : w.isFile (dir.join ⟨name⟩)) :
    ∃ n, w.tree.node? (l ++ [name]) = some n ∧ n ≠ .directory := by
  obtain ⟨n, hn, houtline⟩ := isFile_iff.mp hfile
  obtain ⟨-, m, hm, hnode⟩ := nodeAt?_eq_ok_iff.mp hn
  obtain ⟨fewer, hfollow⟩ := follow_join_name hl hname
  have hfound := (follow_of_locate hm).2.2
  rw [hfollow] at hfound
  rcases FileTree.follow_eq_ok_iff.mp hfound with ⟨k, hgoes, hk⟩ | ⟨d, name, -, hvacant⟩ |
    ⟨d, target, pending, fewer, hgoes, -, -⟩
  · cases hk
    cases hgoes with
    | idle _ hs => exact absurd hs (by simp [hidle])
    | up => exact absurd rfl hup
    | entry _ _ hentry _ hrest =>
      cases hrest
      refine ⟨_, hentry, ?_⟩
      rintro rfl
      rw [hentry] at hnode
      cases hnode
      cases houtline
  · cases hvacant
  · cases hgoes with
    | idle _ hs => exact absurd hs (by simp [hidle])
    | up => exact absurd rfl hup
    | link _ _ hentry => exact ⟨_, hentry, by simp⟩
    | entry _ _ _ _ hrest => cases hrest

end Workspace

end ScriptBundle
