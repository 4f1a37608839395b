import Mathlib.Data.List.Nodup
import ScriptBundle.Proofs.FileTree.Shape
import ScriptBundle.Proofs.Path.Normal
import ScriptBundle.Proofs.Search.Lookup
import ScriptBundle.Proofs.Search.Queries
import ScriptBundle.Proofs.Text.Units

/-! # Scanning the search directories

A scan goes through the search directories as they are configured, each as often as it is named, and looks
at the tree every time. The index lists each directory once and beforehand; a name in angles gets the same
answer from both.
-/

namespace ScriptBundle

namespace FileTree

variable {t : FileTree} {l : Location} {name : RawText} {n : FileNode}

theorem mem_entries_iff : (name, n) ∈ t.entries l ↔ (l ++ [name], n) ∈ t.nodes := by
  unfold entries
  rw [List.mem_filterMap]
  constructor
  · rintro ⟨⟨place, node⟩, he, h⟩
    rcases List.eq_nil_or_concat place with rfl | ⟨d, s, rfl⟩
    · simp at h
    · simp only [List.concat_eq_append, List.getLast?_concat, List.dropLast_concat] at h
      split at h
      next hd =>
        cases h
        rwa [← eq_of_beq hd, ← List.concat_eq_append]
      next => cases h
  · intro h
    exact ⟨_, h, by simp⟩

end FileTree

/-- Whether something other than a directory stands directly inside a directory under a name. -/
def Workspace.hasEntry (w : Workspace) (dir : Path) (name : RawText) : Bool :=
  match w.locate dir with
  | .ok l => w.tree.nodes.any fun e => e.1 == l ++ [name] && e.2 != .directory
  | .error _ => false

theorem Workspace.hasEntry_iff {w : Workspace} {dir : Path} {name : RawText} :
    w.hasEntry dir name ↔
      ∃ l n, w.locate dir = .ok l ∧ (name, n) ∈ w.tree.entries l ∧ n ≠ .directory := by
  unfold hasEntry
  rcases w.locate dir with _ | l
  · simp
  · simp only [List.any_eq_true, Bool.and_eq_true, beq_iff_eq, bne_iff_ne, Prod.exists,
      FileTree.mem_entries_iff, Except.ok.injEq]
    constructor
    · rintro ⟨_, n, hn, rfl, hne⟩
      exact ⟨l, n, rfl, hn, hne⟩
    · rintro ⟨_, n, rfl, hn, hne⟩
      exact ⟨_, n, hn, rfl, hne⟩

/-- Whether a search directory has the file of a name: directly inside it, or further down where the name
of the file leads there. -/
def Workspace.provides (w : Workspace) (file : String) (dir : Path) : Bool :=
  w.hasEntry dir file || file.toList.contains '/' && w.isFile (dir.join ⟨file⟩)

/-- The answer of a scan of search directories to a name: all of them have to be there, and the first one
that has the file counts. -/
def Resolver.scan (w : Workspace) (dirs : List Path) (name : String) : Except BundleError Resolved :=
  let file := LogicalName.fileName name
  match dirs.find? fun dir => !w.isDirectory dir with
  | some dir => .error (.directoryNotFound dir)
  | none =>
    match dirs.find? (w.provides file) with
    | some dir => .ok ⟨dir.join ⟨file⟩, .searchPath⟩
    | none => .error (.unresolved name none)

section

variable {α : Type} [BEq α] [LawfulBEq α]

/-- The first of equal elements is found before the others. -/
theorem find?_eraseDups (p : α → Bool) : ∀ xs : List α, xs.eraseDups.find? p = xs.find? p
  | [] => rfl
  | x :: xs => by
    rw [List.eraseDups_cons]
    by_cases hx : p x
    · rw [List.find?_cons_of_pos hx, List.find?_cons_of_pos hx]
    · rw [List.find?_cons_of_neg hx, List.find?_cons_of_neg hx, find?_eraseDups, List.find?_filter]
      congr 1
      funext y
      by_cases hy : y = x
      · simp [hy, hx]
      · simp [hy]
termination_by xs => xs.length
decreasing_by exact Nat.lt_succ_of_le (List.length_filter_le _ _)

theorem nodup_eraseDups : ∀ xs : List α, xs.eraseDups.Nodup
  | [] => List.nodup_nil
  | x :: xs => by
    rw [List.eraseDups_cons, List.nodup_cons, List.mem_eraseDups]
    exact ⟨by simp, nodup_eraseDups _⟩
termination_by xs => xs.length
decreasing_by exact Nat.lt_succ_of_le (List.length_filter_le _ _)

end

namespace SearchIndex

variable {w : Workspace} {index index' : SearchIndex} {dir : Path} {dirs seen : List Path}
  {files : List String} {file : String}

theorem listFiles_error (h : w.isDirectory dir = false) :
    listFiles w dir = .error (.directoryNotFound dir) := by
  rw [listFiles, h]

theorem listFiles_eq_ok_iff : listFiles w dir = .ok files ↔ w.isDirectory dir ∧
    ∃ l, w.locate dir = .ok l ∧ files = fileNames (w.tree.entries l) := by
  unfold listFiles
  rcases w.isDirectory dir with _ | _
  · simp
  rcases w.locate dir with _ | l
  · simp
  · simp [eq_comm]

theorem exists_listFiles (h : w.isDirectory dir) : ∃ files, listFiles w dir = .ok files := by
  obtain ⟨n, hn, -⟩ := Workspace.isDirectory_iff.mp h
  obtain ⟨-, l, hl, -⟩ := Workspace.nodeAt?_eq_ok_iff.mp hn
  exact ⟨_, listFiles_eq_ok_iff.mpr ⟨h, l, hl, rfl⟩⟩

theorem mem_fileNames_iff {entries : List (RawText × FileNode)} :
    file ∈ fileNames entries ↔ ∃ n, (textOctets file, n) ∈ entries ∧ n ≠ .directory := by
  have hlisted : ∀ n : FileNode, isListed n = true ↔ n ≠ .directory := by
    intro n
    cases n <;> simp [isListed]
  simp only [fileNames, List.mem_mergeSort, List.mem_filterMap, List.mem_filter, hlisted, Prod.exists,
    Octets.text?_eq_some_iff]
  constructor
  · rintro ⟨name, n, hn, rfl⟩
    exact ⟨n, hn⟩
  · rintro ⟨n, hn⟩
    exact ⟨_, n, hn, rfl⟩

theorem contains_listFiles (h : listFiles w dir = .ok files) :
    files.contains file = w.hasEntry dir file := by
  obtain ⟨-, l, hl, rfl⟩ := listFiles_eq_ok_iff.mp h
  rw [Bool.eq_iff_iff, List.contains_iff_mem, mem_fileNames_iff, Workspace.hasEntry_iff, hl]
  constructor
  · rintro ⟨n, hn, hne⟩
    exact ⟨l, n, rfl, hn, hne⟩
  · rintro ⟨_, n, hl', hn, hne⟩
    obtain rfl := Except.ok.inj hl'
    exact ⟨n, hn, hne⟩

/-- What a listed directory offers is what a scan finds in it. -/
theorem offer?_of_listedIn {d : IndexedDir} (h : listFiles w d.dir = .ok d.files) :
    Resolver.offer? w file d =
      if w.provides file d.dir then some (d.dir.join ⟨file⟩) else none := by
  unfold Resolver.offer? Workspace.provides
  rw [IndexedDir.contains, contains_listFiles h]

theorem addDir_known (h : dir ∈ index.map (·.dir)) : addDir w index dir = .ok index := by
  obtain ⟨d, hd, rfl⟩ := List.mem_map.mp h
  have hany : index.any (·.dir.components == d.dir.components) :=
    List.any_eq_true.mpr ⟨d, hd, beq_self_eq_true _⟩
  rw [addDir, if_pos hany]
  rfl

theorem addDir_new (hnormal : ∀ d ∈ dir :: index.map (·.dir), d.normal = d)
    (h : dir ∉ index.map (·.dir)) :
    addDir w index dir = (listFiles w dir).map fun files => index ++ [⟨dir, files⟩] := by
  obtain ⟨hdir, hindex⟩ := List.forall_mem_cons.mp hnormal
  have hany : ¬index.any (·.dir.components == dir.components) := by
    rw [List.any_eq_true]
    rintro ⟨d, hd, hcomponents⟩
    have hmem : d.dir ∈ index.map (·.dir) := List.mem_map_of_mem hd
    have heq := Path.eq_of_components_eq (hindex _ hmem) hdir (eq_of_beq hcomponents)
    exact h (heq ▸ hmem)
  rw [addDir, if_neg hany]
  rcases listFiles w dir with _ | _ <;> rfl

/-- Indexing goes wrong at the first directory that is missing, and nowhere else. -/
theorem foldlM_addDir_cases (hindex : index.ListedIn w)
    (hnormal : ∀ d ∈ dirs ++ index.map (·.dir), d.normal = d) :
    (∃ dir, dirs.find? (fun dir => !w.isDirectory dir) = some dir ∧
      dirs.foldlM (addDir w) index = .error (.directoryNotFound dir)) ∨
    dirs.find? (fun dir => !w.isDirectory dir) = none ∧
      ∃ index', dirs.foldlM (addDir w) index = .ok index' := by
  induction dirs generalizing index with
  | nil => exact Or.inr ⟨rfl, index, rfl⟩
  | cons dir rest ih =>
    rw [List.find?_cons, List.foldlM_cons]
    by_cases hknown : dir ∈ index.map (·.dir)
    · have hdirectory : w.isDirectory dir := by
        obtain ⟨d, hd, rfl⟩ := List.mem_map.mp hknown
        exact (listFiles_eq_ok_iff.mp (hindex d hd)).1
      rw [addDir_known hknown, hdirectory]
      exact ih hindex fun d hd => hnormal d (List.mem_cons_of_mem _ hd)
    · have hnew : addDir w index dir = _ := addDir_new (fun d hd => hnormal d (by
        rcases List.mem_cons.mp hd with rfl | hd
        · exact List.mem_append_left _ List.mem_cons_self
        · exact List.mem_append_right _ hd)) hknown
      rcases hdirectory : w.isDirectory dir with _ | _
      · rw [hnew, listFiles_error hdirectory]
        exact Or.inl ⟨dir, rfl, rfl⟩
      · obtain ⟨files, hfiles⟩ := exists_listFiles hdirectory
        rw [hfiles] at hnew
        have hlisted := hindex.addDir hnew
        rw [hnew]
        refine ih hlisted fun d hd => hnormal d ?_
        simp only [List.mem_append, List.map_append, List.map_singleton, List.mem_singleton] at hd ⊢
        rcases hd with hd | hd | rfl
        · exact Or.inl (List.mem_cons_of_mem _ hd)
        · exact Or.inr hd
        · exact Or.inl List.mem_cons_self

/-- The directories of an index are those that were configured, each at its first place. -/
theorem map_dir_of_foldlM (hseen : index.map (·.dir) = seen.eraseDups)
    (hnormal : ∀ d ∈ seen ++ dirs, d.normal = d)
    (h : dirs.foldlM (addDir w) index = .ok index') :
    index'.map (·.dir) = (seen ++ dirs).eraseDups := by
  induction dirs generalizing index seen with
  | nil =>
    cases h
    rw [List.append_nil, hseen]
  | cons dir rest ih =>
    rw [List.foldlM_cons] at h
    rcases hadd : addDir w index dir with _ | next
    · rw [hadd] at h
      cases h
    rw [hadd] at h
    rw [← List.singleton_append, ← List.append_assoc] at hnormal ⊢
    refine ih ?_ hnormal h
    have hmem : dir ∈ index.map (·.dir) ↔ dir ∈ seen := by rw [hseen, List.mem_eraseDups]
    rw [List.eraseDups_append, ← hseen]
    by_cases hknown : dir ∈ index.map (·.dir)
    · rw [addDir_known hknown] at hadd
      cases hadd
      simp [List.removeAll, hmem.mp hknown]
    · rw [addDir_new ?_ hknown] at hadd
      · rcases hfiles : listFiles w dir with _ | files
        · rw [hfiles] at hadd
          cases hadd
        · rw [hfiles] at hadd
          cases hadd
          simp [List.removeAll, mt hmem.mpr hknown, List.eraseDups_cons]
      · intro d hd
        refine hnormal d (List.mem_append_left _ ?_)
        rw [hseen, List.mem_cons, List.mem_eraseDups] at hd
        rw [List.mem_append, List.mem_singleton]
        exact hd.symm

/-- The first offer of an index comes from the first of its directories that has the file. -/
theorem findSome?_offer? (hindex : index.ListedIn w) :
    index.findSome? (Resolver.offer? w file) =
      ((index.map (·.dir)).find? (w.provides file)).map fun dir => dir.join ⟨file⟩ := by
  induction index with
  | nil => rfl
  | cons d rest ih =>
    obtain ⟨hd, hrest⟩ := List.forall_mem_cons.mp hindex
    rw [List.findSome?_cons, List.map_cons, List.find?_cons, offer?_of_listedIn hd]
    rcases w.provides file d.dir with _ | _
    · exact ih hrest
    · rfl

theorem search_eq_find? (name : String) (hindex : index.ListedIn w)
    (hdirs : index.map (·.dir) = dirs.eraseDups) :
    Resolver.search w index name =
      match dirs.find? (w.provides (LogicalName.fileName name)) with
      | some dir => .ok ⟨dir.join ⟨LogicalName.fileName name⟩, .searchPath⟩
      | none => .error (.unresolved name none) := by
  rw [Resolver.search, findSome?_offer? hindex, hdirs, find?_eraseDups]
  rcases dirs.find? (w.provides (LogicalName.fileName name)) with _ | _ <;> rfl

end SearchIndex

namespace Preprocessor

/-- A name in angles that is looked up with a new index has the answer of a scan of the search directories
as they are configured. The index is there if all these directories are, and holds each of them once, at
the first place that it has in the settings. -/
theorem resolve_eq_scan (p : Preprocessor) (w : Workspace) (name : String) :
    let dirs := p.searchPaths.map p.roots.substitute
    (p.fresh.resolve w name none).1 = Resolver.scan w dirs name ∧
    ((∃ index, (p.fresh.searchIndex w).1 = .ok index) ↔ ∀ dir ∈ dirs, w.isDirectory dir) ∧
    ∀ index, (p.fresh.searchIndex w).1 = .ok index →
      index.map (·.dir) = dirs.eraseDups ∧ (index.map (·.dir.components)).Nodup := by
  intro dirs
  have hnormal : ∀ dir ∈ dirs, dir.normal = dir := by
    intro dir hdir
    obtain ⟨s, -, rfl⟩ := List.mem_map.mp hdir
    exact p.roots.normal_substitute s
  have hlisted : SearchIndex.ListedIn w [] := List.forall_mem_nil _
  have hall : ∀ d ∈ dirs ++ ([] : SearchIndex).map (·.dir), d.normal = d := by simpa using hnormal
  have hbuild := SearchIndex.foldlM_addDir_cases hlisted hall
  have hdirs : ∀ index, (p.fresh.searchIndex w).1 = .ok index →
      index.map (·.dir) = dirs.eraseDups := by
    intro index hindex
    have hnone : ([] : SearchIndex).map (·.dir) = ([] : List Path).eraseDups := rfl
    exact SearchIndex.map_dir_of_foldlM hnone hnormal hindex
  have hindexed : (p.fresh.searchIndex w).1 = dirs.foldlM (SearchIndex.addDir w) [] := rfl
  have hresolve : (p.fresh.resolve w name none).1 =
      (p.fresh.searchIndex w).1.bind fun index => Resolver.search w index name := rfl
  refine ⟨?_, ?_, ?_⟩
  · rcases hbuild with ⟨dir, hmissing, herror⟩ | ⟨hmissing, index, hok⟩
    · rw [hresolve, hindexed, herror, Resolver.scan, hmissing]
      rfl
    · have hsearch := SearchIndex.search_eq_find? name
        (SearchIndex.listedIn_of_build hok) (hdirs index hok)
      rw [hresolve, hindexed, hok, Resolver.scan, hmissing]
      exact hsearch
  · rw [hindexed]
    rcases hbuild with ⟨dir, hmissing, herror⟩ | ⟨hmissing, hok⟩
    · have hno := List.find?_some hmissing
      have hmem := List.mem_of_find?_eq_some hmissing
      simp only [herror, reduceCtorEq, exists_false, false_iff]
      intro hall
      rw [hall dir hmem] at hno
      cases hno
    · refine iff_of_true hok fun dir hdir => ?_
      simpa using List.find?_eq_none.mp hmissing dir hdir
  · intro index hindex
    have hmap := hdirs index hindex
    refine ⟨hmap, ?_⟩
    have hcomponents : index.map (·.dir.components) = dirs.eraseDups.map Path.components := by
      rw [← hmap, List.map_map]
      rfl
    rw [hcomponents]
    refine List.Nodup.map_on (fun a ha b hb hab => ?_) (nodup_eraseDups dirs)
    rw [List.mem_eraseDups] at ha hb
    exact Path.eq_of_components_eq (hnormal a ha) (hnormal b hb) hab

def twiceNamed : Preprocessor where
  searchPaths := ["APP//js/.", "/lib", "APPjs"]
  roots := .ofApp ⟨"/"⟩
  matcher := .ofMarker "#" .angle
  stripper := none
  carry := false

def twoDirectories : Workspace where
  tree := ⟨[(["js"], .directory), (["js", "sub"], .directory), (["js", "sub", "deep_x.js"], .file [] 0),
    (["lib"], .directory), (["lib", "a.js"], .file [] 0), (["lib", "sub.js"], .directory)]⟩

theorem resolve_eq_scan_twice :
    (∃ index, (twiceNamed.fresh.searchIndex twoDirectories).1 = .ok index ∧
      index.map (·.dir) = [⟨"/js"⟩, ⟨"/lib"⟩]) ∧
    (twiceNamed.fresh.resolve twoDirectories "sub/DeepX" none).1 =
      .ok ⟨⟨"/js/sub/deep_x.js"⟩, .searchPath⟩ ∧
    (twiceNamed.fresh.resolve twoDirectories "A" none).1 = .ok ⟨⟨"/lib/a.js"⟩, .searchPath⟩ ∧
    (twiceNamed.fresh.resolve twoDirectories "sub" none).1 = .error (.unresolved "sub" none) := by
  obtain ⟨hdeep, hindex, hdirs⟩ := resolve_eq_scan twiceNamed twoDirectories "sub/DeepX"
  obtain ⟨ha, -⟩ := resolve_eq_scan twiceNamed twoDirectories "A"
  obtain ⟨hsub, -⟩ := resolve_eq_scan twiceNamed twoDirectories "sub"
  obtain ⟨index, hok⟩ := hindex.mpr (by decide +kernel)
  refine ⟨⟨index, hok, (hdirs index hok).1.trans (by decide +kernel)⟩, ?_, ?_, ?_⟩
  · exact hdeep.trans (by decide +kernel)
  · exact ha.trans (by decide +kernel)
  · exact hsub.trans (by decide +kernel)

end Preprocessor

end ScriptBundle
