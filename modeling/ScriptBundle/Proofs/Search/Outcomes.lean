import ScriptBundle.Lookups
import ScriptBundle.Proofs.Search.Scan

/-! # Outcomes of a search

What an index is made of when it can be built and which directory is missing when it cannot, and where the
answer to a name in angles comes from or what it says that there is none.
-/

namespace ScriptBundle

namespace Resolver

variable {w : Workspace} {index : SearchIndex} {name : String}

theorem exists_dir_of_search {r : Resolved} (h : search w index name = .ok r) :
    ∃ d ∈ index, d.dir.join ⟨LogicalName.fileName name⟩ = r.path := by
  unfold search at h
  split at h
  next path hpath =>
    cases h
    obtain ⟨d, hd, hoffer⟩ := List.exists_of_findSome?_eq_some hpath
    simp only [offer?] at hoffer
    split at hoffer
    · exact ⟨d, hd, Option.some.inj hoffer⟩
    · cases hoffer
  next => cases h

theorem search_error {e : BundleError} (h : search w index name = .error e) :
    e = .unresolved name none ∧
      ∀ dir ∈ index, offer? w (LogicalName.fileName name) dir = none := by
  unfold search at h
  split at h
  · cases h
  next hnone =>
    cases h
    exact ⟨rfl, List.findSome?_eq_none_iff.mp hnone⟩

end Resolver

namespace SearchIndex

variable {w : Workspace} {searchPaths : List String} {roots : Roots} {index : SearchIndex}

theorem normal_of_mem_substitute {dir : Path} (h : dir ∈ searchPaths.map roots.substitute) :
    dir.normal = dir := by
  obtain ⟨s, -, rfl⟩ := List.mem_map.mp h
  exact roots.normal_substitute s

theorem build_cases (w : Workspace) (searchPaths : List String) (roots : Roots) :
    (∃ dir, (searchPaths.map roots.substitute).find? (fun dir => !w.isDirectory dir) = some dir ∧
      build w searchPaths roots = .error (.directoryNotFound dir)) ∨
    (∀ dir ∈ searchPaths.map roots.substitute, w.isDirectory dir) ∧
      ∃ index, build w searchPaths roots = .ok index := by
  have hnormal : ∀ dir ∈ searchPaths.map roots.substitute ++ ([] : SearchIndex).map (·.dir),
      dir.normal = dir := by
    intro dir hdir
    rw [List.map_nil, List.append_nil] at hdir
    exact normal_of_mem_substitute hdir
  have hlisted : ListedIn w [] := List.forall_mem_nil _
  rcases foldlM_addDir_cases hlisted hnormal with hmissing | ⟨hall, hok⟩
  · exact Or.inl hmissing
  · refine Or.inr ⟨fun dir hdir => ?_, hok⟩
    simpa using List.find?_eq_none.mp hall dir hdir

theorem map_dir_of_build (h : build w searchPaths roots = .ok index) :
    index.map (·.dir) = (searchPaths.map roots.substitute).eraseDups := by
  have hnormal : ∀ d ∈ [] ++ searchPaths.map roots.substitute, d.normal = d :=
    fun d hd => normal_of_mem_substitute hd
  have hempty : ([] : SearchIndex).map (·.dir) = ([] : List Path).eraseDups := rfl
  exact map_dir_of_foldlM hempty hnormal h

/-- An index can be built of all search paths that lead to directories, whatever their order. -/
theorem exists_build_iff : (∃ index, build w searchPaths roots = .ok index) ↔
    ∀ dir ∈ searchPaths.map roots.substitute, w.isDirectory dir := by
  rcases build_cases w searchPaths roots with ⟨dir, hmissing, herror⟩ | ⟨hall, hok⟩
  · have hno := List.find?_some hmissing
    have hmem := List.mem_of_find?_eq_some hmissing
    simp only [herror, reduceCtorEq, exists_false, false_iff]
    intro hall
    rw [hall dir hmem] at hno
    cases hno
  · exact iff_of_true hok hall

end SearchIndex

namespace Preprocessor

variable {p : Preprocessor} {ws : Workspace} {index : SearchIndex} {name : String}

theorem build_cases (p : Preprocessor) (ws : Workspace) :
    (∃ dir, p.searchDirs.find? (fun dir => !ws.isDirectory dir) = some dir ∧
      SearchIndex.build ws p.searchPaths p.roots = .error (.directoryNotFound dir)) ∨
    (∀ dir ∈ p.searchDirs, ws.isDirectory dir) ∧
      ∃ index, SearchIndex.build ws p.searchPaths p.roots = .ok index :=
  SearchIndex.build_cases ws p.searchPaths p.roots

theorem missing_of_indexIn {e : BundleError} (h : p.indexIn ws = .error e) :
    ∃ dir, p.searchDirs.find? (fun dir => !ws.isDirectory dir) = some dir ∧ e = .directoryNotFound dir := by
  have hbuild : SearchIndex.build ws p.searchPaths p.roots = .error e := by
    unfold indexIn at h
    rcases hindex : p.index with _ | index
    · rwa [hindex] at h
    · rw [hindex] at h
      cases h
  rcases p.build_cases ws with ⟨dir, hfirst, hmissing⟩ | ⟨-, index, hok⟩
  · rw [hbuild] at hmissing
    exact ⟨dir, hfirst, Except.error.inj hmissing⟩
  · rw [hbuild] at hok
    cases hok

theorem isDirectory_of_build (h : SearchIndex.build ws p.searchPaths p.roots = .ok index) :
    ∀ dir ∈ p.searchDirs, ws.isDirectory dir := by
  rcases p.build_cases ws with ⟨missing, -, hmissing⟩ | ⟨hall, -⟩
  · rw [h] at hmissing
    cases hmissing
  · exact hall

theorem map_dir_of_build (h : SearchIndex.build ws p.searchPaths p.roots = .ok index) :
    index.map (·.dir) = p.searchDirs.eraseDups :=
  SearchIndex.map_dir_of_build h

theorem exists_dir_of_resolve {r : Resolved} (h : (p.context ws).resolve name none = .ok r) :
    ∃ index, p.indexIn ws = .ok index ∧
      ∃ d ∈ index, d.dir.join ⟨LogicalName.fileName name⟩ = r.path := by
  change (p.indexIn ws).bind (fun index => Resolver.search ws index name) = .ok r at h
  rcases hindex : p.indexIn ws with e | index
  · rw [hindex] at h
    cases h
  · rw [hindex] at h
    exact ⟨index, rfl, Resolver.exists_dir_of_search h⟩

theorem resolve_error_cases {e : BundleError} (h : (p.context ws).resolve name none = .error e) :
    (∃ dir, p.searchDirs.find? (fun dir => !ws.isDirectory dir) = some dir ∧
      e = .directoryNotFound dir) ∨
    ∃ index, p.indexIn ws = .ok index ∧ e = .unresolved name none ∧
      ∀ dir ∈ index, Resolver.offer? ws (LogicalName.fileName name) dir = none := by
  change (p.indexIn ws).bind (fun index => Resolver.search ws index name) = .error e at h
  rcases hindex : p.indexIn ws with e' | index
  · rw [hindex] at h
    cases h
    exact Or.inl (missing_of_indexIn hindex)
  · rw [hindex] at h
    exact Or.inr ⟨index, rfl, Resolver.search_error h⟩

/-- A name that a new index does not have is in no search directory of the settings. -/
theorem provides_eq_false (hbuild : SearchIndex.build ws p.searchPaths p.roots = .ok index)
    (hnone : ∀ dir ∈ index, Resolver.offer? ws (LogicalName.fileName name) dir = none) :
    ∀ dir ∈ p.searchDirs, ws.isDirectory dir ∧ ws.provides (LogicalName.fileName name) dir = false := by
  intro dir hdir
  refine ⟨isDirectory_of_build hbuild dir hdir, ?_⟩
  have hmem : dir ∈ index.map (·.dir) := by
    rw [map_dir_of_build hbuild, List.mem_eraseDups]
    exact hdir
  obtain ⟨d, hd, rfl⟩ := List.mem_map.mp hmem
  have hoffer := hnone d hd
  rw [SearchIndex.offer?_of_listedIn (SearchIndex.listedIn_of_build hbuild d hd)] at hoffer
  simpa using hoffer

end Preprocessor

end ScriptBundle
