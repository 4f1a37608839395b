import ScriptBundle.Proofs.FileTree.Entries
import ScriptBundle.Proofs.Search.Outcomes

/-! # Answers that are files

A search directory lists links and devices beside its files, and nothing is asked of where a link leads. So
the listing of a directory and a look at the tree may differ. Main statement: links that lead to no file,
devices and paths of too great a length are all there is to it. Where no search directory has one of them
under the name that is looked for, an answer is a file.
-/

namespace ScriptBundle

namespace Workspace

/-- Whether a directory lists a name under which it has no file to be read: a link that leads to none, a
device, or a file behind a path that is too long to be handed on. -/
def misleads (w : Workspace) (dir : Path) (name : RawText) : Bool :=
  match w.locate dir with
  | .error _ => false
  | .ok l =>
    match w.tree.node? (l ++ [name]) with
    | some (.link _) => !w.isFile (dir.join ⟨name⟩)
    | some .device => true
    | some (.file _ _) => FileTree.pathLimit < (dir.join ⟨name⟩).text.length
    | some .directory | none => false

variable {w : Workspace} {dir : Path} {name : RawText} {l : Location}

theorem hasEntry_iff_node? (hw : w.tree.Proper) (hl : w.locate dir = .ok l) :
    w.hasEntry dir name ↔ ∃ n, w.tree.node? (l ++ [name]) = some n ∧ n ≠ .directory := by
  rw [hasEntry_iff]
  constructor
  · rintro ⟨k, n, hk, hn, hne⟩
    obtain rfl : l = k := Except.ok.inj (hl.symm.trans hk)
    exact ⟨n, (hw.node?_iff (by simp)).mpr (FileTree.mem_entries_iff.mp hn), hne⟩
  · rintro ⟨n, hn, hne⟩
    exact ⟨l, n, hl, FileTree.mem_entries_iff.mpr ((hw.node?_iff (by simp)).mp hn), hne⟩

theorem isName_of_hasEntry (hw : w.tree.Proper) (h : w.hasEntry dir name) :
    FileTree.IsName name ∧ 0 ∉ name := by
  obtain ⟨l, n, -, hn, -⟩ := hasEntry_iff.mp h
  exact hw.names _ (FileTree.mem_entries_iff.mp hn) name (by simp)

theorem hasEntry_eq_isFile (hw : w.tree.Proper) (hdir : w.isDirectory dir)
    (hplain : w.misleads dir name = false) (hname : slash ∉ name)
    (hidle : Path.Cut.isIdle name = false) (hup : name ≠ "..") :
    w.hasEntry dir name = w.isFile (dir.join ⟨name⟩) := by
  obtain ⟨node, hnode, houtline⟩ := isDirectory_iff.mp hdir
  obtain ⟨-, l, hl, hstands⟩ := nodeAt?_eq_ok_iff.mp hnode
  have hd : w.tree.isDirectoryAt l := by
    cases node <;> simp_all [FileNode.outline, FileTree.isDirectoryAt]
  rw [Bool.eq_iff_iff]
  constructor
  · intro h
    obtain ⟨hvalid, hnul⟩ := isName_of_hasEntry hw h
    obtain ⟨n, hn, hne⟩ := (hasEntry_iff_node? hw hl).mp h
    simp only [misleads, hl, hn] at hplain
    cases n with
    | file content modified =>
      have hsize := of_decide_eq_false hplain
      exact isFile_join_of_node? hl hd hvalid hnul hn (Nat.le_of_not_lt hsize)
    | directory => exact absurd rfl hne
    | link target => simpa using hplain
    | device => cases hplain
  · intro h
    exact (hasEntry_iff_node? hw hl).mpr (node?_of_isFile_join hl hname hidle hup h)

theorem provides_eq_isFile {name : String} (hw : w.tree.Proper) (hdir : w.isDirectory dir)
    (hplain : w.misleads dir (LogicalName.fileName name) = false) :
    w.provides (LogicalName.fileName name) dir =
      w.isFile (dir.join ⟨LogicalName.fileName name⟩) := by
  have hempty : LogicalName.fileName name ≠ "" := LogicalName.fileName_ne (by decide)
  have hdot : LogicalName.fileName name ≠ "." := LogicalName.fileName_ne (by decide)
  have hup : textOctets (LogicalName.fileName name) ≠ textOctets ".." :=
    mt textOctets_inj.mp (LogicalName.fileName_ne (by decide))
  have hidle : Path.Cut.isIdle (LogicalName.fileName name) = false := by
    simp [Path.Cut.isIdle, hempty, hdot]
  unfold provides
  by_cases hslash : '/' ∈ (LogicalName.fileName name).toList
  · have hnone : w.hasEntry dir (LogicalName.fileName name) = false := by
      rw [← Bool.not_eq_true]
      intro h
      exact (isName_of_hasEntry hw h).1.noSlash (slash_mem_textOctets_iff.mpr hslash)
    simp [hnone, hslash]
  · have hraw : slash ∉ textOctets (LogicalName.fileName name) := mt slash_mem_textOctets_iff.mp hslash
    simp [hslash, hasEntry_eq_isFile hw hdir hplain hraw hidle hup]

end Workspace

namespace Preprocessor

variable {p : Preprocessor} {w : Workspace} {name : String}

theorem find?_provides {dirs : List Path} (hw : w.tree.Proper)
    (hdirs : ∀ dir ∈ dirs, w.isDirectory dir)
    (hplain : ∀ dir ∈ dirs, w.misleads dir (LogicalName.fileName name) = false) :
    dirs.find? (w.provides (LogicalName.fileName name)) =
      dirs.find? fun dir => w.isFile (dir.join ⟨LogicalName.fileName name⟩) := by
  induction dirs with
  | nil => rw [List.find?_nil, List.find?_nil]
  | cons dir rest ih =>
    obtain ⟨hdir, hrest⟩ := List.forall_mem_cons.mp hdirs
    obtain ⟨hmisleads, hplain⟩ := List.forall_mem_cons.mp hplain
    rw [List.find?_cons, List.find?_cons, Workspace.provides_eq_isFile hw hdir hmisleads,
      ih hrest hplain]

/-- With all search directories in place, the answer comes from the first one that provides the file. -/
theorem resolve_eq_find?_provides (name : String) (hdirs : ∀ dir ∈ p.searchDirs, w.isDirectory dir) :
    (p.fresh.resolve w name none).1 =
      match p.searchDirs.find? (w.provides (LogicalName.fileName name)) with
      | some dir => .ok ⟨dir.join ⟨LogicalName.fileName name⟩, .searchPath⟩
      | none => .error (.unresolved name none) := by
  have hresolve : (p.fresh.resolve w name none).1 =
      (SearchIndex.build w p.searchPaths p.roots).bind fun index => Resolver.search w index name := rfl
  rcases p.build_cases w with ⟨missing, hfirst, -⟩ | ⟨-, index, hbuild⟩
  · have hmissing := List.find?_some hfirst
    rw [hdirs missing (List.mem_of_find?_eq_some hfirst)] at hmissing
    cases hmissing
  · have hlisted := SearchIndex.listedIn_of_build hbuild
    rw [hresolve, hbuild]
    exact SearchIndex.search_eq_find? name hlisted (map_dir_of_build hbuild)

theorem resolve_eq_find?_isFile (name : String) (hw : w.tree.Proper)
    (hplain : ∀ dir ∈ p.searchDirs, w.misleads dir (LogicalName.fileName name) = false)
    (hdirs : ∀ dir ∈ p.searchDirs, w.isDirectory dir) : (p.fresh.resolve w name none).1 =
      match p.searchDirs.find? fun dir => w.isFile (dir.join ⟨LogicalName.fileName name⟩) with
      | some dir => .ok ⟨dir.join ⟨LogicalName.fileName name⟩, .searchPath⟩
      | none => .error (.unresolved name none) := by
  rw [resolve_eq_find?_provides name hdirs, find?_provides hw hdirs hplain]

theorem contains_eq_isFile {index : SearchIndex} {d : IndexedDir} (hw : w.tree.Proper)
    (hplain : ∀ dir ∈ p.searchDirs, w.misleads dir (LogicalName.fileName name) = false)
    (hbuild : SearchIndex.build w p.searchPaths p.roots = .ok index) (hname : '/' ∉ name.toList)
    (hd : d ∈ index) :
    d.contains (LogicalName.fileName name) =
      w.isFile (d.dir.join ⟨LogicalName.fileName name⟩) := by
  have hdir : d.dir ∈ p.searchDirs := by
    rw [← List.mem_eraseDups, ← map_dir_of_build hbuild]
    exact List.mem_map_of_mem hd
  have hslash : '/' ∉ (LogicalName.fileName name).toList := mt LogicalName.slash_mem_fileName.mp hname
  have hfiles := SearchIndex.listedIn_of_build hbuild d hd
  rw [← Workspace.provides_eq_isFile hw (isDirectory_of_build hbuild _ hdir) (hplain _ hdir),
    IndexedDir.contains, SearchIndex.contains_listFiles hfiles, Workspace.provides]
  simp [hslash]

/-- A name in angles is answered with a file that can be read, if no search directory misleads: its listings
then say what a look at the tree says, and the answer is the first of the search directories in which the
name leads to a file. -/
theorem search_answers_with_files (p : Preprocessor) (w : Workspace) (name : String)
    (hw : w.tree.Proper)
    (hplain : ∀ dir ∈ p.searchDirs, w.misleads dir (LogicalName.fileName name) = false) :
    (∀ r, (p.fresh.resolve w name none).1 = .ok r → w.isFile r.path) ∧
    (∀ index, (p.fresh.searchIndex w).1 = .ok index → '/' ∉ name.toList →
      ∀ d ∈ index, d.contains (LogicalName.fileName name) =
        w.isFile (d.dir.join ⟨LogicalName.fileName name⟩)) ∧
    ((∀ dir ∈ p.searchDirs, w.isDirectory dir) → (p.fresh.resolve w name none).1 =
      match p.searchDirs.find? fun dir => w.isFile (dir.join ⟨LogicalName.fileName name⟩) with
      | some dir => .ok ⟨dir.join ⟨LogicalName.fileName name⟩, .searchPath⟩
      | none => .error (.unresolved name none)) := by
  refine ⟨?_, ?_, resolve_eq_find?_isFile name hw hplain⟩
  · intro r hr
    obtain ⟨index, hbuild, -⟩ := exists_dir_of_resolve hr
    rw [resolve_eq_find?_isFile name hw hplain (isDirectory_of_build hbuild)] at hr
    split at hr
    next dir hfind =>
      have hfile := List.find?_some hfind
      rw [← Except.ok.inj hr]
      dsimp only at hfile ⊢
      exact hfile
    next => cases hr
  · intro index hbuild hname d hd
    exact contains_eq_isFile hw hplain hbuild hname hd

def twoSearchPaths : Preprocessor where
  searchPaths := ["/a", "/b"]
  roots := .ofApp ⟨"/"⟩
  matcher := .ofMarker "#" .angle
  stripper := none
  carry := false

/-- A directory with the name of a script in front of a link to a script. -/
def linkedScript : Workspace where
  tree := ⟨[(["a"], .directory), (["a", "x.js"], .directory), (["b"], .directory),
    (["b", "x.js"], .link ⟨"../s.js"⟩), (["s.js"], .file [] 0)]⟩

theorem search_answers_with_files_linked :
    linkedScript.tree.Proper ∧
    (∀ dir ∈ twoSearchPaths.searchDirs,
      linkedScript.misleads dir (LogicalName.fileName "x") = false) ∧
    (twoSearchPaths.fresh.resolve linkedScript "x" none).1 = .ok ⟨⟨"/b/x.js"⟩, .searchPath⟩ ∧
    linkedScript.isFile ⟨"/b/x.js"⟩ := by
  have hproper : linkedScript.tree.Proper := ⟨by decide, by decide +kernel⟩
  have hplain : ∀ dir ∈ twoSearchPaths.searchDirs,
      linkedScript.misleads dir (LogicalName.fileName "x") = false := by decide +kernel
  obtain ⟨hfiles, -, hfirst⟩ := search_answers_with_files twoSearchPaths linkedScript "x" hproper hplain
  have hanswer : (twoSearchPaths.fresh.resolve linkedScript "x" none).1 =
      .ok ⟨⟨"/b/x.js"⟩, .searchPath⟩ := (hfirst (by decide +kernel)).trans (by decide +kernel)
  exact ⟨hproper, hplain, hanswer, hfiles _ hanswer⟩

/-- A link to a directory and a link to nothing in front of two scripts. -/
def shadowedScripts : Workspace where
  tree := ⟨[(["a"], .directory), (["a", "x.js"], .link ⟨"../d"⟩), (["a", "y.js"], .link ⟨"gone"⟩),
    (["b"], .directory), (["b", "x.js"], .file [] 0), (["b", "y.js"], .file [] 0),
    (["d"], .directory)]⟩

/-- The links are the answers, although they lead to no files and the files are there. -/
theorem search_answers_with_links : shadowedScripts.tree.Proper ∧
    ∀ name ∈ ["x", "y"], ∃ r, (twoSearchPaths.fresh.resolve shadowedScripts name none).1 = .ok r ∧
      shadowedScripts.isFile r.path = false ∧
      shadowedScripts.isFile ((Path.mk "/b").join ⟨LogicalName.fileName name⟩) := by
  have hdirs : ∀ dir ∈ twoSearchPaths.searchDirs, shadowedScripts.isDirectory dir := by decide +kernel
  refine ⟨⟨by decide, by decide +kernel⟩, ?_⟩
  intro name hname
  rw [resolve_eq_find?_provides name hdirs]
  simp only [List.mem_cons, List.not_mem_nil, or_false] at hname
  rcases hname with rfl | rfl
  · exact ⟨⟨⟨"/a/x.js"⟩, .searchPath⟩, by decide +kernel⟩
  · exact ⟨⟨⟨"/a/y.js"⟩, .searchPath⟩, by decide +kernel⟩

end Preprocessor

end ScriptBundle
