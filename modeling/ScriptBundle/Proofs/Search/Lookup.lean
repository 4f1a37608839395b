import ScriptBundle.Proofs.Text.LogicalName
import ScriptBundle.Preprocessor

/-! # Looking names up in an index

An index holds the listings of the tree that it was built on, and a name without slashes is looked up in
these listings alone. Only a name that leads further down asks the tree of the moment.
-/

namespace ScriptBundle

namespace SearchIndex

def lookUp (index : SearchIndex) (name : String) : Except BundleError Resolved :=
  let file := LogicalName.fileName name
  match index.find? (·.contains file) with
  | some d => .ok ⟨d.dir.join ⟨file⟩, .searchPath⟩
  | none => .error (.unresolved name none)

/-- Each directory of the index is listed as it stands in a tree. -/
def ListedIn (w : Workspace) (index : SearchIndex) : Prop :=
  ∀ d ∈ index, listFiles w d.dir = .ok d.files

variable {w : Workspace} {index index' : SearchIndex}

theorem ListedIn.addDir {dir : Path} (h : index.ListedIn w) (hadd : addDir w index dir = .ok index') :
    index'.ListedIn w := by
  unfold SearchIndex.addDir at hadd
  split at hadd
  · cases hadd
    exact h
  · rcases hfiles : listFiles w dir with e | files
    · rw [hfiles] at hadd
      cases hadd
    · rw [hfiles] at hadd
      cases hadd
      intro d hd
      rcases List.mem_append.mp hd with hd | hd
      · exact h d hd
      · rw [List.mem_singleton.mp hd]
        exact hfiles

theorem ListedIn.foldlM {dirs : List Path} (h : index.ListedIn w)
    (hfold : dirs.foldlM (SearchIndex.addDir w) index = .ok index') : index'.ListedIn w := by
  induction dirs generalizing index with
  | nil =>
    cases hfold
    exact h
  | cons dir rest ih =>
    rw [List.foldlM_cons] at hfold
    rcases hadd : SearchIndex.addDir w index dir with e | next
    · rw [hadd] at hfold
      cases hfold
    · rw [hadd] at hfold
      exact ih (h.addDir hadd) hfold

theorem listedIn_of_build {searchPaths : List String} {roots : Roots}
    (h : build w searchPaths roots = .ok index) : index.ListedIn w :=
  ListedIn.foldlM (List.forall_mem_nil _) h

end SearchIndex

namespace Resolver

variable {name : String}

theorem offer?_of_notMem (hname : '/' ∉ name.toList) (w : Workspace) (d : IndexedDir) :
    offer? w (LogicalName.fileName name) d =
      if d.contains (LogicalName.fileName name) then
        some (d.dir.join ⟨LogicalName.fileName name⟩)
      else none := by
  have hfile : '/' ∉ (LogicalName.fileName name).toList := by
    rwa [LogicalName.slash_mem_fileName]
  simp [offer?, hfile]

/-- A name without slashes is answered by the listings, whatever the tree has become. -/
theorem search_eq_lookUp (hname : '/' ∉ name.toList) (w : Workspace) (index : SearchIndex) :
    search w index name = index.lookUp name := by
  have hfind : index.findSome? (offer? w (LogicalName.fileName name)) =
      (index.find? (·.contains (LogicalName.fileName name))).map
        fun d => d.dir.join ⟨LogicalName.fileName name⟩ := by
    induction index with
    | nil => rfl
    | cons d rest ih =>
      rw [List.findSome?_cons, List.find?_cons, offer?_of_notMem hname]
      cases d.contains (LogicalName.fileName name) with
      | true => rfl
      | false => exact ih
  rw [search, SearchIndex.lookUp, hfind]
  cases index.find? (·.contains (LogicalName.fileName name)) <;> rfl

end Resolver

theorem Preprocessor.resolve_eq_lookUp {p : Preprocessor} {ws : Workspace} {index : SearchIndex}
    {name : String} (hindex : p.indexIn ws = .ok index) (hname : '/' ∉ name.toList) :
    (p.context ws).resolve name none = index.lookUp name := by
  simp only [context, Resolver.resolve, hindex]
  exact Resolver.search_eq_lookUp hname ws index

end ScriptBundle
