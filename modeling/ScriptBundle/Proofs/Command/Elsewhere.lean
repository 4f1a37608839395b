import ScriptBundle.CommandLine
import ScriptBundle.Proofs.Command.Building
import ScriptBundle.Proofs.Command.Preparation
import ScriptBundle.Proofs.Walk.Elsewhere

/-! # The current directory and requests

A request takes all its paths from the root. With an absolute root, and with search paths that begin with a
placeholder or a slash, its answer is the same from every current directory.
-/

namespace ScriptBundle

variable {w : Workspace} {here : Location} {root : Path}

theorem Workspace.store_standing {file : Path} (hfile : file.isAbsolute) (text : String) :
    (w.standing here).store file text = w.store file text := by
  rcases hparent : file.parent? with _ | outer
  · have hdirectory : file.directory.text = [] := by
      rw [Path.directory, hparent]
      rfl
    simp only [store, hdirectory, if_true, tree_standing, withTree_standing, write_standing hfile]
  · have hdirectory : file.directory.isAbsolute :=
      Path.isAbsolute_directory hfile (by rw [hparent]; exact Option.some_ne_none outer)
    simp only [store, makeDirectories, makeDirectoriesWithin_standing hdirectory, tree_standing,
      withTree_standing, write_standing hfile]

namespace Settings

theorem ofFile_standing {path : Path} (hpath : path.isAbsolute) :
    ofFile (w.standing here) path = ofFile w path := by
  rw [ofFile, ofFile, Workspace.readText_standing hpath]

theorem load_standing (hroot : root.isAbsolute) {config : Option Path}
    (hconfig : ∀ path ∈ config, path.isAbsolute) (o : Overrides) :
    load (w.standing here) root config o = load w root config o := by
  cases config with
  | some path => simp only [load, ofFile_standing (hconfig path rfl)]
  | none =>
    have hfile : (root.join ⟨fileName⟩).isAbsolute := Path.isAbsolute_join hroot
    simp only [load, Workspace.isFile_standing hfile, ofFile_standing hfile]

end Settings

namespace Preprocessor

theorem grounded_of_ofSettings {s : Settings} {p : Preprocessor} (hroot : root.isAbsolute)
    (hp : ofSettings s (.ofApp root) = .ok p) (hanchored : ∀ q ∈ s.searchPaths, Roots.IsAnchored q) :
    p.Grounded := by
  obtain ⟨_, _, -, -, rfl⟩ := ofSettings_eq_ok hp
  refine ⟨rfl, fun dir hdir => ?_⟩
  obtain ⟨q, hq, rfl⟩ := List.mem_map.mp hdir
  refine Roots.isAbsolute_substitute ?_ ?_ (hanchored q hq)
  · rcases s.webroot with _ | webroot <;> exact hroot
  · rcases s.webroot with _ | webroot <;> exact Path.isAbsolute_join hroot

namespace Grounded

variable {p : Preprocessor}

theorem build_to_standing (hp : p.Grounded) {entry : Path} (hentry : entry.isAbsolute)
    {output : Option Path} (houtput : ∀ file ∈ output, file.isAbsolute) :
    (p.build (w.standing here) entry output).1 = (p.build w entry output).1 := by
  rw [build_eq, build_eq, hp.bundle_standing hentry]
  rcases (p.bundle w entry).1 with e | b
  · rfl
  rcases output with _ | file
  · rfl
  · simp only [Workspace.store_standing (houtput file rfl)]

end Grounded

end Preprocessor

theorem Inclusion.item_standing (algorithm : Option HashAlgorithm) (i : Inclusion) :
    i.item (w.standing here) root algorithm = i.item w root algorithm := by
  simp only [item, Workspace.fileMeta_standing (Location.isAbsolute_path i.location)]

theorem Bundle.report_standing (algorithm : Option HashAlgorithm) (b : Bundle) :
    b.report (w.standing here) root algorithm = b.report w root algorithm :=
  List.map_congr_left fun i _ => i.item_standing algorithm

theorem Resolved.report_standing {r : Resolved} (hr : r.path.isAbsolute) (name : String) :
    r.report (w.standing here) root name = r.report w root name := by
  simp only [report, Workspace.fileMeta_standing hr, Workspace.isFile_standing hr]

theorem SearchIndex.items_standing {d : IndexedDir} (hd : d.dir.isAbsolute) :
    items (w.standing here) root d = items w root d :=
  List.map_congr_left fun file _ => by
    simp only [Workspace.fileMeta_standing (Path.isAbsolute_join hd)]

theorem Preprocessor.Grounded.index_standing {p : Preprocessor} (hp : p.Grounded) :
    SearchIndex.report (w.standing here) p.searchPaths p.roots =
      SearchIndex.report w p.searchPaths p.roots := by
  rw [SearchIndex.report, SearchIndex.report, hp.build_standing]
  rcases hbuild : SearchIndex.build w p.searchPaths p.roots with e | index
  · simp only [bind, Except.bind]
  · have hindex := hp.isAbsolute_dir ((hp.indexIn_eq w).trans hbuild)
    have hitems : index.flatMap (SearchIndex.items (w.standing here) p.roots.app) =
        index.flatMap (SearchIndex.items w p.roots.app) := by
      rw [List.flatMap_def, List.flatMap_def,
        List.map_congr_left fun d hd => SearchIndex.items_standing (hindex d hd)]
    exact congrArg (fun items => Except.ok (Report.sorted items)) hitems

namespace Request

/-- The search paths that a request comes to, from the command line or its settings, begin with a
placeholder or a slash. -/
def Anchored (r : Request) (w : Workspace) : Prop :=
  ∀ l s p, w.locate r.root = .ok l → r.prepare w l.path = .ok (s, p) →
    ∀ q ∈ s.searchPaths, Roots.IsAnchored q

/-- A file beside which a name is to be resolved has a directory, which the root alone has not. -/
def Beside (r : Request) (w : Workspace) : Prop :=
  ∀ l name file, w.locate r.root = .ok l → r.command = .resolve name (some file) →
    (l.path.join file).parent? ≠ none

variable {r : Request}

theorem prepare_standing (hroot : root.isAbsolute) :
    r.prepare (w.standing here) root = r.prepare w root := by
  have hconfig : ∀ path ∈ r.config.map root.join, path.isAbsolute := by
    intro path hpath
    obtain ⟨file, -, rfl⟩ := Option.map_eq_some_iff.mp hpath
    exact Path.isAbsolute_join hroot
  rw [prepare, prepare, Settings.load_standing hroot hconfig]

theorem perform_standing {s : Settings} {p : Preprocessor} (hroot : root.isAbsolute)
    (hp : p.Grounded) (hpaths : p.searchPaths = s.searchPaths)
    (hbeside : ∀ name file, r.command = .resolve name (some file) → (root.join file).parent? ≠ none) :
    r.perform (w.standing here) root s p = r.perform w root s p := by
  unfold perform
  rcases hcommand : r.command with ⟨entry, output⟩ | ⟨entry, algorithm⟩ | ⟨name, requiring⟩ | _
  · refine hp.build_to_standing (Path.isAbsolute_join hroot) fun path hpath => ?_
    obtain ⟨file, -, rfl⟩ := Option.map_eq_some_iff.mp hpath
    exact Path.isAbsolute_join hroot
  · simp only [hp.bundle_standing (Path.isAbsolute_join hroot), Bundle.report_standing,
      Workspace.tree_standing]
  · have hbase : ∀ dir ∈ requiring.map fun f => (root.join f).directory, dir.isAbsolute := by
      intro dir hdir
      obtain ⟨file, rfl, rfl⟩ := Option.map_eq_some_iff.mp hdir
      exact Path.isAbsolute_directory (Path.isAbsolute_join hroot) (hbeside name file hcommand)
    have hresolve : ∀ w base, (p.resolve w name base).1 = (p.context w).resolve name base :=
      fun _ _ => rfl
    simp only [hresolve, hp.resolve_standing, Workspace.tree_standing]
    rcases hfound : (p.context w).resolve name _ with e | found
    · rfl
    · simp only [Resolved.report_standing (hp.isAbsolute_resolve hbase hfound)]
  · simp only [← hpaths, hp.index_standing, Workspace.tree_standing]

/-- A request with an absolute root, with search paths that begin with a placeholder or a slash, and beside
a file that has a directory, has the same answer and leaves the same file tree behind from every current
directory. -/
theorem run_standing (w : Workspace) (hroot : r.root.isAbsolute) (hanchored : r.Anchored w)
    (hbeside : r.Beside w) (here : Location) : r.run (w.standing here) = r.run w := by
  unfold run
  rw [Workspace.locate_standing hroot]
  rcases hl : w.locate r.root with fault | l
  · rfl
  have habsolute := Location.isAbsolute_path l
  simp only [prepare_standing habsolute]
  rcases hprepare : r.prepare w l.path with e | ⟨s, p⟩
  · rfl
  have hsettings := (prepare_eq_ok hprepare).2
  have hpaths : p.searchPaths = s.searchPaths := by
    obtain ⟨_, _, -, -, rfl⟩ := Preprocessor.ofSettings_eq_ok hsettings
    rfl
  refine perform_standing habsolute ?_ hpaths ?_
  · exact Preprocessor.grounded_of_ofSettings habsolute hsettings (hanchored l s p hl hprepare)
  · exact fun name file hcommand => hbeside l name file hl hcommand

end Request

namespace CommandLine

/-- A command line with an absolute root does the same from every current directory: the words make the same
request anyway, and its answer, with the file tree that it leaves behind, is the same. The search paths have
to begin with a placeholder or a slash, and a name may not be resolved beside the root of the file system,
which stands in no directory. -/
theorem answers_agree (words : List String) (configInEnvironment : Option String) (w : Workspace)
    (h : ∀ r, ofWords words configInEnvironment = .ok r →
      r.root.isAbsolute ∧ r.Anchored w ∧ r.Beside w) (here here' : Location) :
    (ofWords words configInEnvironment).map (Request.run · (w.standing here)) =
      (ofWords words configInEnvironment).map (Request.run · (w.standing here')) := by
  rcases hwords : ofWords words configInEnvironment with fault | r
  · rfl
  · obtain ⟨hroot, hanchored, hbeside⟩ := h r hwords
    simp only [Except.map, Request.run_standing w hroot hanchored hbeside]

def nestedFiles : Workspace where
  tree := ⟨[(["p"], .directory), (["p", "sub"], .directory),
    (["p", "sub", "x.js"], .file (textOctets "x();\n") 0)]⟩

def resolveWords (file : String) : List String :=
  ["--root", "/p", "--search-path", "APP", "resolve", "x", "--from", file]

def resolveRequest (file : String) : Request where
  root := ⟨"/p"⟩
  overrides := { searchPaths := ["APP"] }
  command := .resolve "x" (some ⟨file⟩)

theorem ofWords_resolveWords : ∀ file ∈ ["sub/a.js", "/"],
    ofWords (resolveWords file) none = .ok (resolveRequest file) := by
  decide +kernel

theorem anchored_resolveRequest (file : String) : (resolveRequest file).Anchored nestedFiles := by
  intro l s p _ hprepare q hq
  rw [Request.searchPaths_of_prepare hprepare (List.cons_ne_nil "APP" [])] at hq
  rw [List.mem_singleton.mp hq]
  exact Or.inl (by decide)

theorem answers_agree_nested :
    ofWords (resolveWords "sub/a.js") none = .ok (resolveRequest "sub/a.js") ∧
    (resolveRequest "sub/a.js").root.isAbsolute ∧
    (resolveRequest "sub/a.js").Anchored nestedFiles ∧ (resolveRequest "sub/a.js").Beside nestedFiles ∧
    (ofWords (resolveWords "sub/a.js") none).map (Request.run · (nestedFiles.standing ["p"])) =
      (ofWords (resolveWords "sub/a.js") none).map
        (Request.run · (nestedFiles.standing ["p", "sub"])) := by
  have hwords := ofWords_resolveWords "sub/a.js" (by simp)
  have hroot : (resolveRequest "sub/a.js").root.isAbsolute := by decide
  have hanchored := anchored_resolveRequest "sub/a.js"
  have hbeside : (resolveRequest "sub/a.js").Beside nestedFiles := by
    rintro l name file hl hcommand
    cases hcommand
    obtain rfl : (["p"] : Location) = l := Except.ok.inj ((by decide +kernel :
      nestedFiles.locate ⟨"/p"⟩ = .ok ["p"]).symm.trans hl)
    decide +kernel
  refine ⟨hwords, hroot, hanchored, hbeside, answers_agree _ none nestedFiles ?_ ["p"] ["p", "sub"]⟩
  intro r hr
  obtain rfl := Except.ok.inj (hwords.symm.trans hr)
  exact ⟨hroot, hanchored, hbeside⟩

/-- The root of the file system has no directory, so the script is looked for in the current one: it is
there or not. -/
theorem answers_differ_beside_root :
    (∃ r, ofWords (resolveWords "/") none = .ok r ∧ r.root.isAbsolute ∧ r.Anchored nestedFiles) ∧
    (ofWords (resolveWords "/") none).map (Request.run · (nestedFiles.standing ["p"])) ≠
      (ofWords (resolveWords "/") none).map (Request.run · (nestedFiles.standing ["p", "sub"])) := by
  have hwords := ofWords_resolveWords "/" (by simp)
  refine ⟨⟨_, hwords, by decide, anchored_resolveRequest "/"⟩, ?_⟩
  rw [hwords]
  have hanswers : ((resolveRequest "/").run (nestedFiles.standing ["p"])).1 ≠
      ((resolveRequest "/").run (nestedFiles.standing ["p", "sub"])).1 := by
    decide +kernel
  exact fun hsame => hanswers (congrArg Prod.fst (Except.ok.inj hsame))

end CommandLine

end ScriptBundle
