import ScriptBundle.Proofs.FileTree.Elsewhere
import ScriptBundle.Proofs.Search.Outcomes
import ScriptBundle.Proofs.Walk.RequireGraph

/-! # The current directory and walks

With absolute search directories, a walk from an absolute path asks for absolute paths only: a file that
holds a directive stands in a directory, and what is looked for there or along the search directories is
absolute again. So the walk is the same from every current directory.
-/

namespace ScriptBundle

namespace SearchIndex

variable {w : Workspace} {here : Location} {index : SearchIndex} {dirs : List Path}

theorem listFiles_standing {dir : Path} (hdir : dir.isAbsolute) :
    listFiles (w.standing here) dir = listFiles w dir := by
  rw [listFiles, listFiles, Workspace.isDirectory_standing hdir, Workspace.locate_standing hdir]
  rfl

theorem foldlM_addDir_standing (hdirs : ∀ dir ∈ dirs, dir.isAbsolute) :
    dirs.foldlM (addDir (w.standing here)) index = dirs.foldlM (addDir w) index := by
  induction dirs generalizing index with
  | nil => rfl
  | cons dir rest ih =>
    obtain ⟨hdir, hrest⟩ := List.forall_mem_cons.mp hdirs
    have hadd : addDir (w.standing here) index dir = addDir w index dir := by
      rw [addDir, addDir, listFiles_standing hdir]
    rw [List.foldlM_cons, List.foldlM_cons, hadd]
    rcases addDir w index dir with e | next
    · rfl
    · exact ih hrest

end SearchIndex

namespace Resolver

variable {w : Workspace} {here : Location} {index : SearchIndex}

theorem findSome?_offer?_standing (hindex : ∀ d ∈ index, d.dir.isAbsolute) (file : String) :
    index.findSome? (offer? (w.standing here) file) = index.findSome? (offer? w file) := by
  induction index with
  | nil => rw [List.findSome?_nil, List.findSome?_nil]
  | cons d rest ih =>
    obtain ⟨hd, hrest⟩ := List.forall_mem_cons.mp hindex
    have hoffer : offer? (w.standing here) file d = offer? w file d := by
      simp only [offer?, Workspace.isFile_standing (Path.isAbsolute_join hd)]
    rw [List.findSome?_cons, List.findSome?_cons, hoffer, ih hrest]

theorem search_standing (hindex : ∀ d ∈ index, d.dir.isAbsolute) (name : String) :
    search (w.standing here) index name = search w index name := by
  rw [search, search, findSome?_offer?_standing hindex]

end Resolver

namespace Preprocessor

structure Grounded (p : Preprocessor) : Prop where
  fresh : p.index = none
  absolute : ∀ dir ∈ p.searchDirs, dir.isAbsolute

variable {p : Preprocessor} {w : Workspace} {here : Location}

namespace Grounded

theorem build_standing (h : p.Grounded) :
    SearchIndex.build (w.standing here) p.searchPaths p.roots =
      SearchIndex.build w p.searchPaths p.roots :=
  SearchIndex.foldlM_addDir_standing h.absolute

theorem indexIn_eq (h : p.Grounded) (w : Workspace) :
    p.indexIn w = SearchIndex.build w p.searchPaths p.roots := by
  rw [indexIn, h.fresh]

theorem indexIn_standing (h : p.Grounded) : p.indexIn (w.standing here) = p.indexIn w := by
  rw [h.indexIn_eq, h.indexIn_eq, h.build_standing]

theorem isAbsolute_dir {index : SearchIndex} (h : p.Grounded) (hindex : p.indexIn w = .ok index) :
    ∀ d ∈ index, d.dir.isAbsolute := by
  intro d hd
  have hmem : d.dir ∈ index.map (·.dir) := List.mem_map_of_mem hd
  rw [h.indexIn_eq] at hindex
  rw [map_dir_of_build hindex, List.mem_eraseDups] at hmem
  exact h.absolute _ hmem

theorem resolve_standing (h : p.Grounded) (name : String) (base : Option Path) :
    (p.context (w.standing here)).resolve name base = (p.context w).resolve name base := by
  cases base with
  | some dir => rfl
  | none =>
    have hbind : ∀ w : Workspace, (p.context w).resolve name none =
        (p.indexIn w).bind fun index => Resolver.search w index name := fun _ => rfl
    rw [hbind, hbind, h.indexIn_standing]
    rcases hindex : p.indexIn w with e | index
    · simp only [Except.bind]
    · exact Resolver.search_standing (h.isAbsolute_dir hindex) name

theorem isAbsolute_resolve (h : p.Grounded) {name : String} {base : Option Path} {r : Resolved}
    (hbase : ∀ dir ∈ base, dir.isAbsolute) (hr : (p.context w).resolve name base = .ok r) :
    r.path.isAbsolute := by
  cases base with
  | some dir =>
    obtain rfl : Resolver.beside name dir = r := Except.ok.inj hr
    simp only [Resolver.beside]
    exact Path.isAbsolute_join (hbase dir rfl)
  | none =>
    obtain ⟨index, hindex, d, hd, hpath⟩ := exists_dir_of_resolve hr
    rw [← hpath]
    exact Path.isAbsolute_join (h.isAbsolute_dir hindex d hd)

end Grounded

end Preprocessor

namespace Walk

open Preprocessor (Grounded)

variable {p : Preprocessor} {w : Workspace} {here : Location} {s s' : State}

/-- The files being read are read from the tree, and all of them were asked for by absolute paths. -/
def Rooted (ctx : WalkContext) (s : State) : Prop :=
  ∀ f ∈ s.stack, f.Reads ctx ∧ f.path.isAbsolute

theorem isAbsolute_base {ctx : WalkContext} {f : Frame} {d : Directive} {rest : List String}
    (hf : f.Reads ctx) (hpath : f.path.isAbsolute) (hd : Asks ctx f d rest) :
    ∀ dir ∈ d.base f.path, dir.isAbsolute := by
  intro dir hdir
  rcases hkind : d.kind with _ | _
  · obtain ⟨line, hu, -⟩ := hd
    obtain ⟨lines, hlines, -⟩ := hf.next hu
    have hfile := (readable_iff.mpr ⟨lines, hlines⟩).not_directory
    simp only [Directive.base, hkind, Option.mem_some_iff] at hdir
    rw [← hdir]
    exact Workspace.isAbsolute_directory_of_locate hpath hf.located hfile
  · simp [Directive.base, hkind] at hdir

theorem leads_standing (here : Location) {f : Frame} {d : Directive} {rest : List String}
    {r : Resolved} {l : Location} (hp : p.Grounded) (hf : f.Reads (p.context w))
    (hpath : f.path.isAbsolute) (hd : Asks (p.context w) f d rest)
    (ht : Leads (p.context w) f.path d r l) :
    Leads (p.context (w.standing here)) f.path d r l ∧ r.path.isAbsolute := by
  have hrpath := hp.isAbsolute_resolve (isAbsolute_base hf hpath hd) ht.resolved
  exact ⟨⟨(hp.resolve_standing _ _).trans ht.resolved,
    (Workspace.locate_standing hrpath).trans ht.located⟩, hrpath⟩

theorem step_standing (hp : p.Grounded) (h : Rooted (p.context w) s) (hs : Step (p.context w) s s') :
    Step (p.context (w.standing here)) s s' ∧ Rooted (p.context w) s' := by
  cases hs with
  | @finish walker f below hf =>
    refine ⟨@Step.finish (p.context (w.standing here)) walker f below hf, ?_⟩
    refine forall_handOver (fun f state hf => ?_) (List.forall_mem_cons.mp h).2
    exact ⟨⟨hf.1.located, hf.1.unread_eq⟩, hf.2⟩
  | @keep walker f below line rest hf hm =>
    obtain ⟨⟨hreads, hpath⟩, hbelow⟩ := List.forall_mem_cons.mp h
    refine ⟨@Step.keep (p.context (w.standing here)) walker f below line rest hf hm, ?_⟩
    exact List.forall_mem_cons.mpr ⟨⟨hreads.advance hf _, hpath⟩, hbelow⟩
  | @skip walker f below d rest r l hd ht hl =>
    obtain ⟨⟨hreads, hpath⟩, hbelow⟩ := List.forall_mem_cons.mp h
    obtain ⟨hleads, -⟩ := leads_standing here hp hreads hpath hd ht
    refine ⟨@Step.skip (p.context (w.standing here)) walker f below d rest r l hd hleads hl, ?_⟩
    obtain ⟨line, hu, -⟩ := hd
    exact List.forall_mem_cons.mpr ⟨⟨hreads.advance hu _, hpath⟩, hbelow⟩
  | @descend walker f below d rest r l hd ht hl =>
    obtain ⟨⟨hreads, hpath⟩, hbelow⟩ := List.forall_mem_cons.mp h
    obtain ⟨hleads, hrpath⟩ := leads_standing here hp hreads hpath hd ht
    refine ⟨@Step.descend (p.context (w.standing here)) walker f below d rest r l hd hleads hl, ?_⟩
    obtain ⟨line, hu, -⟩ := hd
    refine List.forall_mem_cons.mpr ⟨⟨reads_frame ht.located, hrpath⟩, ?_⟩
    exact List.forall_mem_cons.mpr ⟨⟨hreads.advance hu _, hpath⟩, hbelow⟩

theorem halt_standing {e : BundleError} {walker : Walker} (hp : p.Grounded)
    (h : Rooted (p.context w) s) (hh : Halt (p.context w) s e walker) :
    Halt (p.context (w.standing here)) s e walker := by
  cases hh with
  | unreadable hf => exact .unreadable hf
  | @unresolved walker f below d rest cause hd hr =>
    exact @Halt.unresolved (p.context (w.standing here)) walker f below d rest cause hd
      ((hp.resolve_standing _ _).trans hr)
  | @unlocated walker f below d rest r fault hd hr hl =>
    obtain ⟨⟨hreads, hpath⟩, -⟩ := List.forall_mem_cons.mp h
    have hrpath := hp.isAbsolute_resolve (isAbsolute_base hreads hpath hd) hr
    exact @Halt.unlocated (p.context (w.standing here)) walker f below d rest r fault hd
      ((hp.resolve_standing _ _).trans hr) ((Workspace.locate_standing hrpath).trans hl)

theorem reaches_standing (here : Location) (hp : p.Grounded) (h : Rooted (p.context w) s)
    (hr : Reaches (p.context w) s s') :
    Reaches (p.context (w.standing here)) s s' ∧ Rooted (p.context w) s' := by
  induction hr with
  | refl => exact ⟨.refl, h⟩
  | tail _ hs ih =>
    obtain ⟨hreach, hrooted⟩ := ih
    obtain ⟨hstep, hrooted'⟩ := step_standing hp hrooted hs
    exact ⟨hreach.tail hstep, hrooted'⟩

theorem run_standing (hp : p.Grounded) (h : Rooted (p.context w) s) :
    run (p.context (w.standing here)) s.walker s.stack = run (p.context w) s.walker s.stack := by
  rcases reaches_end_or_halt (p.context w) s with ⟨w', hr⟩ | ⟨s', e, w', hr, hh⟩
  · rw [hr.run_eq, (reaches_standing here hp h hr).1.run_eq, run_nil, run_nil]
  · obtain ⟨hreach, hrooted⟩ := reaches_standing here hp h hr
    rw [hr.run_eq, hh.run_eq, hreach.run_eq, (halt_standing hp hrooted hh).run_eq]

/-- A call for an absolute path does the same from every current directory. -/
theorem process_standing (hp : p.Grounded) {path : Path} (hpath : path.isAbsolute) (walker : Walker) :
    process (p.context (w.standing here)) walker path = process (p.context w) walker path := by
  have hlocate : (p.context (w.standing here)).workspace.locate path =
      (p.context w).workspace.locate path := Workspace.locate_standing hpath
  rcases hl : (p.context w).workspace.locate path with fault | l
  · rw [process_unlocated hl, process_unlocated (hlocate.trans hl)]
  by_cases hv : l ∈ walker.visited
  · rw [process_met hl hv, process_met (hlocate.trans hl) hv]
  · rw [process_unmet hl hv, process_unmet (hlocate.trans hl) hv]
    have hrooted : Rooted (p.context w) (opening (p.context w) walker path l) := by
      simpa [opening, Rooted] using ⟨reads_frame hl, hpath⟩
    exact run_standing hp hrooted

end Walk

/-- A request for an absolute path gives the same bundle from every current directory. -/
theorem Preprocessor.Grounded.bundle_standing {p : Preprocessor} {w : Workspace} {here : Location}
    {entry : Path} (hp : p.Grounded) (hentry : entry.isAbsolute) :
    (p.bundle (w.standing here) entry).1 = (p.bundle w entry).1 := by
  simp only [bundle, Walk.process_standing hp hentry]

end ScriptBundle
