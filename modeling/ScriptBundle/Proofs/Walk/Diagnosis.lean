import ScriptBundle.Proofs.FileTree.Beside
import ScriptBundle.Proofs.Search.Outcomes
import ScriptBundle.Proofs.Walk.Requests

/-! # What errors say

A call that fails says why: the path that it names was given to it or is the answer to a directive of a file
that it has logged, and what it says of that path or of the search directories is the case.
-/

namespace ScriptBundle

/-- Of the places that a path leads to, only directories cannot be read. -/
theorem Workspace.Placed.directory_of_unreadable {ws : Workspace} (hhere : ws.Placed) {q : Path}
    {place : Location} {fault : FileFault} (hl : ws.locate q = .ok place)
    (h : ws.tree.linesAt place = .error fault) :
    ws.tree.isDirectoryAt place ∧ fault = .isDirectory := by
  obtain ⟨n, hn⟩ := Option.isSome_iff_exists.mp (isSome_node?_of_locate hl)
  have hcanonical := canonical_of_locate hhere.canonical hl
  rw [FileTree.linesAt, hn] at h
  cases n with
  | file | device => cases h
  | link target => exact absurd hn (hcanonical.noLink target)
  | directory =>
    cases h
    exact ⟨by simp [FileTree.isDirectoryAt, hn], rfl⟩

namespace Walk

/-- A directive stands in a logged file that was asked for by `r`. -/
def Stands (ctx : WalkContext) (path : Path) (log : List Inclusion) (r : Path) (d : Directive) :
    Prop :=
  ∃ i, Requested ctx path log i r ∧ Holds ctx i.location d

/-- The paths that a call goes to: its own, and the answers to the directives of logged files. -/
inductive Given (ctx : WalkContext) (path : Path) (log : List Inclusion) : Path → Prop where
  | argument : Given ctx path log path
  | answer {r d q mode} (hd : Stands ctx path log r d)
      (hr : ctx.resolve d.target (d.base r) = .ok ⟨q, mode⟩) : Given ctx path log q

variable {ctx : WalkContext} {path q : Path} {log : List Inclusion} {i : Inclusion} {f : Frame}
  {d : Directive} {rest : List String}

theorem Requested.given (h : Requested ctx path log i q) : Given ctx path log q := by
  cases h with
  | argument => exact .argument
  | answer _ _ hparent hd hr => exact .answer ⟨_, hparent, hd⟩ hr

theorem stands_of_asks (hf : f.Reads ctx) (ht : Traced ctx path log f) (hd : Asks ctx f d rest) :
    Stands ctx path log f.path d := by
  obtain ⟨i, hi, hl⟩ := ht
  exact ⟨i, hi, hl ▸ holds_of_asks hf hd⟩

/-- The ways in which a call fails, as far as the lines and the tree tell. -/
theorem run_error_cases {w w' : Walker} {l : Location} {e : BundleError}
    (hl : ctx.workspace.locate path = .ok l)
    (h : run ctx (opening ctx w path l).walker (opening ctx w path l).stack = (.error e, w')) :
    ∃ log, w'.inclusions.reverse = w.inclusions.reverse ++ log ∧
      ((∃ q place fault, Given ctx path log q ∧ ctx.workspace.locate q = .ok place ∧
          ctx.workspace.tree.linesAt place = .error fault ∧ e = .fileRead q fault) ∨
        (∃ q fault, Given ctx path log q ∧ ctx.workspace.locate q = .error fault ∧
          e = .fileRead q fault) ∨
        ∃ r d cause, Stands ctx path log r d ∧ ctx.resolve d.target (d.base r) = .error cause ∧
          e = cause.requiredBy r) := by
  obtain ⟨s, hreach, hhalt⟩ := run_error_iff.mp h
  have htracked : Tracked ctx path w.inclusions.reverse s :=
    hreach.invariant (fun _ _ => step_preserves_tracked) (tracked_opening hl)
  obtain ⟨log, hlog, -, htraced⟩ := htracked.traced
  rw [← hhalt.inclusions_eq] at hlog
  refine ⟨log, hlog, ?_⟩
  cases hhalt with
  | @unreadable _ f _ fault hf =>
    have hreads := htracked.reads f List.mem_cons_self
    obtain ⟨i, hi, -⟩ := htraced f List.mem_cons_self
    have hlines : ctx.workspace.tree.linesAt f.location = .error fault := by
      have hunread := hreads.unread_eq
      rw [hf] at hunread
      rcases ha : ctx.workspace.tree.linesAt f.location with fault' | all
      · rw [ha] at hunread
        cases hunread
        rfl
      · rw [ha] at hunread
        cases hunread
    exact Or.inl ⟨_, _, fault, hi.given, hreads.located, hlines, rfl⟩
  | @unresolved _ f _ d _ cause hd hr =>
    have hstands := stands_of_asks (htracked.reads f List.mem_cons_self)
      (htraced f List.mem_cons_self) hd
    exact Or.inr (Or.inr ⟨_, d, cause, hstands, hr, rfl⟩)
  | @unlocated _ f _ d _ r fault hd hr hl =>
    have hstands := stands_of_asks (htracked.reads f List.mem_cons_self)
      (htraced f List.mem_cons_self) hd
    exact Or.inr (Or.inl ⟨_, fault, .answer hstands hr, hl, rfl⟩)

end Walk

namespace Preprocessor

open Walk

/-- What an error of a call says, and why it is the case: a path that the call goes to leads nowhere or to a
directory, no search directory has the file of a name in angles, or one of them is not there. The search
directories are those of the index, and those of the settings as far as the index is that of the tree. -/
inductive Diagnosis (p : Preprocessor) (ws : Workspace) (path : Path) (log : List Inclusion) :
    BundleError → Prop where
  | unlocated {q fault} (hq : Given (p.context ws) path log q) (hl : ws.locate q = .error fault) :
      Diagnosis p ws path log (.fileRead q fault)
  | directory {q place} (hq : Given (p.context ws) path log q) (hl : ws.locate q = .ok place)
      (hplace : ws.tree.isDirectoryAt place) :
      Diagnosis p ws path log (.fileRead q .isDirectory)
  | unresolved {r d index} (hd : Stands (p.context ws) path log r d) (hkind : d.kind = .angle)
      (hindex : p.indexIn ws = .ok index)
      (hnone : ∀ dir ∈ index, Resolver.offer? ws (LogicalName.fileName d.target) dir = none)
      (hscan : SearchIndex.build ws p.searchPaths p.roots = .ok index → ∀ dir ∈ p.searchDirs,
        ws.isDirectory dir ∧ ws.provides (LogicalName.fileName d.target) dir = false) :
      Diagnosis p ws path log (.unresolved d.target (some r))
  | missing {r d dir} (hd : Stands (p.context ws) path log r d) (hkind : d.kind = .angle)
      (hfirst : p.searchDirs.find? (fun dir => !ws.isDirectory dir) = some dir) :
      Diagnosis p ws path log (.directoryNotFound dir)

variable {p : Preprocessor} {ws : Workspace}

theorem diagnosis_of_resolve {path r : Path} {log : List Inclusion} {d : Directive}
    {cause : BundleError} (hd : Stands (p.context ws) path log r d)
    (h : (p.context ws).resolve d.target (d.base r) = .error cause) :
    p.Diagnosis ws path log (cause.requiredBy r) := by
  rcases hkind : d.kind with _ | _
  · simp [context, Directive.base, hkind, Resolver.resolve] at h
  rw [Directive.base, hkind] at h
  rcases resolve_error_cases h with ⟨dir, hfirst, rfl⟩ | ⟨index, hindex, rfl, hnone⟩
  · exact .missing hd hkind hfirst
  · exact .unresolved hd hkind hindex hnone fun hbuild => provides_eq_false hbuild hnone

/-- Every error of a call is a true diagnosis, whatever the walker has been through before: it is about the
path of the call, or about a directive of a file that the call has logged by then, which it names by the
path that the file was asked for by. -/
theorem process_error_diagnosis (p : Preprocessor) {ws : Workspace} (hhere : ws.Placed) (w : Walker)
    (path : Path) {e : BundleError} (h : (process (p.context ws) w path).1 = .error e) :
    (∃ log, (process (p.context ws) w path).2.bundle.inclusions = w.bundle.inclusions ++ log ∧
      p.Diagnosis ws path log e) ∧
    (∀ fault, e ≠ .configuration fault) ∧ ∀ name, e ≠ .unresolved name none := by
  have hdiagnosis : ∃ log,
      (process (p.context ws) w path).2.bundle.inclusions = w.bundle.inclusions ++ log ∧
        p.Diagnosis ws path log e := by
    rcases hl : (p.context ws).workspace.locate path with fault | l
    · rw [process_unlocated hl] at h ⊢
      cases h
      exact ⟨[], (List.append_nil _).symm, .unlocated .argument hl⟩
    by_cases hv : l ∈ w.visited
    · rw [process_met hl hv] at h
      cases h
    rw [process_unmet hl hv] at h ⊢
    obtain ⟨log, hlog, hcases⟩ := run_error_cases hl (Prod.ext h rfl)
    refine ⟨log, hlog, ?_⟩
    rcases hcases with ⟨q, place, fault, hq, hplace, hlines, rfl⟩ | ⟨q, fault, hq, hlocate, rfl⟩ |
      ⟨r, d, cause, hstands, hresolve, rfl⟩
    · obtain ⟨hdirectory, rfl⟩ := hhere.directory_of_unreadable hplace hlines
      exact .directory hq hplace hdirectory
    · exact .unlocated hq hlocate
    · exact diagnosis_of_resolve hstands hresolve
  refine ⟨hdiagnosis, ?_, ?_⟩
  · rintro fault rfl
    obtain ⟨log, -, hd⟩ := hdiagnosis
    cases hd
  · rintro name rfl
    obtain ⟨log, -, hd⟩ := hdiagnosis
    cases hd

def lackingFiles : Workspace where
  tree := ⟨[(["lib"], .directory), (["lib", "b.js"], .file (textOctets "#zip\n") 0),
    (["a.js"], .file (textOctets "#b\n") 0)]⟩

def libraryPreprocessor : Preprocessor where
  searchPaths := ["APP//lib/."]
  roots := .ofApp ⟨"/"⟩
  matcher := .ofMarker "#" .angle
  stripper := none
  carry := false

/-- The error names the second file by the path that the search directory gave. -/
theorem process_error_diagnosis_unresolved :
    lackingFiles.Placed ∧
    (process (libraryPreprocessor.context lackingFiles) {} ⟨"a.js"⟩).1 =
      .error (.unresolved "zip" (some ⟨"/lib/b.js"⟩)) ∧
    ∃ log, (process (libraryPreprocessor.context lackingFiles) {} ⟨"a.js"⟩).2.bundle.inclusions = log ∧
      libraryPreprocessor.Diagnosis lackingFiles ⟨"a.js"⟩ log
        (.unresolved "zip" (some ⟨"/lib/b.js"⟩)) := by
  have hhere : lackingFiles.Placed := show lackingFiles.locate ⟨"/"⟩ = .ok [] by decide +kernel
  have herror : (process (libraryPreprocessor.context lackingFiles) {} ⟨"a.js"⟩).1 =
      .error (.unresolved "zip" (some ⟨"/lib/b.js"⟩)) := by decide +kernel
  obtain ⟨log, hlog, hdiagnosis⟩ :=
    (process_error_diagnosis libraryPreprocessor hhere {} ⟨"a.js"⟩ herror).1
  exact ⟨hhere, herror, log, hlog, hdiagnosis⟩

end Preprocessor

end ScriptBundle
