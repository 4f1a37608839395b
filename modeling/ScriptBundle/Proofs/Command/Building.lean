import ScriptBundle.Proofs.FileTree.Storing
import ScriptBundle.Proofs.Walk.Reachability

/-!
# What a build leaves behind

A build reads the whole of its input before it writes. The file tree of a bundle that fails is therefore
left as it is, and one that succeeds is stored as it was found, whatever the output path leads to: a file
that went into the bundle is no exception.
-/

namespace ScriptBundle

namespace Preprocessor

open Walk (quotingPreprocessor)

variable {w : Workspace}

theorem build_eq (p : Preprocessor) (w : Workspace) (entry : Path) (output : Option Path) :
    (p.build w entry output).1 =
      match (p.bundle w entry).1, output with
      | .error e, _ => (.error (.notBundled entry e), w.tree)
      | .ok b, none => (.ok b.output, w.tree)
      | .ok b, some file =>
        ((w.store file b.output).1.map fun _ => "", (w.store file b.output).2) := by
  unfold build
  rcases p.bundle w entry with ⟨e | b, after⟩
  · rfl
  · rcases output with _ | file <;> rfl

theorem build_to_file_cases {p : Preprocessor} {entry file : Path} {answer : Except CommandError String}
    {t : FileTree} (h : (p.build w entry (some file)).1 = (answer, t)) :
    (∃ e, (p.bundle w entry).1 = .error e ∧ answer = .error (.notBundled entry e) ∧ t = w.tree) ∨
      ∃ b, (p.bundle w entry).1 = .ok b ∧
        (w.store file b.output = (.ok (), t) ∧ answer = .ok "" ∨
          ∃ e, w.store file b.output = (.error e, t) ∧ answer = .error e) := by
  rw [build_eq] at h
  rcases hbundle : (p.bundle w entry).1 with e | b
  · rw [hbundle] at h
    cases h
    exact Or.inl ⟨e, rfl, rfl, rfl⟩
  · rw [hbundle] at h
    refine Or.inr ⟨b, rfl, ?_⟩
    rcases hstore : w.store file b.output with ⟨e | _, t'⟩
    · simp only [hstore] at h
      cases h
      exact Or.inr ⟨e, rfl, rfl⟩
    · simp only [hstore] at h
      cases h
      exact Or.inl ⟨rfl, rfl⟩

/-- A bundle that fails leaves the file tree as it is. One that succeeds is printed, or it is stored as it
was before anything was written; where it cannot be stored, nothing but directories above the output path
has come. -/
theorem build_changes_output_only (p : Preprocessor) (entry : Path)
    (hhere : w.tree.Canonical w.here) :
    (∀ e, (p.bundle w entry).1 = .error e → ∀ output,
      (p.build w entry output).1 = (.error (.notBundled entry e), w.tree)) ∧
    (∀ b, (p.bundle w entry).1 = .ok b → (p.build w entry none).1 = (.ok b.output, w.tree)) ∧
    (∀ file printed t, (p.build w entry (some file)).1 = (.ok printed, t) →
      printed = "" ∧ ∃ b, (p.bundle w entry).1 = .ok b ∧
        ∃ place, w.Stored file (textOctets b.output) place t) ∧
    ∀ file e t, (p.build w entry (some file)).1 = (.error e, t) → w.Grown (Path.Above · file) t := by
  refine ⟨fun e he output => by rw [build_eq, he], fun b hb => by rw [build_eq, hb], ?_, ?_⟩
  · intro file printed t hbuild
    rcases build_to_file_cases hbuild with ⟨e, -, he, -⟩ |
      ⟨b, hbundle, ⟨hstore, hprinted⟩ | ⟨e, -, he⟩⟩
    · cases he
    · obtain ⟨place, hstored⟩ := Workspace.stored_of_store hhere hstore
      exact ⟨Except.ok.inj hprinted, b, hbundle, place, hstored⟩
    · cases he
  · intro file e t hbuild
    rcases build_to_file_cases hbuild with ⟨e', -, -, rfl⟩ |
      ⟨b, -, ⟨-, hanswer⟩ | ⟨e', hstore, -⟩⟩
    · exact .refl w _
    · cases hanswer
    · exact Workspace.grown_of_store hstore

def linkedWorkspace : Workspace where
  tree := ⟨[(["p"], .directory), (["p", "a.js"], .file (textOctets "#b\nx\n") 1),
    (["p", "b.js"], .file (textOctets "y\n") 2), (["p", "out"], .link ⟨"/q"⟩), (["q"], .directory),
    (["q", "c.js"], .link ⟨"../p/b.js"⟩)]⟩
  here := ["p"]
  now := 3

theorem bundle_linked : ∃ inclusions,
    (quotingPreprocessor.bundle linkedWorkspace ⟨"a.js"⟩).1 = .ok ⟨"y\n\nx\n\n", inclusions⟩ :=
  ⟨[⟨["p", "a.js"], none, 0⟩, ⟨["p", "b.js"], some ⟨⟨.quoted, "b"⟩, ⟨"a.js"⟩, 1, .relative⟩, 1⟩],
    by decide +kernel⟩

/-- The output goes through the links into a source of the bundle, or into new directories behind a link. -/
theorem build_changes_output_only_linked :
    linkedWorkspace.tree.Canonical linkedWorkspace.here ∧
    (quotingPreprocessor.build linkedWorkspace ⟨"d.js"⟩ (some ⟨"out/new/e.js"⟩)).1 =
      (.error (.notBundled ⟨"d.js"⟩ (.fileRead ⟨"d.js"⟩ .missing)), linkedWorkspace.tree) ∧
    ∀ file ∈ [(⟨"out/c.js"⟩ : Path), ⟨"out/new/deep/e.js"⟩], ∃ t,
      (quotingPreprocessor.build linkedWorkspace ⟨"a.js"⟩ (some file)).1 = (.ok "", t) ∧
        ∃ place, linkedWorkspace.Stored file (textOctets "y\n\nx\n\n") place t := by
  have hplaced : linkedWorkspace.Placed :=
    show linkedWorkspace.locate ⟨"/p"⟩ = .ok ["p"] by decide +kernel
  refine ⟨hplaced.canonical, ?_, fun file hfile => ?_⟩
  · exact (build_changes_output_only quotingPreprocessor ⟨"d.js"⟩ hplaced.canonical).1 _
      (by decide +kernel) _
  · have hok : ∀ file ∈ [(⟨"out/c.js"⟩ : Path), ⟨"out/new/deep/e.js"⟩],
        (quotingPreprocessor.build linkedWorkspace ⟨"a.js"⟩ (some file)).1.1 = .ok "" := by
      decide +kernel
    have hbuild : (quotingPreprocessor.build linkedWorkspace ⟨"a.js"⟩ (some file)).1 =
        (.ok "", (quotingPreprocessor.build linkedWorkspace ⟨"a.js"⟩ (some file)).1.2) :=
      Prod.ext (hok file hfile) rfl
    obtain ⟨-, b, hb, hstored⟩ :=
      (build_changes_output_only quotingPreprocessor ⟨"a.js"⟩ hplaced.canonical).2.2.1 file _ _ hbuild
    obtain ⟨inclusions, hbundle⟩ := bundle_linked
    rw [hbundle] at hb
    cases hb
    exact ⟨_, hbuild, hstored⟩

def nullWorkspace : Workspace where
  tree := ⟨[(["a.js"], .file (textOctets "a();\n") 0), (["dev"], .directory),
    (["dev", "null"], .device)]⟩

/-- A build to a device succeeds, and nothing of the output is there to be read afterwards. -/
theorem build_to_device_holds_nothing :
    nullWorkspace.tree.Canonical nullWorkspace.here ∧
    ¬∀ t b, (quotingPreprocessor.build nullWorkspace ⟨"a.js"⟩ (some ⟨"/dev/null"⟩)).1 = (.ok "", t) →
      (quotingPreprocessor.bundle nullWorkspace ⟨"a.js"⟩).1 = .ok b →
      (nullWorkspace.withTree t).read ⟨"/dev/null"⟩ = .ok (textOctets b.output) := by
  refine ⟨FileTree.canonical_nil _, fun h => ?_⟩
  have hread := h nullWorkspace.tree ⟨"a();\n\n", [⟨["a.js"], none, 0⟩]⟩ (by decide +kernel)
    (by decide +kernel)
  revert hread
  decide +kernel

end Preprocessor

end ScriptBundle
