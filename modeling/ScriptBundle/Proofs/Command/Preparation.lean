import ScriptBundle.Command

/-! # What a request prepares

A request that comes as far as its command has settings that hold the values of its command line, and a
preprocessor that was made from these settings for the root.
-/

namespace ScriptBundle

variable {w : Workspace} {root : Path} {s : Settings} {p : Preprocessor}

theorem bind_eq_ok {ε α β : Type} {x : Except ε α} {f : α → Except ε β} {b : β} :
    x >>= f = .ok b ↔ ∃ a, x = .ok a ∧ f a = .ok b := by
  cases x with
  | error e => simp [bind, Except.bind]
  | ok a => simp [bind, Except.bind]

theorem Preprocessor.ofSettings_eq_ok {roots : Roots} (h : ofSettings s roots = .ok p) :
    ∃ matcher stripper, Matcher.ofText s.requirePattern = .ok matcher ∧
      CommentStripper.ofPatterns s.commentPattern = .ok stripper ∧
      p = { searchPaths := s.searchPaths
            roots := s.webroot.elim roots fun webroot => roots.withWebroot (roots.app.join webroot)
            matcher
            stripper := if s.stripComments then some stripper else none
            carry := s.carryCommentState } := by
  obtain ⟨_, -, h⟩ := bind_eq_ok.mp h
  obtain ⟨matcher, hmatcher, h⟩ := bind_eq_ok.mp h
  obtain ⟨stripper, hstripper, h⟩ := bind_eq_ok.mp h
  refine ⟨matcher, stripper, hmatcher, hstripper, (Except.ok.inj h).symm.trans ?_⟩
  rcases s.webroot with _ | webroot <;> rfl

/-- Loaded settings are some settings with the values of the command line laid over them. -/
theorem Settings.exists_apply_of_load {config : Option Path} {o : Overrides}
    (h : load w root config o = .ok s) : ∃ base : Settings, s = base.apply o := by
  have hchecked : ∀ base : Settings,
      ((base.apply o).validate >>= fun _ => Except.ok (base.apply o)) = .ok s → s = base.apply o := by
    intro base hbase
    obtain ⟨_, -, hs⟩ := bind_eq_ok.mp hbase
    exact (Except.ok.inj hs).symm
  unfold load at h
  cases config with
  | some path =>
    obtain ⟨base, -, h⟩ := bind_eq_ok.mp h
    exact ⟨base, hchecked base h⟩
  | none =>
    dsimp only at h
    split at h
    · obtain ⟨base, -, h⟩ := bind_eq_ok.mp h
      exact ⟨base, hchecked base h⟩
    · exact ⟨{}, hchecked {} h⟩

namespace Request

variable {r : Request}

theorem prepare_eq_ok (h : r.prepare w root = .ok (s, p)) :
    Settings.load w root (r.config.map root.join) r.overrides = .ok s ∧
      Preprocessor.ofSettings s (.ofApp root) = .ok p := by
  obtain ⟨loaded, hload, h⟩ := bind_eq_ok.mp h
  obtain ⟨made, hmade, h⟩ := bind_eq_ok.mp h
  cases h
  exact ⟨hload, hmade⟩

theorem searchPaths_of_prepare (h : r.prepare w root = .ok (s, p))
    (hgiven : r.overrides.searchPaths ≠ []) : s.searchPaths = r.overrides.searchPaths := by
  obtain ⟨base, rfl⟩ := Settings.exists_apply_of_load (prepare_eq_ok h).1
  have hnonempty : r.overrides.searchPaths.isEmpty = false := by simpa using hgiven
  simp only [Settings.apply, hnonempty, Bool.false_eq_true, if_false]

end Request

end ScriptBundle
