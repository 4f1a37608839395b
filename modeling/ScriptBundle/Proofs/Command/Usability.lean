import ScriptBundle.Proofs.Command.Preparation
import ScriptBundle.Proofs.Directive.Grammar

/-! # Settings that can be used

Loading settings checks their search paths, and their patterns are read when a preprocessor is made from
them. Main statement: loaded settings can be used exactly if their patterns can be read and the directive
pattern has its two groups, whatever the roots are. So loading accepts settings that no preprocessor can be
made from.
-/

namespace ScriptBundle

section

variable {α β : Type} {x : Except BundleError α} {f : α → Except BundleError β}
  {fault? next? : Option SettingsFault}

/-- A computation fails with a fault of the settings if there is one, and only then. -/
def FailsWith (fault? : Option SettingsFault) (x : Except BundleError α) : Prop :=
  match fault? with
  | some fault => x = .error (.configuration fault)
  | none => ∃ a, x = .ok a

theorem FailsWith.bind (hx : FailsWith fault? x) (hf : ∀ a, FailsWith next? (f a)) :
    FailsWith (fault?.or next?) (x >>= f) := by
  cases fault? with
  | some fault =>
    rw [show x = .error (.configuration fault) from hx]
    rfl
  | none =>
    obtain ⟨a, rfl⟩ := hx
    exact hf a

theorem FailsWith.map (hx : FailsWith fault? x) (g : α → β) :
    FailsWith fault? (x >>= fun a => pure (g a)) := by
  have hpure : ∀ a, FailsWith none (pure (g a) : Except BundleError β) := fun a => ⟨g a, rfl⟩
  simpa using hx.bind hpure

theorem FailsWith.exists_ok_iff (h : FailsWith fault? x) : (∃ a, x = .ok a) ↔ fault? = none := by
  cases fault? with
  | some fault =>
    have herror : x = .error (.configuration fault) := h
    simp [herror]
  | none => exact iff_of_true h rfl

theorem FailsWith.exists_fault (h : FailsWith fault? x) {e : BundleError} (he : x = .error e) :
    ∃ fault, fault? = some fault ∧ e = .configuration fault := by
  cases fault? with
  | some fault =>
    have herror : x = .error (.configuration fault) := h
    exact ⟨fault, rfl, Except.error.inj (he.symm.trans herror)⟩
  | none =>
    obtain ⟨a, ha⟩ := h
    cases he.symm.trans ha

end

def requireFault? (text : String) : Option SettingsFault :=
  match Pattern.ofString? text with
  | none => some (.badRequirePattern text)
  | some p => if p.groups < 2 then some (.tooFewGroups text) else none

def commentFault? (part : CommentPart) (text : String) : Option SettingsFault :=
  match Pattern.ofString? text with
  | none => some (.badCommentPattern part text)
  | some _ => none

def CommentPatterns.fault? (s : CommentPatterns) : Option SettingsFault :=
  (commentFault? .inline s.inline).or <| (commentFault? .blockLine s.blockLine).or <|
    (commentFault? .blockStart s.blockStart).or (commentFault? .blockEnd s.blockEnd)

namespace Settings

variable {w : Workspace} {root : Path} {config : Option Path} {o : Overrides} {s : Settings}

def searchPathFault? (s : Settings) : Option SettingsFault :=
  if s.searchPaths.isEmpty then some .noSearchPath
  else (s.searchPaths.find? isBlankEntry).map .blankSearchPath

def patternFault? (s : Settings) : Option SettingsFault :=
  (requireFault? s.requirePattern).or s.commentPattern.fault?

structure UsablePatterns (s : Settings) : Prop where
  require : ∃ p, Pattern.ofString? s.requirePattern = some p ∧ 2 ≤ p.groups
  inline : ∃ p, Pattern.ofString? s.commentPattern.inline = some p
  blockLine : ∃ p, Pattern.ofString? s.commentPattern.blockLine = some p
  blockStart : ∃ p, Pattern.ofString? s.commentPattern.blockStart = some p
  blockEnd : ∃ p, Pattern.ofString? s.commentPattern.blockEnd = some p

theorem patternFault?_eq_none_iff : s.patternFault? = none ↔ s.UsablePatterns := by
  have hrequire : requireFault? s.requirePattern = none ↔
      ∃ p, Pattern.ofString? s.requirePattern = some p ∧ 2 ≤ p.groups := by
    unfold requireFault?
    rcases Pattern.ofString? s.requirePattern with _ | p
    · simp
    · simp only [Option.some.injEq, exists_eq_left', ite_eq_right_iff, reduceCtorEq, imp_false,
        Nat.not_lt]
  have hcomment : ∀ part text, commentFault? part text = none ↔
      ∃ p, Pattern.ofString? text = some p := by
    intro part text
    unfold commentFault?
    rcases Pattern.ofString? text with _ | p <;> simp
  simp only [patternFault?, CommentPatterns.fault?, Option.or_eq_none_iff, hrequire, hcomment]
  exact ⟨fun ⟨a, b, c, d, e⟩ => ⟨a, b, c, d, e⟩, fun ⟨a, b, c, d, e⟩ => ⟨a, b, c, d, e⟩⟩

theorem searchPathFault?_eq_none_iff : s.searchPathFault? = none ↔
    s.searchPaths ≠ [] ∧ ∀ entry ∈ s.searchPaths, ∃ c ∈ entry.toList, isBlank c = false := by
  have hblank : ∀ entry : String, isBlankEntry entry = false ↔
      ∃ c ∈ entry.toList, isBlank c = false := by
    intro entry
    rw [isBlankEntry, ← Bool.not_eq_true, List.isEmpty_iff, Matcher.trim_eq_nil_iff]
    simp
  unfold searchPathFault?
  rcases hpaths : s.searchPaths with _ | ⟨first, rest⟩
  · simp
  · simp [hblank]

def configured (w : Workspace) (root : Path) (config : Option Path) : Except BundleError Settings :=
  match config with
  | some path => ofFile w path
  | none => if w.isFile (root.join ⟨fileName⟩) then ofFile w (root.join ⟨fileName⟩) else .ok {}

theorem load_eq (w : Workspace) (root : Path) (config : Option Path) (o : Overrides) :
    load w root config o = configured w root config >>= fun base =>
      (base.apply o).validate >>= fun _ => pure (base.apply o) := by
  unfold load configured
  cases config with
  | some path => rfl
  | none =>
    dsimp only
    split <;> rfl

theorem failsWith_validate (s : Settings) : FailsWith s.searchPathFault? s.validate := by
  unfold searchPathFault? validate
  split
  · rfl
  · cases s.searchPaths.find? isBlankEntry with
    | some entry => rfl
    | none => exact ⟨(), rfl⟩

theorem exists_failsWith_configured (w : Workspace) (root : Path) (config : Option Path) :
    ∃ fault?, FailsWith fault? (configured w root config) := by
  have hfile : ∀ path, ∃ fault?, FailsWith fault? (ofFile w path) := by
    intro path
    unfold ofFile ofText
    split
    · split
      · exact ⟨none, _, rfl⟩
      · exact ⟨some _, rfl⟩
    · exact ⟨some _, rfl⟩
  unfold configured
  split
  · exact hfile _
  · split
    · exact hfile _
    · exact ⟨none, _, rfl⟩

theorem exists_failsWith_load (w : Workspace) (root : Path) (config : Option Path) (o : Overrides) :
    ∃ fault?, FailsWith fault? (load w root config o) := by
  obtain ⟨fault?, hbase⟩ := exists_failsWith_configured w root config
  rw [load_eq]
  cases fault? with
  | some fault =>
    have herror : configured w root config = .error (.configuration fault) := hbase
    rw [herror]
    exact ⟨some fault, rfl⟩
  | none =>
    obtain ⟨base, hok⟩ := hbase
    rw [hok]
    exact ⟨(base.apply o).searchPathFault?, (failsWith_validate _).map _⟩

theorem load_eq_ok_iff : load w root config o = .ok s ↔
    ∃ base, configured w root config = .ok base ∧ s = base.apply o ∧ s.searchPathFault? = none := by
  rw [load_eq, bind_eq_ok]
  refine exists_congr fun base => and_congr_right fun _ => ?_
  rw [bind_eq_ok]
  constructor
  · rintro ⟨_, hvalid, hs⟩
    obtain rfl := Except.ok.inj hs
    exact ⟨rfl, (failsWith_validate _).exists_ok_iff.mp ⟨_, hvalid⟩⟩
  · rintro ⟨rfl, hnone⟩
    obtain ⟨u, hvalid⟩ := (failsWith_validate _).exists_ok_iff.mpr hnone
    exact ⟨u, hvalid, rfl⟩

end Settings

theorem Matcher.failsWith_ofText (text : String) :
    FailsWith (requireFault? text) (Matcher.ofText text) := by
  unfold requireFault? Matcher.ofText
  rcases Pattern.ofString? text with _ | p
  · rfl
  · dsimp only
    split
    · rfl
    · exact ⟨_, rfl⟩

theorem CommentStripper.failsWith_patternOf (part : CommentPart) (text : String) :
    FailsWith (commentFault? part text) (patternOf part text) := by
  unfold commentFault? patternOf
  rcases Pattern.ofString? text with _ | p
  · rfl
  · exact ⟨p, rfl⟩

theorem CommentStripper.failsWith_ofPatterns (s : CommentPatterns) :
    FailsWith s.fault? (ofPatterns s) := by
  refine (failsWith_patternOf .inline s.inline).bind fun inline => ?_
  refine (failsWith_patternOf .blockLine s.blockLine).bind fun blockLine => ?_
  refine (failsWith_patternOf .blockStart s.blockStart).bind fun blockStart => ?_
  exact (failsWith_patternOf .blockEnd s.blockEnd).map _

theorem Preprocessor.failsWith_ofSettings (s : Settings) (roots : Roots) :
    FailsWith (s.searchPathFault?.or s.patternFault?) (ofSettings s roots) := by
  refine s.failsWith_validate.bind fun _ => ?_
  refine (Matcher.failsWith_ofText s.requirePattern).bind fun matcher => ?_
  exact (CommentStripper.failsWith_ofPatterns s.commentPattern).map _

namespace Settings

/-- Loading fails with a fault of the settings only, and gives the settings of the file with the values of
the command line if these have search paths, none of them blank. A preprocessor can then be made from them
if their patterns can be used, and otherwise fails with the first fault of a pattern. -/
theorem load_checks_search_paths (w : Workspace) (root : Path) (config : Option Path) (o : Overrides) :
    (∀ e, load w root config o = .error e → ∃ fault, e = .configuration fault) ∧
    ∀ s, (load w root config o = .ok s ↔ ∃ base, configured w root config = .ok base ∧
        s = base.apply o ∧ s.searchPaths ≠ [] ∧
        ∀ entry ∈ s.searchPaths, ∃ c ∈ entry.toList, isBlank c = false) ∧
      (load w root config o = .ok s → ∀ roots,
        ((∃ p, Preprocessor.ofSettings s roots = .ok p) ↔ s.UsablePatterns) ∧
        ∀ e, Preprocessor.ofSettings s roots = .error e →
          ∃ fault, s.patternFault? = some fault ∧ e = .configuration fault) := by
  obtain ⟨fault?, hload⟩ := exists_failsWith_load w root config o
  refine ⟨fun e he => ?_, fun s => ⟨?_, fun hs roots => ?_⟩⟩
  · obtain ⟨fault, -, hfault⟩ := hload.exists_fault he
    exact ⟨fault, hfault⟩
  · simp only [load_eq_ok_iff, searchPathFault?_eq_none_iff]
  · obtain ⟨_, -, -, hpaths⟩ := load_eq_ok_iff.mp hs
    have hmade := Preprocessor.failsWith_ofSettings s roots
    rw [hpaths, Option.none_or] at hmade
    refine ⟨hmade.exists_ok_iff.trans patternFault?_eq_none_iff, fun e he => ?_⟩
    exact hmade.exists_fault he

def settingsFiles : Workspace where
  tree := ⟨[
    (["jsfold.json"],
      .file (textOctets "\x7b\"searchPaths\":[\"APP\"],\"requirePattern\":\"(\"\x7d") 0),
    (["lib.json"], .file (textOctets
      "\x7b\"searchPaths\":[\"APP/lib\"],\"requirePattern\":\"^(#)use (.+)\"\x7d") 0)]⟩

def libSettings : Settings :=
  { searchPaths := ["APP/lib"], requirePattern := "^(#)use (.+)", stripComments := true }

theorem load_checks_search_paths_lib :
    (load settingsFiles ⟨"/"⟩ (some ⟨"/lib.json"⟩) { stripComments := true } = .ok libSettings ∧
      libSettings.UsablePatterns ∧
      ∀ roots, ∃ p, Preprocessor.ofSettings libSettings roots = .ok p) ∧
    ∃ fault, load settingsFiles ⟨"/"⟩ (some ⟨"/lib.json"⟩) { searchPaths := ["a", "\t"] } =
      .error (.configuration fault) := by
  constructor
  · have hload : load settingsFiles ⟨"/"⟩ (some ⟨"/lib.json"⟩) { stripComments := true } =
        .ok libSettings := by decide +kernel
    have hpatterns : libSettings.UsablePatterns := patternFault?_eq_none_iff.mp (by decide +kernel)
    obtain ⟨-, hchecks⟩ :=
      load_checks_search_paths settingsFiles ⟨"/"⟩ (some ⟨"/lib.json"⟩) { stripComments := true }
    exact ⟨hload, hpatterns, fun roots => ((hchecks libSettings).2 hload roots).1.mpr hpatterns⟩
  · obtain ⟨hfault, -⟩ :=
      load_checks_search_paths settingsFiles ⟨"/"⟩ (some ⟨"/lib.json"⟩) { searchPaths := ["a", "\t"] }
    have hload : load settingsFiles ⟨"/"⟩ (some ⟨"/lib.json"⟩) { searchPaths := ["a", "\t"] } =
        .error (.configuration (.blankSearchPath "\t")) := by decide +kernel
    obtain ⟨fault, heq⟩ := hfault _ hload
    exact ⟨fault, by rw [hload, heq]⟩

def openGroupSettings : Settings := { searchPaths := ["APP"], requirePattern := "(" }

/-- Settings with a pattern that cannot be read are loaded without a word, and are of no use. -/
theorem load_accepts_open_group :
    load settingsFiles ⟨"/"⟩ none {} = .ok openGroupSettings ∧
    ∀ roots, Preprocessor.ofSettings openGroupSettings roots =
      .error (.configuration (.badRequirePattern "(")) := by
  refine ⟨by decide +kernel, fun roots => ?_⟩
  have hmade := Preprocessor.failsWith_ofSettings openGroupSettings roots
  have hfault : openGroupSettings.searchPathFault?.or openGroupSettings.patternFault? =
      some (.badRequirePattern "(") := by decide +kernel
  rw [hfault] at hmade
  exact hmade

end Settings

end ScriptBundle
