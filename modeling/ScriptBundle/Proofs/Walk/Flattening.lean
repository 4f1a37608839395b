import Mathlib.Control.Monad.Basic
import ScriptBundle.Proofs.Command.Preparation
import ScriptBundle.Proofs.Comment.Boundaries
import ScriptBundle.Proofs.Directive.Grammar
import ScriptBundle.Proofs.FileTree.Writing
import ScriptBundle.Proofs.Text.Lines
import ScriptBundle.Proofs.Walk.InclusionRules

/-!
# Flat output

The output of a walk that succeeds consists of whole lines none of which is a directive or a comment of
its own. A file of such lines includes nothing else and is put out as it stands.
-/

namespace ScriptBundle

theorem FileTree.cut_linesAt {t : FileTree} {l : Location} {lines : List String}
    (h : t.linesAt l = .ok lines) : Cut lines := by
  unfold FileTree.linesAt at h
  rcases hnode : t.node? l with _ | node
  · rw [hnode] at h
    cases h
  · rw [hnode] at h
    rcases hcontent : node.content with fault | octets
    · simp [hcontent, Except.map] at h
    · obtain rfl : textLines octets = lines := by simpa [hcontent, Except.map] using h
      exact cut_textLines octets

namespace Walk

/-- A line that every walk puts out as it is, outside of comments. -/
structure Inert (ctx : WalkContext) (line : String) : Prop where
  terminated : Terminated line
  plain : ctx.matcher line = none
  kept : ctx.strip line .code = (some line, .code)

/-- What a line is does not change when the line feed is put behind it that it lacks. -/
structure Steady (ctx : WalkContext) : Prop where
  blank : Inert ctx "\n"
  plain : ∀ line, ctx.matcher line = none → ctx.matcher (line ++ "\n") = none
  kept : ∀ line, ctx.strip line .code = (some line, .code) →
    ctx.strip (line ++ "\n") .code = (some (line ++ "\n"), .code)

/-- A text that is made of such lines. -/
def Flat (ctx : WalkContext) (text : String) : Prop :=
  ∃ lines, text = String.join lines ∧ ∀ line ∈ lines, Inert ctx line

variable {ctx : WalkContext} {met : List Location} {depth : Nat} {f : Frame}
  {result : Except BundleError CommentState} {y z : Yield} {a b line : String}

theorem flat_empty : Flat ctx "" := ⟨[], rfl, by simp⟩

theorem Inert.flat (h : Inert ctx line) : Flat ctx line :=
  ⟨[line], by simp, by simpa using h⟩

theorem Flat.append (ha : Flat ctx a) (hb : Flat ctx b) : Flat ctx (a ++ b) := by
  obtain ⟨as, rfl, ha⟩ := ha
  obtain ⟨bs, rfl, hb⟩ := hb
  refine ⟨as ++ bs, String.join_append.symm, ?_⟩
  intro line hline
  exact (List.mem_append.mp hline).elim (ha line) (hb line)

theorem Includes.eq_of_finish (h : Includes ctx met depth f result y) (hf : f.unread = .ok []) :
    y = { fragments := [.separator f.location] } := by
  have hrun := h.includeFrame_eq
  rw [includeFrame_finish hf] at hrun
  exact (congrArg Prod.snd hrun).symm

theorem Inert.of_open (hs : Steady ctx) (hopen : '\n' ∉ line.toList)
    (hm : ctx.matcher line = none) (hk : ctx.strip line .code = (some line, .code)) :
    Inert ctx (line ++ "\n") :=
  ⟨⟨line, rfl, hopen⟩, hs.plain line hm, hs.kept line hk⟩

theorem flat_keep {rest : List String} (hs : Steady ctx) (hcut : Cut (line :: rest))
    (hm : ctx.matcher line = none) (hrest : Flat ctx y.text)
    (hlast : rest = [] → y.text = "\n") :
    Flat ctx (({ fragments := ((ctx.strip line f.state).1.map
      (Fragment.line f.location (f.line + 1))).toList } : Yield) ++ y).text := by
  rw [Yield.text_append]
  rcases strip_cases ctx line f.state with hnone | ⟨hsome, hk⟩
  · rw [hnone]
    exact flat_empty.append hrest
  · rw [hsome]
    have hline : (({ fragments := ((some line).map
        (Fragment.line f.location (f.line + 1))).toList } : Yield)).text = line := by
      simp [Yield.text, Fragment.text]
    rw [hline]
    rcases Cut.cons_iff.mp hcut with ⟨hterminated, -⟩ | ⟨hopen, hnil⟩
    · exact Inert.flat ⟨hterminated, hm, hk⟩ |>.append hrest
    · rw [hlast hnil]
      exact (Inert.of_open hs hopen hm hk).flat

theorem Includes.flat (h : Includes ctx met depth f result y) (hs : Steady ctx)
    {final : CommentState} (hok : result = .ok final)
    (hcut : ∀ lines, f.unread = .ok lines → Cut lines) : Flat ctx y.text := by
  induction h generalizing final with
  | unreadable => cases hok
  | unresolved => cases hok
  | unlocated => cases hok
  | fail => cases hok
  | @finish met depth f hf => exact hs.blank.flat
  | @keep met depth f line rest result y hf hm hrest ih =>
    have hlines := hcut _ hf
    have htail := ih hok fun lines hl => Except.ok.inj hl ▸ hlines.tail
    apply flat_keep hs hlines hm htail
    -- Behind a line that lacks its line feed there is only the separator.
    rintro rfl
    rw [hrest.eq_of_finish rfl]
    rfl
  | @skip met depth f d rest r l result y hd _ _ _ ih =>
    obtain ⟨line, hf, -⟩ := hd
    rw [Yield.text_append]
    exact flat_empty.append (ih hok fun lines hl => Except.ok.inj hl ▸ (hcut _ hf).tail)
  | @descend met depth f d rest r l middle result y z hd _ _ _ _ ihchild ihrest =>
    obtain ⟨line, hf, -⟩ := hd
    have hchild := ihchild rfl fun lines hl => FileTree.cut_linesAt hl
    have hrest := ihrest hok fun lines hl => Except.ok.inj hl ▸ (hcut _ hf).tail
    rw [Yield.text_append, Yield.text_append, Yield.text_append]
    exact flat_empty.append ((flat_empty.append hchild).append hrest)

theorem Includes.keep_of_strip {rest : List String} {kept : Option String} {state : CommentState}
    (hf : f.unread = .ok (line :: rest)) (hm : ctx.matcher line = none)
    (hk : ctx.strip line f.state = (kept, state))
    (hrest : Includes ctx met depth { f.advance rest with state } result y) :
    Includes ctx met depth f result
      ({ fragments := (kept.map (Fragment.line f.location (f.line + 1))).toList } ++ y) := by
  obtain ⟨rfl, rfl⟩ := Prod.mk.inj hk
  exact .keep hf hm hrest

theorem includes_verbatim {lines : List String} (hf : f.unread = .ok lines) (hstate : f.state = .code)
    (hplain : ∀ line ∈ lines, ctx.matcher line = none)
    (hkept : ∀ line ∈ lines, ctx.strip line .code = (some line, .code)) : ∃ fragments,
      Includes ctx met depth f (.ok .code) { fragments } ∧
        String.join (fragments.map (·.text)) = String.join lines ++ "\n" := by
  induction lines generalizing f with
  | nil =>
    have hend : Includes ctx met depth f (.ok f.state) _ := .finish hf
    rw [hstate] at hend
    exact ⟨_, hend, rfl⟩
  | cons line rest ih =>
    obtain ⟨hm, hplain⟩ := List.forall_mem_cons.mp hplain
    obtain ⟨hline, hkept⟩ := List.forall_mem_cons.mp hkept
    have hk : ctx.strip line f.state = (some line, .code) := hstate ▸ hline
    obtain ⟨fragments, hincludes, htext⟩ :=
      @ih { f.advance rest with state := .code } rfl rfl hplain hkept
    refine ⟨_, Includes.keep_of_strip hf hm hk hincludes, ?_⟩
    simpa [Fragment.text, String.append_assoc] using htext

/-- A file whose lines are no directives and are kept is put out as it stands. -/
theorem process_verbatim {path : Path} {l : Location} {lines : List String}
    (hl : ctx.workspace.locate path = .ok l) (hread : ctx.workspace.tree.linesAt l = .ok lines)
    (hplain : ∀ line ∈ lines, ctx.matcher line = none)
    (hkept : ∀ line ∈ lines, ctx.strip line .code = (some line, .code)) :
    (process ctx {} path).1 = .ok () ∧
      (process ctx {} path).2.bundle = ⟨String.join lines ++ "\n", [⟨l, none, 0⟩]⟩ := by
  have hframe : (ctx.frame l path .code).unread = .ok lines := hread
  obtain ⟨fragments, hincludes, htext⟩ := includes_verbatim hframe rfl hplain hkept
  rw [process_of_includes hl List.not_mem_nil hincludes]
  refine ⟨rfl, ?_⟩
  rw [bundle_extend, Yield.text_append, Yield.text, Yield.text, htext]
  simp [Walker.bundle, Yield.append_def]

theorem process_inert {path : Path} {l : Location} {lines : List String}
    (hl : ctx.workspace.locate path = .ok l) (hread : ctx.workspace.tree.linesAt l = .ok lines)
    (hlines : ∀ line ∈ lines, Inert ctx line) :
    (process ctx {} path).1 = .ok () ∧
      (process ctx {} path).2.bundle = ⟨String.join lines ++ "\n", [⟨l, none, 0⟩]⟩ :=
  process_verbatim hl hread (fun line hline => (hlines line hline).plain)
    fun line hline => (hlines line hline).kept

theorem steady_standard (hm : ctx.matcher = Matcher.standard)
    (hs : ∀ s, ctx.stripper = some s → s = CommentStripper.standard) : Steady ctx := by
  have hterminated : Terminated "\n" := ⟨"", rfl, by simp⟩
  have hplain : ctx.matcher "\n" = none := by
    rw [hm]
    exact Matcher.standard_eq_none (by decide)
  rcases hstripper : ctx.stripper with _ | s
  · have hstrip : ∀ line, ctx.strip line .code = (some line, .code) := by
      intro line
      rw [WalkContext.strip, hstripper]
    exact ⟨⟨hterminated, hplain, hstrip _⟩, fun line h => hm ▸ Matcher.standard_lineFeed (hm ▸ h),
      fun line _ => hstrip _⟩
  · have hstrip : ∀ line, ctx.strip line .code = CommentStripper.standard.strip line .code := by
      intro line
      rw [WalkContext.strip, hstripper, ← hs s hstripper]
    have hblank : ctx.strip "\n" .code = (some "\n", .code) := by
      rw [hstrip]
      exact CommentStripper.strip_of_not_slash (by decide)
    refine ⟨⟨hterminated, hplain, hblank⟩, fun line h => hm ▸ Matcher.standard_lineFeed (hm ▸ h), ?_⟩
    intro line h
    rw [hstrip] at h ⊢
    exact CommentStripper.strip_lineFeed h

end Walk

namespace Preprocessor

variable {s : Settings} {roots : Roots} {p : Preprocessor} {ws : Workspace} {entry : Path}
  {b : Bundle}

theorem standard_of_settings (hp : ofSettings s roots = .ok p)
    (hrequire : s.requirePattern = ({} : Settings).requirePattern)
    (hcomment : s.commentPattern = {}) :
    p.matcher = Matcher.standard ∧ ∀ c, p.stripper = some c → c = CommentStripper.standard := by
  obtain ⟨matcher, stripper, hmatcher, hstripper, rfl⟩ := ofSettings_eq_ok hp
  rw [hrequire, Matcher.ofText_default] at hmatcher
  rw [hcomment, CommentStripper.ofPatterns_default] at hstripper
  refine ⟨(Except.ok.inj hmatcher).symm, ?_⟩
  intro c hc
  dsimp only at hc
  split at hc
  · exact (Option.some.inj hc).symm.trans (Except.ok.inj hstripper).symm
  · cases hc

theorem flat_output (hs : Walk.Steady (p.context ws)) (hb : (p.bundle ws entry).1 = .ok b) :
    Walk.Flat (p.context ws) b.output := by
  obtain ⟨hok, rfl⟩ := bundle_eq_ok_iff.mp hb
  rcases hl : (p.context ws).workspace.locate entry with fault | l
  · rw [Walk.process_unlocated hl] at hok
    cases hok
  have hincludes := Walk.includes_includeFrame (p.context ws) [l] 0
    ((p.context ws).frame l entry .code)
  generalize Walk.includeFrame _ _ _ _ = inclusion at hincludes
  obtain ⟨result, y⟩ := inclusion
  have hprocess := Walk.process_of_includes (w := {}) hl List.not_mem_nil hincludes
  rw [hprocess] at hok ⊢
  rcases result with e | final
  · cases hok
  have hflat := hincludes.flat hs rfl fun lines hlines => FileTree.cut_linesAt hlines
  rw [Walk.bundle_extend, Yield.text_append]
  exact Walk.flat_empty.append (Walk.flat_empty.append hflat)

/-- With the patterns that hold without settings, a bundle that is stored as a new file is flat: a
bundle of that file includes nothing else and gives the same text, with the separator behind it. None of
its lines is a directive, and stripping takes none of them away. Either request may have a search index
from earlier ones. -/
theorem bundle_written_output {q : Path} {t : FileTree} (hp : ofSettings s roots = .ok p)
    (hrequire : s.requirePattern = ({} : Settings).requirePattern)
    (hcomment : s.commentPattern = {}) (earlier later : Option SearchIndex)
    (hb : ({ p with index := earlier }.bundle ws entry).1 = .ok b)
    (hnew : ws.locate q = .error .missing)
    (hw : ws.write q (textOctets b.output) = (.ok (), t)) :
    (∃ place, (ws.withTree t).locate q = .ok place ∧
      ({ p with index := later }.bundle (ws.withTree t) q).1 =
        .ok ⟨b.output ++ "\n", [⟨place, none, 0⟩]⟩) ∧
    ∀ line ∈ textLines (textOctets b.output), p.matcher line = none ∧
      ∀ c, p.stripper = some c → c.strip line .code = (some line, .code) := by
  obtain ⟨hmatcher, hstripper⟩ := standard_of_settings hp hrequire hcomment
  obtain ⟨lines, houtput, hlines⟩ :=
    flat_output (p := { p with index := earlier }) (Walk.steady_standard hmatcher hstripper) hb
  have hread : textLines (textOctets b.output) = lines := by
    rw [houtput]
    exact textLines_join fun line hline => (hlines line hline).terminated
  constructor
  · obtain ⟨place, hl, hnode⟩ := Workspace.locate_written hnew hw
    have hfile : t.linesAt place = .ok lines := by
      rw [FileTree.linesAt, hnode, ← hread]
      rfl
    have hinert : ∀ line ∈ lines,
        Walk.Inert ({ p with index := later }.context (ws.withTree t)) line := fun line hline =>
      ⟨(hlines line hline).terminated, (hlines line hline).plain, (hlines line hline).kept⟩
    obtain ⟨hok, hbundle⟩ := Walk.process_inert hl hfile hinert
    rw [← houtput] at hbundle
    exact ⟨place, hl, bundle_eq_ok_iff.mpr ⟨hok, hbundle⟩⟩
  · rw [hread]
    intro line hline
    refine ⟨(hlines line hline).plain, fun c hc => ?_⟩
    have hkept := (hlines line hline).kept
    have hcontext : (({ p with index := earlier } : Preprocessor).context ws).stripper = some c := hc
    rwa [WalkContext.strip, hcontext] at hkept

def carriedSettings : Settings :=
  { stripComments := true, searchPaths := ["APP"], carryCommentState := true }

def carriedRoots : Roots := ⟨⟨"/"⟩, ⟨"/"⟩⟩

def carried : Preprocessor where
  searchPaths := ["APP"]
  roots := carriedRoots
  matcher := Matcher.standard
  stripper := some CommentStripper.standard
  carry := true

def openFiles : Workspace where
  tree := ⟨[(["a.js"], .file (textOctets "//= require \"b\"\n*/\nx") 0),
    (["b.js"], .file (textOctets "y\n/* c") 0)]⟩

def carriedBundle : Bundle where
  output := "y\n\nx\n"
  inclusions := [⟨["a.js"], none, 0⟩,
    ⟨["b.js"], some ⟨⟨.quoted, "b"⟩, ⟨"/a.js"⟩, 1, .relative⟩, 1⟩]

theorem carried_directive : Matcher.standard "//= require \"b\"\n" = some ⟨.quoted, "b"⟩ := by
  have hblank : ∀ x ∈ [' '], isBlank x := by
    intro x hx
    rw [List.mem_singleton.mp hx]
    rfl
  have hline : DirectiveLine ("//= require \"b\"\n").toList '"' ['b'] :=
    @DirectiveLine.intro [] [' '] [' '] '"' ['b'] '"' ['\n'] (by simp) hblank (by simp) hblank
      (by simp) (Or.inl rfl) (by simp) (by simp) (Or.inl rfl)
  exact Matcher.standard_eq_some_iff.mpr ⟨'"', ['b'], hline, rfl⟩

theorem carried_opens : CommentStripper.standard.strip "/* c" .code = (none, .inBlock) := by
  have hinline : CommentStripper.standard.inline.isMatch "/* c" = false := by
    rw [← Bool.not_eq_true, CommentStripper.inline_isMatch_iff]
    rintro ⟨rest, htrim⟩
    exact absurd (List.cons.inj (List.cons.inj htrim).2).1 (by decide)
  have hline : CommentStripper.standard.blockLine.isMatch "/* c" = false := by
    rw [← Bool.not_eq_true, CommentStripper.blockLine_isMatch_iff]
    rintro ⟨mid, rest, htrim, -⟩
    have hmem : '*' ∈ mid ++ '*' :: '/' :: rest := by simp
    rw [← (List.cons.inj (List.cons.inj htrim).2).2] at hmem
    exact absurd hmem (by decide)
  have hstart : CommentStripper.standard.blockStart.isMatch "/* c" :=
    CommentStripper.blockStart_isMatch_iff.mpr ⟨[' ', 'c'], rfl, by decide⟩
  simp [CommentStripper.strip, hinline, hline, hstart]

theorem carried_closes : CommentStripper.standard.strip "*/\n" .inBlock = (none, .code) := by
  have hend : CommentStripper.standard.blockEnd.isMatch "*/\n" :=
    CommentStripper.blockEnd_isMatch_iff.mpr ⟨[], ['\n'], rfl⟩
  simp [CommentStripper.strip, hend]

open Walk in
theorem bundle_carried : (carried.bundle openFiles ⟨"/a.js"⟩).1 = .ok carriedBundle := by
  let ctx := carried.context openFiles
  have hplain : ∀ line ∈ ["y\n", "/* c", "*/\n", "x"], ctx.matcher line = none := by
    intro line hline
    apply Matcher.standard_eq_none
    revert line
    decide
  have hkept : ∀ line ∈ ["y\n", "x"], ctx.strip line .code = (some line, .code) := by
    intro line hline
    apply CommentStripper.strip_of_not_slash
    revert line
    decide
  have hasks : Asks ctx (ctx.frame ["a.js"] ⟨"/a.js"⟩ .code) ⟨.quoted, "b"⟩ ["*/\n", "x"] :=
    ⟨"//= require \"b\"\n", by decide +kernel, carried_directive⟩
  have hleads : Leads ctx ⟨"/a.js"⟩ ⟨.quoted, "b"⟩ ⟨⟨"/b.js"⟩, .relative⟩ ["b.js"] :=
    ⟨by decide +kernel, by decide +kernel⟩
  have hread : (ctx.frame ["b.js"] ⟨"/b.js"⟩ .code).unread = .ok ["y\n", "/* c"] := by
    decide +kernel
  have hchild : Includes ctx [["b.js"], ["a.js"]] 1 (ctx.frame ["b.js"] ⟨"/b.js"⟩ .code)
      (.ok .inBlock) { fragments := [.line ["b.js"] 1 "y\n", .separator ["b.js"]] } :=
    .keep_of_strip hread (hplain "y\n" (by simp)) (hkept "y\n" (by simp))
      (.keep_of_strip rfl (hplain "/* c" (by simp)) carried_opens (.finish rfl))
  -- The rest of the first file is read in the state that the second one hands back.
  have hrest : Includes ctx [["b.js"], ["a.js"]] 0
      ⟨["a.js"], ⟨"/a.js"⟩, .ok ["*/\n", "x"], .inBlock, 1⟩ (.ok .code)
      { fragments := [.line ["a.js"] 3 "x", .separator ["a.js"]] } :=
    .keep_of_strip (f := ⟨["a.js"], ⟨"/a.js"⟩, .ok ["*/\n", "x"], .inBlock, 1⟩) rfl
      (hplain "*/\n" (by simp)) carried_closes
      (.keep_of_strip rfl (hplain "x" (by simp)) (hkept "x" (by simp)) (.finish rfl))
  have hincludes := Includes.descend hasks hleads (by decide) hchild hrest
  have hl : ctx.workspace.locate ⟨"/a.js"⟩ = .ok ["a.js"] := by decide +kernel
  have hprocess := process_of_includes (w := {}) hl List.not_mem_nil hincludes
  rw [bundle_eq_ok_iff, hprocess]
  exact ⟨rfl, by decide +kernel⟩

/-- What is stored has neither the comment nor the directive, and a line feed behind each line. -/
theorem bundle_written_output_carried :
    ofSettings carriedSettings carriedRoots = .ok carried ∧
    carriedSettings.requirePattern = ({} : Settings).requirePattern ∧
    carriedSettings.commentPattern = {} ∧
    (carried.bundle openFiles ⟨"/a.js"⟩).1 = .ok carriedBundle ∧
    openFiles.locate ⟨"/flat.js"⟩ = .error .missing ∧
    ∃ t, openFiles.write ⟨"/flat.js"⟩ (textOctets "y\n\nx\n") = (.ok (), t) ∧
      (∃ place, (openFiles.withTree t).locate ⟨"/flat.js"⟩ = .ok place ∧
        (carried.bundle (openFiles.withTree t) ⟨"/flat.js"⟩).1 =
          .ok ⟨"y\n\nx\n\n", [⟨place, none, 0⟩]⟩) ∧
      ∀ line ∈ textLines (textOctets "y\n\nx\n"), carried.matcher line = none ∧
        ∀ c, carried.stripper = some c → c.strip line .code = (some line, .code) := by
  have hp : ofSettings carriedSettings carriedRoots = .ok carried := rfl
  have hnew : openFiles.locate ⟨"/flat.js"⟩ = .error .missing := by decide +kernel
  have hw : openFiles.write ⟨"/flat.js"⟩ (textOctets "y\n\nx\n") =
      (.ok (), (openFiles.write ⟨"/flat.js"⟩ (textOctets "y\n\nx\n")).2) := by decide +kernel
  exact ⟨hp, rfl, rfl, bundle_carried, hnew, _, hw,
    bundle_written_output hp rfl rfl none none bundle_carried hnew hw⟩

end Preprocessor

end ScriptBundle
