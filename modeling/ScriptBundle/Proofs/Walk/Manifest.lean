import Mathlib.Data.List.Forall2
import ScriptBundle.Proofs.Walk.InclusionRules

/-! # Manifests

A manifest is a file whose lines are all directives. When comment states are not carried, nothing that lies
below a file being read has to do with what it includes, apart from the files met before. So a walk of the
manifest includes what a walker includes that is called for its entries one after the other, one level
further down.
-/

namespace ScriptBundle

/-- The inclusion one level further down, where a root is asked for too. -/
def Inclusion.under (o : Origin) (i : Inclusion) : Inclusion :=
  ⟨i.location, if i.depth = 0 then some o else i.origin, i.depth + 1⟩

def Yield.under (o : Origin) (y : Yield) : Yield :=
  { y with inclusions := y.inclusions.map (·.under o) }

namespace Yield

theorem under_append (o : Origin) (y z : Yield) : (y ++ z).under o = y.under o ++ z.under o := by
  simp only [under, append_def, List.map_append]

@[simp] theorem met_under (o : Origin) (y : Yield) : (y.under o).met = y.met := by
  unfold met under
  rw [List.map_map]
  rfl

@[simp] theorem text_under (o : Origin) (y : Yield) : (y.under o).text = y.text := rfl

end Yield

namespace Walk

variable {ctx : WalkContext} {met : List Location} {depth : Nat} {f : Frame} {path : Path}
  {state : CommentState}

/-- What a file includes does not change with files met before that it does not lead to, nor with the depth
that it is included at. -/
theorem Includes.under {result : Except BundleError CommentState} {y : Yield}
    (h : Includes ctx met depth f result y) (o : Origin) {more : List Location}
    (hnew : ∀ i ∈ y.inclusions, i.location ∉ more) :
    Includes ctx (met ++ more) (depth + 1) f result (y.under o) := by
  induction h with
  | unreadable hf => exact .unreadable hf
  | finish hf => exact .finish hf
  | keep hf hm _ ih => exact .keep hf hm (ih hnew)
  | unresolved hd hr => exact .unresolved hd hr
  | unlocated hd hr hl => exact .unlocated hd hr hl
  | skip hd ht hl _ ih => exact .skip hd ht (List.mem_append_left _ hl) (ih hnew)
  | @fail met depth f d rest r l e y hd ht hl _ ih =>
    obtain ⟨hchildNew, hbelowNew⟩ := List.forall_mem_cons.mp hnew
    exact .fail hd ht (List.not_mem_append hl hchildNew) (ih hbelowNew)
  | @descend met depth f d rest r l final result y z hd ht hl _ _ ihchild ihrest =>
    obtain ⟨hchildNew, hbelowNew⟩ := List.forall_mem_cons.mp hnew
    obtain ⟨hyNew, hzNew⟩ := List.forall_mem_append.mp hbelowNew
    have hunmet : l ∉ met ++ more := List.not_mem_append hl hchildNew
    have hrest := ihrest hzNew
    rw [List.append_assoc, ← Yield.met_under o y] at hrest
    rw [Yield.under_append, Yield.under_append, Yield.under_append]
    exact .descend hd ht hunmet (ihchild hyNew) hrest

theorem includeFile_under (o : Origin) {more : List Location}
    (hnew : ∀ i ∈ (includeFile ctx met 0 path none state).2.inclusions, i.location ∉ more) :
    includeFile ctx (met ++ more) 1 path (some o) state =
      ((includeFile ctx met 0 path none state).1,
        (includeFile ctx met 0 path none state).2.under o) := by
  rcases hl : ctx.workspace.locate path with fault | l
  · rw [includeFile_unlocated hl, includeFile_unlocated hl]
    rfl
  by_cases hv : l ∈ met
  · rw [includeFile_met hl hv, includeFile_met hl (List.mem_append_left more hv)]
    rfl
  · rw [includeFile_unmet hl hv] at hnew ⊢
    obtain ⟨hfileNew, hbelowNew⟩ := List.forall_mem_cons.mp hnew
    have hunmet : l ∉ met ++ more := List.not_mem_append hv hfileNew
    have hbelow := (includes_includeFrame ctx (l :: met) 0 (ctx.frame l path state)).under o hbelowNew
    rw [includeFile_unmet hl hunmet, Yield.under_append]
    exact congrArg (fun r => (r.1, { inclusions := [⟨l, some o, 1⟩] } ++ r.2)) hbelow.includeFrame_eq

structure Entry where
  directive : Directive
  resolved : Resolved
  deriving DecidableEq, Repr

structure Enters (ctx : WalkContext) (path : Path) (line : String) (e : Entry) : Prop where
  matched : ctx.matcher line = some e.directive
  resolved : ctx.resolve e.directive.target (e.directive.base path) = .ok e.resolved

structure Manifest (ctx : WalkContext) (path : Path) (l : Location) (entries : List Entry) : Prop where
  located : ctx.workspace.locate path = .ok l
  lines : ∃ lines, ctx.workspace.tree.linesAt l = .ok lines ∧ List.Forall₂ (Enters ctx path) lines entries

def entryPaths (entries : List Entry) : List Path := entries.map (·.resolved.path)

def callLogs (ctx : WalkContext) (w : Walker) : List Path → List (List Inclusion)
  | [] => []
  | path :: rest =>
    let next := (process ctx w path).2
    next.bundle.inclusions.drop w.bundle.inclusions.length :: callLogs ctx next rest

/-- The logs of the calls for some entries, as the lines of a file log them that hold these entries and
come behind as many others. -/
def logsUnder (path : Path) (number : Nat) : List Entry → List (List Inclusion) → List Inclusion
  | e :: entries, log :: logs =>
    log.map (·.under ⟨e.directive, path, .ofNat (number + 1), e.resolved.mode⟩) ++
      logsUnder path (number + 1) entries logs
  | _, _ => []

variable {w : Walker} {l : Location} {lines : List String} {entries : List Entry}

theorem callLogs_cons (ctx : WalkContext) (w : Walker) (path : Path) (rest : List Path) :
    callLogs ctx w (path :: rest) = (includeFile ctx w.visited 0 path none .code).2.inclusions ::
      callLogs ctx (process ctx w path).2 rest := by
  have hlog : (process ctx w path).2.bundle.inclusions.drop w.bundle.inclusions.length =
      (includeFile ctx w.visited 0 path none .code).2.inclusions := by
    rw [process_eq_extend, bundle_extend, List.drop_left]
  rw [callLogs, hlog]

theorem flatten_callLogs (ctx : WalkContext) (w : Walker) (paths : List Path) :
    (processAll ctx w paths).2.bundle.inclusions =
      w.bundle.inclusions ++ (callLogs ctx w paths).flatten := by
  induction paths generalizing w with
  | nil => exact (List.append_nil _).symm
  | cons path rest ih =>
    rw [callLogs_cons, List.flatten_cons, ← List.append_assoc]
    refine (ih (process ctx w path).2).trans ?_
    rw [process_eq_extend, bundle_extend]

theorem includeFile_of_process (hok : (process ctx w path).1 = .ok ()) :
    ∃ final y, includeFile ctx w.visited 0 path none .code = (.ok final, y) ∧
      (process ctx w path).2 = w.extend y := by
  rw [process_eq_extend] at hok ⊢
  rcases hfile : includeFile ctx w.visited 0 path none .code with ⟨fault | final, y⟩
  · rw [hfile] at hok
    cases hok
  · exact ⟨final, y, rfl, rfl⟩

/-- A line with a directive includes what a call includes, and leaves the lines behind it to what the
walker of the call has met by then. -/
theorem includeFrame_entry {d : Directive} {rest : List String} {r : Resolved} {final : CommentState}
    {y : Yield} (hcarry : ctx.carry = false) (hd : Asks ctx f d rest)
    (hr : ctx.resolve d.target (d.base f.path) = .ok r)
    (hfile : includeFile ctx w.visited 0 r.path none .code = (.ok final, y))
    (hnew : ∀ i ∈ y.inclusions, i.location ∉ [f.location]) :
    includeFrame ctx (w.visited ++ [f.location]) 0 f =
      let z := includeFrame ctx ((w.extend y).visited ++ [f.location]) 0 (f.advance rest)
      (z.1, { searched := (d.base f.path).isNone } ++ (y.under (f.origin d r.mode) ++ z.2)) := by
  have hstate : ctx.childState f.state = .code := by
    unfold WalkContext.childState
    rw [hcarry]
    rfl
  have hunder : includeFile ctx (w.visited ++ [f.location]) 1 r.path (some (f.origin d r.mode)) .code =
      (.ok final, y.under (f.origin d r.mode)) := by
    rw [includeFile_under, hfile]
    rwa [hfile]
  have hvisited : (w.extend y).visited ++ [f.location] = y.met ++ (w.visited ++ [f.location]) :=
    List.append_assoc _ _ _
  rw [includeFrame_resolved hd hr, hstate, hunder, hvisited]
  simp only [includeRest, hcarry, Yield.met_under]
  rfl

/-- The lines of a manifest include what the calls for their entries include, if the walker of the calls
has met the same files apart from the manifest. -/
theorem includeFrame_entries (hcarry : ctx.carry = false)
    (h : List.Forall₂ (Enters ctx path) lines entries) (hpath : f.path = path)
    (hf : f.unread = .ok lines)
    (hok : ∀ result ∈ (processAll ctx w (entryPaths entries)).1, result = .ok ())
    (hnew : ∀ log ∈ callLogs ctx w (entryPaths entries), ∀ i ∈ log, i.location ∉ [f.location]) :
    ∃ y, includeFrame ctx (w.visited ++ [f.location]) 0 f = (.ok f.state, y) ∧
      w.bundle.output ++ y.text = (processAll ctx w (entryPaths entries)).2.bundle.output ++ "\n" ∧
      y.inclusions = logsUnder path f.line entries (callLogs ctx w (entryPaths entries)) := by
  -- The walker goes on with the calls and the frame with the lines; what both have met stays the same.
  induction h generalizing w f with
  | nil =>
    refine ⟨_, includeFrame_finish hf, ?_, rfl⟩
    simp [Yield.text, Fragment.text, processAll, entryPaths]
  | @cons line e lines entries henters _ ih =>
    obtain ⟨hsucceeds, hrestOk⟩ := List.forall_mem_cons.mp hok
    obtain ⟨final, y, hfile, hcall⟩ := includeFile_of_process hsucceeds
    have hlogs : callLogs ctx w (entryPaths (e :: entries)) =
        y.inclusions :: callLogs ctx (w.extend y) (entryPaths entries) := by
      rw [entryPaths, List.map_cons, callLogs_cons, hfile, hcall, entryPaths]
    have hcalls : (processAll ctx w (entryPaths (e :: entries))).2 =
        (processAll ctx (w.extend y) (entryPaths entries)).2 := by
      rw [← hcall]
      rfl
    rw [hlogs] at hnew
    obtain ⟨hfirstNew, hrestNew⟩ := List.forall_mem_cons.mp hnew
    have hd : Asks ctx f e.directive lines := ⟨line, hf, henters.matched⟩
    have hr : ctx.resolve e.directive.target (e.directive.base f.path) = .ok e.resolved := by
      rw [hpath]
      exact henters.resolved
    obtain ⟨z, hrun, htext, hlog⟩ := @ih (f.advance lines) (w.extend y) hpath rfl
      (by rwa [← hcall]) hrestNew
    let o := f.origin e.directive e.resolved.mode
    refine ⟨{ searched := (e.directive.base f.path).isNone } ++ (y.under o ++ z), ?_, ?_, ?_⟩
    · rw [includeFrame_entry hcarry hd hr hfile hfirstNew]
      exact congrArg (fun r => (r.1, _ ++ (y.under o ++ r.2))) hrun
    · rw [hcalls, ← htext, bundle_extend, Yield.text_append, Yield.text_append, Yield.text_under]
      simp [Yield.text, String.append_assoc]
    · rw [hlogs, logsUnder, ← hpath]
      exact congrArg _ (hpath ▸ hlog)

/-- A walk of a manifest, where comment states are not carried and a walker that is called for its entries
succeeds without coming back to the manifest: it succeeds too, puts out what the calls put out and the
separator of the manifest, and logs the manifest and below it what the calls have logged. There, a file that
a call was for is asked for by the line of its entry. -/
theorem manifest_is_its_entries (hcarry : ctx.carry = false) (hm : Manifest ctx path l entries)
    (hok : ∀ result ∈ (processAll ctx {} (entryPaths entries)).1, result = .ok ())
    (hnew : ∀ i ∈ (processAll ctx {} (entryPaths entries)).2.bundle.inclusions, i.location ≠ l) :
    let calls := (processAll ctx {} (entryPaths entries)).2.bundle
    let logs := callLogs ctx {} (entryPaths entries)
    calls.inclusions = logs.flatten ∧
      (process ctx {} path).1 = .ok () ∧
      (process ctx {} path).2.bundle.output = calls.output ++ "\n" ∧
      (process ctx {} path).2.bundle.inclusions = ⟨l, none, 0⟩ :: logsUnder path 0 entries logs := by
  intro calls logs
  have hlogs : calls.inclusions = logs.flatten := flatten_callLogs ctx {} (entryPaths entries)
  obtain ⟨lines, hlines, henters⟩ := hm.lines
  let f := ctx.frame l path .code
  have hnew' : ∀ log ∈ logs, ∀ i ∈ log, i.location ∉ [f.location] := by
    intro log hlog i hi hmet
    have hmem : i ∈ calls.inclusions := hlogs ▸ List.mem_flatten.mpr ⟨log, hlog, hi⟩
    exact hnew i hmem (List.mem_singleton.mp hmet)
  have hf : f.unread = .ok lines := hlines
  obtain ⟨y, hrun, htext, hlog⟩ :=
    includeFrame_entries hcarry henters (show f.path = path from rfl) hf hok hnew'
  have hincludes := includes_includeFrame ctx [l] 0 f
  rw [show includeFrame ctx [l] 0 f = (.ok f.state, y) from hrun] at hincludes
  have hprocess := process_of_includes (w := {}) hm.located List.not_mem_nil hincludes
  rw [hprocess, bundle_extend]
  refine ⟨hlogs, rfl, ?_, ?_⟩
  · rw [Yield.text_append, ← htext]
    simp [Yield.text]
  · exact congrArg _ hlog

def sharingContext : WalkContext where
  workspace := { tree := ⟨[
    (["m.js"], .file [35, 97, 10, 35, 98, 10, 35, 97, 10] 0),
    (["a.js"], .file [35, 99, 10, 97, 10] 0),
    (["b.js"], .file [35, 99, 10, 98, 10] 0),
    (["c.js"], .file [35, 97, 10, 99, 10] 0)]⟩ }
  resolve := Resolver.resolve {} (.ok [])
  matcher := .ofMarker "#" .quoted
  stripper := none
  carry := false

/-- The file that all of them ask for is where the first of them asks for it. -/
theorem manifest_is_its_entries_shared :
    let a : Entry := ⟨⟨.quoted, "a"⟩, ⟨⟨"/a.js"⟩, .relative⟩⟩
    let b : Entry := ⟨⟨.quoted, "b"⟩, ⟨⟨"/b.js"⟩, .relative⟩⟩
    let calls := processAll sharingContext {} (entryPaths [a, b, a])
    sharingContext.carry = false ∧ Manifest sharingContext ⟨"/m.js"⟩ ["m.js"] [a, b, a] ∧
      (∀ result ∈ calls.1, result = .ok ()) ∧ (∀ i ∈ calls.2.bundle.inclusions, i.location ≠ ["m.js"]) ∧
      calls.2.bundle = ⟨"c\n\na\n\nb\n\n", [⟨["a.js"], none, 0⟩,
        ⟨["c.js"], some ⟨⟨.quoted, "c"⟩, ⟨"/a.js"⟩, 1, .relative⟩, 1⟩, ⟨["b.js"], none, 0⟩]⟩ ∧
      (process sharingContext {} ⟨"/m.js"⟩).1 = .ok () ∧
      (process sharingContext {} ⟨"/m.js"⟩).2.bundle = ⟨"c\n\na\n\nb\n\n\n", [⟨["m.js"], none, 0⟩,
        ⟨["a.js"], some ⟨⟨.quoted, "a"⟩, ⟨"/m.js"⟩, 1, .relative⟩, 1⟩,
        ⟨["c.js"], some ⟨⟨.quoted, "c"⟩, ⟨"/a.js"⟩, 1, .relative⟩, 2⟩,
        ⟨["b.js"], some ⟨⟨.quoted, "b"⟩, ⟨"/m.js"⟩, 2, .relative⟩, 1⟩]⟩ := by
  intro a b calls
  have hm : Manifest sharingContext ⟨"/m.js"⟩ ["m.js"] [a, b, a] := by
    refine ⟨by decide +kernel, ["#a\n", "#b\n", "#a\n"], by decide +kernel, ?_⟩
    have ha : Enters sharingContext ⟨"/m.js"⟩ "#a\n" a := ⟨by decide +kernel, by decide +kernel⟩
    have hb : Enters sharingContext ⟨"/m.js"⟩ "#b\n" b := ⟨by decide +kernel, by decide +kernel⟩
    exact .cons ha (.cons hb (.cons ha .nil))
  have hok : ∀ result ∈ calls.1, result = .ok () := by decide +kernel
  have hnew : ∀ i ∈ calls.2.bundle.inclusions, i.location ≠ ["m.js"] := by decide +kernel
  obtain ⟨-, hsucceeds, houtput, hlog⟩ := manifest_is_its_entries rfl hm hok hnew
  have hcalls : calls.2.bundle = ⟨"c\n\na\n\nb\n\n", [⟨["a.js"], none, 0⟩,
      ⟨["c.js"], some ⟨⟨.quoted, "c"⟩, ⟨"/a.js"⟩, 1, .relative⟩, 1⟩, ⟨["b.js"], none, 0⟩]⟩ := by
    decide +kernel
  refine ⟨rfl, hm, hok, hnew, hcalls, hsucceeds, ?_⟩
  rcases hb : (process sharingContext {} ⟨"/m.js"⟩).2.bundle with ⟨output, inclusions⟩
  rw [hb] at houtput hlog
  refine congrArg₂ Bundle.mk (houtput.trans ?_) (hlog.trans ?_)
  · decide +kernel
  · decide +kernel

end Walk

end ScriptBundle
