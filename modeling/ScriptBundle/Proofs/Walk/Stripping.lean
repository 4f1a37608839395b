import ScriptBundle.Proofs.Walk.InclusionRules

/-!
# Stripping as one pass

Where comment states are carried, a file starts in the state that the requiring file has reached and
hands its own back at its end. All files of a call then share one state, and what a call puts out is what
a single pass over the unstripped output leaves.
-/

namespace ScriptBundle

/-- One pass over pieces of output with one comment state: what is left of them, and the last state.
Separators are kept and leave the state as it is. -/
def stripPass (strip : String → CommentState → Option String × CommentState) :
    CommentState → List Fragment → List Fragment × CommentState
  | state, [] => ([], state)
  | state, .separator l :: rest =>
    (.separator l :: (stripPass strip state rest).1, (stripPass strip state rest).2)
  | state, .line l number text :: rest =>
    let next := (strip text state).2
    (((strip text state).1.map (Fragment.line l number)).toList ++ (stripPass strip next rest).1,
      (stripPass strip next rest).2)

section

variable {strip : String → CommentState → Option String × CommentState} {state : CommentState}

@[simp] theorem stripPass_nil : stripPass strip state [] = ([], state) := rfl

@[simp] theorem stripPass_separator (l : Location) (rest : List Fragment) :
    stripPass strip state (.separator l :: rest) =
      (.separator l :: (stripPass strip state rest).1, (stripPass strip state rest).2) := rfl

@[simp] theorem stripPass_line (l : Location) (number : Nat) (text : String)
    (rest : List Fragment) :
    stripPass strip state (.line l number text :: rest) =
      (((strip text state).1.map (Fragment.line l number)).toList ++
        (stripPass strip (strip text state).2 rest).1,
        (stripPass strip (strip text state).2 rest).2) := rfl

theorem stripPass_append (a b : List Fragment) :
    stripPass strip state (a ++ b) =
      ((stripPass strip state a).1 ++ (stripPass strip (stripPass strip state a).2 b).1,
        (stripPass strip (stripPass strip state a).2 b).2) := by
  induction a generalizing state with
  | nil => rfl
  | cons x a ih =>
    cases x with
    | line l number text => simp [ih]
    | separator l => simp [ih]

end

def Yield.stripped (s : CommentStripper) (state : CommentState) (y : Yield) : Yield :=
  { y with fragments := (stripPass s.strip state y.fragments).1 }

namespace Walk

def unstripped (ctx : WalkContext) : WalkContext := { ctx with stripper := none }

def sharing (ctx : WalkContext) (s : CommentStripper) : WalkContext :=
  { ctx with stripper := some s, carry := true }

variable {ctx : WalkContext} {met : List Location} {depth : Nat} {f : Frame}
  {result : Except BundleError CommentState} {y : Yield}

/-- Whatever state a file is started in, it ends in the state of one pass over all that is included
below it, and puts out what that pass leaves. -/
theorem Includes.one_pass (h : Includes (unstripped ctx) met depth f result y)
    (s : CommentStripper) (state : CommentState) :
    Includes (sharing ctx s) met depth { f with state }
      (result.map fun _ => (stripPass s.strip state y.fragments).2) (y.stripped s state) := by
  induction h generalizing state with
  | @unreadable met depth f fault hf =>
    exact @Includes.unreadable _ _ _ { f with state } _ hf
  | @finish met depth f hf =>
    exact @Includes.finish _ _ _ { f with state } hf
  | @keep met depth f line rest result y hf hm _ ih =>
    exact @Includes.keep (sharing ctx s) _ _ { f with state } _ _ _ _ hf hm
      (ih (s.strip line state).2)
  | @unresolved met depth f d rest e hd hr =>
    exact @Includes.unresolved (sharing ctx s) _ _ { f with state } _ _ _ hd hr
  | @unlocated met depth f d rest r fault hd hr hl =>
    exact @Includes.unlocated (sharing ctx s) _ _ { f with state } _ _ _ _ hd hr hl
  | @skip met depth f d rest r l result y hd ht hl _ ih =>
    exact @Includes.skip (sharing ctx s) _ _ { f with state } _ _ _ _ _ _ hd
      ⟨ht.resolved, ht.located⟩ hl (ih state)
  | @fail met depth f d rest r l e y hd ht hl _ ih =>
    exact @Includes.fail (sharing ctx s) _ _ { f with state } _ _ _ _ _ _ hd
      ⟨ht.resolved, ht.located⟩ hl (ih state)
  | @descend met depth f d rest r l final result y z hd ht hl _ _ ihchild ihrest =>
    -- The state that the child ends in is the one with which the pass goes on.
    have hrest := ihrest (stripPass s.strip state y.fragments).2
    have hdescend := @Includes.descend (sharing ctx s) _ _ { f with state } _ _ _ _ _ _ _ _ hd
      ⟨ht.resolved, ht.located⟩ hl (ihchild state) hrest
    have hpass := @stripPass_append s.strip state y.fragments z.fragments
    simpa [Yield.append_def, Yield.stripped, Frame.origin, hpass] using hdescend

theorem output_of_fragments {w w' : Walker} {added : List Fragment}
    (h : w'.fragments = added.reverse ++ w.fragments) :
    w'.bundle.output = w.bundle.output ++ String.join (added.map (·.text)) := by
  rw [bundle_output, bundle_output, h]
  simp [String.join_append]

theorem process_one_pass (ctx : WalkContext) (s : CommentStripper) (w : Walker) (path : Path) :
    ∃ added, (process (unstripped ctx) w path).2.fragments = added.reverse ++ w.fragments ∧
      (process (sharing ctx s) w path).2.fragments =
        (stripPass s.strip .code added).1.reverse ++ w.fragments ∧
      (process (sharing ctx s) w path).1 = (process (unstripped ctx) w path).1 := by
  rcases hl : ctx.workspace.locate path with fault | l
  · have hplain := @process_unlocated (unstripped ctx) w _ _ hl
    have hshared := @process_unlocated (sharing ctx s) w _ _ hl
    exact ⟨[], by simp [hplain], by simp [hshared], by rw [hplain, hshared]⟩
  by_cases hv : l ∈ w.visited
  · have hplain := @process_met (unstripped ctx) _ _ _ hl hv
    have hshared := @process_met (sharing ctx s) _ _ _ hl hv
    exact ⟨[], by simp [hplain], by simp [hshared], by rw [hplain, hshared]⟩
  · have hincludes := includes_includeFrame (unstripped ctx) (l :: w.visited) 0
      ((unstripped ctx).frame l path .code)
    generalize includeFrame _ _ _ _ = inclusion at hincludes
    obtain ⟨result, y⟩ := inclusion
    have hplain := @process_of_includes (unstripped ctx) _ _ _ _ _ hl hv hincludes
    have hshared := @process_of_includes (sharing ctx s) _ _ _ _ _ hl hv
      (hincludes.one_pass s .code)
    refine ⟨y.fragments, ?_, ?_, ?_⟩
    · rw [hplain]
      simp [Walker.extend, Yield.append_def]
    · rw [hshared]
      simp [Walker.extend, Yield.append_def, Yield.stripped]
    · rw [hplain, hshared]
      cases result <;> rfl

/-- A call that strips with a state carried from file to file puts out what one pass with a single state
leaves of what the same call puts out unstripped. The pass starts outside of comments, separators stay,
and the calls have the same outcome, whether they succeed or not. -/
theorem carried_state_is_one_state (ctx : WalkContext) (s : CommentStripper) (w : Walker)
    (path : Path) :
    ∃ added,
      ((process (unstripped ctx) w path).2.fragments = added.reverse ++ w.fragments ∧
        (process (unstripped ctx) w path).2.bundle.output =
          w.bundle.output ++ String.join (added.map (·.text))) ∧
      ((process (sharing ctx s) w path).2.fragments =
          (stripPass s.strip .code added).1.reverse ++ w.fragments ∧
        (process (sharing ctx s) w path).2.bundle.output =
          w.bundle.output ++ String.join ((stripPass s.strip .code added).1.map (·.text))) ∧
      (process (sharing ctx s) w path).1 = (process (unstripped ctx) w path).1 := by
  obtain ⟨added, hplain, hshared, hresult⟩ := process_one_pass ctx s w path
  exact ⟨added, ⟨hplain, output_of_fragments hplain⟩, ⟨hshared, output_of_fragments hshared⟩,
    hresult⟩

end Walk

end ScriptBundle
