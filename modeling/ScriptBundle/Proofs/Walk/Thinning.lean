import ScriptBundle.Proofs.Walk.InclusionRules

/-! # Stripping and what is included

Comment states are read and written with every line, and handed from file to file, but no directive is
judged by them. A walk that strips therefore meets the same files as one that does not, and what it puts
out is the same output without some of its lines.
-/

namespace ScriptBundle

def Fragment.isSeparator : Fragment → Bool
  | .line _ _ _ => false
  | .separator _ => true

def WalkContext.stripping (ctx : WalkContext) (s : Option CommentStripper) (carry : Bool) :
    WalkContext :=
  { ctx with stripper := s, carry }

structure Thins (kept whole : List Fragment) : Prop where
  sublist : kept.Sublist whole
  separators : kept.filter (·.isSeparator) = whole.filter (·.isSeparator)

namespace Thins

variable {a b c d : List Fragment}

theorem refl (a : List Fragment) : Thins a a := ⟨List.Sublist.refl a, rfl⟩

theorem append (h : Thins a b) (h' : Thins c d) : Thins (a ++ c) (b ++ d) where
  sublist := h.sublist.append h'.sublist
  separators := by rw [List.filter_append, List.filter_append, h.separators, h'.separators]

theorem reverse (h : Thins a b) : Thins a.reverse b.reverse where
  sublist := h.sublist.reverse
  separators := by rw [List.filter_reverse, List.filter_reverse, h.separators]

end Thins

/-- The same files are met and the same is asked of the search index; of the output, lines may be missing. -/
structure Yield.Thins (y' y : Yield) : Prop where
  inclusions : y'.inclusions = y.inclusions
  searched : y'.searched = y.searched
  fragments : ScriptBundle.Thins y'.fragments y.fragments

namespace Yield.Thins

variable {y y' z z' : Yield}

theorem refl (y : Yield) : y.Thins y := ⟨rfl, rfl, .refl _⟩

theorem append (h : y'.Thins y) (h' : z'.Thins z) : (y' ++ z').Thins (y ++ z) where
  inclusions := congrArg₂ (· ++ ·) h.inclusions h'.inclusions
  searched := congrArg₂ (· || ·) h.searched h'.searched
  fragments := h.fragments.append h'.fragments

theorem met_eq (h : y'.Thins y) : y'.met = y.met := by
  unfold Yield.met
  rw [h.inclusions]

end Yield.Thins

namespace Walk

theorem thins_kept (ctx : WalkContext) (l : Location) (number : Nat) (line : String)
    (state : CommentState) :
    Yield.Thins { fragments := ((ctx.strip line state).1.map (Fragment.line l number)).toList }
      { fragments := [Fragment.line l number line] } := by
  rcases strip_cases ctx line state with h | ⟨h, -⟩
  · rw [h]
    exact ⟨rfl, rfl, ⟨List.nil_sublist _, rfl⟩⟩
  · rw [h]
    exact .refl _

variable {ctx : WalkContext} {met : List Location} {depth : Nat} {f : Frame}
  {result : Except BundleError CommentState} {y : Yield} {carry₀ : Bool}

/-- Whatever the comment state, stripping follows the rules by which every line is put out, and comes to
an end or to an error where they do. -/
theorem Includes.stripping (h : Includes (ctx.stripping none carry₀) met depth f result y)
    (s : Option CommentStripper) (carry : Bool) (state : CommentState) :
    ∃ result' y', Includes (ctx.stripping s carry) met depth { f with state } result' y' ∧
      result'.map (fun _ => ()) = result.map (fun _ => ()) ∧ y'.Thins y := by
  induction h generalizing state with
  | @unreadable met depth f fault hf =>
    exact ⟨_, _, @Includes.unreadable _ met depth { f with state } fault hf, rfl, .refl _⟩
  | @finish met depth f hf =>
    exact ⟨_, _, @Includes.finish _ met depth { f with state } hf, rfl, .refl _⟩
  | @keep met depth f line rest result y hf hm _ ih =>
    obtain ⟨result', y', hrest, hresult, hy⟩ := ih ((ctx.stripping s carry).strip line state).2
    exact ⟨_, _, @Includes.keep _ met depth { f with state } line rest _ _ hf hm hrest, hresult,
      (thins_kept _ _ _ line state).append hy⟩
  | @unresolved met depth f d rest e hd hr =>
    exact ⟨_, _, @Includes.unresolved (ctx.stripping s carry) met depth { f with state } d rest e
      hd hr, rfl, .refl _⟩
  | @unlocated met depth f d rest r fault hd hr hl =>
    exact ⟨_, _, @Includes.unlocated (ctx.stripping s carry) met depth { f with state } d rest r
      fault hd hr hl, rfl, .refl _⟩
  | @skip met depth f d rest r l result y hd ht hl _ ih =>
    obtain ⟨result', y', hrest, hresult, hy⟩ := ih state
    exact ⟨_, _, @Includes.skip (ctx.stripping s carry) met depth { f with state } d rest r l _ _
      hd ⟨ht.resolved, ht.located⟩ hl hrest, hresult, (Yield.Thins.refl _).append hy⟩
  | @fail met depth f d rest r l e y hd ht hl _ ih =>
    obtain ⟨result', y', hchild, hresult, hy⟩ := ih ((ctx.stripping s carry).childState state)
    obtain rfl : result' = .error e := by
      cases result' with
      | error e' => exact congrArg Except.error (Except.error.inj hresult)
      | ok final => cases hresult
    exact ⟨_, _, @Includes.fail (ctx.stripping s carry) met depth { f with state } d rest r l e _
      hd ⟨ht.resolved, ht.located⟩ hl hchild, rfl,
      (Yield.Thins.refl _).append ((Yield.Thins.refl _).append hy)⟩
  | @descend met depth f d rest r l final result y z hd ht hl _ _ ihchild ihrest =>
    obtain ⟨child, y', hchild, hresult, hy⟩ := ihchild ((ctx.stripping s carry).childState state)
    obtain ⟨final', rfl⟩ : ∃ final', child = .ok final' := by
      cases child with
      | error e => cases hresult
      | ok final' => exact ⟨final', rfl⟩
    obtain ⟨result', z', hrest, hresult', hz⟩ := ihrest (if carry then final' else state)
    rw [← hy.met_eq] at hrest
    exact ⟨_, _, @Includes.descend (ctx.stripping s carry) met depth { f with state } d rest r l
      final' _ _ _ hd ⟨ht.resolved, ht.located⟩ hl hchild hrest, hresult',
      (Yield.Thins.refl _).append (((Yield.Thins.refl _).append hy).append hz)⟩

structure Thinned (stripped plain : Walker) : Prop where
  visited : stripped.visited = plain.visited
  inclusions : stripped.inclusions = plain.inclusions
  searched : stripped.searched = plain.searched
  fragments : Thins stripped.fragments plain.fragments

variable {w w' : Walker}

theorem thinned_empty : Thinned {} {} := ⟨rfl, rfl, rfl, .refl _⟩

theorem Thinned.extend {y' : Yield} (h : Thinned w' w) (hy : y'.Thins y) :
    Thinned (w'.extend y') (w.extend y) where
  visited := by
    unfold Walker.extend
    rw [hy.met_eq, h.visited]
  inclusions := by
    unfold Walker.extend
    rw [hy.inclusions, h.inclusions]
  searched := by
    unfold Walker.extend
    rw [hy.searched, h.searched]
  fragments := hy.fragments.reverse.append h.fragments

theorem process_thinned (ctx : WalkContext) (s : Option CommentStripper) (carry carry₀ : Bool)
    (h : Thinned w' w) (path : Path) :
    (process (ctx.stripping s carry) w' path).1 = (process (ctx.stripping none carry₀) w path).1 ∧
      Thinned (process (ctx.stripping s carry) w' path).2
        (process (ctx.stripping none carry₀) w path).2 := by
  rcases hl : ctx.workspace.locate path with fault | l
  · have hplain := @process_unlocated (ctx.stripping none carry₀) w path fault hl
    have hstripped := @process_unlocated (ctx.stripping s carry) w' path fault hl
    rw [hplain, hstripped]
    exact ⟨rfl, h⟩
  by_cases hv : l ∈ w.visited
  · have hplain := @process_met (ctx.stripping none carry₀) w path l hl hv
    have hstripped := @process_met (ctx.stripping s carry) w' path l hl (h.visited ▸ hv)
    rw [hplain, hstripped]
    exact ⟨rfl, h⟩
  · have hplain := includes_includeFrame (ctx.stripping none carry₀) (l :: w.visited) 0
      ((ctx.stripping none carry₀).frame l path .code)
    obtain ⟨result', y', hstripped, hresult, hy⟩ := hplain.stripping s carry .code
    have hprocess := @process_of_includes (ctx.stripping none carry₀) l w path _ _ hl hv hplain
    rw [← h.visited] at hv hstripped
    have hprocess' := @process_of_includes (ctx.stripping s carry) l w' path _ _ hl hv hstripped
    rw [hprocess, hprocess']
    exact ⟨hresult, h.extend ((Yield.Thins.refl _).append hy)⟩

theorem processAll_thinned (ctx : WalkContext) (s : Option CommentStripper) (carry carry₀ : Bool)
    (h : Thinned w' w) (paths : List Path) :
    (processAll (ctx.stripping s carry) w' paths).1 =
        (processAll (ctx.stripping none carry₀) w paths).1 ∧
      Thinned (processAll (ctx.stripping s carry) w' paths).2
        (processAll (ctx.stripping none carry₀) w paths).2 := by
  induction paths generalizing w w' with
  | nil => exact ⟨rfl, h⟩
  | cons path rest ih =>
    obtain ⟨hresult, hw⟩ := process_thinned ctx s carry carry₀ h path
    obtain ⟨hresults, hws⟩ := ih hw
    exact ⟨congrArg₂ List.cons hresult hresults, hws⟩

/-- Whatever calls a walker gets, and whatever the settings for comments are, each call has the outcome
that it has without stripping, the same files are met and logged, and of the output without stripping
lines alone are missing: directives inside of comments are followed like any others. -/
theorem stripping_leaves_log (ctx : WalkContext) (s : Option CommentStripper) (carry carry₀ : Bool)
    (paths : List Path) :
    let stripped := processAll (ctx.stripping s carry) {} paths
    let plain := processAll (ctx.stripping none carry₀) {} paths
    stripped.1 = plain.1 ∧
      stripped.2.bundle.inclusions = plain.2.bundle.inclusions ∧
      stripped.2.visited = plain.2.visited ∧
      stripped.2.fragments.reverse.Sublist plain.2.fragments.reverse ∧
      stripped.2.fragments.reverse.filter (·.isSeparator) =
        plain.2.fragments.reverse.filter (·.isSeparator) := by
  intro stripped plain
  obtain ⟨hresults, hw⟩ := processAll_thinned ctx s carry carry₀ thinned_empty paths
  have hlog : stripped.2.bundle.inclusions = plain.2.bundle.inclusions :=
    congrArg List.reverse hw.inclusions
  have hfragments := hw.fragments.reverse
  exact ⟨hresults, hlog, hw.visited, hfragments.sublist, hfragments.separators⟩

end Walk

end ScriptBundle
