import ScriptBundle.Proofs.Command.Preparation
import ScriptBundle.Proofs.Walk.Searching

/-! # Queries to a preprocessor

A query leaves an index behind if it needs one and the tree of the moment has all search directories. One
that needs none is answered without a look at the search paths.
-/

namespace ScriptBundle

inductive Query where
  | bundle (entry : Path)
  | preprocess (entry : Path)
  | walk (walker : Walker) (carry : Option Bool) (entries : List Path)
  | resolve (name : String) (base : Option Path)
  | searchIndex

inductive Answer where
  | bundled (result : Except BundleError Bundle)
  | written (result : Except BundleError String)
  | walked (results : List (Except BundleError Unit)) (walker : Walker)
  | resolved (result : Except BundleError Resolved)
  | indexed (result : Except BundleError SearchIndex)

namespace Preprocessor

def fresh (p : Preprocessor) : Preprocessor := { p with index := none }

def elsewhere (p : Preprocessor) (searchPaths : List String) (roots : Roots)
    (index : Option SearchIndex) : Preprocessor :=
  { p with searchPaths, roots, index }

def walkContext (p : Preprocessor) (ws : Workspace) (carry : Option Bool) : WalkContext :=
  { p.context ws with carry := carry.getD p.carry }

def answer (p : Preprocessor) (ws : Workspace) : Query → Answer × Preprocessor
  | .bundle entry =>
    let (result, p) := p.bundle ws entry
    (.bundled result, p)
  | .preprocess entry =>
    let (result, p) := p.bundle ws entry
    (.written (result.map (·.output)), p)
  | .walk walker carry entries =>
    let (results, walker) :=
      Walk.processAll (p.walkContext ws carry) { walker with searched := false } entries
    (.walked results walker, p.afterWalk ws walker)
  | .resolve name base =>
    let (result, p) := p.resolve ws name base
    (.resolved result, p)
  | .searchIndex =>
    let (result, p) := p.searchIndex ws
    (.indexed result, p)

def Needs (p : Preprocessor) (ws : Workspace) : Query → Prop
  | .bundle entry => Walk.Searches (p.context ws) {} entry
  | .preprocess entry => Walk.Searches (p.context ws) {} entry
  | .walk walker carry entries =>
    Walk.SearchesAny (p.walkContext ws carry) { walker with searched := false } entries
  | .resolve _ base => base = none
  | .searchIndex => True

variable {p : Preprocessor} {ws : Workspace} {q : Query}

theorem bundle_searched_iff {entry : Path} :
    (Walk.process (p.context ws) {} entry).2.searched = true ↔
      Walk.Searches (p.context ws) {} entry := by
  rw [Walk.process_searched_iff]
  simp

theorem walk_searched_iff {walker : Walker} {carry : Option Bool} {entries : List Path} :
    (Walk.processAll (p.walkContext ws carry) { walker with searched := false } entries).2.searched =
        true ↔
      Walk.SearchesAny (p.walkContext ws carry) { walker with searched := false } entries := by
  rw [Walk.processAll_searched_iff]
  simp

theorem answer_of_needs (h : p.Needs ws q) : (p.answer ws q).2 = p.keepIndex ws := by
  cases q with
  | bundle entry => exact if_pos (bundle_searched_iff.mpr h)
  | preprocess entry => exact if_pos (bundle_searched_iff.mpr h)
  | walk walker carry entries => exact if_pos (walk_searched_iff.mpr h)
  | resolve name base =>
    have hbase : base = none := h
    subst hbase
    rfl
  | searchIndex => rfl

theorem answer_of_not_needs (h : ¬p.Needs ws q) : (p.answer ws q).2 = p := by
  cases q with
  | bundle entry => exact if_neg fun hs => h (bundle_searched_iff.mp hs)
  | preprocess entry => exact if_neg fun hs => h (bundle_searched_iff.mp hs)
  | walk walker carry entries => exact if_neg fun hs => h (walk_searched_iff.mp hs)
  | resolve name base =>
    have hbase : ¬base = none := h
    obtain ⟨dir, rfl⟩ := Option.ne_none_iff_exists'.mp hbase
    rfl
  | searchIndex => exact absurd trivial h

theorem fresh_keepIndex (p : Preprocessor) (ws : Workspace) : (p.keepIndex ws).fresh = p.fresh := by
  unfold keepIndex
  cases p.indexIn ws <;> rfl

theorem fresh_answer (p : Preprocessor) (ws : Workspace) (q : Query) :
    (p.answer ws q).2.fresh = p.fresh := by
  by_cases h : p.Needs ws q
  · rw [answer_of_needs h, fresh_keepIndex]
  · rw [answer_of_not_needs h]

theorem answer_of_index {index : SearchIndex} (h : p.index = some index) : (p.answer ws q).2 = p := by
  by_cases hq : p.Needs ws q
  · have hkeep : p.keepIndex ws = { p with index := some index } := by
      simp only [keepIndex, indexIn, h]
    rw [answer_of_needs hq, hkeep, ← h]
  · exact answer_of_not_needs hq

/-- Where there is none, a query leaves the one it could build. -/
theorem answer_index_iff {index : SearchIndex} (h : p.index = none) :
    (p.answer ws q).2.index = some index ↔
      p.Needs ws q ∧ SearchIndex.build ws p.searchPaths p.roots = .ok index := by
  have hindexIn : p.indexIn ws = SearchIndex.build ws p.searchPaths p.roots := by
    simp only [indexIn, h]
  by_cases hq : p.Needs ws q
  · rw [answer_of_needs hq, keepIndex, hindexIn]
    rcases SearchIndex.build ws p.searchPaths p.roots with e | built
    · simp [h]
    · simp [hq]
  · simp [answer_of_not_needs hq, h, hq]

/-- Preprocessors that differ in their index answer alike where they look names up in the same one. -/
theorem answer_eq_of_indexIn {p' : Preprocessor} (hfresh : p'.fresh = p.fresh)
    (hindex : p'.indexIn ws = p.indexIn ws) (q : Query) :
    (p'.answer ws q).1 = (p.answer ws q).1 := by
  obtain ⟨-, -, hmatcher, hstripper, hcarry, -⟩ := Preprocessor.mk.inj hfresh
  have hcontext : p'.context ws = p.context ws := by
    simp only [context, hmatcher, hstripper, hcarry, hindex]
  have hwalk : p'.walkContext ws = p.walkContext ws := by
    funext carry
    simp only [walkContext, hcontext, hcarry]
  cases q with
  | bundle entry => simp only [answer, bundle, hcontext]
  | preprocess entry => simp only [answer, bundle, hcontext]
  | walk walker carry entries => simp only [answer, hwalk]
  | resolve name base => simp only [answer, resolve, hindex]
  | searchIndex => simp only [answer, searchIndex, hindex]

section

variable {searchPaths : List String} {roots : Roots} {index : Option SearchIndex}

theorem context_elsewhere :
    (p.elsewhere searchPaths roots index).context ws = Walk.within (p.context ws) ws
      (Resolver.resolve ws ((p.elsewhere searchPaths roots index).indexIn ws)) :=
  rfl

theorem walkContext_elsewhere {carry : Option Bool} :
    (p.elsewhere searchPaths roots index).walkContext ws carry =
      Walk.within (p.walkContext ws carry) ws
        (Resolver.resolve ws ((p.elsewhere searchPaths roots index).indexIn ws)) :=
  rfl

theorem bundle_elsewhere {entry : Path} (h : ¬Walk.Searches (p.context ws) {} entry) :
    (p.elsewhere searchPaths roots index).bundle ws entry =
      ((p.bundle ws entry).1, p.elsewhere searchPaths roots index) := by
  rw [← bundle_searched_iff] at h
  have hprocess : Walk.process ((p.elsewhere searchPaths roots index).context ws) {} entry =
      Walk.process (p.context ws) {} entry := by
    rw [context_elsewhere]
    exact Walk.process_resolving (fun _ _ => rfl) (Bool.not_eq_true _ ▸ h)
  simp only [bundle, hprocess, afterWalk, if_neg h]

/-- A query that needs no index is answered the same with any search paths, in particular with such as
do not exist, and leaves no index behind. -/
theorem answer_elsewhere (h : ¬p.Needs ws q) :
    (p.elsewhere searchPaths roots index).answer ws q =
      ((p.answer ws q).1, p.elsewhere searchPaths roots index) := by
  cases q with
  | bundle entry => rw [answer, bundle_elsewhere h, answer]
  | preprocess entry => rw [answer, bundle_elsewhere h, answer]
  | walk walker carry entries =>
    have hsearched : ¬(Walk.processAll (p.walkContext ws carry) { walker with searched := false }
        entries).2.searched = true := fun hs => h (walk_searched_iff.mp hs)
    have hwalk : Walk.processAll ((p.elsewhere searchPaths roots index).walkContext ws carry)
          { walker with searched := false } entries =
        Walk.processAll (p.walkContext ws carry) { walker with searched := false } entries := by
      rw [walkContext_elsewhere]
      exact Walk.processAll_resolving (fun _ _ => rfl) (Bool.not_eq_true _ ▸ hsearched)
    simp only [answer, hwalk, afterWalk, if_neg hsearched]
  | resolve name base =>
    have hbase : ¬base = none := h
    obtain ⟨dir, rfl⟩ := Option.ne_none_iff_exists'.mp hbase
    rfl
  | searchIndex => exact absurd trivial h

end

end Preprocessor

end ScriptBundle
