import ScriptBundle.Proofs.Search.Lookup
import ScriptBundle.Proofs.Search.Queries

/-! # The life of a search index

One preprocessor is asked again and again while the tree changes under it. Its index is built by the first
query that needs one on a tree where it can be built. From then on it is never built again, and names are
looked up in what the search directories held at that moment.
-/

namespace ScriptBundle

inductive Event where
  | change (workspace : Workspace)
  | ask (query : Query)

structure Session where
  workspace : Workspace
  preprocessor : Preprocessor

namespace Session

def next (s : Session) : Event → Session
  | .change workspace => { s with workspace }
  | .ask query => { s with preprocessor := (s.preprocessor.answer s.workspace query).2 }

def after (s : Session) (events : List Event) : Session := events.foldl next s

def context (s : Session) : WalkContext := s.preprocessor.context s.workspace

def Needs (s : Session) (q : Query) : Prop := s.preprocessor.Needs s.workspace q

def attempt (s : Session) : Except BundleError SearchIndex :=
  SearchIndex.build s.workspace s.preprocessor.searchPaths s.preprocessor.roots

structure Builds (s : Session) (q : Query) (index : SearchIndex) : Prop where
  missing : s.preprocessor.index = none
  needed : s.Needs q
  built : s.attempt = .ok index

variable {s : Session} {e : Event} {events : List Event} {index : SearchIndex}

theorem after_append (before later : List Event) :
    s.after (before ++ later) = (s.after before).after later :=
  List.foldl_append

theorem fresh_next (s : Session) (e : Event) :
    (s.next e).preprocessor.fresh = s.preprocessor.fresh := by
  cases e with
  | change workspace => rfl
  | ask q => exact Preprocessor.fresh_answer s.preprocessor s.workspace q

theorem preprocessor_next (h : s.preprocessor.index = some index) :
    (s.next e).preprocessor = s.preprocessor := by
  cases e with
  | change workspace => rfl
  | ask q => exact Preprocessor.answer_of_index h

theorem index_next_iff : (s.next e).preprocessor.index = some index ↔
    s.preprocessor.index = some index ∨ ∃ q, e = .ask q ∧ s.Builds q index := by
  rcases hi : s.preprocessor.index with _ | kept
  · cases e with
    | change workspace => simp [next, hi]
    | ask q =>
      refine (Preprocessor.answer_index_iff hi).trans ?_
      constructor
      · rintro ⟨hneeds, hbuild⟩
        exact Or.inr ⟨q, rfl, hi, hneeds, hbuild⟩
      · rintro (h | ⟨q', hq, hbuilds⟩)
        · cases h
        · cases hq
          exact ⟨hbuilds.needed, hbuilds.built⟩
  · rw [preprocessor_next hi, hi]
    refine ⟨Or.inl, ?_⟩
    rintro (h | ⟨q, -, hbuilds⟩)
    · exact h
    · cases hi.symm.trans hbuilds.missing

theorem fresh_after (s : Session) (events : List Event) :
    (s.after events).preprocessor.fresh = s.preprocessor.fresh := by
  induction events generalizing s with
  | nil => rfl
  | cons e rest ih => exact (ih (s.next e)).trans (fresh_next s e)

/-- Once there is an index, nothing about the preprocessor changes any more. -/
theorem preprocessor_after (h : s.preprocessor.index = some index) (events : List Event) :
    (s.after events).preprocessor = s.preprocessor := by
  induction events generalizing s with
  | nil => rfl
  | cons e rest ih =>
    have hnext := preprocessor_next (e := e) h
    exact (ih (by rw [hnext, h])).trans hnext

/-- An index was there, or one of the queries has built it. -/
theorem index_after_iff : (s.after events).preprocessor.index = some index ↔
    s.preprocessor.index = some index ∨ ∃ before q rest,
      events = before ++ .ask q :: rest ∧ (s.after before).Builds q index := by
  induction events generalizing s with
  | nil => simp [after]
  | cons e rest ih =>
    refine (ih (s := s.next e)).trans ?_
    rw [index_next_iff, or_assoc]
    refine or_congr_right ?_
    constructor
    · rintro (⟨q, rfl, hbuilds⟩ | ⟨before, q, later, rfl, hbuilds⟩)
      · exact ⟨[], q, rest, rfl, hbuilds⟩
      · exact ⟨e :: before, q, later, rfl, hbuilds⟩
    · rintro ⟨_ | ⟨e', before⟩, q, later, heq, hbuilds⟩
      · obtain ⟨rfl, rfl⟩ := List.cons.inj heq
        exact Or.inl ⟨q, rfl, hbuilds⟩
      · obtain ⟨rfl, rfl⟩ := List.cons.inj heq
        exact Or.inr ⟨before, q, later, rfl, hbuilds⟩

theorem attempt_after (s : Session) (events : List Event) :
    (s.after events).attempt = SearchIndex.build (s.after events).workspace
      s.preprocessor.searchPaths s.preprocessor.roots := by
  obtain ⟨hpaths, hroots, -⟩ := Preprocessor.mk.inj (fresh_after s events)
  rw [attempt, hpaths, hroots]

/-- Without an index to begin with, there is none as long as no query could build it. -/
theorem no_index_after_iff (h : s.preprocessor.index = none) :
    (s.after events).preprocessor.index = none ↔ ∀ before q rest,
      events = before ++ .ask q :: rest → (s.after before).Needs q →
        ∃ e, (s.after before).attempt = .error e := by
  constructor
  · rintro hnone before q rest rfl hneeds
    rcases hattempt : (s.after before).attempt with e | built
    · exact ⟨e, rfl⟩
    rcases hi : (s.after before).preprocessor.index with _ | kept
    · have hbuilt := index_after_iff.mpr (Or.inr ⟨before, q, rest, rfl, hi, hneeds, hattempt⟩)
      cases hnone.symm.trans hbuilt
    · rw [after_append, preprocessor_after hi, hi] at hnone
      cases hnone
  · intro hfail
    rcases hi : (s.after events).preprocessor.index with _ | kept
    · rfl
    rcases index_after_iff.mp hi with hstart | ⟨before, q, rest, heq, hbuilds⟩
    · cases h.symm.trans hstart
    · obtain ⟨e, he⟩ := hfail before q rest heq hbuilds.needed
      cases he.symm.trans hbuilds.built

/-- The index that a query has built is the one that is there at the end. -/
theorem Builds.index_after {before rest : List Event} {q : Query}
    (h : (s.after before).Builds q index) :
    (s.after (before ++ .ask q :: rest)).preprocessor.index = some index :=
  index_after_iff.mpr (Or.inr ⟨before, q, rest, rfl, h⟩)

theorem Builds.indexIn {q : Query} (h : s.Builds q index) :
    s.preprocessor.indexIn s.workspace = .ok index := by
  rw [Preprocessor.indexIn, h.missing]
  exact h.built

theorem workspace_after_asks (h : ∀ e ∈ events, ∃ q, e = .ask q) :
    (s.after events).workspace = s.workspace := by
  induction events generalizing s with
  | nil => rfl
  | cons e rest ih =>
    obtain ⟨⟨q, rfl⟩, hrest⟩ := List.forall_mem_cons.mp h
    exact ih hrest

/-- Names are looked up in the same index after queries as before them. -/
theorem indexIn_after_asks (hnone : s.preprocessor.index = none)
    (h : ∀ e ∈ events, ∃ q, e = .ask q) :
    (s.after events).preprocessor.indexIn s.workspace = s.preprocessor.indexIn s.workspace := by
  have hattempt : ∀ before, (∀ e ∈ before, ∃ q, e = .ask q) →
      (s.after before).attempt = s.attempt := by
    intro before hbefore
    rw [attempt_after, workspace_after_asks hbefore, attempt]
  have hstart : s.preprocessor.indexIn s.workspace = s.attempt := by
    rw [Preprocessor.indexIn, hnone, attempt]
  rcases hi : (s.after events).preprocessor.index with _ | built
  · have hend := hattempt events h
    rw [attempt, workspace_after_asks h] at hend
    rw [hstart, Preprocessor.indexIn, hi]
    exact hend
  · rcases index_after_iff.mp hi with hs | ⟨before, q, rest, rfl, hbuilds⟩
    · cases hnone.symm.trans hs
    have hbefore := hattempt before fun e he => h e (List.mem_append_left _ he)
    rw [hstart, Preprocessor.indexIn, hi, ← hbefore, hbuilds.built]

end Session

/-- Over every history of one preprocessor, only its index changes. It is there as soon as a query that
needs it has built it, and not as long as each of them failed to, on the tree of its moment. From then on
it stays, and names without slashes are answered from the listings of the tree it was built on, whatever the
tree has become. A query that needs no index leaves everything as it is and has the answer it would have
with any other search paths. Where the tree is never changed, a query has the answer that it would have had
first. -/
theorem Session.index_built_once (p : Preprocessor) (ws : Workspace) (events : List Event) :
    let start : Session := ⟨ws, p.fresh⟩
    let s := start.after events
    s.preprocessor.fresh = p.fresh ∧
    (∀ index, s.preprocessor.index = some index ↔ ∃ before q rest,
      events = before ++ .ask q :: rest ∧ (start.after before).Builds q index) ∧
    (s.preprocessor.index = none ↔ ∀ before q rest,
      events = before ++ .ask q :: rest → (start.after before).Needs q →
        ∃ e, (start.after before).attempt = .error e) ∧
    (∀ before q rest index, events = before ++ .ask q :: rest →
      (start.after before).Builds q index →
        index.ListedIn (start.after before).workspace ∧
        (∀ later, (s.after later).preprocessor = s.preprocessor) ∧
        ∀ name, '/' ∉ name.toList →
          (start.after before).context.resolve name none = index.lookUp name ∧
          ∀ ws', (s.preprocessor.context ws').resolve name none = index.lookUp name ∧
            (s.preprocessor.answer ws' (.resolve name none)).1 = .resolved (index.lookUp name)) ∧
    (∀ q, ¬s.Needs q → s.next (.ask q) = s ∧
      ∀ searchPaths roots index,
        (s.preprocessor.elsewhere searchPaths roots index).answer s.workspace q =
          ((s.preprocessor.answer s.workspace q).1,
            s.preprocessor.elsewhere searchPaths roots index)) ∧
    ((∀ e ∈ events, ∃ q, e = .ask q) → ∀ q,
      (s.preprocessor.answer ws q).1 = (p.fresh.answer ws q).1) := by
  intro start s
  have hnone : start.preprocessor.index = none := rfl
  refine ⟨fresh_after start events, ?_, no_index_after_iff hnone, ?_, ?_, ?_⟩
  · intro index
    refine index_after_iff.trans (or_iff_right ?_)
    simp [hnone]
  · rintro before q rest index rfl hbuilds
    have hindex : s.preprocessor.index = some index := hbuilds.index_after
    refine ⟨SearchIndex.listedIn_of_build hbuilds.built, preprocessor_after hindex, ?_⟩
    intro name hname
    refine ⟨Preprocessor.resolve_eq_lookUp hbuilds.indexIn hname, fun ws' => ?_⟩
    have hindexIn : s.preprocessor.indexIn ws' = .ok index := by
      rw [Preprocessor.indexIn, hindex]
    have hresolve := Preprocessor.resolve_eq_lookUp hindexIn hname
    exact ⟨hresolve, congrArg Answer.resolved hresolve⟩
  · intro q hq
    refine ⟨?_, fun searchPaths roots index => Preprocessor.answer_elsewhere hq⟩
    rw [next, Preprocessor.answer_of_not_needs hq]
  · intro hasks q
    refine Preprocessor.answer_eq_of_indexIn (fresh_after start events) ?_ q
    exact indexIn_after_asks hnone hasks

namespace Session

def oneDirectory : Preprocessor where
  searchPaths := ["/js"]
  roots := .ofApp ⟨"/"⟩
  matcher := .ofMarker "#" .angle
  stripper := none
  carry := false

def withoutDirectory : Workspace where
  tree := ⟨[(["m.js"], .file [35, 98, 10] 0)]⟩

def withDirectory : Workspace where
  tree := ⟨[(["m.js"], .file [35, 98, 10] 0), (["js"], .directory), (["js", "b.js"], .file [] 0)]⟩

def withOther : Workspace where
  tree := ⟨[(["m.js"], .file [35, 98, 10] 0), (["js"], .directory), (["js", "c.js"], .file [] 0)]⟩

def retried : List Event :=
  [.ask (.bundle ⟨"/m.js"⟩), .change withDirectory, .ask .searchIndex, .change withOther]

theorem build_withDirectory :
    SearchIndex.build withDirectory ["/js"] (.ofApp ⟨"/"⟩) = .ok [⟨⟨"/js"⟩, ["b.js"]⟩] := by
  have hdirectory : withDirectory.isDirectory ⟨"/js"⟩ = true := by decide +kernel
  have hlocate : withDirectory.locate ⟨"/js"⟩ = .ok ["js"] := by decide +kernel
  have hnames : ((withDirectory.tree.entries ["js"]).filter fun e => SearchIndex.isListed e.2).filterMap
      (·.1.text?) = ["b.js"] := by decide +kernel
  have hfiles : SearchIndex.listFiles withDirectory ⟨"/js"⟩ = .ok ["b.js"] := by
    simp only [SearchIndex.listFiles, SearchIndex.fileNames, hdirectory, hlocate, hnames,
      List.mergeSort_singleton]
  have hdir : Roots.substitute (.ofApp ⟨"/"⟩) "/js" = ⟨"/js"⟩ := by decide +kernel
  rw [SearchIndex.build, List.map_singleton, hdir, List.foldlM_cons, SearchIndex.addDir, hfiles]
  rfl

/-- The first query fails and is no obstacle; the next one that needs an index builds it, and what the
directory held then is found later on, when it is gone. -/
theorem index_built_once_retried :
    let start : Session := ⟨withoutDirectory, oneDirectory⟩
    let s := start.after retried
    (start.preprocessor.bundle start.workspace ⟨"/m.js"⟩).1 = .error (.directoryNotFound ⟨"/js"⟩) ∧
      s.preprocessor.index = some [⟨⟨"/js"⟩, ["b.js"]⟩] ∧
      s.workspace.isFile ⟨"/js/b.js"⟩ = false ∧
      s.context.resolve "b" none = .ok ⟨⟨"/js/b.js"⟩, .searchPath⟩ ∧
      s.context.resolve "c" none = .error (.unresolved "c" none) ∧
      s.next (.ask (.resolve "c" (some ⟨"/js"⟩))) = s ∧
      ((start.after [.ask (.bundle ⟨"/m.js"⟩)]).preprocessor.answer start.workspace
        .searchIndex).1 = .indexed (.error (.directoryNotFound ⟨"/js"⟩)) := by
  intro start s
  have hbuilds : (start.after [.ask (.bundle ⟨"/m.js"⟩), .change withDirectory]).Builds .searchIndex
      [⟨⟨"/js"⟩, ["b.js"]⟩] := by
    refine ⟨?_, trivial, ?_⟩
    · change (oneDirectory.bundle withoutDirectory ⟨"/m.js"⟩).2.index = none
      decide +kernel
    · rw [attempt_after]
      exact build_withDirectory
  obtain ⟨-, hindex, -, hkept, hunneeded, -⟩ :=
    index_built_once oneDirectory withoutDirectory retried
  obtain ⟨-, -, -, -, -, hsame⟩ :=
    index_built_once oneDirectory withoutDirectory [.ask (.bundle ⟨"/m.js"⟩)]
  obtain ⟨-, -, hlookUp⟩ := hkept _ _ _ _ rfl hbuilds
  refine ⟨by decide +kernel, (hindex _).mpr ⟨_, _, _, rfl, hbuilds⟩, by decide +kernel, ?_, ?_, ?_, ?_⟩
  · refine ((hlookUp "b" (by decide)).2 s.workspace).1.trans ?_
    decide +kernel
  · refine ((hlookUp "c" (by decide)).2 s.workspace).1.trans ?_
    decide +kernel
  · exact (hunneeded (.resolve "c" (some ⟨"/js"⟩)) (Option.some_ne_none _)).1
  · refine (hsame ?_ .searchIndex).trans ?_
    · simp
    · have hbuild : SearchIndex.build withoutDirectory ["/js"] (.ofApp ⟨"/"⟩) =
          .error (.directoryNotFound ⟨"/js"⟩) := by
        decide +kernel
      exact congrArg Answer.indexed hbuild

end Session

end ScriptBundle
