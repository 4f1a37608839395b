import ScriptBundle.Proofs.FileTree.Keeping
import ScriptBundle.Proofs.Path.Parents

/-!
# New directories

Creating a directory with those above it changes nothing that stands. What is new are directories, each of
them at the end of the path or of one above it, and in the end the path leads to a directory.
-/

namespace ScriptBundle

namespace Workspace

variable {w : Workspace} {p q : Path} {l place : Location} {t : FileTree} {names : List RawText}

theorem locateNames_eq_ok_iff : w.locateNames p names = .ok l ↔
    w.tree.follow FileTree.linkLimit (w.start p) names = .ok (.found l) ∧ w.tree.isDirectoryAt l := by
  simp only [locateNames, start, bind, Except.bind]
  rcases w.tree.follow FileTree.linkLimit (if p.isAbsolute then [] else w.here) names with
    fault | m | ⟨d, name⟩
  · simp
  · by_cases hm : w.tree.isDirectoryAt m
    · simp only [hm, if_true, pure, Except.pure, Except.ok.injEq, FileTree.Arrival.found.injEq]
      exact ⟨fun h => ⟨h, h ▸ hm⟩, And.left⟩
    · simp only [hm, Bool.false_eq_true, if_false, Except.ok.injEq, FileTree.Arrival.found.injEq]
      refine iff_of_false (by simp [throw, throwThe, MonadExceptOf.throw]) ?_
      rintro ⟨rfl, h⟩
      exact hm h
  · simp [throw, throwThe, MonadExceptOf.throw]

theorem segments_of_trimmed {last : RawText} {outer : List RawText}
    (h : (trimmedSegments p).reverse = last :: outer) :
    last ≠ [] ∧ ∃ blanks, p.segments = outer.reverse ++ last :: blanks ∧ ∀ x ∈ blanks, x = [] := by
  rw [trimmedSegments, List.reverse_reverse] at h
  constructor
  · have hhead := List.head?_dropWhile_not List.isEmpty p.segments.reverse
    rw [h] at hhead
    simpa using hhead
  · refine ⟨(p.segments.reverse.takeWhile List.isEmpty).reverse, ?_, ?_⟩
    · rw [← List.reverse_inj, List.reverse_append, List.reverse_cons, List.reverse_reverse,
        List.reverse_reverse, List.append_assoc, List.singleton_append, ← h,
        List.takeWhile_append_dropWhile]
    · intro x hx
      exact List.isEmpty_iff.mp (List.all_eq_true.mp List.all_takeWhile x (List.mem_reverse.mp hx))

theorem checkPath_eq_ok_iff : checkPath p = .ok () ↔
    p.text ≠ [] ∧ 0 ∉ p.text ∧ p.text.length ≤ FileTree.pathLimit := by
  unfold checkPath
  by_cases htext : p.text = []
  · simp [htext]
  by_cases hnul : 0 ∈ p.text
  · simp [htext, hnul]
  by_cases hsize : FileTree.pathLimit < p.text.length
  · simp [htext, hnul, hsize, Nat.not_le.mpr hsize]
  · simp [htext, hnul, hsize, Nat.le_of_not_lt hsize]

/-- A free place is the name of something new in a directory that the front of the path leads to. -/
theorem vacancy_eq_ok (h : w.vacancy p = .ok place) :
    checkPath p = .ok () ∧ w.tree.node? place = none ∧ ∃ front last blanks l,
      p.segments = front ++ last :: blanks ∧ (∀ x ∈ blanks, x = []) ∧ FileTree.IsPlain last ∧
        w.tree.follow FileTree.linkLimit (w.start p) front = .ok (.found l) ∧
        w.tree.isDirectoryAt l ∧ place = l ++ [last] := by
  simp only [vacancy, bind, Except.bind] at h
  rcases hcheck : checkPath p with fault | _
  · rw [hcheck] at h
    cases h
  rw [hcheck] at h
  simp only at h
  split at h
  · cases h
  next last outer hnames =>
    rcases hdir : w.locateNames p outer.reverse with fault | l
    · rw [hdir] at h
      cases h
    rw [hdir] at h
    simp only at h
    obtain ⟨hlast, blanks, hsegs, hblanks⟩ := segments_of_trimmed hnames
    obtain ⟨hfollow, hdirectory⟩ := locateNames_eq_ok_iff.mp hdir
    split at h
    · cases h
    next hdots =>
      split at h
      · cases h
      next hsize =>
        split at h
        · cases h
        next hfree =>
          cases h
          simp only [Bool.or_eq_true, decide_eq_true_eq, not_or] at hdots
          refine ⟨rfl, by simpa using hfree, outer.reverse, last, blanks, l, hsegs, hblanks, ?_,
            hfollow, hdirectory, rfl⟩
          exact ⟨by simp [Path.Cut.isIdle, hlast, hdots.1], hdots.2, Nat.le_of_not_lt hsize⟩

theorem locate_of_vacancy (h : w.vacancy p = .ok place) :
    (w.withTree (w.tree.put place .directory)).locate p = .ok place := by
  obtain ⟨hcheck, hfree, front, last, blanks, l, hsegs, hblanks, hlast, hfollow, hdirectory, rfl⟩ :=
    vacancy_eq_ok h
  obtain ⟨htext, hnul, -⟩ := checkPath_eq_ok_iff.mp hcheck
  have hkeeps : w.tree.Keeps (w.tree.put (l ++ [last]) .directory) := .put_free hfree
  have hnode : (w.tree.put (l ++ [last]) .directory).node? (l ++ [last]) = some .directory :=
    FileTree.node?_put_self _ (by simp)
  have hnew : (w.tree.put (l ++ [last]) .directory).isDirectoryAt (l ++ [last]) := by
    simp [FileTree.isDirectoryAt, hnode]
  have hblank : ∀ blanks : List RawText, (∀ x ∈ blanks, x = []) →
      (w.tree.put (l ++ [last]) .directory).Goes (l ++ [last]) blanks (.found (l ++ [last])) := by
    intro blanks hblanks
    induction blanks with
    | nil => exact .arrived _
    | cons x rest ih =>
      obtain ⟨rfl, hrest⟩ := List.forall_mem_cons.mp hblanks
      exact .idle hnew rfl (ih hrest)
  have hgoes : (w.tree.put (l ++ [last]) .directory).Goes l (last :: blanks)
      (.found (l ++ [last])) :=
    .entry (hkeeps.isDirectoryAt hdirectory) hlast hnode (by simp) (hblank blanks hblanks)
  refine locate_eq_ok_iff.mpr ⟨htext, hnul, ?_, Option.isSome_iff_exists.mpr ⟨_, hnode⟩⟩
  rw [hsegs]
  exact FileTree.follow_append (hkeeps.follow hfollow) hgoes

theorem ensureDirectory_eq (w : Workspace) (p : Path) : w.ensureDirectory p =
    match w.vacancy p with
    | .ok l => (.ok (), w.tree.put l .directory)
    | .error fault => (if w.isDirectory p then .ok () else .error fault, w.tree) := by
  unfold ensureDirectory makeDirectory
  rcases w.vacancy p with _ | _ <;> rfl

def LeadsToDirectory (w : Workspace) (p : Path) : Prop :=
  ∃ d, w.locate p = .ok d ∧ w.tree.isDirectoryAt d

/-- What stood stands as it did, only directories are new, and one of the given paths leads to each new
one. -/
structure Grown (w : Workspace) (paths : Path → Prop) (t : FileTree) : Prop where
  kept : ∀ l n, w.tree.node? l = some n → t.node? l = some n
  fresh : ∀ l n, w.tree.node? l = none → t.node? l = some n →
    n = .directory ∧ ∃ q, paths q ∧ (w.withTree t).locate q = .ok l

theorem leadsToDirectory_of_isDirectory (h : w.isDirectory p) : w.LeadsToDirectory p := by
  obtain ⟨n, hn, houtline⟩ := isDirectory_iff.mp h
  obtain ⟨-, d, hd, hnode⟩ := nodeAt?_eq_ok_iff.mp hn
  cases n with
  | directory => exact ⟨d, hd, by simp [FileTree.isDirectoryAt, hnode]⟩
  | _ => cases houtline

namespace Grown

variable {paths : Path → Prop} {t' : FileTree} {r : Except FileFault Unit}

theorem refl (w : Workspace) (paths : Path → Prop) : w.Grown paths w.tree where
  kept := fun _ _ hn => hn
  fresh := fun l n hnone hn => by
    rw [hnone] at hn
    cases hn

theorem mono {more : Path → Prop} (h : w.Grown paths t) (hpaths : ∀ q, paths q → more q) :
    w.Grown more t where
  kept := h.kept
  fresh := fun l n hnone hn => by
    obtain ⟨hdirectory, q, hq, hl⟩ := h.fresh l n hnone hn
    exact ⟨hdirectory, q, hpaths q hq, hl⟩

theorem keeps (h : w.Grown paths t) : w.tree.Keeps t := .of_eq h.kept

theorem canonical (h : w.Grown paths t) (hl : w.tree.Canonical l) : t.Canonical l where
  names := hl.names
  above := fun d s e he => h.keeps.isDirectoryAt (hl.above d s e he)
  noLink := fun target hlink => by
    rcases hn : w.tree.node? l with _ | n
    · cases (h.fresh l _ hn hlink).1
    · obtain rfl : n = .link target := Option.some.inj ((h.kept l n hn).symm.trans hlink)
      exact hl.noLink target hn

theorem ensure (h : w.Grown paths t) (hp : paths p)
    (hensure : (w.withTree t).ensureDirectory p = (r, t')) :
    w.Grown paths t' ∧ (r = .ok () → (w.withTree t').LeadsToDirectory p) := by
  rw [ensureDirectory_eq] at hensure
  rcases hplace : (w.withTree t).vacancy p with fault | place
  · rw [hplace] at hensure
    cases hensure
    refine ⟨h, fun hok => leadsToDirectory_of_isDirectory ?_⟩
    by_cases hdirectory : (w.withTree t).isDirectory p
    · exact hdirectory
    · simp [hdirectory] at hok
  rw [hplace] at hensure
  cases hensure
  obtain ⟨-, hfree, -, last, -, l, -, -, -, -, -, rfl⟩ := vacancy_eq_ok hplace
  have hlocate := locate_of_vacancy hplace
  have hnode : (t.put (l ++ [last]) .directory).node? (l ++ [last]) = some .directory :=
    FileTree.node?_put_self _ (by simp)
  have hkeeps : t.Keeps (t.put (l ++ [last]) .directory) := .put_free hfree
  refine ⟨⟨?_, ?_⟩, fun _ => ⟨_, hlocate, by simp [FileTree.isDirectoryAt, withTree, hnode]⟩⟩
  · intro m n hn
    exact FileTree.node?_put_of_free hfree (h.kept m n hn)
  · intro m n hnone hn
    by_cases hm : m = l ++ [last]
    · subst hm
      exact ⟨Option.some.inj (hn.symm.trans hnode), p, hp, hlocate⟩
    · rw [withTree, FileTree.node?_put_of_ne _ hm] at hn
      obtain ⟨hdirectory, q, hq, hl⟩ := h.fresh m n hnone hn
      exact ⟨hdirectory, q, hq, locate_keeps (w := w.withTree t) hkeeps hl⟩

end Grown

/-- Creating a directory with those above it lets the tree grow, also where it fails halfway. -/
theorem grown_makeDirectoriesWithin {fuel : Nat} {r : Except FileFault Unit}
    (h : makeDirectoriesWithin fuel w p = (r, t)) :
    w.Grown (Path.AtOrAbove · p) t ∧
      (r = .ok () → p.text ≠ [] → (w.withTree t).LeadsToDirectory p) := by
  -- The directories above are made first, and the last one is made in the tree that they leave behind.
  induction fuel generalizing p r t with
  | zero =>
    cases h
    exact ⟨.refl w _, by simp⟩
  | succ fuel ih =>
    unfold makeDirectoriesWithin at h
    split at h
    next hempty =>
      cases h
      exact ⟨.refl w _, fun _ hne => absurd hempty hne⟩
    split at h
    · split at h
      next =>
        cases h
        exact ⟨.refl w _, by simp⟩
      next outer houter =>
        split at h
        next t' hmade =>
          have hgrown := (ih hmade).1.mono fun q hq => (Path.Above.of_atOrAbove houter hq).atOrAbove
          have hensure := hgrown.ensure Relation.ReflTransGen.refl h
          exact ⟨hensure.1, fun hr _ => hensure.2 hr⟩
        next fault t' hmade =>
          cases h
          have hgrown := (ih hmade).1.mono fun q hq => (Path.Above.of_atOrAbove houter hq).atOrAbove
          exact ⟨hgrown, by simp⟩
    next =>
      have hensure := (Grown.refl w (Path.AtOrAbove · p)).ensure Relation.ReflTransGen.refl h
      exact ⟨hensure.1, fun hr _ => hensure.2 hr⟩

/-- Whatever a path leads to, the path above it leads to a directory. -/
theorem leadsToDirectory_parent? (h : w.locate p = .ok l) (hq : p.parent? = some q)
    (hne : q.text ≠ []) : w.LeadsToDirectory q := by
  obtain ⟨htext, hnul, hfollow, -⟩ := locate_eq_ok_iff.mp h
  rcases Path.segments_parent? hq hne with ⟨rfl, -⟩ | ⟨habs, more, hmore, hsegs⟩
  · have hroot : w.tree.isDirectoryAt [] := by simp [FileTree.isDirectoryAt]
    refine ⟨[], locate_eq_ok_iff.mpr ⟨by decide, by decide, ?_, by simp⟩, hroot⟩
    exact FileTree.follow_eq_ok_iff.mpr
      (Or.inl ⟨[], .idle hroot rfl (.idle hroot rfl (.arrived [])), rfl⟩)
  · rw [hsegs] at hfollow
    obtain ⟨d, hd, hdirectory⟩ := FileTree.follow_split hfollow hmore
    have hstart : w.start q = w.start p := by rw [start, habs, start]
    refine ⟨d, locate_eq_ok_iff.mpr ⟨hne, ?_, hstart ▸ hd, ?_⟩, hdirectory⟩
    · rw [Path.mem_text_iff (by decide)]
      rintro ⟨x, hx, hx'⟩
      exact hnul ((Path.mem_text_iff (by decide)).mpr ⟨x, hsegs ▸ List.mem_append_left _ hx, hx'⟩)
    · rw [FileTree.node?_of_isDirectoryAt hdirectory]
      rfl

theorem leadsToDirectory_of_above (h : w.locate p = .ok l) (hq : Path.Above q p)
    (hne : q.text ≠ []) : w.LeadsToDirectory q := by
  induction hq with
  | single hparent => exact leadsToDirectory_parent? h hparent hne
  | @tail a b _ hparent ih =>
    -- The chain cannot have gone on behind the empty path, which has no parent.
    have ha : a.text ≠ [] := by
      intro hempty
      obtain rfl : a = ⟨[]⟩ := by
        cases a
        exact congrArg Path.mk hempty
      have hnone : (Path.mk "").parent? = none := by decide +kernel
      cases hnone.symm.trans hparent
    obtain ⟨d, hd, -⟩ := ih ha
    exact leadsToDirectory_parent? hd hparent hne

end Workspace

end ScriptBundle
