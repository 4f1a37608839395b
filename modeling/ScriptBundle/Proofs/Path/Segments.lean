import ScriptBundle.Path
import ScriptBundle.Proofs.Text.Decoding

/-! # Pieces of paths

Splitting a text at slashes and laying pieces end to end undo each other, as long as there is a piece and
no piece has a slash in it.
-/

namespace ScriptBundle

section Splitting

variable {α : Type} [DecidableEq α] {sep : α} {cs piece : List α}

theorem splitAtSep_ne_nil (sep : α) (cs : List α) : splitAtSep sep cs ≠ [] := by
  cases cs with
  | nil => simp [splitAtSep]
  | cons c rest =>
    unfold splitAtSep
    split
    · simp
    · split <;> simp

theorem splitAtSep_cons_of_ne {c : α} (hc : c ≠ sep) {first : List α}
    {more : List (List α)} (hs : splitAtSep sep cs = first :: more) :
    splitAtSep sep (c :: cs) = (c :: first) :: more := by
  simp [splitAtSep, hc, hs]

theorem splitAtSep_append_cons (sep : α) (xs ys : List α) :
    splitAtSep sep (xs ++ sep :: ys) = splitAtSep sep xs ++ splitAtSep sep ys := by
  induction xs with
  | nil => simp [splitAtSep]
  | cons x xs ih =>
    by_cases hx : x = sep
    · simp [splitAtSep, hx, ih]
    · obtain ⟨first, more, hs⟩ := List.exists_cons_of_ne_nil (splitAtSep_ne_nil sep xs)
      rw [hs] at ih
      rw [List.cons_append, splitAtSep_cons_of_ne hx ih, splitAtSep_cons_of_ne hx hs]
      rfl

theorem splitAtSep_append_of_notMem {front first : List α} {more : List (List α)} (h : sep ∉ front)
    (hs : splitAtSep sep cs = first :: more) : splitAtSep sep (front ++ cs) = (front ++ first) :: more := by
  induction front with
  | nil => exact hs
  | cons c front ih =>
    rw [List.mem_cons, not_or] at h
    exact splitAtSep_cons_of_ne (Ne.symm h.1) (ih h.2)

theorem splitAtSep_of_notMem (h : sep ∉ cs) : splitAtSep sep cs = [cs] := by
  have hempty : splitAtSep sep ([] : List α) = [[]] := rfl
  simpa using splitAtSep_append_of_notMem h hempty

theorem notMem_of_mem_splitAtSep (h : piece ∈ splitAtSep sep cs) : sep ∉ piece := by
  induction cs generalizing piece with
  | nil =>
    rw [List.mem_singleton.mp h]
    exact List.not_mem_nil
  | cons c cs ih =>
    obtain ⟨first, more, hs⟩ := List.exists_cons_of_ne_nil (splitAtSep_ne_nil sep cs)
    rw [hs] at ih
    by_cases hc : c = sep
    · simp only [splitAtSep, hc, if_true, hs] at h
      rcases List.mem_cons.mp h with rfl | h
      · exact List.not_mem_nil
      · exact ih h
    · rw [splitAtSep_cons_of_ne hc hs] at h
      rcases List.mem_cons.mp h with rfl | h
      · rw [List.mem_cons, not_or]
        exact ⟨Ne.symm hc, ih List.mem_cons_self⟩
      · exact ih (List.mem_cons_of_mem _ h)

theorem mem_iff_mem_splitAtSep {c : α} (hc : c ≠ sep) :
    c ∈ cs ↔ ∃ piece ∈ splitAtSep sep cs, c ∈ piece := by
  induction cs with
  | nil => simp [splitAtSep]
  | cons x cs ih =>
    obtain ⟨first, more, hs⟩ := List.exists_cons_of_ne_nil (splitAtSep_ne_nil sep cs)
    rw [hs] at ih
    by_cases hx : x = sep
    · simp [splitAtSep, hx, hs, hc, ih]
    · simp [splitAtSep_cons_of_ne hx hs, ih, or_assoc]

end Splitting

section Joining

variable {s : RawText} {names more : List RawText}

@[simp] theorem joinNames_nil : joinNames [] = [] := rfl

theorem joinNames_singleton (s : RawText) : joinNames [s] = s := List.intercalate_singleton

theorem joinNames_cons (h : names ≠ []) : joinNames (s :: names) = s ++ slash :: joinNames names := by
  obtain ⟨x, rest, rfl⟩ := List.exists_cons_of_ne_nil h
  rw [joinNames, List.intercalate_cons_cons, List.append_assoc, List.singleton_append, joinNames]

theorem joinNames_append (h : names ≠ []) (hmore : more ≠ []) :
    joinNames (names ++ more) = joinNames names ++ slash :: joinNames more := by
  induction names with
  | nil => exact absurd rfl h
  | cons s rest ih =>
    by_cases hr : rest = []
    · rw [hr, List.singleton_append, joinNames_cons hmore, joinNames_singleton]
    · rw [List.cons_append, joinNames_cons (List.append_ne_nil_of_left_ne_nil hr more), ih hr,
        joinNames_cons hr, List.append_assoc, List.cons_append]

end Joining

theorem slash_mem_textOctets_iff {text : String} : slash ∈ textOctets text ↔ '/' ∈ text.toList :=
  Utf8.mem_encode_iff (c := '/') (by decide)

namespace Path

variable {p : Path} {s : RawText}

theorem slash_notMem_of_mem_segments (h : s ∈ p.segments) : slash ∉ s := notMem_of_mem_splitAtSep h

theorem mem_text_iff {b : UInt8} (hb : b ≠ slash) : b ∈ p.text ↔ ∃ s ∈ p.segments, b ∈ s :=
  mem_iff_mem_splitAtSep hb

theorem segments_ne_nil (p : Path) : p.segments ≠ [] := splitAtSep_ne_nil slash p.text

theorem segments_append (a b : RawText) :
    (Path.mk (a ++ slash :: b)).segments = (Path.mk a).segments ++ (Path.mk b).segments :=
  splitAtSep_append_cons slash a b

theorem segments_of_notMem (h : slash ∉ s) : (Path.mk s).segments = [s] := splitAtSep_of_notMem h

theorem segments_joinNames {body : List RawText} (hne : body ≠ [])
    (h : ∀ s ∈ body, slash ∉ s) : (Path.mk (joinNames body)).segments = body := by
  induction body with
  | nil => exact absurd rfl hne
  | cons s rest ih =>
    obtain ⟨hs, hrest⟩ := List.forall_mem_cons.mp h
    by_cases hr : rest = []
    · rw [hr, joinNames_singleton, segments_of_notMem hs]
    · rw [joinNames_cons hr, segments_append, segments_of_notMem hs,
        ih hr hrest, List.singleton_append]

theorem segments_slash (a : RawText) : (Path.mk (slash :: a)).segments = [] :: (Path.mk a).segments :=
  segments_append [] a

theorem isAbsolute_iff : p.isAbsolute ↔ ∃ s rest, p.segments = [] :: s :: rest := by
  unfold isAbsolute segments
  rcases p.text with _ | ⟨c, cs⟩
  · simp [splitAtSep]
  obtain ⟨first, more, hs⟩ := List.exists_cons_of_ne_nil (splitAtSep_ne_nil slash cs)
  by_cases hc : c = slash
  · simp [splitAtSep, hc, hs]
  · simp [splitAtSep_cons_of_ne hc hs, hc]

def leadPieces : Option Lead → List RawText
  | some .root => [[]]
  | some .here => ["."]
  | none => []

theorem slash_notMem_leadPieces {lead : Option Lead} (h : s ∈ leadPieces lead) : slash ∉ s := by
  rcases lead with _ | _ | _
  · cases h
  · rw [List.mem_singleton.mp h]
    decide
  · rw [List.mem_singleton.mp h]
    decide

theorem segments_eq_cut (p : Path) : p.segments = leadPieces p.cut.lead ++ p.cut.body := by
  unfold cut
  obtain ⟨first, rest, hs⟩ := List.exists_cons_of_ne_nil (segments_ne_nil p)
  by_cases ha : p.isAbsolute
  · obtain ⟨s, more, hs'⟩ := isAbsolute_iff.mp ha
    simp [hs', ha, leadPieces]
  by_cases hd : first = "."
  · simp [hs, ha, hd, leadPieces]
  · simp [hs, ha, hd, leadPieces]

theorem lead_eq_root_iff : p.cut.lead = some .root ↔ p.isAbsolute := by
  unfold cut
  obtain ⟨first, rest, hs⟩ := List.exists_cons_of_ne_nil (segments_ne_nil p)
  by_cases ha : p.isAbsolute
  · simp [hs, ha]
  by_cases hd : first = "."
  · simp [hs, ha, hd]
  · simp [hs, ha, hd]

namespace Cut

theorem trimBack_concat {front : List RawText} (hs : isIdle s = false) :
    trimBack (front ++ [s]) = front ++ [s] := by
  simp [trimBack, hs]

/-- Trimming leaves out idle pieces at the end and ends in a piece that says something. -/
theorem trimBack_spec (body : List RawText) :
    (∃ idle, body = trimBack body ++ idle ∧ ∀ s ∈ idle, isIdle s) ∧
      ∀ front s, trimBack body = front ++ [s] → isIdle s = false := by
  constructor
  · refine ⟨(body.reverse.takeWhile isIdle).reverse, ?_, ?_⟩
    · rw [trimBack, ← List.reverse_append, List.takeWhile_append_dropWhile, List.reverse_reverse]
    · intro s hs
      exact List.all_eq_true.mp List.all_takeWhile s (List.mem_reverse.mp hs)
  · intro front s h
    have hrev : body.reverse.dropWhile isIdle = s :: front.reverse := by
      rw [← List.reverse_reverse (body.reverse.dropWhile isIdle)]
      simp only [trimBack] at h
      simp [h]
    have := List.head?_dropWhile_not isIdle body.reverse
    rw [hrev] at this
    simpa using this

/-- The text of a cut path is its pieces laid end to end, but for the root alone. -/
theorem path_eq {c : Cut} (h : c.lead = some .root → c.body ≠ []) :
    c.path = ⟨joinNames (leadPieces c.lead ++ c.body)⟩ := by
  rcases c with ⟨_ | _ | _, body⟩
  · rfl
  · have hne : body ≠ [] := h rfl
    simp [path, leadPieces, joinNames_cons hne]
  · rfl

end Cut

theorem getLast?_joinNames (front : List RawText) (hs : s ≠ []) :
    (joinNames (front ++ [s])).getLast? = s.getLast? := by
  rcases front with _ | ⟨x, front⟩
  · rw [List.nil_append, joinNames_singleton]
  · obtain ⟨c, hc⟩ := Option.ne_none_iff_exists'.mp (mt List.getLast?_eq_none_iff.mp hs)
    rw [joinNames_append (List.cons_ne_nil x front) (List.cons_ne_nil s []), joinNames_singleton]
    simp [hc, List.getLast?_cons]

theorem segments_join_joinNames {front : List RawText} (hs : s ≠ [])
    (hslash : ∀ x ∈ front ++ [s], slash ∉ x) (hp : p.isAbsolute = false) :
    (join ⟨joinNames (front ++ [s])⟩ p).segments = front ++ [s] ++ p.segments := by
  have hlast := getLast?_joinNames front hs
  have hslast : s.getLast? ≠ some slash := fun h =>
    hslash s (by simp) (List.mem_of_getLast? h)
  have hne : joinNames (front ++ [s]) ≠ [] := by
    intro h
    rw [h] at hlast
    exact hs (List.getLast?_eq_none_iff.mp hlast.symm)
  have hnotSlash : ((joinNames (front ++ [s])).getLast? == some slash) = false := by
    rw [hlast]
    simpa using hslast
  simp only [join, hp, Bool.false_eq_true, if_false, if_neg hne, hnotSlash]
  rw [segments_append, segments_joinNames (by simp) hslash]

/-- Joining a relative path to a cut path lays their pieces end to end. -/
theorem segments_join {c : Cut} (hslash : ∀ x ∈ c.body, slash ∉ x)
    (hlast : ∀ front x, c.body = front ++ [x] → Cut.isIdle x = false)
    (hp : p.isAbsolute = false) :
    (c.path.join p).segments = leadPieces c.lead ++ c.body ++ p.segments := by
  rcases List.eq_nil_or_concat c.body with hb | ⟨front, x, hb⟩
  · rcases c with ⟨_ | _ | _, body⟩ <;> subst hb
    · simp [Cut.path, join, hp, leadPieces]
    · have hroot : (Cut.path ⟨some .root, []⟩).join p = ⟨[] ++ slash :: p.text⟩ := by
        simp [Cut.path, join, hp]
      rw [hroot, segments_append]
      rfl
    · exact @segments_join_joinNames p "." [] (by decide) (by decide) hp
  · rw [List.concat_eq_append] at hb
    have hx : x ≠ [] := by
      rintro rfl
      simpa [Cut.isIdle] using hlast _ _ hb
    rw [Cut.path_eq (by simp [hb]), hb, ← List.append_assoc]
    refine segments_join_joinNames hx ?_ hp
    intro y hy
    rw [List.append_assoc, ← hb, List.mem_append] at hy
    rcases hy with hy | hy
    · exact slash_notMem_leadPieces hy
    · exact hslash y hy

theorem isAbsolute_mk_of_notMem (h : slash ∉ s) : (Path.mk s).isAbsolute = false := by
  unfold isAbsolute
  rcases s with _ | ⟨c, cs⟩
  · rfl
  · simp only [List.mem_cons, not_or] at h
    simp [Ne.symm h.1]

/-- A name taken from a directory is the last piece behind those of the directory, where an empty one at
the end of these gives way. -/
theorem segments_join_name (hp : p.text ≠ []) (hs : slash ∉ s) :
    ∃ front, (p.join ⟨s⟩).segments = front ++ [s] ∧
      (p.segments = front ∨ p.segments = front ++ [[]]) ∧
      (p.join ⟨s⟩).isAbsolute = p.isAbsolute := by
  have hfirst : ∀ more : RawText, (Path.mk (p.text ++ more)).isAbsolute = p.isAbsolute := by
    intro more
    obtain ⟨c, cs, hcs⟩ := List.exists_cons_of_ne_nil hp
    simp [isAbsolute, hcs]
  have hname := segments_of_notMem hs
  by_cases hslash : p.text.getLast? = some slash
  · obtain ⟨dir, hdir⟩ := List.getLast?_eq_some_iff.mp hslash
    have hjoin : p.join ⟨s⟩ = ⟨p.text ++ s⟩ := by
      simp [join, isAbsolute_mk_of_notMem hs, hp, hslash]
    have hsegs : p.segments = (Path.mk dir).segments ++ [[]] := by
      rw [segments, hdir]
      exact segments_append dir []
    refine ⟨(Path.mk dir).segments, ?_, Or.inr hsegs, ?_⟩
    · rw [hjoin, hdir, List.append_assoc, List.singleton_append, segments_append, hname]
    · rw [hjoin]
      exact hfirst s
  · have hjoin : p.join ⟨s⟩ = ⟨p.text ++ slash :: s⟩ := by
      simp [join, isAbsolute_mk_of_notMem hs, hp, hslash]
    refine ⟨p.segments, ?_, Or.inl rfl, ?_⟩
    · rw [hjoin, segments_append, hname]
    · rw [hjoin]
      exact hfirst _

theorem join_text_ne {base : Path} (h : p.text ≠ []) : (base.join p).text ≠ [] := by
  unfold join
  split
  · exact h
  split
  · exact h
  split <;> simp [h]

theorem directory_eq {front : List RawText} (hb : p.cut.body = front ++ [s])
    (hs : Cut.isIdle s = false) :
    p.directory = Cut.path ⟨p.cut.lead, Cut.trimBack front⟩ := by
  have hparent : p.parent? = some (Cut.path ⟨p.cut.lead, Cut.trimBack front⟩) := by
    unfold parent?
    simp only [hb, Cut.trimBack_concat hs]
    split
    next h _ => simp at h
    next h _ => simp at h
    next => rw [List.dropLast_concat]
  rw [directory, hparent, Option.getD_some]

theorem cut_body_eq_concat {front : List RawText} (hp : p.segments = front ++ [s])
    (hs : Cut.isIdle s = false) : ∃ body, p.cut.body = body ++ [s] := by
  rw [segments_eq_cut] at hp
  rcases List.eq_nil_or_concat p.cut.body with hb | ⟨body, x, hb⟩
  · have hlead : s ∈ leadPieces p.cut.lead := by
      rw [hb, List.append_nil] at hp
      simp [hp]
    have hidle : ∀ x ∈ leadPieces p.cut.lead, Cut.isIdle x := by
      rcases p.cut.lead with _ | _ | _ <;> simp [leadPieces, Cut.isIdle]
    simp [hidle s hlead] at hs
  · rw [hb, List.concat_eq_append, ← List.append_assoc] at hp
    obtain rfl : x = s := List.cons.inj (List.append_inj' hp rfl).2 |>.1
    exact ⟨body, by rw [hb, List.concat_eq_append]⟩

/-- A relative path taken from the directory of a path has the pieces of that path, up to its last one
and without the idle ones before it, in front of its own. -/
theorem segments_directory_join {q : Path} {front : List RawText} (hp : p.segments = front ++ [s])
    (hs : Cut.isIdle s = false) (hq : q.isAbsolute = false) :
    ∃ kept idle, front = kept ++ idle ∧ (∀ x ∈ idle, Cut.isIdle x) ∧
      (p.directory.join q).segments = kept ++ q.segments ∧
      (p.directory.join q).isAbsolute = p.isAbsolute := by
  obtain ⟨body, hbody⟩ := cut_body_eq_concat hp hs
  have hfront : front = leadPieces p.cut.lead ++ body := by
    rw [segments_eq_cut, hbody, ← List.append_assoc] at hp
    exact (List.append_inj' hp rfl).1.symm
  obtain ⟨⟨idle, hbodyEq, hidle⟩, hlast⟩ := Cut.trimBack_spec body
  have hslash : ∀ x ∈ Cut.trimBack body, slash ∉ x := by
    intro x hx
    refine slash_notMem_of_mem_segments (p := p) ?_
    rw [hp, hfront, hbodyEq]
    simp [hx]
  have hjoin : (p.directory.join q).segments =
      leadPieces p.cut.lead ++ Cut.trimBack body ++ q.segments := by
    rw [directory_eq hbody hs]
    exact segments_join hslash hlast hq
  refine ⟨leadPieces p.cut.lead ++ Cut.trimBack body, idle, ?_, hidle, hjoin, ?_⟩
  · rw [hfront, List.append_assoc, ← hbodyEq]
  · have hmore : Cut.trimBack body ++ q.segments ≠ [] :=
      List.append_ne_nil_of_right_ne_nil _ (segments_ne_nil q)
    obtain ⟨x, rest, hx⟩ := List.exists_cons_of_ne_nil hmore
    rw [Bool.eq_iff_iff, ← lead_eq_root_iff (p := p), isAbsolute_iff, hjoin]
    rcases hlead : p.cut.lead with _ | _ | _
    · simp only [leadPieces, List.nil_append, reduceCtorEq, iff_false]
      rintro ⟨y, more, h⟩
      rcases hkept : Cut.trimBack body with _ | ⟨z, kept⟩
      · rw [hkept, List.nil_append] at h
        simp [isAbsolute_iff.mpr ⟨y, more, h⟩] at hq
      · rw [hkept, List.cons_append, List.cons.injEq] at h
        -- An empty first piece that is not the last would make the path absolute.
        have habs : p.isAbsolute := by
          obtain ⟨u, v, huv⟩ : ∃ u v, kept ++ idle ++ [s] = u :: v :=
            List.exists_cons_of_ne_nil (by simp)
          refine isAbsolute_iff.mpr ⟨u, v, ?_⟩
          rw [hp, hfront, hlead, hbodyEq, hkept, h.1, ← huv]
          simp [leadPieces]
        rw [← lead_eq_root_iff, hlead] at habs
        cases habs
    · simp [leadPieces, hx]
    · simp [leadPieces]

end Path

end ScriptBundle
