import ScriptBundle.Proofs.Walk.Contribution
import ScriptBundle.Proofs.Walk.Frames

/-! # Where pieces of output come from

Through any calls, also those that fail, the pieces of output that come from one file are lines of this file
that are no directives, in their order, and a separator behind the last of them. A file that is being read
can go on in this way.
-/

namespace ScriptBundle

variable {m : Matcher} {l : Location} {number : Nat} {lines rest : List String} {line : String}

theorem ownFragments_plain (hm : m line = none) :
    ownFragments m l number (line :: rest) =
      .line l (number + 1) line :: ownFragments m l (number + 1) rest := by
  rw [ownFragments, hm]

theorem ownFragments_directive {d : Directive} (hm : m line = some d) :
    ownFragments m l number (line :: rest) = ownFragments m l (number + 1) rest := by
  rw [ownFragments, hm]

theorem mem_ownFragments {n : Nat} {text : String} (h : .line l n text ∈ ownFragments m l number lines) :
    ∃ i, n = number + i + 1 ∧ lines[i]? = some text ∧ m text = none := by
  induction lines generalizing number with
  | nil => simp [ownFragments] at h
  | cons line rest ih =>
    have hrest : .line l n text ∈ ownFragments m l (number + 1) rest →
        ∃ i, n = number + i + 1 ∧ (line :: rest)[i]? = some text ∧ m text = none := by
      intro h
      obtain ⟨i, hn, hi, hm⟩ := ih h
      exact ⟨i + 1, by omega, by simpa using hi, hm⟩
    rcases hm : m line with _ | d
    · rw [ownFragments_plain hm] at h
      rcases List.mem_cons.mp h with h | h
      · cases h
        exact ⟨0, rfl, rfl, hm⟩
      · exact hrest h
    · rw [ownFragments_directive hm] at h
      exact hrest h

theorem count_separator_ownFragments (m : Matcher) (l : Location) (number : Nat) (lines : List String) :
    (ownFragments m l number lines).count (.separator l) = 1 := by
  induction lines generalizing number with
  | nil => simp [ownFragments]
  | cons line rest ih =>
    rcases hm : m line with _ | d
    · rw [ownFragments_plain hm, List.count_cons_of_ne (by simp), ih]
    · rw [ownFragments_directive hm, ih]

theorem piecesOf_reverse_own {x : Fragment} (fragments : List Fragment) (hx : x.owner = l) :
    piecesOf l (x :: fragments).reverse = piecesOf l fragments.reverse ++ [x] := by
  simp [piecesOf, hx]

theorem piecesOf_reverse_other {x : Fragment} (fragments : List Fragment) (hx : x.owner ≠ l) :
    piecesOf l (x :: fragments).reverse = piecesOf l fragments.reverse := by
  simp [piecesOf, hx]

namespace Walk

variable {ctx : WalkContext} {w w' : Walker} {f f' : Frame} {below : List Frame}

/-- The pieces of a file that have been put out are some of its own, in their order. -/
def Ordered (ctx : WalkContext) (l : Location) (fragments : List Fragment) : Prop :=
  ∃ lines, ctx.workspace.tree.linesAt l = .ok lines ∧
    (piecesOf l fragments.reverse).Sublist (ownFragments ctx.matcher l 0 lines)

/-- Its pieces put out so far do not keep a file that is being read from going on with those of its next
lines. -/
def Continues (ctx : WalkContext) (fragments : List Fragment) (f : Frame) : Prop :=
  ∀ lines, f.unread = .ok lines → ∃ all, ctx.workspace.tree.linesAt f.location = .ok all ∧
    (piecesOf f.location fragments.reverse ++
      ownFragments ctx.matcher f.location f.line lines).Sublist
        (ownFragments ctx.matcher f.location 0 all)

structure Sourced (ctx : WalkContext) (s : State) : Prop where
  distinct : (s.stack.map (·.location)).Nodup
  met : ∀ f ∈ s.stack, f.location ∈ s.walker.visited
  owned : ∀ x ∈ s.walker.fragments, x.owner ∈ s.walker.visited
  ordered : ∀ x ∈ s.walker.fragments, Ordered ctx x.owner s.walker.fragments
  continues : ∀ f ∈ s.stack, Continues ctx s.walker.fragments f

theorem Continues.separator_notMem {fragments : List Fragment} (h : Continues ctx fragments f)
    (hf : f.unread = .ok lines) : .separator f.location ∉ fragments := by
  intro hmem
  obtain ⟨all, -, hsub⟩ := h lines hf
  have hcount := hsub.count_le (.separator f.location)
  rw [List.count_append, count_separator_ownFragments, count_separator_ownFragments] at hcount
  have hpiece : .separator f.location ∈ piecesOf f.location fragments.reverse := by
    simpa [piecesOf, Fragment.owner] using hmem
  have hpos := List.count_pos_iff.mpr hpiece
  omega

namespace Sourced

theorem top_notMem (h : Sourced ctx ⟨w, f :: below⟩) : f.location ∉ below.map (·.location) :=
  (List.nodup_cons.mp h.distinct).1

theorem pop (h : Sourced ctx ⟨w, f :: below⟩) : Sourced ctx ⟨w, below⟩ where
  distinct := (List.nodup_cons.mp h.distinct).2
  met := (List.forall_mem_cons.mp h.met).2
  owned := h.owned
  ordered := h.ordered
  continues := (List.forall_mem_cons.mp h.continues).2

theorem push (h : Sourced ctx ⟨w, below⟩) (hnew : f.location ∉ below.map (·.location))
    (hmet : f.location ∈ w.visited) (hf : Continues ctx w.fragments f) :
    Sourced ctx ⟨w, f :: below⟩ where
  distinct := List.nodup_cons.mpr ⟨hnew, h.distinct⟩
  met := List.forall_mem_cons.mpr ⟨hmet, h.met⟩
  owned := h.owned
  ordered := h.ordered
  continues := List.forall_mem_cons.mpr ⟨hf, h.continues⟩

theorem emit {x : Fragment} {all : List String} (h : Sourced ctx ⟨w, f :: below⟩)
    (hx : x.owner = f.location) (hall : ctx.workspace.tree.linesAt f.location = .ok all)
    (hsub : (piecesOf f.location w.fragments.reverse ++ [x]).Sublist
      (ownFragments ctx.matcher f.location 0 all)) :
    Sourced ctx ⟨w.emit x, below⟩ where
  distinct := h.pop.distinct
  met := h.pop.met
  owned := List.forall_mem_cons.mpr ⟨hx ▸ h.met f List.mem_cons_self, h.owned⟩
  ordered := by
    intro y hy
    by_cases hyx : y.owner = f.location
    · refine ⟨all, hyx ▸ hall, ?_⟩
      rw [hyx, Walker.emit, piecesOf_reverse_own _ hx]
      exact hsub
    · rcases List.mem_cons.mp hy with rfl | hy
      · exact absurd hx hyx
      obtain ⟨lines, hlines, hold⟩ := h.ordered y hy
      refine ⟨lines, hlines, ?_⟩
      rwa [Walker.emit, piecesOf_reverse_other _ fun he => hyx (he.symm.trans hx)]
  continues := by
    intro g hg lines hread
    have hne : x.owner ≠ g.location := by
      intro he
      apply h.top_notMem
      rw [← hx, he]
      exact List.mem_map_of_mem hg
    obtain ⟨all, hlines, hold⟩ := h.pop.continues g hg lines hread
    refine ⟨all, hlines, ?_⟩
    rwa [Walker.emit, piecesOf_reverse_other _ hne]

theorem advance (h : Sourced ctx ⟨w, f :: below⟩) (hl : f'.location = f.location)
    (hf : Continues ctx w.fragments f') : Sourced ctx ⟨w, f' :: below⟩ :=
  h.pop.push (hl ▸ h.top_notMem) (hl ▸ h.met f List.mem_cons_self) hf

theorem handOver {carry : Bool} {state : CommentState} (h : Sourced ctx ⟨w, below⟩) :
    Sourced ctx ⟨w, handOver carry state below⟩ where
  distinct := by
    rw [← map_fst_marks, marks_handOver, map_fst_marks]
    exact h.distinct
  met := forall_handOver (fun _ _ hf => hf) h.met
  owned := h.owned
  ordered := h.ordered
  continues := forall_handOver (fun _ _ hf => hf) h.continues

theorem ask {stack : List Frame} (h : Sourced ctx ⟨w, stack⟩) (base : Option Path) :
    Sourced ctx ⟨w.ask base, stack⟩ :=
  ⟨h.distinct, h.met, h.owned, h.ordered, h.continues⟩

theorem meet {path : Path} {state : CommentState} {origin : Option Origin} {depth : Nat}
    (h : Sourced ctx ⟨w, below⟩) (hl : l ∉ w.visited) :
    Sourced ctx ⟨w.meet l origin depth, ctx.frame l path state :: below⟩ := by
  have hnone : piecesOf l w.fragments.reverse = [] := by
    apply piecesOf_eq_nil
    rintro x hx rfl
    exact hl (h.owned x (List.mem_reverse.mp hx))
  have hmet : Sourced ctx ⟨w.meet l origin depth, below⟩ :=
    ⟨h.distinct, fun f hf => List.mem_cons_of_mem l (h.met f hf),
      fun x hx => List.mem_cons_of_mem l (h.owned x hx), h.ordered, h.continues⟩
  refine hmet.push ?_ List.mem_cons_self ?_
  · intro hmem
    obtain ⟨f, hf, rfl⟩ := List.mem_map.mp hmem
    exact hl (h.met f hf)
  · intro lines hlines
    have hwhole : (piecesOf l w.fragments.reverse ++ ownFragments ctx.matcher l 0 lines).Sublist
        (ownFragments ctx.matcher l 0 lines) := by
      rw [hnone, List.nil_append]
    exact ⟨lines, hlines, hwhole⟩

end Sourced

theorem continues_directive {d : Directive} {rest : List String} {fragments : List Fragment}
    (h : Continues ctx fragments f) (hd : Asks ctx f d rest) :
    Continues ctx fragments (f.advance rest) := by
  obtain ⟨line, hf, hm⟩ := hd
  obtain ⟨all, hall, hsub⟩ := h _ hf
  rw [ownFragments_directive hm] at hsub
  intro lines hlines
  cases hlines
  exact ⟨all, hall, hsub⟩

theorem step_preserves_sourced {s s' : State} (h : Sourced ctx s) (hs : Step ctx s s') :
    Sourced ctx s' := by
  cases hs with
  | @finish w f below hf =>
    obtain ⟨all, hall, hsub⟩ := h.continues f List.mem_cons_self _ hf
    exact (h.emit rfl hall hsub).handOver
  | @keep w f below line rest hf hm =>
    obtain ⟨all, hall, hsub⟩ := h.continues f List.mem_cons_self _ hf
    rw [ownFragments_plain hm] at hsub
    -- The line is the next piece of its file, whether it is put out or not.
    rcases strip_cases ctx line f.state with hnone | ⟨hsome, -⟩
    · rw [hnone]
      refine h.advance rfl ?_
      intro lines hlines
      cases hlines
      have hskip := (List.sublist_cons_self _ _).append_left _ |>.trans hsub
      exact ⟨all, hall, hskip⟩
    · rw [hsome]
      rw [List.append_cons] at hsub
      have hput := h.emit rfl hall ((List.sublist_append_left _ _).trans hsub)
      refine hput.push h.top_notMem (h.met f List.mem_cons_self) ?_
      intro lines hlines
      cases hlines
      have howner : (Fragment.line f.location (f.line + 1) line).owner = f.location := rfl
      rw [← piecesOf_reverse_own _ howner] at hsub
      exact ⟨all, hall, hsub⟩
  | @skip w f below d rest r l hd ht hl =>
    have hread : Sourced ctx ⟨w, f.advance rest :: below⟩ :=
      h.advance rfl (continues_directive (h.continues f List.mem_cons_self) hd)
    exact hread.ask _
  | @descend w f below d rest r l hd ht hl =>
    have hread : Sourced ctx ⟨w, f.advance rest :: below⟩ :=
      h.advance rfl (continues_directive (h.continues f List.mem_cons_self) hd)
    exact (hread.ask _).meet hl

theorem halt_preserves_sourced {s : State} {e : BundleError} (h : Sourced ctx s)
    (hh : Halt ctx s e w') : Sourced ctx ⟨w', []⟩ where
  distinct := List.nodup_nil
  met := List.forall_mem_nil _
  owned := by
    rw [hh.fragments_eq, hh.visited_eq]
    exact h.owned
  ordered := by
    rw [hh.fragments_eq]
    exact h.ordered
  continues := List.forall_mem_nil _

theorem sourced_empty (ctx : WalkContext) : Sourced ctx ⟨{}, []⟩ := by
  constructor <;> simp

end Walk

end ScriptBundle
