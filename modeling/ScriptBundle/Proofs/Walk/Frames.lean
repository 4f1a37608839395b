import ScriptBundle.Proofs.Walk.Step

/-! # Frames and the files they read

The files being read stand in the tree: the path of a frame leads to its location, and what it has still
to read are the lines there behind those it has counted.
-/

namespace ScriptBundle

namespace FileTree

theorem mem_all_of_node? {t : FileTree} {l : Location} {n : FileNode} (h : t.node? l = some n) :
    (l, n) ∈ t.all := by
  obtain ⟨e, he, rfl⟩ := Option.map_eq_some_iff.mp h
  have hl := List.find?_some he
  simp only [beq_iff_eq] at hl
  exact hl ▸ List.mem_of_find?_eq_some he

theorem node?_of_linesAt {t : FileTree} {l : Location} {lines : List String}
    (h : t.linesAt l = .ok lines) :
    ∃ n, t.node? l = some n ∧ n.content.map textLines = .ok lines := by
  unfold linesAt at h
  rcases hn : t.node? l with _ | n
  · simp [hn] at h
  · exact ⟨n, rfl, by simpa [hn] using h⟩

end FileTree

structure Frame.Reads (ctx : WalkContext) (f : Frame) : Prop where
  located : ctx.workspace.locate f.path = .ok f.location
  unread_eq : f.unread = (ctx.workspace.tree.linesAt f.location).map (List.drop f.line)

namespace Frame.Reads

variable {ctx : WalkContext} {f : Frame} {line : String} {rest : List String}

theorem lines {lines : List String} (h : f.Reads ctx) (hf : f.unread = .ok lines) :
    ∃ all, ctx.workspace.tree.linesAt f.location = .ok all ∧ all.drop f.line = lines := by
  have hu := h.unread_eq
  rw [hf] at hu
  rcases ha : ctx.workspace.tree.linesAt f.location with fault | all
  · rw [ha] at hu
    cases hu
  · rw [ha] at hu
    exact ⟨all, rfl, (Except.ok.inj hu).symm⟩

theorem next (h : f.Reads ctx) (hf : f.unread = .ok (line :: rest)) :
    ∃ all, ctx.workspace.tree.linesAt f.location = .ok all ∧ all[f.line]? = some line ∧
      all.drop (f.line + 1) = rest := by
  obtain ⟨all, ha, hd⟩ := h.lines hf
  refine ⟨all, ha, ?_, ?_⟩
  · rw [← List.head?_drop, hd, List.head?_cons]
  · rw [← List.tail_drop, hd, List.tail_cons]

theorem line_lt {d : Directive} {lines : List String} (h : f.Reads ctx) (hd : Walk.Asks ctx f d rest)
    (hlines : ctx.workspace.tree.linesAt f.location = .ok lines) : f.line < lines.length := by
  obtain ⟨line, hf, -⟩ := hd
  obtain ⟨all, ha, hnext, -⟩ := h.next hf
  obtain rfl := Except.ok.inj (ha.symm.trans hlines)
  exact (List.getElem?_eq_some_iff.mp hnext).1

theorem advance (h : f.Reads ctx) (hf : f.unread = .ok (line :: rest))
    (state : CommentState) : Frame.Reads ctx { f.advance rest with state } := by
  obtain ⟨all, ha, -, hd⟩ := h.next hf
  exact ⟨h.located, by simp [ha, hd, Except.map]⟩

end Frame.Reads

namespace Walk

def marks (stack : List Frame) : List (Location × Nat) := stack.map fun f => (f.location, f.line)

@[simp] theorem marks_cons (f : Frame) (below : List Frame) :
    marks (f :: below) = (f.location, f.line) :: marks below := rfl

theorem map_fst_marks (stack : List Frame) :
    (marks stack).map Prod.fst = stack.map (·.location) := by
  simp [marks]

@[simp] theorem marks_handOver (carry : Bool) (state : CommentState) (below : List Frame) :
    marks (handOver carry state below) = marks below := by
  cases below with
  | nil => rfl
  | cons f rest => cases carry <;> rfl

variable {ctx : WalkContext} {below : List Frame}

theorem reads_frame {l : Location} {path : Path} {state : CommentState}
    (hl : ctx.workspace.locate path = .ok l) : (ctx.frame l path state).Reads ctx where
  located := hl
  unread_eq := by
    simp only [WalkContext.frame]
    cases ctx.workspace.tree.linesAt l <;> rfl

/-- What the comment state has no part in holds of the files that go on when one has come to its end. -/
theorem forall_handOver {P : Frame → Prop} {carry : Bool} {state : CommentState}
    (hP : ∀ f state, P f → P { f with state }) (h : ∀ f ∈ below, P f) :
    ∀ f ∈ handOver carry state below, P f := by
  rcases below with _ | ⟨f, below⟩
  · exact h
  obtain ⟨hf, hbelow⟩ := List.forall_mem_cons.mp h
  refine List.forall_mem_cons.mpr ⟨?_, hbelow⟩
  cases carry
  · exact hf
  · exact hP f state hf

theorem reads_handOver {carry : Bool} {state : CommentState}
    (h : ∀ f ∈ below, f.Reads ctx) : ∀ f ∈ handOver carry state below, f.Reads ctx :=
  forall_handOver (fun _ _ hf => ⟨hf.located, hf.unread_eq⟩) h

theorem step_preserves_reads {s s' : State} (h : ∀ f ∈ s.stack, f.Reads ctx)
    (hs : Step ctx s s') : ∀ f ∈ s'.stack, f.Reads ctx := by
  cases hs with
  | finish hf => exact reads_handOver (List.forall_mem_cons.mp h).2
  | keep hf hm =>
    obtain ⟨htop, hbelow⟩ := List.forall_mem_cons.mp h
    exact List.forall_mem_cons.mpr ⟨htop.advance hf _, hbelow⟩
  | skip hd ht hl =>
    obtain ⟨htop, hbelow⟩ := List.forall_mem_cons.mp h
    obtain ⟨line, hf, -⟩ := hd
    exact List.forall_mem_cons.mpr ⟨htop.advance hf _, hbelow⟩
  | descend hd ht hl =>
    obtain ⟨htop, hbelow⟩ := List.forall_mem_cons.mp h
    obtain ⟨line, hf, -⟩ := hd
    refine List.forall_mem_cons.mpr ⟨reads_frame ht.located, ?_⟩
    exact List.forall_mem_cons.mpr ⟨htop.advance hf _, hbelow⟩

theorem reads_of_reaches {path : Path} {l : Location} {w : Walker} {s : State}
    (hl : ctx.workspace.locate path = .ok l) (h : Reaches ctx (opening ctx w path l) s) :
    ∀ f ∈ s.stack, f.Reads ctx := by
  refine h.invariant (fun _ _ => step_preserves_reads) ?_
  simpa [opening] using reads_frame hl

end Walk

end ScriptBundle
