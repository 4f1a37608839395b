import ScriptBundle.Proofs.Walk.Flattening
import ScriptBundle.Proofs.Walk.Provenance

/-! # Lines of output

The line feed that the last line of a file may lack is its separator. So no line of output holds text of two
files, whatever stands around the last line and whether calls fail or not: the output consists of the lines
that are kept, and of an empty line for each other separator.
-/

namespace ScriptBundle

def lineBody (text : String) : String := String.ofList (text.toList.takeWhile (· ≠ '\n'))

/-- Whether the last line of a file lacks its line feed and is one of the pieces put out. -/
def endsOpen (t : FileTree) (pieces : List Fragment) (l : Location) : Bool :=
  match t.linesAt l with
  | .error _ => false
  | .ok lines =>
    match lines.getLast? with
    | none => false
    | some last => !last.toList.contains '\n' && pieces.contains (.line l lines.length last)

/-- The line of output that a piece gives: a kept line, or an empty one for a separator, unless it ends
the last line of its file. -/
def outputLine (ends : Location → Bool) : Fragment → Option String
  | .line _ _ text => some (lineBody text)
  | .separator l => if ends l then none else some ""

def outputLines (t : FileTree) (pieces : List Fragment) : List String :=
  pieces.filterMap (outputLine (endsOpen t pieces))

theorem lineFeed_notMem_lineBody (text : String) : '\n' ∉ (lineBody text).toList := by
  rw [lineBody, String.toList_ofList]
  intro h
  have hbody := List.all_eq_true.mp List.all_takeWhile _ h
  simp at hbody

theorem lineBody_of_open {text : String} (h : '\n' ∉ text.toList) : lineBody text = text := by
  have hall : text.toList.takeWhile (· ≠ '\n') = text.toList := by
    rw [List.takeWhile_eq_self_iff]
    intro c hc
    simpa using ne_of_mem_of_not_mem hc h
  rw [lineBody, hall, String.ofList_toList]

theorem Terminated.lineBody_append {text : String} (h : Terminated text) :
    lineBody text ++ "\n" = text := by
  obtain ⟨body, rfl, hbody⟩ := h
  have hfront : (body ++ "\n").toList.takeWhile (· ≠ '\n') = body.toList := by
    rw [String.toList_append, List.takeWhile_append_of_pos]
    · simp
    · intro c hc
      simpa using ne_of_mem_of_not_mem hc hbody
  rw [lineBody, hfront, String.ofList_toList]

theorem Terminated.lineFeed_mem {text : String} (h : Terminated text) : '\n' ∈ text.toList := by
  obtain ⟨body, rfl, -⟩ := h
  simp

theorem Cut.length_of_open {lines : List String} {i : Nat} {text : String} (h : Cut lines)
    (hi : lines[i]? = some text) (ht : '\n' ∉ text.toList) : lines.length = i + 1 := by
  induction h generalizing i with
  | nil => simp at hi
  | last =>
    cases i with
    | zero => rfl
    | succ i => simp at hi
  | cons hline _ ih =>
    cases i with
    | zero =>
      obtain rfl := Option.some.inj hi
      exact absurd hline.lineFeed_mem ht
    | succ i => simpa using ih hi

def PutsOpen (fragments : List Fragment) (l : Location) : Prop :=
  ∃ n text, .line l n text ∈ fragments ∧ '\n' ∉ text.toList

/-- Pieces of output, the latest first, that share no line: behind the last line of a file that lacks its
line feed comes the separator of this file. If a location is given, this separator is still to come. -/
inductive Parted : Option Location → List Fragment → Prop
  | nil : Parted none []
  | line {l n text fragments} (ht : Terminated text) (h : Parted none fragments) :
      Parted none (.line l n text :: fragments)
  | openLine {l n text fragments} (ht : '\n' ∉ text.toList) (hs : .separator l ∉ fragments)
      (h : Parted none fragments) : Parted (some l) (.line l n text :: fragments)
  | close {l fragments} (h : Parted (some l) fragments) :
      Parted none (.separator l :: fragments)
  | separator {l fragments} (hl : ¬ PutsOpen fragments l) (h : Parted none fragments) :
      Parted none (.separator l :: fragments)

theorem PutsOpen.tail {x : Fragment} {fragments : List Fragment} {l : Location}
    (h : PutsOpen (x :: fragments) l)
    (hx : ∀ n text, x = .line l n text → '\n' ∈ text.toList) : PutsOpen fragments l := by
  obtain ⟨n, text, hmem, ht⟩ := h
  rcases List.mem_cons.mp hmem with he | hmem
  · exact absurd (hx n text he.symm) ht
  · exact ⟨n, text, hmem, ht⟩

theorem PutsOpen.cons {fragments : List Fragment} {l : Location} (h : PutsOpen fragments l)
    (x : Fragment) : PutsOpen (x :: fragments) l := by
  obtain ⟨n, text, hmem, ht⟩ := h
  exact ⟨n, text, List.mem_cons_of_mem x hmem, ht⟩

theorem PutsOpen.of_separator {fragments : List Fragment} {l k : Location}
    (h : PutsOpen (.separator k :: fragments) l) : PutsOpen fragments l := by
  apply h.tail
  rintro n text he
  cases he

theorem Parted.putsOpen {l : Location} {fragments : List Fragment}
    (h : Parted (some l) fragments) : PutsOpen fragments l := by
  cases h with
  | openLine ht => exact ⟨_, _, List.mem_cons_self, ht⟩

theorem join_text_cons (x : Fragment) (fragments : List Fragment) :
    String.join ((x :: fragments).reverse.map (·.text)) =
      String.join (fragments.reverse.map (·.text)) ++ x.text := by
  rw [List.reverse_cons, List.map_append, String.join_append, List.map_singleton, String.join_cons,
    String.join_nil, String.append_empty]

theorem join_outputLine_cons (ends : Location → Bool) (x : Fragment) (fragments : List Fragment) :
    String.join (((x :: fragments).reverse.filterMap (outputLine ends)).map (· ++ "\n")) =
      String.join ((fragments.reverse.filterMap (outputLine ends)).map (· ++ "\n")) ++
        ((outputLine ends x).map (· ++ "\n")).getD "" := by
  rw [List.reverse_cons, List.filterMap_append, List.map_append, String.join_append]
  cases h : outputLine ends x <;> simp [h]

/-- The text of pieces that share no line, as lines each with its line feed. -/
theorem Parted.text_eq {ends : Location → Bool} {pending : Option Location}
    {fragments : List Fragment} (h : Parted pending fragments)
    (hopen : ∀ l, PutsOpen fragments l → ends l)
    (hends : ∀ l, .separator l ∈ fragments → ends l → PutsOpen fragments l) :
    String.join (fragments.reverse.map (·.text)) ++ (if pending.isSome then "\n" else "") =
      String.join ((fragments.reverse.filterMap (outputLine ends)).map (· ++ "\n")) := by
  induction h with
  | nil => rfl
  | @line l n text fragments ht _ ih =>
    have htail := ih (fun k hk => hopen k (hk.cons _)) fun k hk hend => by
      apply (hends k (List.mem_cons_of_mem _ hk) hend).tail
      rintro m t he
      cases he
      exact ht.lineFeed_mem
    have hline : lineBody text ++ "\n" = text := ht.lineBody_append
    rw [join_text_cons, join_outputLine_cons, ← htail]
    simp [Fragment.text, outputLine, hline]
  | @openLine l n text fragments ht hs _ ih =>
    have htail := ih (fun k hk => hopen k (hk.cons _)) fun k hk hend => by
      apply (hends k (List.mem_cons_of_mem _ hk) hend).tail
      rintro m t he
      cases he
      exact absurd hk hs
    rw [join_text_cons, join_outputLine_cons, ← htail]
    simp [Fragment.text, outputLine, lineBody_of_open ht, String.append_assoc]
  | @close l fragments h ih =>
    -- The separator is the line feed of the line before it.
    have hend : ends l := hopen l (h.putsOpen.cons _)
    have htail := ih (fun k hk => hopen k (hk.cons _)) fun k hk hend =>
      (hends k (List.mem_cons_of_mem _ hk) hend).of_separator
    rw [join_text_cons, join_outputLine_cons, ← htail]
    simp [Fragment.text, outputLine, hend]
  | @separator l fragments hl _ ih =>
    have hend : ends l = false := by
      rw [← Bool.not_eq_true]
      intro hend
      exact hl (hends l List.mem_cons_self hend).of_separator
    have htail := ih (fun k hk => hopen k (hk.cons _)) fun k hk hend =>
      (hends k (List.mem_cons_of_mem _ hk) hend).of_separator
    rw [join_text_cons, join_outputLine_cons, ← htail]
    simp [Fragment.text, outputLine, hend]

namespace Walk

/-- What has been put out shares no line, and of the files being read only the one on top may have put out
its last line without a line feed, if it has nothing left to read. -/
inductive Undivided : State → Prop
  | settled {w stack} (hw : Parted none w.fragments)
      (hopen : ∀ f ∈ stack, ¬ PutsOpen w.fragments f.location) : Undivided ⟨w, stack⟩
  | pending {w f below} (hf : f.unread = .ok []) (hw : Parted (some f.location) w.fragments)
      (hopen : ∀ g ∈ below, ¬ PutsOpen w.fragments g.location) : Undivided ⟨w, f :: below⟩

def ReadsCut (stack : List Frame) : Prop := ∀ f ∈ stack, ∀ lines, f.unread = .ok lines → Cut lines

variable {ctx : WalkContext} {w w' : Walker} {f : Frame} {below : List Frame}

theorem readsCut_advance {line : String} {rest : List String} (h : ReadsCut (f :: below))
    (hf : f.unread = .ok (line :: rest)) (state : CommentState) :
    ReadsCut ({ f.advance rest with state } :: below) := by
  obtain ⟨htop, hbelow⟩ := List.forall_mem_cons.mp h
  refine List.forall_mem_cons.mpr ⟨?_, hbelow⟩
  intro lines hlines
  cases hlines
  exact (htop _ hf).tail

theorem step_preserves_readsCut {s s' : State} (h : ReadsCut s.stack) (hs : Step ctx s s') :
    ReadsCut s'.stack := by
  cases hs with
  | finish hf => exact forall_handOver (fun _ _ hf => hf) (List.forall_mem_cons.mp h).2
  | keep hf hm => exact readsCut_advance h hf _
  | @skip w f below d rest r l hd ht hl =>
    obtain ⟨line, hf, -⟩ := hd
    exact readsCut_advance h hf f.state
  | @descend w f below d rest r l hd ht hl =>
    obtain ⟨line, hf, -⟩ := hd
    exact List.forall_mem_cons.mpr
      ⟨fun lines hlines => FileTree.cut_linesAt hlines, readsCut_advance h hf f.state⟩

theorem undivided_finish {carry : Bool} {state : CommentState}
    (hw : Parted none (Fragment.separator f.location :: w.fragments))
    (hopen : ∀ g ∈ below, ¬ PutsOpen w.fragments g.location) :
    Undivided ⟨w.emit (.separator f.location), handOver carry state below⟩ := by
  refine .settled hw (forall_handOver (fun _ _ hg => hg) ?_)
  intro g hg hputs
  exact hopen g hg hputs.of_separator

theorem step_preserves_undivided {s s' : State} (hsourced : Sourced ctx s) (hcut : ReadsCut s.stack)
    (h : Undivided s) (hs : Step ctx s s') : Undivided s' := by
  cases hs with
  | @finish w f below hf =>
    cases h with
    | settled hw hopen =>
      obtain ⟨htop, hbelow⟩ := List.forall_mem_cons.mp hopen
      exact undivided_finish (.separator htop hw) hbelow
    | pending _ hw hopen => exact undivided_finish (.close hw) hopen
  | @keep w f below line rest hf hm =>
    cases h with
    | pending hnone => cases hnone.symm.trans hf
    | settled hw hopen =>
      obtain ⟨htop, hbelow⟩ := List.forall_mem_cons.mp hopen
      rcases strip_cases ctx line f.state with hnone | ⟨hsome, -⟩
      · rw [hnone]
        exact .settled hw (List.forall_mem_cons.mpr ⟨htop, hbelow⟩)
      rw [hsome]
      rcases Cut.cons_iff.mp (hcut f List.mem_cons_self _ hf) with ⟨hterminated, -⟩ | ⟨hline, rfl⟩
      · have hclosed : ∀ g : Frame, ¬ PutsOpen w.fragments g.location →
            ¬ PutsOpen (.line f.location (f.line + 1) line :: w.fragments) g.location := by
          intro g hg hputs
          apply hg (hputs.tail _)
          intro n text he
          obtain ⟨-, -, rfl⟩ := Fragment.line.inj he
          exact hterminated.lineFeed_mem
        refine .settled (.line hterminated hw) (List.forall_mem_cons.mpr ⟨hclosed f htop, ?_⟩)
        exact fun g hg => hclosed g (hbelow g hg)
      · have hseparator := (hsourced.continues f List.mem_cons_self).separator_notMem hf
        refine .pending rfl (.openLine hline hseparator hw) ?_
        intro g hg hputs
        apply hbelow g hg (hputs.tail _)
        intro n text he
        -- The file on top waits nowhere below.
        have htop := hsourced.top_notMem
        rw [(Fragment.line.inj he).1] at htop
        exact absurd (List.mem_map_of_mem hg) htop
  | @skip w f below d rest r l hd ht hl =>
    obtain ⟨line, hf, -⟩ := hd
    cases h with
    | pending hnone => cases hnone.symm.trans hf
    | settled hw hopen =>
      obtain ⟨htop, hbelow⟩ := List.forall_mem_cons.mp hopen
      exact .settled hw (List.forall_mem_cons.mpr ⟨htop, hbelow⟩)
  | @descend w f below d rest r l hd ht hl =>
    obtain ⟨line, hf, -⟩ := hd
    cases h with
    | pending hnone => cases hnone.symm.trans hf
    | settled hw hopen =>
      obtain ⟨htop, hbelow⟩ := List.forall_mem_cons.mp hopen
      refine .settled hw (List.forall_mem_cons.mpr ⟨?_, List.forall_mem_cons.mpr ⟨htop, hbelow⟩⟩)
      rintro ⟨n, text, hmem, -⟩
      exact hl (hsourced.owned _ hmem)

structure LaidOut (ctx : WalkContext) (s : State) : Prop where
  sourced : Sourced ctx s
  cut : ReadsCut s.stack
  undivided : Undivided s

theorem step_preserves_laidOut {s s' : State} (h : LaidOut ctx s) (hs : Step ctx s s') :
    LaidOut ctx s' where
  sourced := step_preserves_sourced h.sourced hs
  cut := step_preserves_readsCut h.cut hs
  undivided := step_preserves_undivided h.sourced h.cut h.undivided hs

theorem halt_preserves_laidOut {s : State} {e : BundleError} (h : LaidOut ctx s) (hh : Halt ctx s e w') :
    LaidOut ctx ⟨w', []⟩ := by
  refine ⟨halt_preserves_sourced h.sourced hh, List.forall_mem_nil _, ?_⟩
  have hfragments := hh.fragments_eq
  have hundivided := h.undivided
  cases hundivided with
  | settled hw => exact .settled (hfragments ▸ hw) (List.forall_mem_nil _)
  | pending hnone => exact absurd hnone hh.unread_ne

theorem laidOut_opening {l : Location} {path : Path} (h : LaidOut ctx ⟨w, []⟩) (hl : l ∉ w.visited) :
    LaidOut ctx (opening ctx w path l) := by
  refine ⟨h.sourced.meet hl, ?_, ?_⟩
  · intro f hf lines hlines
    obtain rfl := List.mem_singleton.mp hf
    exact FileTree.cut_linesAt hlines
  · have hundivided := h.undivided
    cases hundivided with
    | settled hw =>
      refine .settled hw (List.forall_mem_singleton.mpr ?_)
      rintro ⟨n, text, hmem, -⟩
      exact hl (h.sourced.owned _ hmem)

theorem laidOut_calls (ctx : WalkContext) (paths : List Path) :
    LaidOut ctx ⟨(processAll ctx {} paths).2, []⟩ := by
  have hempty : LaidOut ctx ⟨{}, []⟩ :=
    ⟨sourced_empty ctx, List.forall_mem_nil _, .settled .nil (List.forall_mem_nil _)⟩
  refine processAll_preserves (P := fun w => LaidOut ctx ⟨w, []⟩) ?_ hempty paths
  intro w path hw
  exact process_preserves (fun _ _ _ h _ hl => laidOut_opening h hl)
    (fun _ _ => step_preserves_laidOut) (fun _ _ _ => halt_preserves_laidOut) hw path

theorem endsOpen_of_putsOpen {fragments : List Fragment} {l : Location}
    (hordered : ∀ x ∈ fragments, Ordered ctx x.owner fragments) (h : PutsOpen fragments l) :
    endsOpen ctx.workspace.tree fragments.reverse l := by
  obtain ⟨n, text, hmem, ht⟩ := h
  obtain ⟨lines, hlines, hsub⟩ := hordered _ hmem
  have hpiece : .line l n text ∈ piecesOf l fragments.reverse := by
    simpa [piecesOf, Fragment.owner] using hmem
  obtain ⟨i, rfl, hi, -⟩ := mem_ownFragments (hsub.mem hpiece)
  -- A line that lacks its line feed is the last one of its file.
  have hlast := (FileTree.cut_linesAt hlines).length_of_open hi ht
  have hget : lines.getLast? = some text := by
    rw [List.getLast?_eq_getElem?, hlast, Nat.add_sub_cancel, hi]
  have hnumber : 0 + i + 1 = lines.length := by omega
  rw [hnumber] at hmem
  have howner : ctx.workspace.tree.linesAt l = .ok lines := hlines
  simp [endsOpen, howner, hget, ht, hmem]

theorem putsOpen_of_endsOpen {t : FileTree} {fragments : List Fragment} {l : Location}
    (h : endsOpen t fragments.reverse l) : PutsOpen fragments l := by
  unfold endsOpen at h
  split at h
  · cases h
  · split at h
    · cases h
    · next last _ =>
      simp only [Bool.and_eq_true, Bool.not_eq_true', List.contains_eq_mem, decide_eq_false_iff_not,
        decide_eq_true_eq, List.mem_reverse] at h
      exact ⟨_, last, h.2, h.1⟩

/-- Behind any calls, failing or not, the output consists of lines, each with its line feed: the lines that
are kept, without their own line feeds, and an empty line for each file read to its end, unless the last
line of this file is kept and lacks its line feed. The pieces that come from a file are some of its lines, no
directives among them, in their order, and one separator at the end. -/
theorem output_is_lines (ctx : WalkContext) (paths : List Path) :
    let w := (processAll ctx {} paths).2
    let pieces := w.fragments.reverse
    w.bundle.output = String.join ((outputLines ctx.workspace.tree pieces).map (· ++ "\n")) ∧
      (∀ line ∈ outputLines ctx.workspace.tree pieces, '\n' ∉ line.toList) ∧
      ∀ x ∈ pieces, ∃ lines, ctx.workspace.tree.linesAt x.owner = .ok lines ∧
        (piecesOf x.owner pieces).Sublist (ownFragments ctx.matcher x.owner 0 lines) := by
  intro w pieces
  obtain ⟨hsourced, -, hundivided⟩ := laidOut_calls ctx paths
  refine ⟨?_, ?_, ?_⟩
  · cases hundivided with
    | settled hw =>
      have htext := hw.text_eq (fun l => endsOpen_of_putsOpen hsourced.ordered)
        fun l _ => putsOpen_of_endsOpen (t := ctx.workspace.tree)
      simp only [Option.isSome_none, Bool.false_eq_true, if_false, String.append_empty] at htext
      rw [bundle_output]
      exact htext
  · intro line hline
    obtain ⟨x, -, hx⟩ := List.mem_filterMap.mp hline
    cases x with
    | line l n text =>
      obtain rfl := Option.some.inj hx
      exact lineFeed_notMem_lineBody text
    | separator l =>
      rw [outputLine] at hx
      split at hx
      · cases hx
      · obtain rfl := Option.some.inj hx
        decide
  · intro x hx
    exact hsourced.ordered x (List.mem_reverse.mp hx)

def raggedContext : WalkContext where
  workspace := { tree := ⟨[
    (["a.js"], .file [35, 98, 10, 120] 0),
    (["b.js"], .file [121, 10, 35, 99] 0),
    (["c.js"], .file [] 0)]⟩ }
  resolve := Resolver.resolve {} (.ok [])
  matcher := .ofMarker "#" .quoted
  stripper := none
  carry := false

example : outputLines raggedContext.workspace.tree
    (processAll raggedContext {} [⟨"/gone.js"⟩, ⟨"/a.js"⟩]).2.fragments.reverse =
      ["y", "", "", "x"] := by decide +kernel

end Walk

end ScriptBundle
