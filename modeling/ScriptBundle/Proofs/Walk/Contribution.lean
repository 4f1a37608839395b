import Mathlib.Data.List.Nodup
import ScriptBundle.Proofs.Walk.LoadOrder
import ScriptBundle.Proofs.Walk.Stripping

/-!
# What a file contributes

Where comment states are not carried, the output of a call that succeeds is an interleaving of what its
files contribute, and what a file contributes is a matter of its content alone: neither the files that
are expanded between its lines nor the file that asks for it have a part in it.
-/

namespace ScriptBundle

/-- The lines of a file that are no directives, as pieces of output with their numbers, and the
separator behind them. The first lines of the file may have been read already. -/
def ownFragments (m : Matcher) (l : Location) : Nat → List String → List Fragment
  | _, [] => [.separator l]
  | number, line :: rest =>
    match m line with
    | some _ => ownFragments m l (number + 1) rest
    | none => .line l (number + 1) line :: ownFragments m l (number + 1) rest

/-- What a file contributes: its own lines, stripped as if there were no other file, and a separator. -/
def contribution (m : Matcher) (s : Option CommentStripper) (l : Location) (lines : List String) :
    List Fragment :=
  match s with
  | none => ownFragments m l 0 lines
  | some s => (stripPass s.strip .code (ownFragments m l 0 lines)).1

def piecesOf (l : Location) (fragments : List Fragment) : List Fragment :=
  fragments.filter (·.owner = l)

@[simp] theorem piecesOf_append (l : Location) (a b : List Fragment) :
    piecesOf l (a ++ b) = piecesOf l a ++ piecesOf l b := List.filter_append ..

theorem piecesOf_eq_nil {l : Location} {fragments : List Fragment}
    (h : ∀ x ∈ fragments, x.owner ≠ l) : piecesOf l fragments = [] := by
  apply List.filter_eq_nil_iff.mpr
  intro x hx
  simpa using h x hx

theorem Yield.mem_met {y : Yield} {l : Location} :
    l ∈ y.met ↔ ∃ i ∈ y.inclusions, i.location = l := by
  simp [Yield.met]

theorem stripPass_keepAll (state : CommentState) (fragments : List Fragment) :
    stripPass (fun line state => (some line, state)) state fragments = (fragments, state) := by
  induction fragments with
  | nil => rfl
  | cons x rest ih => cases x <;> simp [ih]

/-- A contribution is the same text whatever the file is called. -/
theorem contribution_texts (m : Matcher) (s : Option CommentStripper) (l k : Location)
    (lines : List String) :
    (contribution m s l lines).map (·.text) = (contribution m s k lines).map (·.text) := by
  have hpass : ∀ (strip : String → CommentState → Option String × CommentState) state number,
      (stripPass strip state (ownFragments m l number lines)).1.map (·.text) =
        (stripPass strip state (ownFragments m k number lines)).1.map (·.text) := by
    intro strip
    induction lines with
    | nil =>
      intro state number
      rfl
    | cons line rest ih =>
      intro state number
      unfold ownFragments
      rcases m line with _ | d
      · simp only [stripPass_line, List.map_append, ih]
        congr 1
        cases (strip line state).1 <;> rfl
      · exact ih state (number + 1)
  cases s with
  | none =>
    have hkept := hpass (fun line state => (some line, state)) .code 0
    rwa [stripPass_keepAll, stripPass_keepAll] at hkept
  | some s => exact hpass s.strip .code 0

namespace Walk

variable {ctx : WalkContext} {met : List Location} {depth : Nat} {f : Frame}

theorem contribution_eq (ctx : WalkContext) (l : Location) (lines : List String) :
    contribution ctx.matcher ctx.stripper l lines =
      (stripPass ctx.strip .code (ownFragments ctx.matcher l 0 lines)).1 := by
  unfold contribution WalkContext.strip
  cases ctx.stripper with
  | none => rw [stripPass_keepAll]
  | some s => rfl

/-- What the inclusion of a file yields, file by file: the file's own pieces, from the next line on,
and the contributions of the files met below it. -/
structure Isolated (ctx : WalkContext) (met : List Location) (f : Frame) (lines : List String)
    (y : Yield) : Prop where
  fresh : ∀ l ∈ y.met, l ∉ met
  distinct : y.met.Nodup
  owned : ∀ x ∈ y.fragments, x.owner = f.location ∨ x.owner ∈ y.met
  own : piecesOf f.location y.fragments =
    (stripPass ctx.strip f.state (ownFragments ctx.matcher f.location f.line lines)).1
  others : ∀ l ∈ y.met, ∃ lines, ctx.workspace.tree.linesAt l = .ok lines ∧
    piecesOf l y.fragments = contribution ctx.matcher ctx.stripper l lines

structure Contributed (ctx : WalkContext) (met : List Location) (y : Yield) : Prop where
  fresh : ∀ l ∈ y.met, l ∉ met
  distinct : y.met.Nodup
  owned : ∀ x ∈ y.fragments, x.owner ∈ y.met
  pieces : ∀ l ∈ y.met, ∃ lines, ctx.workspace.tree.linesAt l = .ok lines ∧
    piecesOf l y.fragments = contribution ctx.matcher ctx.stripper l lines

namespace Isolated

variable {lines : List String} {y z : Yield}

/-- Nothing comes from files that were met before, but for the file that is being read. -/
theorem no_piece_of (h : Isolated ctx met f lines y) {l : Location} (hl : l ∈ met)
    (hne : l ≠ f.location) : piecesOf l y.fragments = [] := by
  apply piecesOf_eq_nil
  rintro x hx rfl
  rcases h.owned x hx with ho | ho
  · exact hne ho
  · exact h.fresh _ ho hl

theorem finish (ctx : WalkContext) (met : List Location) (f : Frame) :
    Isolated ctx met f [] { fragments := [.separator f.location] } where
  fresh := by simp [Yield.met]
  distinct := List.nodup_nil
  owned := by simp [Fragment.owner]
  own := by simp [piecesOf, Fragment.owner, ownFragments]
  others := by simp [Yield.met]

theorem keep {line : String} {rest : List String} (hf : f.location ∈ met)
    (hm : ctx.matcher line = none)
    (h : Isolated ctx met { f.advance rest with state := (ctx.strip line f.state).2 } rest y) :
    Isolated ctx met f (line :: rest)
      ({ fragments :=
          ((ctx.strip line f.state).1.map (Fragment.line f.location (f.line + 1))).toList } ++ y) := by
  generalize hkept :
    ((ctx.strip line f.state).1.map (Fragment.line f.location (f.line + 1))).toList = kept
  have howner : ∀ x ∈ kept, x.owner = f.location := by
    rw [← hkept]
    intro x hx
    obtain ⟨text, -, rfl⟩ := by simpa using hx
    rfl
  refine ⟨h.fresh, h.distinct, ?_, ?_, ?_⟩
  · intro x hx
    rcases List.mem_append.mp hx with hx | hx
    · exact Or.inl (howner x hx)
    · exact h.owned x hx
  · have hown := h.own
    have hall : piecesOf f.location kept = kept :=
      List.filter_eq_self.mpr fun x hx => by simpa using howner x hx
    simp only [Frame.advance_location, Frame.advance_line] at hown
    simp [Yield.append_def, ownFragments, hm, hown, hall, hkept]
  · intro l hl
    obtain ⟨lines, hlines, hpieces⟩ := h.others l hl
    have hnone : piecesOf l kept = [] := by
      apply piecesOf_eq_nil
      intro x hx hxl
      exact h.fresh l hl (hxl ▸ (howner x hx).symm ▸ hf)
    exact ⟨lines, hlines, by simp [Yield.append_def, hnone, hpieces]⟩

theorem skip {line : String} {d : Directive} {rest : List String}
    (hm : ctx.matcher line = some d) (searched : Bool)
    (h : Isolated ctx met (f.advance rest) rest y) :
    Isolated ctx met f (line :: rest) ({ searched } ++ y) where
  fresh := h.fresh
  distinct := h.distinct
  owned := h.owned
  own := by
    have hown := h.own
    simp only [Frame.advance_location, Frame.advance_line, Frame.advance_state] at hown
    simp [Yield.append_def, ownFragments, hm, hown]
  others := h.others

/-- A file read from its start, together with what is met below it. -/
theorem contributed {l : Location} {path : Path} (hl : l ∉ met)
    (hlines : ctx.workspace.tree.linesAt l = .ok lines) (origin : Option Origin) (depth : Nat)
    (h : Isolated ctx (l :: met) (ctx.frame l path .code) lines y) :
    Contributed ctx met ({ inclusions := [⟨l, origin, depth⟩] } ++ y) := by
  have hmet : ({ inclusions := [⟨l, origin, depth⟩] } ++ y : Yield).met = y.met ++ [l] := by
    simp [Yield.met, Yield.append_def]
  have hbelow : ∀ k ∈ y.met, k ≠ l ∧ k ∉ met := by
    intro k hk
    simpa using h.fresh k hk
  refine ⟨?_, ?_, ?_, ?_⟩
  · rw [hmet]
    intro k hk
    rcases List.mem_append.mp hk with hk | hk
    · exact (hbelow k hk).2
    · exact List.mem_singleton.mp hk ▸ hl
  · rw [hmet]
    apply List.Nodup.append h.distinct (List.nodup_singleton l)
    intro k hk hkl
    exact (hbelow k hk).1 (List.mem_singleton.mp hkl)
  · rw [hmet]
    intro x hx
    apply List.mem_append.mpr
    exact (h.owned x hx).symm.imp_right List.mem_singleton.mpr
  · rw [hmet]
    intro k hk
    rcases List.mem_append.mp hk with hk | hk
    · exact h.others k hk
    · obtain rfl := List.mem_singleton.mp hk
      exact ⟨lines, hlines, h.own.trans (contribution_eq ctx k lines).symm⟩

/-- The file asked for is put out between two lines, and neither side has pieces of the other. -/
theorem descend {line : String} {d : Directive} {rest : List String} (hf : f.location ∈ met)
    (hm : ctx.matcher line = some d) (searched : Bool) (hchild : Contributed ctx met y)
    (hrest : Isolated ctx (y.met ++ met) (f.advance rest) rest z) :
    Isolated ctx met f (line :: rest) ({ searched } ++ (y ++ z)) := by
  have hmet : ({ searched } ++ (y ++ z) : Yield).met = z.met ++ y.met := by
    simp [Yield.met, Yield.append_def]
  have hlater : ∀ k ∈ z.met, k ∉ y.met ∧ k ∉ met := by
    intro k hk
    simpa using hrest.fresh k hk
  have hbefore : ∀ k ∉ y.met, piecesOf k y.fragments = [] := by
    intro k hk
    apply piecesOf_eq_nil
    rintro x hx rfl
    exact hk (hchild.owned x hx)
  refine ⟨?_, ?_, ?_, ?_, ?_⟩
  · rw [hmet]
    intro k hk
    rcases List.mem_append.mp hk with hz | hy
    · exact (hlater k hz).2
    · exact hchild.fresh k hy
  · rw [hmet]
    apply List.Nodup.append hrest.distinct hchild.distinct
    exact fun k hk => (hlater k hk).1
  · rw [hmet]
    intro x hx
    have hsides : x ∈ y.fragments ++ z.fragments := hx
    rcases List.mem_append.mp hsides with hy | hz
    · exact Or.inr (List.mem_append_right _ (hchild.owned x hy))
    · exact (hrest.owned x hz).imp_right (List.mem_append_left _)
  · have hown := hrest.own
    have hnone := hbefore f.location fun hmem => hchild.fresh _ hmem hf
    simp only [Frame.advance_location, Frame.advance_line, Frame.advance_state] at hown
    simp [Yield.append_def, ownFragments, hm, hnone, hown]
  · rw [hmet]
    intro k hk
    rcases List.mem_append.mp hk with hz | hy
    · obtain ⟨lines, hlines, hpieces⟩ := hrest.others k hz
      have hnone := hbefore k (hlater k hz).1
      exact ⟨lines, hlines, by simp [Yield.append_def, hnone, hpieces]⟩
    · obtain ⟨lines, hlines, hpieces⟩ := hchild.pieces k hy
      have hnone := hrest.no_piece_of (List.mem_append_left met hy)
        fun he => hchild.fresh k hy (he ▸ hf)
      exact ⟨lines, hlines, by simp [Yield.append_def, hnone, hpieces]⟩

end Isolated

theorem Includes.isolated {result : Except BundleError CommentState} {y : Yield}
    (hcarry : ctx.carry = false) (h : Includes ctx met depth f result y)
    (hf : f.location ∈ met) (hok : result.isOk) :
    ∃ lines, f.unread = .ok lines ∧ Isolated ctx met f lines y := by
  induction h with
  | unreadable => cases hok
  | unresolved => cases hok
  | unlocated => cases hok
  | fail => cases hok
  | @finish met depth f hunread => exact ⟨[], hunread, .finish ctx met f⟩
  | @keep met depth f line rest result y hunread hm _ ih =>
    obtain ⟨lines, hlines, hrest⟩ := ih hf hok
    cases hlines
    exact ⟨line :: rest, hunread, hrest.keep hf hm⟩
  | @skip met depth f d rest r l result y hd ht hl _ ih =>
    obtain ⟨line, hunread, hm⟩ := hd
    obtain ⟨lines, hlines, hrest⟩ := ih hf hok
    cases hlines
    exact ⟨line :: rest, hunread, hrest.skip hm _⟩
  | @descend met depth f d rest r l final result y z hd ht hl _ _ ihchild ihrest =>
    obtain ⟨line, hunread, hm⟩ := hd
    obtain ⟨lines, hlines, hchild⟩ := ihchild List.mem_cons_self rfl
    obtain ⟨lines', hlines', hrest⟩ := ihrest (by simp [hf]) hok
    cases hlines'
    have hstate : ctx.childState f.state = .code := by simp [WalkContext.childState, hcarry]
    have hkeep : { f.advance rest with state := if ctx.carry then final else f.state } =
        f.advance rest := by simp [hcarry, Frame.advance]
    rw [hstate] at hchild
    have hwhole := hchild.contributed hl hlines (some (f.origin d r.mode)) (depth + 1)
    rw [hkeep] at hrest
    refine ⟨line :: rest, hunread, .descend hf hm _ hwhole ?_⟩
    simpa [Yield.met, Yield.append_def] using hrest

structure Adds (w w' : Walker) (met : List Inclusion) (added : List Fragment) : Prop where
  inclusions : w'.inclusions = met.reverse ++ w.inclusions
  fragments : w'.fragments = added.reverse ++ w.fragments

variable {w w' : Walker} {path : Path}

theorem Adds.unique {met met' : List Inclusion} {added added' : List Fragment}
    (h : Adds w w' met added) (h' : Adds w w' met' added') : met = met' ∧ added = added' := by
  have hmet := List.append_cancel_right (h.inclusions.symm.trans h'.inclusions)
  have hadded := List.append_cancel_right (h.fragments.symm.trans h'.fragments)
  exact ⟨List.reverse_inj.mp hmet, List.reverse_inj.mp hadded⟩

theorem adds_extend (w : Walker) (y : Yield) : Adds w (w.extend y) y.inclusions y.fragments :=
  ⟨rfl, rfl⟩

theorem process_contributions (hcarry : ctx.carry = false)
    (hok : (process ctx w path).1 = .ok ()) :
    ∃ met added, Adds w (process ctx w path).2 met added ∧
      (met.map (·.location)).Nodup ∧ (∀ i ∈ met, i.location ∉ w.visited) ∧
      (∀ x ∈ added, ∃ i ∈ met, x.owner = i.location) ∧
      ∀ i ∈ met, ∃ lines, ctx.workspace.tree.linesAt i.location = .ok lines ∧
        piecesOf i.location added = contribution ctx.matcher ctx.stripper i.location lines := by
  rcases hl : ctx.workspace.locate path with fault | l
  · rw [process_unlocated hl] at hok
    cases hok
  by_cases hv : l ∈ w.visited
  · rw [process_met hl hv]
    exact ⟨[], [], ⟨rfl, rfl⟩, List.nodup_nil, by simp, by simp, by simp⟩
  have hincludes := includes_includeFrame ctx (l :: w.visited) 0 (ctx.frame l path .code)
  generalize includeFrame _ _ _ _ = inclusion at hincludes
  obtain ⟨result, y⟩ := inclusion
  have hprocess := process_of_includes hl hv hincludes
  have hresult : result.isOk := by
    rw [hprocess] at hok
    cases result with
    | error e => cases hok
    | ok final => rfl
  obtain ⟨lines, hlines, hisolated⟩ := hincludes.isolated hcarry List.mem_cons_self hresult
  have hwhole := hisolated.contributed hv hlines none 0
  have hmem : ∀ i ∈ ({ inclusions := [⟨l, none, 0⟩] } ++ y : Yield).inclusions,
      i.location ∈ ({ inclusions := [⟨l, none, 0⟩] } ++ y : Yield).met := fun i hi =>
    Yield.mem_met.mpr ⟨i, hi, rfl⟩
  rw [hprocess]
  refine ⟨_, _, adds_extend w _, List.nodup_reverse.mp hwhole.distinct, ?_, ?_, ?_⟩
  · exact fun i hi => hwhole.fresh _ (hmem i hi)
  · intro x hx
    obtain ⟨i, hi, he⟩ := Yield.mem_met.mp (hwhole.owned x hx)
    exact ⟨i, hi, he.symm⟩
  · exact fun i hi => hwhole.pieces _ (hmem i hi)

/-- The output of a call that succeeds without carrying comment states consists of the contributions of
the files that it meets, interleaved: each of these files is met once, and the pieces that come from it
are, in their order, its lines that are no directives, stripped on their own, and one separator. So a
file with the same lines contributes the same text to all such calls that meet it, in any tree and for
any entry. -/
theorem process_interleaves_contributions (hcarry : ctx.carry = false)
    (hok : (process ctx w path).1 = .ok ()) :
    ∃ met added, Adds w (process ctx w path).2 met added ∧
      (process ctx w path).2.bundle.output =
        w.bundle.output ++ String.join (added.map (·.text)) ∧
      (met.map (·.location)).Nodup ∧ (∀ i ∈ met, i.location ∉ w.visited) ∧
      (∀ x ∈ added, ∃ i ∈ met, x.owner = i.location) ∧
      (∀ i ∈ met, ∃ lines, ctx.workspace.tree.linesAt i.location = .ok lines ∧
        piecesOf i.location added = contribution ctx.matcher ctx.stripper i.location lines) ∧
      ∀ (other : WalkContext) (v : Walker) (entry : Path) (met' : List Inclusion)
        (added' : List Fragment), other.matcher = ctx.matcher → other.stripper = ctx.stripper →
        other.carry = false → (process other v entry).1 = .ok () →
        Adds v (process other v entry).2 met' added' → ∀ i ∈ met, ∀ k ∈ met',
          other.workspace.tree.linesAt k.location = ctx.workspace.tree.linesAt i.location →
          (piecesOf k.location added').map (·.text) = (piecesOf i.location added).map (·.text) := by
  obtain ⟨met, added, hadds, honce, hnew, howners, hpieces⟩ := process_contributions hcarry hok
  refine ⟨met, added, hadds, output_of_fragments hadds.fragments, honce, hnew, howners, hpieces, ?_⟩
  intro other v entry met' added' hmatcher hstripper hcarry' hok' hadds' i hi k hk hsame
  obtain ⟨met₂, added₂, hadds₂, -, -, -, hpieces₂⟩ := process_contributions hcarry' hok'
  obtain ⟨rfl, rfl⟩ := hadds'.unique hadds₂
  obtain ⟨lines, hlines, hi⟩ := hpieces i hi
  obtain ⟨lines', hlines', hk⟩ := hpieces₂ k hk
  obtain rfl : lines' = lines := by
    rw [hsame, hlines] at hlines'
    exact (Except.ok.inj hlines').symm
  rw [hi, hk, hmatcher, hstripper]
  exact contribution_texts ..

def plainComments : CommentPatterns where
  inline := "^//"
  blockLine := "^/\\*\\*/"
  blockStart := "^/\\*"
  blockEnd := "\\*/"

def unclosedContext : WalkContext where
  workspace := { tree := ⟨[
    (["a.js"], .file [35, 98, 10, 97, 10] 0),
    (["b.js"], .file [98, 10, 47, 42, 10] 0)]⟩ }
  resolve := Resolver.resolve {} (.ok [])
  matcher := .ofMarker "#" .quoted
  stripper := (CommentStripper.ofPatterns plainComments).toOption
  carry := false

/-- The comment ends with its file: the line behind the directive is put out. -/
theorem process_interleaves_contributions_unclosed :
    unclosedContext.carry = false ∧
    (process unclosedContext {} ⟨"/a.js"⟩).1 = .ok () ∧
    ∃ met added, Adds {} (process unclosedContext {} ⟨"/a.js"⟩).2 met added ∧
      piecesOf ["a.js"] added = [.line ["a.js"] 2 "a\n", .separator ["a.js"]] ∧
      piecesOf ["b.js"] added = [.line ["b.js"] 1 "b\n", .separator ["b.js"]] := by
  have hok : (process unclosedContext {} ⟨"/a.js"⟩).1 = .ok () := by decide +kernel
  obtain ⟨met, added, hadds, -, -, -, -, hpieces, -⟩ := process_interleaves_contributions rfl hok
  have hmet : met.map (·.location) = ([["a.js"], ["b.js"]] : List Location) := by
    have hlog : (process unclosedContext {} ⟨"/a.js"⟩).2.inclusions.reverse.map (·.location) =
        ([["a.js"], ["b.js"]] : List Location) := by decide +kernel
    simpa [hadds.inclusions] using hlog
  have hpieces' : ∀ l lines, l ∈ met.map (·.location) →
      unclosedContext.workspace.tree.linesAt l = .ok lines → piecesOf l added =
        contribution unclosedContext.matcher unclosedContext.stripper l lines := by
    intro l lines hl hlines
    obtain ⟨i, hi, rfl⟩ := List.mem_map.mp hl
    obtain ⟨lines', hlines', hp⟩ := hpieces i hi
    cases hlines.symm.trans hlines'
    exact hp
  refine ⟨rfl, hok, met, added, hadds, ?_, ?_⟩
  · rw [hpieces' ["a.js"] ["#b\n", "a\n"] (by simp [hmet]) (by decide +kernel)]
    decide +kernel
  · rw [hpieces' ["b.js"] ["b\n", "/*\n"] (by simp [hmet]) (by decide +kernel)]
    decide +kernel

end Walk

end ScriptBundle
