import Mathlib.Data.List.TakeWhile
import Mathlib.Logic.ExistsUnique
import ScriptBundle.Preprocessor
import ScriptBundle.Proofs.Pattern.Indented

/-!
# The grammar of directive lines

Which lines are directives where the settings do not say otherwise. A line can be read as a directive in
one way at most, and what stands behind the closing quote has no part in it.
-/

namespace ScriptBundle

open Pattern

def eitherOf (x y : Char) : CharSet := .union (.single x) (.union (.single y) .empty)

theorem contains_eitherOf {x y z : Char} : (eitherOf x y).contains z ↔ z = x ∨ z = y := by
  have hunion : (eitherOf x y).contains z =
      ((CharSet.single x).contains z || ((CharSet.single y).contains z || false)) := rfl
  rw [hunion, Bool.or_false, Bool.or_eq_true, CharSet.contains_single, CharSet.contains_single]

theorem contains_compl_eitherOf {x y z : Char} :
    (CharSet.compl (eitherOf x y)).contains z ↔ z ≠ x ∧ z ≠ y := by
  have hcompl : (CharSet.compl (eitherOf x y)).contains z = !(eitherOf x y).contains z := rfl
  rw [hcompl, Bool.not_eq_true', Bool.eq_false_iff, ne_eq, contains_eitherOf, not_or]

inductive DirectiveLine : List Char → Char → List Char → Prop
  | intro {indent gap space : List Char} {quote : Char} {body : List Char} {close : Char}
      (rest : List Char) (hindent : ∀ x ∈ indent, isBlank x) (hgap : ∀ x ∈ gap, isBlank x)
      (hgapne : gap ≠ []) (hspace : ∀ x ∈ space, isBlank x) (hspacene : space ≠ [])
      (hquote : quote = '"' ∨ quote = '<') (hbody : ∀ x ∈ body, x ≠ '"' ∧ x ≠ '>')
      (hbodyne : body ≠ []) (hclose : close = '"' ∨ close = '>') :
      DirectiveLine (indent ++ ['/', '/', '='] ++ gap ++ ['r', 'e', 'q', 'u', 'i', 'r', 'e'] ++
        space ++ [quote] ++ body ++ close :: rest) quote body

namespace DirectiveLine

theorem run_unique {p : Char → Bool} {a b r s : List Char} {x y : Char} (ha : ∀ z ∈ a, p z)
    (hb : ∀ z ∈ b, p z) (hx : p x = false) (hy : p y = false) (h : a ++ x :: r = b ++ y :: s) :
    a = b ∧ x = y ∧ r = s := by
  have htake : ∀ (a r : List Char) (x : Char), (∀ z ∈ a, p z) → p x = false →
      (a ++ x :: r).takeWhile p = a := by
    intro a r x ha hx
    rw [List.takeWhile_append_of_pos ha, List.takeWhile_cons_of_neg (by simp [hx]),
      List.append_nil]
  have hab : a = b := by rw [← htake a r x ha hx, h, htake b s y hb hy]
  subst hab
  exact ⟨rfl, List.cons.inj (List.append_cancel_left h)⟩

theorem quote_not_blank {x : Char} (h : x = '"' ∨ x = '<' ∨ x = '>') : isBlank x = false := by
  rcases h with rfl | rfl | rfl <;> decide

end DirectiveLine

@[ext] structure DirectiveParts where
  indent : List Char
  gap : List Char
  space : List Char
  quote : Char
  body : List Char
  close : Char
  rest : List Char
  deriving DecidableEq, Repr

namespace DirectiveParts

def text (p : DirectiveParts) : List Char :=
  p.indent ++ ['/', '/', '='] ++ p.gap ++ ['r', 'e', 'q', 'u', 'i', 'r', 'e'] ++ p.space ++
    [p.quote] ++ p.body ++ p.close :: p.rest

structure WellFormed (p : DirectiveParts) : Prop where
  indent : ∀ x ∈ p.indent, isBlank x
  gap : ∀ x ∈ p.gap, isBlank x
  gap_ne : p.gap ≠ []
  space : ∀ x ∈ p.space, isBlank x
  space_ne : p.space ≠ []
  quote : p.quote = '"' ∨ p.quote = '<'
  body : ∀ x ∈ p.body, x ≠ '"' ∧ x ≠ '>'
  body_ne : p.body ≠ []
  close : p.close = '"' ∨ p.close = '>'

variable {p q : DirectiveParts}

theorem WellFormed.line (h : p.WellFormed) : DirectiveLine p.text p.quote p.body :=
  .intro p.rest h.indent h.gap h.gap_ne h.space h.space_ne h.quote h.body h.body_ne h.close

/-- A line has no more than one way to be taken apart: every part ends where the first character stands
that cannot belong to it. -/
theorem WellFormed.unique (hp : p.WellFormed) (hq : q.WellFormed) (h : p.text = q.text) : p = q := by
  simp only [text, List.append_assoc, List.cons_append, List.nil_append] at h
  have hsign := DirectiveLine.quote_not_blank (hp.quote.imp_right Or.inl)
  have hsign' := DirectiveLine.quote_not_blank (hq.quote.imp_right Or.inl)
  obtain ⟨hindent, -, h⟩ := DirectiveLine.run_unique hp.indent hq.indent (by decide) (by decide) h
  simp only [List.cons.injEq, true_and] at h
  obtain ⟨hgap, -, h⟩ := DirectiveLine.run_unique hp.gap hq.gap (by decide) (by decide) h
  simp only [List.cons.injEq, true_and] at h
  obtain ⟨hspace, hquote, h⟩ := DirectiveLine.run_unique hp.space hq.space hsign hsign' h
  have hend : ∀ x, x = '"' ∨ x = '>' → (decide (x ≠ '"' ∧ x ≠ '>')) = false := by
    rintro x (rfl | rfl) <;> decide
  obtain ⟨hbody, hclose, hrest⟩ := DirectiveLine.run_unique
    (fun x hx => decide_eq_true (hp.body x hx)) (fun x hx => decide_eq_true (hq.body x hx))
    (hend _ hp.close) (hend _ hq.close) h
  exact DirectiveParts.ext hindent hgap hspace hquote hbody hclose hrest

end DirectiveParts

namespace DirectiveLine

variable {cs body other : List Char} {quote sign : Char}

theorem exists_parts (h : DirectiveLine cs quote body) :
    ∃ p : DirectiveParts, p.WellFormed ∧ p.text = cs ∧ p.quote = quote ∧ p.body = body := by
  obtain @⟨indent, gap, space, quote, body, close, rest, hindent, hgap, hgapne, hspace, hspacene,
    hquote, hbody, hbodyne, hclose⟩ := h
  exact ⟨⟨indent, gap, space, quote, body, close, rest⟩,
    ⟨hindent, hgap, hgapne, hspace, hspacene, hquote, hbody, hbodyne, hclose⟩, rfl, rfl, rfl⟩

theorem unique (h : DirectiveLine cs quote body) (h' : DirectiveLine cs sign other) :
    quote = sign ∧ body = other := by
  obtain ⟨p, hp, hline, rfl, rfl⟩ := h.exists_parts
  obtain ⟨q, hq, hline', rfl, rfl⟩ := h'.exists_parts
  obtain rfl := hp.unique hq (hline.trans hline'.symm)
  exact ⟨rfl, rfl⟩

theorem of_concat {x : Char} (hx : isBlank x) (h : DirectiveLine (cs ++ [x]) quote body) :
    DirectiveLine cs quote body := by
  generalize hcs : cs ++ [x] = line at h
  obtain @⟨_, _, _, _, _, close, rest, hindent, hgap, hgapne, hspace, hspacene, hquote, hbody,
    hbodyne, hclose⟩ := h
  have hne : x ≠ close := by
    rintro rfl
    rw [quote_not_blank (hclose.imp_right Or.inr)] at hx
    cases hx
  obtain ⟨more, rfl⟩ := exists_of_concat_eq hcs hne
  exact .intro more hindent hgap hgapne hspace hspacene hquote hbody hbodyne hclose

theorem trimStart_eq (h : DirectiveLine cs quote body) :
    ∃ rest, trimStart cs = '/' :: '/' :: '=' :: rest := by
  obtain ⟨rest, hindent⟩ := h
  simp only [List.append_assoc, trimStart_append hindent, List.cons_append,
    trimStart_of_not_blank slash_not_blank]
  exact ⟨_, rfl⟩

end DirectiveLine

namespace Matcher

def quotedTarget : Node := .seq (.group 1 (.set (eitherOf '"' '<')))
  (.seq (.group 2 (.stretch (.compl (eitherOf '"' '>')) false true)) (.set (eitherOf '"' '>')))

def standardPattern : Pattern where
  text := ({} : Settings).requirePattern
  node := .indented (.word ['/', '/', '='] (.seq (.stretch .blank false true)
    (.word ['r', 'e', 'q', 'u', 'i', 'r', 'e'] (.seq (.stretch .blank false true) quotedTarget))))

def standard : Matcher := .ofPattern standardPattern

theorem ofText_default : Matcher.ofText ({} : Settings).requirePattern = .ok standard := rfl

variable {line : String} {d : Directive} {last : Option Char} {word rest cs : List Char}
  {c : List (Nat × List Char)}

theorem reads_quotedTarget_iff :
    Reads quotedTarget last word rest c ↔ ∃ quote body close,
      (quote = '"' ∨ quote = '<') ∧ (∀ x ∈ body, x ≠ '"' ∧ x ≠ '>') ∧ body ≠ [] ∧
        (close = '"' ∨ close = '>') ∧ word = quote :: (body ++ [close]) ∧
        c = [(2, body), (1, [quote])] := by
  constructor
  · intro h
    obtain ⟨_, _, _, _, hopen, htarget, rfl, rfl⟩ := reads_seq_iff.mp h
    obtain ⟨_, hsign, rfl⟩ := reads_group_iff.mp hopen
    obtain ⟨quote, hquote, rfl, rfl⟩ := reads_set_iff.mp hsign
    obtain ⟨body, _, _, _, hgroup, hend, rfl, rfl⟩ := reads_seq_iff.mp htarget
    obtain ⟨_, hbodies, rfl⟩ := reads_group_iff.mp hgroup
    obtain ⟨hbody, hbodyne, rfl⟩ := reads_stretch_iff.mp hbodies
    obtain ⟨close, hclose, rfl, rfl⟩ := reads_set_iff.mp hend
    exact ⟨quote, body, close, contains_eitherOf.mp hquote,
      fun x hx => contains_compl_eitherOf.mp (hbody x hx), by simpa using hbodyne,
      contains_eitherOf.mp hclose, rfl, rfl⟩
  · rintro ⟨quote, body, close, hquote, hbody, hbodyne, hclose, rfl, rfl⟩
    have hinside : ∀ x ∈ body, (CharSet.compl (eitherOf '"' '>')).contains x :=
      fun x hx => contains_compl_eitherOf.mpr (hbody x hx)
    have hopen : Reads (.group 1 (.set (eitherOf '"' '<'))) last [quote] (body ++ [close] ++ rest)
        [(1, [quote])] := .group (.set (contains_eitherOf.mpr hquote))
    have hgroup : Reads (.group 2 (.stretch (.compl (eitherOf '"' '>')) false true)) (some quote)
        body ([close] ++ rest) [(2, body)] := .group (.stretch hinside (Or.inr hbodyne))
    exact .seq hopen (.seq hgroup (.set (contains_eitherOf.mpr hclose)))

theorem found_iff :
    standardPattern.node.Found cs c ↔
      ∃ quote body, DirectiveLine cs quote body ∧ c = [(2, body), (1, [quote])] := by
  constructor
  · intro h
    obtain ⟨_, after, hcs, hreads⟩ := (found_indented_word_iff slash_not_blank).mp h
    obtain ⟨gap, _, _, _, hgaps, hword, rfl, rfl⟩ := reads_seq_iff.mp hreads
    obtain ⟨hgap, hgapne, rfl⟩ := reads_stretch_iff.mp hgaps
    obtain ⟨_, rfl, hargument⟩ := reads_word_iff.mp hword
    obtain ⟨space, _, _, _, hspaces, hquoted, rfl, rfl⟩ := reads_seq_iff.mp hargument
    obtain ⟨hspace, hspacene, rfl⟩ := reads_stretch_iff.mp hspaces
    obtain ⟨quote, body, close, hquote, hbody, hbodyne, hclose, rfl, rfl⟩ :=
      reads_quotedTarget_iff.mp hquoted
    obtain ⟨indent, rfl, hindent⟩ := (trimStart_eq_cons_iff slash_not_blank).mp hcs
    have hline := DirectiveLine.intro after hindent hgap (by simpa using hgapne) hspace
      (by simpa using hspacene) hquote hbody hbodyne hclose
    exact ⟨quote, body, by simpa using hline, rfl⟩
  · rintro ⟨quote, body, hline, rfl⟩
    obtain @⟨indent, gap, space, quote, body, close, rest, hindent, hgap, hgapne, hspace, hspacene,
      hquote, hbody, hbodyne, hclose⟩ := hline
    have hquoted : ∀ last, Reads quotedTarget last (quote :: (body ++ [close])) rest
        [(2, body), (1, [quote])] := fun _ =>
      reads_quotedTarget_iff.mpr ⟨quote, body, close, hquote, hbody, hbodyne, hclose, rfl, rfl⟩
    refine (found_indented_word_iff slash_not_blank).mpr
      ⟨gap ++ (['r', 'e', 'q', 'u', 'i', 'r', 'e'] ++ (space ++ quote :: (body ++ [close]))), rest,
        (trimStart_eq_cons_iff slash_not_blank).mpr ⟨indent, by simp, hindent⟩, ?_⟩
    apply reads_seq_iff.mpr
    refine ⟨gap, _, [], [(2, body), (1, [quote])], .stretch hgap (Or.inr hgapne),
      reads_word_iff.mpr ⟨_, rfl, ?_⟩, rfl, rfl⟩
    apply reads_seq_iff.mpr
    exact ⟨space, _, [], _, .stretch hspace (Or.inr hspacene), hquoted _, rfl, rfl⟩

theorem standard_eq_some_iff :
    standard line = some d ↔
      ∃ quote body, DirectiveLine line.toList quote body ∧ ofGroups? [quote] body = some d := by
  have hread : ∀ t, standardPattern.node.first? line.toList = some t →
      ∃ quote body, DirectiveLine line.toList quote body ∧
        standard line = ofGroups? [quote] body := by
    intro t ht
    obtain ⟨quote, body, hline, hheld⟩ := found_iff.mp (Node.found_of_first? rfl ht)
    have hquote : t.capture? 1 = some [quote] := by rw [Thread.capture?_eq, hheld]; rfl
    have hbody : t.capture? 2 = some body := by rw [Thread.capture?_eq, hheld]; rfl
    refine ⟨quote, body, hline, ?_⟩
    simp [standard, ofPattern, Pattern.captures?, ht, hquote, hbody]
  constructor
  · intro h
    rcases ht : standardPattern.node.first? line.toList with _ | t
    · simp [standard, ofPattern, Pattern.captures?, ht] at h
    · obtain ⟨quote, body, hline, heq⟩ := hread t ht
      exact ⟨quote, body, hline, heq ▸ h⟩
  · rintro ⟨quote, body, hline, hd⟩
    have hfound : (standardPattern.node.first? line.toList).isSome :=
      (Node.isSome_first?_iff rfl).mpr ⟨_, found_iff.mpr ⟨quote, body, hline, rfl⟩⟩
    obtain ⟨t, ht⟩ := Option.isSome_iff_exists.mp hfound
    obtain ⟨quote', body', hline', heq⟩ := hread t ht
    obtain ⟨rfl, rfl⟩ := hline.unique hline'
    rw [heq, hd]

theorem standard_lineFeed (h : standard line = none) : standard (line ++ "\n") = none := by
  rw [Option.eq_none_iff_forall_not_mem] at h ⊢
  intro d hd
  obtain ⟨quote, body, hline, htarget⟩ := standard_eq_some_iff.mp hd
  rw [String.toList_append] at hline
  exact h d (standard_eq_some_iff.mpr ⟨quote, body, hline.of_concat lineFeed_blank, htarget⟩)

theorem standard_eq_none (h : ¬ ['/', '/', '='] <+: trimStart line.toList) :
    standard line = none := by
  rw [Option.eq_none_iff_forall_not_mem]
  intro d hd
  obtain ⟨quote, body, hline, -⟩ := standard_eq_some_iff.mp hd
  obtain ⟨rest, htrim⟩ := hline.trimStart_eq
  exact h ⟨rest, htrim.symm⟩

theorem trim_eq_nil_iff : trim cs = [] ↔ ∀ x ∈ cs, isBlank x := by
  have hstart : ∀ cs, trimStart cs = [] ↔ ∀ x ∈ cs, isBlank x := fun _ => List.dropWhile_eq_nil_iff
  rw [trim, trimEnd, List.reverse_eq_nil_iff, hstart]
  simp only [List.mem_reverse]
  obtain ⟨indent, hcs, hindent⟩ := exists_indent cs
  constructor
  · intro h x hx
    rw [hcs, List.mem_append] at hx
    exact hx.elim (hindent x) (h x)
  · intro h x hx
    exact h x (hcs ▸ List.mem_append_right _ hx)

theorem ofGroups?_eq_some_iff {quote : Char} {body : List Char} :
    ofGroups? [quote] body = some d ↔ (∃ x ∈ body, isBlank x = false) ∧
      d = ⟨if quote = '"' then .quoted else .angle, String.ofList (trim body)⟩ := by
  have hspeaks : (trim body).isEmpty = false ↔ ∃ x ∈ body, isBlank x = false := by
    rw [← Bool.not_eq_true, List.isEmpty_iff, trim_eq_nil_iff]
    simp
  rw [← hspeaks, ofGroups?]
  rcases (trim body).isEmpty with _ | _ <;> simp [eq_comm]

end Matcher

namespace DirectiveParts

structure Writes (p : DirectiveParts) (line : String) : Prop extends p.WellFormed where
  speaks : ∃ x ∈ p.body, isBlank x = false
  text_eq : p.text = line.toList

def directive (p : DirectiveParts) : Directive where
  kind := if p.quote = '"' then .quoted else .angle
  target := String.ofList (trim p.body)

end DirectiveParts

namespace Matcher

/-- Without settings, the directives are the lines that can be taken apart into the parts of one, which is
then possible in one way only, and a directive asks for what its parts say. -/
theorem standard_reads_parts :
    ∃ m, Matcher.ofText ({} : Settings).requirePattern = .ok m ∧ ∀ line : String,
      ((m line).isSome ↔ ∃! p : DirectiveParts, p.Writes line) ∧
      ∀ d, m line = some d ↔ ∃ p : DirectiveParts, p.Writes line ∧ p.directive = d := by
  refine ⟨standard, ofText_default, fun line => ?_⟩
  have hiff : ∀ d, standard line = some d ↔
      ∃ p : DirectiveParts, p.Writes line ∧ p.directive = d := by
    intro d
    rw [standard_eq_some_iff]
    constructor
    · rintro ⟨quote, body, hline, hd⟩
      obtain ⟨p, hp, htext, rfl, rfl⟩ := hline.exists_parts
      obtain ⟨hspeaks, rfl⟩ := ofGroups?_eq_some_iff.mp hd
      exact ⟨p, ⟨hp, hspeaks, htext⟩, rfl⟩
    · rintro ⟨p, hp, rfl⟩
      exact ⟨p.quote, p.body, hp.text_eq ▸ hp.line, ofGroups?_eq_some_iff.mpr ⟨hp.speaks, rfl⟩⟩
  refine ⟨?_, hiff⟩
  rw [Option.isSome_iff_exists]
  constructor
  · rintro ⟨d, hd⟩
    obtain ⟨p, hp, -⟩ := (hiff d).mp hd
    refine ⟨p, hp, fun q hq => ?_⟩
    exact hq.unique hp.toWellFormed (hq.text_eq.trans hp.text_eq.symm)
  · rintro ⟨p, hp, -⟩
    exact ⟨p.directive, (hiff _).mpr ⟨p, hp, rfl⟩⟩

end Matcher

end ScriptBundle
