import Mathlib.Data.List.Infix
import Mathlib.Logic.ExistsUnique
import ScriptBundle.Proofs.Path.Text

/-! # Placeholders in search paths

A search path is read once from the left: a literal up to the first placeholder, the placeholder, and so on
with what follows it. Placeholders do not overlap, so every occurrence of one counts. What is put in their
places is not read again, and a slash at its end keeps it apart from what follows.
-/

namespace ScriptBundle

inductive Placeholder where
  | app
  | webroot
  deriving DecidableEq, Repr

namespace Placeholder

def name : Placeholder → String
  | app => "APP"
  | webroot => "WEBROOT"

def piece : Placeholder → SearchPiece
  | app => .app
  | webroot => .webroot

def directory (r : Roots) : Placeholder → Path
  | app => r.app
  | webroot => r.webroot

end Placeholder

def PlaceholderFree (cs : List Char) : Prop := ∀ t : Placeholder, ¬ t.name.toList <:+: cs

theorem placeholderFree_iff {cs : List Char} : PlaceholderFree cs ↔
    ¬ Placeholder.app.name.toList <:+: cs ∧ ¬ Placeholder.webroot.name.toList <:+: cs := by
  constructor
  · intro h
    exact ⟨h .app, h .webroot⟩
  · rintro ⟨happ, hwebroot⟩ (_ | _)
    · exact happ
    · exact hwebroot

instance (cs : List Char) : Decidable (PlaceholderFree cs) :=
  decidable_of_iff _ placeholderFree_iff.symm

inductive SearchParts where
  | last (literal : List Char)
  | next (literal : List Char) (t : Placeholder) (rest : SearchParts)
  deriving DecidableEq, Repr

namespace SearchParts

def fill (f : Placeholder → List Char) : SearchParts → List Char
  | last literal => literal
  | next literal t rest => literal ++ (f t ++ rest.fill f)

def text (parts : SearchParts) : List Char := parts.fill fun t => t.name.toList

/-- Each placeholder is the first one in what is left of the text, and none is left at the end. -/
def Leftmost : SearchParts → Prop
  | last literal => PlaceholderFree literal
  | next literal t rest =>
    (∀ u (t' : Placeholder) v, (next literal t rest).text = u ++ (t'.name.toList ++ v) →
        literal.length ≤ u.length) ∧
      rest.Leftmost

def cons (c : Char) : SearchParts → SearchParts
  | last literal => last (c :: literal)
  | next literal t rest => next (c :: literal) t rest

end SearchParts

variable {t t' : Placeholder} {u v literal : List Char} {c : Char} {cs : List Char}
  {parts parts' : SearchParts}

theorem Placeholder.name_ne_nil (t : Placeholder) : t.name.toList ≠ [] := by
  cases t <;> decide

theorem Placeholder.head?_notMem_tail (t t' : Placeholder) :
    t.name.toList.head? ∉ t'.name.toList.tail.map some := by
  cases t <;> cases t' <;> decide

theorem Placeholder.eq_of_append_eq (h : t.name.toList ++ u = t'.name.toList ++ v) : t = t' ∧ u = v := by
  cases t <;> cases t' <;> simp_all [name]

/-- A placeholder at the head of a text is not completed by one that begins further on. -/
theorem Placeholder.prefix_of_prefix_append (hu : u ≠ [])
    (h : t'.name.toList <+: u ++ (t.name.toList ++ v)) : t'.name.toList <+: u := by
  rcases List.prefix_or_prefix_of_prefix h (List.prefix_append u _) with hbefore | ⟨w, hw⟩
  · exact hbefore
  rcases w with _ | ⟨c, w⟩
  · rw [List.append_nil] at hw
    exact hw ▸ List.prefix_refl u
  · -- It would go on into the other one, so a letter inside of it would begin that one.
    rw [← hw, List.prefix_append_right_inj] at h
    have hhead : t.name.toList.head? = some c := by
      obtain ⟨x, more, hx⟩ := List.exists_cons_of_ne_nil t.name_ne_nil
      rw [hx, List.cons_append, List.cons_prefix_cons] at h
      rw [hx, List.head?_cons, h.1]
    have htail : c ∈ t'.name.toList.tail := by
      obtain ⟨x, more, rfl⟩ := List.exists_cons_of_ne_nil hu
      simp [← hw]
    exact absurd (hhead ▸ List.mem_map_of_mem htail) (t.head?_notMem_tail t')

namespace SearchPiece

theorem ofChars_name (t : Placeholder) (cs : List Char) :
    ofChars (t.name.toList ++ cs) = t.piece :: ofChars cs := by
  cases t <;> rfl

theorem ofChars_cons (h : ∀ t : Placeholder, ¬ t.name.toList <+: c :: cs) :
    ofChars (c :: cs) = .char c :: ofChars cs := by
  rw [ofChars]
  · rintro rest rfl rfl
    exact h .webroot ⟨rest, rfl⟩
  · rintro rest rfl rfl
    exact h .app ⟨rest, rfl⟩

/-- No placeholder begins in a literal that the leftmost one comes behind. -/
theorem ofChars_literal
    (h : ∀ u (t : Placeholder) v, literal ++ cs = u ++ (t.name.toList ++ v) → literal.length ≤ u.length) :
    ofChars (literal ++ cs) = literal.map .char ++ ofChars cs := by
  induction literal with
  | nil => rfl
  | cons c literal ih =>
    have hnone : ∀ t : Placeholder, ¬ t.name.toList <+: c :: (literal ++ cs) := by
      rintro t ⟨v, hv⟩
      exact absurd (h [] t v hv.symm) (Nat.not_succ_le_zero _)
    rw [List.cons_append, ofChars_cons hnone, ih, List.map_cons, List.cons_append]
    intro u t v huv
    exact Nat.le_of_succ_le_succ (h (c :: u) t v (by rw [List.cons_append, huv, List.cons_append]))

theorem ofChars_free (h : PlaceholderFree cs) : ofChars cs = cs.map .char := by
  have hnone : ∀ u (t : Placeholder) v, cs ++ [] = u ++ (t.name.toList ++ v) → cs.length ≤ u.length := by
    intro u t v huv
    refine absurd ⟨u, v, ?_⟩ (h t)
    rw [List.append_nil] at huv
    rw [huv, List.append_assoc]
  have hall := ofChars_literal hnone
  rwa [List.append_nil, ofChars, List.append_nil] at hall

@[elab_as_elim]
theorem induction_left {P : List Char → Prop} (nil : P [])
    (name : ∀ (t : Placeholder) cs, P cs → P (t.name.toList ++ cs))
    (char : ∀ c cs, (∀ t : Placeholder, ¬ t.name.toList <+: c :: cs) → P cs → P (c :: cs))
    (cs : List Char) : P cs := by
  induction cs using ofChars.induct with
  | case1 rest ih => exact name .webroot rest ih
  | case2 rest ih => exact name .app rest ih
  | case3 c rest hwebroot happ ih =>
    refine char c rest ?_ ih
    rintro (_ | _) ⟨more, hmore⟩
    · obtain ⟨rfl, rfl⟩ := List.cons.inj hmore
      exact happ more rfl rfl
    · obtain ⟨rfl, rfl⟩ := List.cons.inj hmore
      exact hwebroot more rfl rfl
  | case4 => exact nil

theorem ofChars_append_name (u : List Char) (t : Placeholder) (v : List Char) :
    ofChars (u ++ (t.name.toList ++ v)) = ofChars u ++ t.piece :: ofChars v := by
  induction u using induction_left with
  | nil => exact ofChars_name t v
  | name t' cs ih => rw [List.append_assoc, ofChars_name, ih, ofChars_name, List.cons_append]
  | char c cs hnone ih =>
    rw [ofChars_cons hnone, List.cons_append, ofChars_cons, ih, List.cons_append]
    intro t' hprefix
    exact hnone t' (Placeholder.prefix_of_prefix_append (List.cons_ne_nil c cs) hprefix)

end SearchPiece

namespace Roots

theorem expand_piece (r : Roots) (t : Placeholder) : r.expand t.piece = expansion (t.directory r) := by
  cases t <;> rfl

theorem expand_chars (r : Roots) (cs : List Char) : (cs.map SearchPiece.char).flatMap r.expand = cs := by
  rw [List.flatMap_map]
  exact List.flatMap_singleton' cs

end Roots

namespace SearchParts

@[simp] theorem text_last (literal : List Char) : (last literal).text = literal := rfl

@[simp] theorem text_next (literal : List Char) (t : Placeholder) (rest : SearchParts) :
    (next literal t rest).text = literal ++ (t.name.toList ++ rest.text) := rfl

theorem Leftmost.unique (h : parts.Leftmost) (h' : parts'.Leftmost) (htext : parts.text = parts'.text) :
    parts = parts' := by
  induction parts generalizing parts' with
  | last literal =>
    cases parts' with
    | last literal' => rw [← text_last literal, htext, text_last]
    | next literal' t' rest' =>
      rw [text_last, text_next] at htext
      exact absurd ⟨literal', rest'.text, by rw [htext, List.append_assoc]⟩ (h t')
  | next literal t rest ih =>
    cases parts' with
    | last literal' =>
      rw [text_last, text_next] at htext
      exact absurd ⟨literal, rest.text, by rw [← htext, List.append_assoc]⟩ (h' t)
    | next literal' t' rest' =>
      have hlength : literal.length = literal'.length :=
        Nat.le_antisymm (h.1 literal' t' rest'.text htext) (h'.1 literal t rest.text htext.symm)
      obtain ⟨rfl, hbehind⟩ := List.append_inj htext hlength
      obtain ⟨rfl, hrest⟩ := Placeholder.eq_of_append_eq hbehind
      rw [ih h.2 h'.2 hrest]

end SearchParts

namespace Roots

/-- What a placeholder expands to stands for its directory, with a slash that keeps it apart. -/
theorem components_expansion (front : List Char) (dir : Path) (cs : List Char) :
    (Path.mk (String.ofList (front ++ (expansion dir ++ cs)))).components =
      (Path.mk (Utf8.encode front ++ dir.normalText ++ slash :: Utf8.encode cs)).components := by
  have hslash : Utf8.encode ['/'] = [slash] := rfl
  rw [textOctets_ofList, Utf8.encode_append, Utf8.encode_append, ← List.append_assoc, textOctets, expansion]
  split
  next hlast =>
    obtain ⟨before, hbefore⟩ := List.getLast?_eq_some_iff.mp (eq_of_beq hlast)
    have hdoubled := Path.components_slash_slash (Utf8.encode front ++ Utf8.encode before) (Utf8.encode cs)
    rw [hbefore, Utf8.encode_append, hslash]
    simpa using hdoubled.symm
  next =>
    rw [Utf8.encode_append, hslash, ← List.append_assoc, List.append_assoc _ [slash],
      List.singleton_append]

theorem substitute_slash (r : Roots) (u v : String) (t : Placeholder) :
    r.substitute (u ++ t.name ++ "/" ++ v) = r.substitute (u ++ t.name ++ v) := by
  have hread : ∀ cs : List Char, (r.substitute (String.ofList (u.toList ++ (t.name.toList ++ cs)))) =
      Path.normal ⟨Utf8.encode ((SearchPiece.ofChars u.toList).flatMap r.expand) ++
        (t.directory r).normalText ++
          slash :: Utf8.encode ((SearchPiece.ofChars cs).flatMap r.expand)⟩ := by
    intro cs
    rw [Path.normal, ← components_expansion, substitute, String.toList_ofList,
      SearchPiece.ofChars_append_name, List.flatMap_append, List.flatMap_cons, expand_piece, Path.normal]
  have hplain : u ++ t.name ++ v = String.ofList (u.toList ++ (t.name.toList ++ v.toList)) := by
    rw [← String.toList_inj]
    simp
  have hslash : u ++ t.name ++ "/" ++ v =
      String.ofList (u.toList ++ (t.name.toList ++ '/' :: v.toList)) := by
    rw [← String.toList_inj]
    simp
  have hfurther : Utf8.encode ((SearchPiece.ofChars ('/' :: v.toList)).flatMap r.expand) =
      slash :: Utf8.encode ((SearchPiece.ofChars v.toList).flatMap r.expand) := rfl
  rw [hplain, hslash, hread, hread, hfurther, Path.normal, Path.normal, Path.components_slash_slash]

theorem components_substitute_front (r : Roots) (t : Placeholder) {rest : String}
    (hrest : PlaceholderFree rest.toList) :
    (r.substitute (t.name ++ "/" ++ rest)).components =
      (Path.mk ((t.directory r).normalText ++ slash :: textOctets rest)).components := by
  have hread := substitute_slash r "" rest t
  rw [String.empty_append] at hread
  rw [hread, substitute, String.toList_append, SearchPiece.ofChars_name, SearchPiece.ofChars_free hrest,
    List.flatMap_cons, expand_piece, expand_chars, Path.components_normal]
  exact components_expansion [] (t.directory r) rest.toList

/-- A search path that begins with a placeholder and a slash names the directory that the rest of it names
when it is taken from what is shown of the directory of the placeholder. Where this is UTF-8 and has no
backslash, it is taken from the directory itself. -/
theorem substitute_front (r : Roots) (t : Placeholder) (rest : String)
    (hdir : (t.directory r).text ≠ []) (hrest : PlaceholderFree rest.toList)
    (hrelative : rest.toList.head? ≠ some '/') :
    (r.substitute (t.name ++ "/" ++ rest)).components =
        ((Path.mk (t.directory r).normalText).join ⟨rest⟩).components ∧
      ((t.directory r).IsText → backslash ∉ (t.directory r).text →
        (r.substitute (t.name ++ "/" ++ rest)).components =
          ((t.directory r).join ⟨rest⟩).components) := by
  let dir : Path := ⟨(t.directory r).normalText⟩
  have hne : dir.text ≠ [] := by
    rw [Ne, textOctets_eq_nil_iff, Path.normalText_eq_empty_iff]
    exact hdir
  have hrest' : (Path.mk rest).isAbsolute = false :=
    Bool.eq_false_iff.mpr (mt Path.isAbsolute_text.mp hrelative)
  have hjoin : (r.substitute (t.name ++ "/" ++ rest)).components = (dir.join ⟨rest⟩).components := by
    rw [components_substitute_front r t hrest, Path.components_join_eq hne hrest']
  refine ⟨hjoin, ?_⟩
  intro htext hslashes
  have hsame : dir = t.directory r := congrArg Path.mk (htext.text_eq hslashes).symm
  rw [hjoin, hsame]

/-- A relative root and roots that end in slashes, with a rest that leads up and has a backslash. -/
theorem substitute_front_relative :
    let r : Roots := ⟨⟨"./srv/"⟩, ⟨"/var//www//"⟩⟩
    let rest := "../srv/./a\\b/"
    PlaceholderFree rest.toList ∧ rest.toList.head? ≠ some '/' ∧
      (∀ t : Placeholder, (t.directory r).text ≠ [] ∧
        (r.substitute (t.name ++ "/" ++ rest)).components =
          ((t.directory r).join ⟨rest⟩).components) ∧
      r.substitute (Placeholder.app.name ++ "/" ++ rest) = ⟨"./srv/../srv/a\\b"⟩ ∧
      r.substitute (Placeholder.webroot.name ++ "/" ++ rest) = ⟨"/var/www/../srv/a\\b"⟩ := by
  intro r rest
  have hfree : PlaceholderFree rest.toList := by decide +kernel
  have hrelative : rest.toList.head? ≠ some '/' := by decide +kernel
  have hdir : ∀ t : Placeholder, (t.directory r).text ≠ [] ∧ backslash ∉ (t.directory r).text := by
    rintro (_ | _) <;> decide +kernel
  have htext : ∀ t : Placeholder, (t.directory r).IsText := by
    rintro (_ | _) <;> exact ⟨_, rfl⟩
  refine ⟨hfree, hrelative, ?_, by decide +kernel, by decide +kernel⟩
  intro t
  exact ⟨(hdir t).1, (substitute_front r t rest (hdir t).1 hfree hrelative).2 (htext t) (hdir t).2⟩

/-- A backslash is an octet of a name to a join, and a separator to what a placeholder expands to; an octet
that is not UTF-8 is kept by a join, and shown as a replacement character in what a placeholder expands to;
the empty directory, with a slash behind it, is the root. -/
theorem substitute_front_exceptions :
    let joins (r : Roots) : Prop := ∀ (t : Placeholder) (rest : String), PlaceholderFree rest.toList →
      rest.toList.head? ≠ some '/' →
        (r.substitute (t.name ++ "/" ++ rest)).components = ((t.directory r).join ⟨rest⟩).components
    ¬ joins ⟨⟨"/srv/a\\b"⟩, ⟨"/srv/a\\b/webroot"⟩⟩ ∧
    ¬ joins ⟨⟨textOctets "/srv/caf" ++ [0xE9]⟩, ⟨"/srv/www"⟩⟩ ∧ ¬ joins ⟨⟨""⟩, ⟨"webroot"⟩⟩ := by
  intro joins
  have hjoin : ∀ {r : Roots}, joins r →
      (r.substitute (Placeholder.app.name ++ "/" ++ "x")).components =
        (r.app.join ⟨"x"⟩).components :=
    fun h => h .app "x" (by decide +kernel) (by decide +kernel)
  refine ⟨mt hjoin ?_, mt hjoin ?_, mt hjoin ?_⟩
  · decide +kernel
  · decide +kernel
  · decide +kernel

end Roots

end ScriptBundle
