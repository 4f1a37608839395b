import ScriptBundle.Proofs.Json.Records
import ScriptBundle.Proofs.Path.Text
import ScriptBundle.Settings

/-! # Texts of settings

Settings are written as an object. Main statement: they are read back from it, also if members that are as
in the default settings are left out, and no name can be put in that settings do not have.
-/

namespace ScriptBundle

open Json

namespace CommentPatterns

variable {s : CommentPatterns} {ms : List (String × Json)}

def entries (s : CommentPatterns) : List (Shape.Entry CommentPatterns) :=
  [⟨("inline", .string s.inline), fun r => { r with inline := s.inline }⟩,
    ⟨("blockLine", .string s.blockLine), fun r => { r with blockLine := s.blockLine }⟩,
    ⟨("blockStart", .string s.blockStart), fun r => { r with blockStart := s.blockStart }⟩,
    ⟨("blockEnd", .string s.blockEnd), fun r => { r with blockEnd := s.blockEnd }⟩]

def members (s : CommentPatterns) : List (String × Json) := s.entries.map (·.member)

theorem toJson_eq (s : CommentPatterns) : s.toJson = .object s.members := rfl

theorem independent (s : CommentPatterns) : shape.Independent s.entries where
  once := by simp [entries]
  reads := by
    simp only [entries, List.forall_mem_cons]
    refine ⟨⟨_, rfl, fun r => ?_⟩, ⟨_, rfl, fun r => ?_⟩, ⟨_, rfl, fun r => ?_⟩, ⟨_, rfl, fun r => ?_⟩,
      List.forall_mem_nil _⟩
    · exact (Scan.reads_text _ s.inline).map _
    · exact (Scan.reads_text _ s.blockLine).map _
    · exact (Scan.reads_text _ s.blockStart).map _
    · exact (Scan.reads_text _ s.blockEnd).map _
  comm := by simp [entries]
  idem := by simp [entries]

theorem update_default {e : Shape.Entry CommentPatterns} (he : e ∈ s.entries)
    (hdefault : e.member ∈ ({} : CommentPatterns).members) : e.update {} = {} := by
  revert e
  simp +contextual [entries, members]

theorem fills (h : Shape.Abridges ({} : CommentPatterns).members s.members ms) :
    shape.Fills {} ms s :=
  s.independent.fills_abridged (fun _ => update_default) h

/-- Patterns that nothing need be said about are the default ones. -/
theorem eq_default (h : Shape.Abridges ({} : CommentPatterns).members s.members
    ({} : CommentPatterns).members) : s = {} := by
  have hall : ∀ m ∈ s.members, m ∈ ({} : CommentPatterns).members := fun m hm =>
    (h.enough m hm).elim id id
  obtain ⟨inline, blockLine, blockStart, blockEnd⟩ := s
  simpa [members, entries] using hall

end CommentPatterns

namespace Settings

variable {s : Settings} {inner outer front back : List (String × Json)} {name : String} {v : Json}

def entries (s : Settings) (comment : Json) : List (Shape.Entry Settings) :=
  [⟨("stripComments", .bool s.stripComments), fun r => { r with stripComments := s.stripComments }⟩,
    ⟨("searchPaths", .array (s.searchPaths.map .string)),
      fun r => { r with searchPaths := s.searchPaths }⟩,
    ⟨("requirePattern", .string s.requirePattern),
      fun r => { r with requirePattern := s.requirePattern }⟩,
    ⟨("commentPattern", comment), fun r => { r with commentPattern := s.commentPattern }⟩,
    ⟨("carryCommentState", .bool s.carryCommentState),
      fun r => { r with carryCommentState := s.carryCommentState }⟩] ++
  s.webroot.toList.map fun webroot =>
    ⟨("webroot", .string webroot.text.lossyText), fun r => { r with webroot := some webroot }⟩

/-- The members of settings that are written out; the value of the comment patterns is given apart. -/
def membersWith (s : Settings) (comment : Json) : List (String × Json) :=
  (s.entries comment).map (·.member)

def members (s : Settings) : List (String × Json) := s.membersWith s.commentPattern.toJson

/-- The web root, if there is one, is UTF-8. -/
def HasTextWebroot (s : Settings) : Prop := ∀ webroot ∈ s.webroot, webroot.IsText

theorem toJson?_eq (h : s.HasTextWebroot) : s.toJson? = some (.object s.members) := by
  rcases hwebroot : s.webroot with _ | webroot
  · simp [toJson?, members, membersWith, entries, hwebroot]
  · obtain ⟨text, rfl⟩ := h webroot hwebroot
    have htext : Octets.text? (textOctets text) = some text := Octets.text?_eq_some_iff.mpr rfl
    simp [toJson?, members, membersWith, entries, hwebroot, htext, lossyText_textOctets]

theorem reads_searchPaths (paths : List String) :
    (Scan.list (Scan.text "a string")).Reads (.array (paths.map .string)) paths := by
  have hplain : ∀ path ∈ paths, (Json.string path).Plain 0 := fun path _ => .string path
  exact Scan.reads_list hplain fun path _ => Scan.reads_text _ path

theorem independent {comment : Json} (h : s.HasTextWebroot)
    (hcomment : (CommentPatterns.shape.read {}).Reads comment s.commentPattern) :
    shape.Independent (s.entries comment) where
  once := by rcases hwebroot : s.webroot with _ | webroot <;> simp [entries, hwebroot]
  reads := by
    simp only [entries, List.forall_mem_append, List.forall_mem_cons, List.forall_mem_map]
    refine ⟨⟨⟨_, rfl, fun r => ?_⟩, ⟨_, rfl, fun r => ?_⟩, ⟨_, rfl, fun r => ?_⟩, ⟨_, rfl, fun r => ?_⟩,
      ⟨_, rfl, fun r => ?_⟩, List.forall_mem_nil _⟩, fun webroot hwebroot => ⟨_, rfl, fun r => ?_⟩⟩
    · exact (Scan.reads_truth s.stripComments).map _
    · exact (reads_searchPaths s.searchPaths).map _
    · exact (Scan.reads_text _ s.requirePattern).map _
    · exact hcomment.map _
    · exact (Scan.reads_truth s.carryCommentState).map _
    · obtain ⟨text, rfl⟩ := h webroot (Option.mem_toList.mp hwebroot)
      rw [lossyText_textOctets]
      exact (Scan.reads_optionalText _ text).map _
  comm := by rcases hwebroot : s.webroot with _ | webroot <;> simp [entries, hwebroot]
  idem := by rcases hwebroot : s.webroot with _ | webroot <;> simp [entries, hwebroot]

theorem updateAll_entries (s : Settings) (comment : Json) :
    Shape.updateAll (s.entries comment) {} = s := by
  obtain ⟨_, _, _, _, _, webroot⟩ := s
  cases webroot <;> rfl

theorem update_default {e : Shape.Entry Settings}
    (hinner : inner = ({} : CommentPatterns).members → s.commentPattern = {})
    (he : e ∈ s.entries (.object inner)) (hdefault : e.member ∈ ({} : Settings).members) :
    e.update {} = {} := by
  revert e
  rcases hwebroot : s.webroot with _ | webroot <;>
    simp +contextual [entries, members, membersWith, hwebroot, CommentPatterns.toJson_eq, hinner]

/-- Objects that hold settings: `inner` has the members of the comment patterns and `outer` those of the
settings, both in any order and without some of the members that are as in the default settings. -/
structure HeldBy (s : Settings) (inner outer : List (String × Json)) : Prop where
  comments : Shape.Abridges ({} : CommentPatterns).members s.commentPattern.members inner
  settings : Shape.Abridges ({} : Settings).members (s.membersWith (.object inner)) outer

namespace HeldBy

theorem whole (s : Settings) : s.HeldBy s.commentPattern.members s.members where
  comments := .refl _ (by simp [CommentPatterns.members, CommentPatterns.entries])
  settings := .refl _ (by
    rcases hwebroot : s.webroot with _ | webroot <;> simp [membersWith, entries, hwebroot])

theorem fills_inner (h : s.HeldBy inner outer) :
    CommentPatterns.shape.Fills {} inner s.commentPattern :=
  CommentPatterns.fills h.comments

theorem fills_outer (h : s.HeldBy inner outer) (htext : s.HasTextWebroot) : shape.Fills {} outer s := by
  have hcomment := CommentPatterns.shape.reads_object h.fills_inner h.comments.once
  have hdefault : ∀ e ∈ s.entries (.object inner), e.member ∈ ({} : Settings).members →
      e.update {} = {} :=
    fun _ => update_default fun hinner => CommentPatterns.eq_default (hinner ▸ h.comments)
  have hfills := (independent htext hcomment).fills_abridged hdefault h.settings
  rwa [updateAll_entries] at hfills

theorem reads (h : s.HeldBy inner outer) (htext : s.HasTextWebroot) :
    (shape.read {}).Reads (.object outer) s :=
  shape.reads_object (h.fills_outer htext) h.settings.once

theorem refuses (h : s.HeldBy inner (front ++ back)) (htext : s.HasTextWebroot)
    (hname : name ∉ shape.fields.map (·.name)) (v : Json) :
    (shape.read {}).Refuses (.object (front ++ (name, v) :: back))
      (.unknownField name (shape.fields.map (·.name))) := by
  obtain ⟨r, hfront, -⟩ := Shape.fills_append_iff.mp (h.fills_outer htext)
  have hnames := h.settings.once
  rw [List.map_append] at hnames
  exact Shape.refuses_unknown hfront (List.nodup_append.mp hnames).1 hname v back

theorem refuses_inner {before after : List (String × Json)}
    (h : s.HeldBy (front ++ back) (before ++ ("commentPattern", .object (front ++ back)) :: after))
    (htext : s.HasTextWebroot) (hname : name ∉ CommentPatterns.shape.fields.map (·.name)) (v : Json) :
    (shape.read {}).Refuses
      (.object (before ++ ("commentPattern", .object (front ++ (name, v) :: back)) :: after))
      (.unknownField name (CommentPatterns.shape.fields.map (·.name))) := by
  obtain ⟨r, hbefore, -⟩ := Shape.fills_append_iff.mp (h.fills_outer htext)
  obtain ⟨c, hfront, -⟩ := Shape.fills_append_iff.mp h.fills_inner
  have houter := h.settings.once
  have hinner := h.comments.once
  rw [List.map_append] at houter hinner
  obtain ⟨hnodup, -, hdistinct⟩ := List.nodup_append.mp houter
  have hnew : "commentPattern" ∉ before.map (·.1) :=
    fun hmem => hdistinct _ hmem _ List.mem_cons_self rfl
  have hcomment := Shape.refuses_unknown hfront (List.nodup_append.mp hinner).1 hname v back
  exact Shape.refuses_member hbefore hnodup hnew rfl (hcomment.bind _) after

end HeldBy

theorem ofText_eq_ok (h : (shape.read {}).Reads v s) (layout : Layout) :
    ofText (v.text layout) = .ok s := by
  rw [ofText, Shape.ofText_text h layout]

theorem ofText_eq_error {fault : Fault} (h : (shape.read {}).Refuses v fault) (layout : Layout) :
    ofText (v.text layout) = .error (.configuration (.malformed fault)) := by
  rw [ofText, Shape.ofText_text_error h layout]

/-- Settings whose web root is UTF-8 can be written and are read back from their text, and from a text without
some of the members that are as in the default settings. A member of any other name makes the text unusable,
wherever it stands. -/
theorem settings_read_back (s : Settings) (layout : Layout) (htext : s.HasTextWebroot) :
    (∃ v, s.toJson? = some v ∧ ofText (v.text layout) = .ok s) ∧
    (∀ inner outer, s.HeldBy inner outer → ofText ((Json.object outer).text layout) = .ok s) ∧
    (∀ inner front back name v, s.HeldBy inner (front ++ back) →
      name ∉ shape.fields.map (·.name) →
      ofText ((Json.object (front ++ (name, v) :: back)).text layout) =
        .error (.configuration (.malformed (.unknownField name (shape.fields.map (·.name)))))) ∧
    ∀ front back before after name v,
      s.HeldBy (front ++ back) (before ++ ("commentPattern", .object (front ++ back)) :: after) →
      name ∉ CommentPatterns.shape.fields.map (·.name) →
      ofText ((Json.object (before ++
          ("commentPattern", .object (front ++ (name, v) :: back)) :: after)).text layout) =
        .error (.configuration (.malformed
          (.unknownField name (CommentPatterns.shape.fields.map (·.name))))) := by
  refine ⟨?_, ?_, ?_, ?_⟩
  · exact ⟨_, toJson?_eq htext, ofText_eq_ok ((HeldBy.whole s).reads htext) layout⟩
  · intro inner outer h
    exact ofText_eq_ok (h.reads htext) layout
  · intro inner front back name v h hname
    exact ofText_eq_error (h.refuses htext hname v) layout
  · intro front back before after name v h hname
    exact ofText_eq_error (h.refuses_inner htext hname v) layout

def escapedSettings : Settings where
  searchPaths := ["APP/\"é\\", "\n日"]
  requirePattern := "^(\u0001)😀(.*)"
  commentPattern := { inline := "^--\t" }
  webroot := some ⟨"/w"⟩

def escapedComments : List (String × Json) := [("inline", .string "^--\t")]

def membersBefore : List (String × Json) := [("webroot", .string "/w")]

def membersAfter : List (String × Json) :=
  [("requirePattern", .string "^(\u0001)😀(.*)"),
    ("searchPaths", .array [.string "APP/\"é\\", .string "\n日"])]

theorem settings_read_back_escaped :
    escapedSettings.HasTextWebroot ∧
    escapedSettings.HeldBy (escapedComments ++ [])
      (membersBefore ++ ("commentPattern", .object (escapedComments ++ [])) :: membersAfter) ∧
    ofText ((Json.object (membersBefore ++
      ("commentPattern", .object (escapedComments ++ [])) :: membersAfter)).text .pretty) =
        .ok escapedSettings ∧
    "searchPath" ∉ shape.fields.map (·.name) ∧
    ofText ((Json.object (membersBefore ++ ("searchPath", .null) ::
      ("commentPattern", .object (escapedComments ++ [])) :: membersAfter)).text .pretty) =
        .error (.configuration (.malformed (.unknownField "searchPath" (shape.fields.map (·.name))))) ∧
    "webroot" ∉ CommentPatterns.shape.fields.map (·.name) ∧
    ofText ((Json.object (membersBefore ++
      ("commentPattern", .object (escapedComments ++ [("webroot", .integer 0)])) ::
        membersAfter)).text .pretty) =
        .error (.configuration (.malformed
          (.unknownField "webroot" (CommentPatterns.shape.fields.map (·.name))))) := by
  have htext : escapedSettings.HasTextWebroot := by
    rintro _ ⟨⟩
    exact ⟨"/w", rfl⟩
  have hheld : escapedSettings.HeldBy (escapedComments ++ []) (membersBefore ++
      ("commentPattern", .object (escapedComments ++ [])) :: membersAfter) := by
    refine ⟨⟨by decide, ?_, ?_⟩, ⟨by decide, ?_, ?_⟩⟩ <;>
      simp [escapedSettings, escapedComments, membersBefore, membersAfter, CommentPatterns.members,
        CommentPatterns.entries, members, membersWith, entries, lossyText_textOctets]
  have hname : "searchPath" ∉ shape.fields.map (·.name) := by decide
  have hname' : "webroot" ∉ CommentPatterns.shape.fields.map (·.name) := by decide
  obtain ⟨-, hread, hunknown, hinner⟩ := settings_read_back escapedSettings .pretty htext
  exact ⟨htext, hheld, hread _ _ hheld, hname, hunknown _ _ _ "searchPath" .null hheld hname, hname',
    hinner escapedComments [] membersBefore membersAfter "webroot" (.integer 0) hheld hname'⟩

end Settings

end ScriptBundle
