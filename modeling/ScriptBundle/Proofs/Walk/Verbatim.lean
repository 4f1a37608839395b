import ScriptBundle.Proofs.Text.Units
import ScriptBundle.Proofs.Walk.Flattening

/-! # Files that are put out as they stand

A file is read in lines, and each line is decoded by itself. Main statement: a file without directives comes
out as the text of all its octets, so that it comes out unchanged if it is UTF-8.
-/

namespace ScriptBundle

open Utf8 in
theorem textOctets_lossyText {octets : Octets} {cs : List Char} (h : decode? octets = some cs) :
    octets.lossyText = String.ofList cs ∧ textOctets octets.lossyText = octets := by
  obtain rfl := decode?_eq_some_iff.mp h
  have htext : (encode cs).lossyText = String.ofList cs := by
    rw [Octets.lossyText, decodeLossy_encode]
  refine ⟨htext, ?_⟩
  rw [htext, textOctets, String.toList_ofList]

namespace Preprocessor

theorem bundle_verbatim {p : Preprocessor} {w : Workspace} {entry : Path} {l : Location}
    {octets : Octets} {modified : Int} (hp : p.stripper = none) (hl : w.locate entry = .ok l)
    (hfile : w.tree.node? l = some (.file octets modified))
    (hplain : ∀ line ∈ textLines octets, p.matcher line = none) :
    (p.bundle w entry).1 = .ok ⟨octets.lossyText ++ "\n", [⟨l, none, 0⟩]⟩ := by
  have hread : (p.context w).workspace.tree.linesAt l = .ok (textLines octets) := by
    have hnode : (p.context w).workspace.tree.node? l = some (.file octets modified) := hfile
    rw [FileTree.linesAt, hnode]
    rfl
  have hkept : ∀ line ∈ textLines octets, (p.context w).strip line .code = (some line, .code) := by
    intro line _
    have hcontext : (p.context w).stripper = none := hp
    rw [WalkContext.strip, hcontext]
  rw [← join_textLines]
  exact bundle_eq_ok_iff.mpr (Walk.process_verbatim hl hread hplain hkept)

/-- Octets that are cut behind their line feeds and decoded line by line give the text of all of them, in
which each gap between characters is one replacement character. So a file in which no line is a directive
comes out as this text with a separator behind it, if nothing is stripped, and octet by octet as it is if it
is UTF-8. -/
theorem line_reading_keeps_text (octets : Octets) :
    (octetLines octets).flatten = octets ∧
    String.join ((octetLines octets).map Octets.lossyText) = octets.lossyText ∧
    (∃ units, Utf8.Units octets units ∧ (∀ other, Utf8.Units octets other → other = units) ∧
      octets.lossyText = String.ofList (units.map (·.getD '\uFFFD'))) ∧
    ∀ (p : Preprocessor) (w : Workspace) (entry : Path) (l : Location) (modified : Int),
      p.stripper = none → w.locate entry = .ok l → w.tree.node? l = some (.file octets modified) →
      (∀ line ∈ textLines octets, p.matcher line = none) → ∃ b, (p.bundle w entry).1 = .ok b ∧
        b.output = octets.lossyText ++ "\n" ∧
        ∀ cs, Utf8.decode? octets = some cs →
          b.output = String.ofList cs ++ "\n" ∧ textOctets b.output = octets ++ [lineFeed] := by
  refine ⟨flatten_octetLines octets, join_textLines octets, ?_, ?_⟩
  · exact ⟨_, Utf8.units_iff.mpr rfl, fun other h => Utf8.units_iff.mp h, rfl⟩
  · intro p w entry l modified hp hl hfile hplain
    refine ⟨_, bundle_verbatim hp hl hfile hplain, rfl, ?_⟩
    intro cs hcs
    obtain ⟨htext, hoctets⟩ := textOctets_lossyText hcs
    refine ⟨by rw [htext], ?_⟩
    have hback : textOctets (octets.lossyText ++ "\n") =
        textOctets octets.lossyText ++ textOctets "\n" := by
      rw [textOctets, String.toList_append, Utf8.encode_append]
      rfl
    rw [hback, hoctets]
    rfl

/-- The first two of the three octets of a character, a line feed, a whole character and an octet that no
character has. -/
def cutOctets : Octets := [0x61, 0xE6, 0x97, 0x0A, 0xC3, 0xA9, 0xFF]

def verbatimFiles : Workspace where
  tree := ⟨[(["cut.js"], .file cutOctets 0), (["whole.js"], .file (textOctets "é\n日") 0)]⟩

def unstripping : Preprocessor where
  searchPaths := ["APP"]
  roots := ⟨⟨"/"⟩, ⟨"/"⟩⟩
  matcher := .ofMarker "#" .quoted
  stripper := none
  carry := true

theorem line_reading_keeps_text_cut :
    (unstripping.stripper = none ∧ verbatimFiles.locate ⟨"/cut.js"⟩ = .ok ["cut.js"] ∧
      verbatimFiles.locate ⟨"/whole.js"⟩ = .ok ["whole.js"]) ∧
    (octetLines cutOctets = [[0x61, 0xE6, 0x97, 0x0A], [0xC3, 0xA9, 0xFF]] ∧
      (∃ units, Utf8.Units cutOctets units ∧ cutOctets.lossyText =
        String.ofList (units.map (·.getD '\uFFFD'))) ∧
      cutOctets.lossyText = "a\uFFFD\né\uFFFD" ∧
      ∃ b, (unstripping.bundle verbatimFiles ⟨"/cut.js"⟩).1 = .ok b ∧
        b.output = "a\uFFFD\né\uFFFD\n") ∧
    ∃ b, (unstripping.bundle verbatimFiles ⟨"/whole.js"⟩).1 = .ok b ∧ b.output = "é\n日\n" ∧
      textOctets b.output = textOctets "é\n日" ++ [lineFeed] := by
  have hcut : verbatimFiles.locate ⟨"/cut.js"⟩ = .ok ["cut.js"] := by decide +kernel
  have hwhole : verbatimFiles.locate ⟨"/whole.js"⟩ = .ok ["whole.js"] := by decide +kernel
  have htext : cutOctets.lossyText = "a\uFFFD\né\uFFFD" := by decide +kernel
  refine ⟨⟨rfl, hcut, hwhole⟩, ⟨by decide +kernel, ?_, htext, ?_⟩, ?_⟩
  · obtain ⟨-, -, ⟨units, hunits, -, hlossy⟩, -⟩ := line_reading_keeps_text cutOctets
    exact ⟨units, hunits, hlossy⟩
  · obtain ⟨-, -, -, hbundle⟩ := line_reading_keeps_text cutOctets
    obtain ⟨b, hb, houtput, -⟩ := hbundle unstripping verbatimFiles ⟨"/cut.js"⟩ _ 0 rfl hcut
      (by decide +kernel) (by decide +kernel)
    exact ⟨b, hb, by rw [houtput, htext]; decide +kernel⟩
  · obtain ⟨-, -, -, hbundle⟩ := line_reading_keeps_text (textOctets "é\n日")
    obtain ⟨b, hb, -, hvalid⟩ := hbundle unstripping verbatimFiles ⟨"/whole.js"⟩ _ 0 rfl hwhole
      (by decide +kernel) (by decide +kernel)
    obtain ⟨houtput, hoctets⟩ := hvalid ['é', '\n', '日'] (by decide +kernel)
    exact ⟨b, hb, by rw [houtput]; decide +kernel, hoctets⟩

end Preprocessor

end ScriptBundle
