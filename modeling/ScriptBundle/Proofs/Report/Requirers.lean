import ScriptBundle.Listing
import ScriptBundle.Proofs.Path.Direct
import ScriptBundle.Proofs.Report.Items
import ScriptBundle.Proofs.Search.Outcomes
import ScriptBundle.Proofs.Walk.Reachability
import ScriptBundle.Proofs.Walk.Requests

/-! # Requiring files in listings

A listing shows a file by the path of its location, but the file that requires it by the path that this one
was asked for by. Both are the same where files are spelled out by their names.
-/

namespace ScriptBundle

def Item.fact? (i : Item) (name : String) : Option Json := i.data.bind (Json.get? name)

namespace Inclusion

variable (w : Workspace) (root : Path) (algorithm : Option HashAlgorithm) {i : Inclusion}

theorem path_item (i : Inclusion) :
    (i.item w root algorithm).path = i.location.path.shown root := by
  unfold item
  split <;> rfl

theorem depth_item (i : Inclusion) :
    (i.item w root algorithm).fact? "depth" = some (.integer i.depth) := by
  unfold item Item.fact?
  split <;> simp [Json.get?_ofMembers, Json.get?_cons]

theorem requiredBy_item {o : Origin} (h : i.origin = some o) :
    (i.item w root algorithm).fact? "required_by" = some (.string (o.requiredBy.shown root)) := by
  simp [item, Item.fact?, h, Json.get?_ofMembers, Json.get?_cons]

end Inclusion

namespace Preprocessor

open Walk

/-- Every file of a bundle is spelled out by its names: there are no links, the entry and the search
directories are written with names from the root on, and the targets with names that go down from there. -/
structure SpelledOut (p : Preprocessor) (ws : Workspace) (entry : Path) (b : Bundle) : Prop where
  linkless : ws.tree.Linkless
  entry : ∃ l : Location, l.Named ∧ entry = l.path
  targets : ∀ i ∈ b.inclusions, ∀ o, i.origin = some o →
    Location.Named (Path.mk (LogicalName.fileName o.directive.target)).segments
  dirs : ∀ index, p.indexIn ws = .ok index → ∀ d ∈ index, ∃ l : Location, l.Named ∧ d.dir = l.path

variable {p : Preprocessor} {ws : Workspace} {entry q : Path} {b : Bundle} {i : Inclusion}

/-- The answer to a directive is the path of its directory with the target behind it. -/
theorem exists_named_answer {requiring : Location} {d : Directive} {mode : SourceMode}
    (hnamed : requiring.Named) (hne : requiring ≠ [])
    (htarget : Location.Named (Path.mk (LogicalName.fileName d.target)).segments)
    (hdirs : ∀ index, p.indexIn ws = .ok index → ∀ d ∈ index,
      ∃ l : Location, l.Named ∧ d.dir = l.path)
    (hr : (p.context ws).resolve d.target (d.base requiring.path) = .ok ⟨q, mode⟩) :
    ∃ l : Location, l.Named ∧ q = l.path := by
  have hrelative : (Path.mk (LogicalName.fileName d.target)).isAbsolute = false := by
    rw [Bool.eq_false_iff, Ne, Path.isAbsolute_iff]
    rintro ⟨s, rest, hs⟩
    exact absurd (htarget "" (by simp [hs])).2.1 (by decide)
  have hjoin : ∀ l : Location, l.Named →
      ∃ l' : Location, l'.Named ∧ l.path.join ⟨LogicalName.fileName d.target⟩ = l'.path := by
    intro l hl
    refine ⟨_, ?_, Location.join_path hl hrelative⟩
    intro s hs
    rcases List.mem_append.mp hs with hs | hs
    · exact hl s hs
    · exact htarget s hs
  rcases hkind : d.kind with _ | _
  · have hq : Resolver.beside d.target requiring.path.directory = ⟨q, mode⟩ := by
      simpa [context, Directive.base, hkind, Resolver.resolve] using hr
    obtain rfl := congrArg Resolved.path hq
    simp only [Resolver.beside, Location.directory_path hnamed hne]
    exact hjoin _ fun s hs => hnamed s ((List.dropLast_sublist requiring).subset hs)
  · rw [Directive.base, hkind] at hr
    obtain ⟨index, hindex, dir, hdir, rfl⟩ := exists_dir_of_resolve hr
    obtain ⟨l, hl, hpath⟩ := hdirs index hindex dir hdir
    rw [hpath]
    exact hjoin l hl

theorem SpelledOut.eq_path (h : p.SpelledOut ws entry b)
    (hq : Requested (p.context ws) entry b.inclusions i q) :
    i.location.Named ∧ q = i.location.path := by
  have key : ∀ {l : Location} {i : Inclusion}, l.Named → ws.locate l.path = .ok i.location →
      i.location.Named ∧ l.path = i.location.path := by
    intro l i hl hlocate
    rw [Workspace.eq_of_locate_path h.linkless hl hlocate]
    exact ⟨hl, rfl⟩
  induction hq with
  | argument hi ho hl =>
    obtain ⟨l, hnamed, rfl⟩ := h.entry
    exact key hnamed hl
  | @answer i parent o q hi ho hparent hd hr hl ih =>
    obtain ⟨hnamed, hpath⟩ := ih
    have hne : parent.location ≠ [] := by
      rintro hnil
      obtain ⟨lines, hlines, -⟩ := hd
      rw [hnil] at hlines
      simp [FileTree.linesAt, context, FileNode.content, Except.map] at hlines
    rw [hpath] at hr
    obtain ⟨l, hl', rfl⟩ := exists_named_answer hnamed hne (h.targets i hi o ho) h.dirs hr
    exact key hl' hl

/-- In the listing of a bundle, each item behind the first one shows as its requiring file the path by which
an earlier item was asked for that lies one level higher. This is the path that the earlier item shows if
that one was asked for by the path of its location, and so for all items if every file is spelled out. -/
theorem listing_names_requirers (p : Preprocessor) {ws : Workspace} {entry : Path} {b : Bundle}
    (hb : (p.bundle ws entry).1 = .ok b) (root : Path) (algorithm : Option HashAlgorithm) :
    ∀ k item, (b.report ws root algorithm)[k]? = some item → 0 < k →
      ∃ m parent earlier q, ∃ d : Nat, m < k ∧ b.inclusions[m]? = some parent ∧
        (b.report ws root algorithm)[m]? = some earlier ∧
        earlier.path = parent.location.path.shown root ∧
        Requested (p.context ws) entry b.inclusions parent q ∧
        item.fact? "required_by" = some (.string (q.shown root)) ∧
        earlier.fact? "depth" = some (.integer d) ∧ item.fact? "depth" = some (.integer (d + 1)) ∧
        (q = parent.location.path ∨ p.SpelledOut ws entry b →
          item.fact? "required_by" = some (.string earlier.path)) := by
  intro k item hitem hk
  obtain ⟨-, rfl⟩ := bundle_eq_ok_iff.mp hb
  rw [Bundle.report, List.getElem?_map] at hitem
  obtain ⟨i, hi, rfl⟩ := Option.map_eq_some_iff.mp hitem
  obtain ⟨m, parent, o, hparent, hm, ho, hrequested⟩ := process_names_parents (p.context ws) entry hi hk
  obtain ⟨parent', i', hparent', hi', hdepth⟩ := hparent.level
  obtain rfl : parent = parent' := Option.some.inj (hm.symm.trans hparent')
  obtain rfl : i = i' := Option.some.inj (hi.symm.trans hi')
  have hpath := parent.path_item ws root algorithm
  have hrequirer := Inclusion.requiredBy_item ws root algorithm ho
  refine ⟨m, parent, parent.item ws root algorithm, o.requiredBy, parent.depth, hparent.before, hm, ?_,
    hpath, hrequested, hrequirer, parent.depth_item ws root algorithm, ?_, ?_⟩
  · rw [Bundle.report, List.getElem?_map, hm]
    rfl
  · rw [Inclusion.depth_item, hdepth]
    rfl
  · intro hspelled
    have hq : o.requiredBy = parent.location.path := by
      rcases hspelled with hq | hspelled
      · exact hq
      · exact (hspelled.eq_path hrequested).2
    rw [hrequirer, hpath, hq]

def chainFiles : Workspace where
  tree := ⟨[(["js"], .directory), (["js", "a.js"], .file (textOctets "#sub/b\n") 0),
    (["js", "sub"], .directory), (["js", "sub", "b.js"], .file (textOctets "#c\n") 0),
    (["js", "sub", "c.js"], .file [] 0)]⟩

def chainBundle : Bundle where
  output := "\n\n\n"
  inclusions := [⟨["js", "a.js"], none, 0⟩,
    ⟨["js", "sub", "b.js"], some ⟨⟨.quoted, "sub/b"⟩, ⟨"/js/a.js"⟩, 1, .relative⟩, 1⟩,
    ⟨["js", "sub", "c.js"], some ⟨⟨.quoted, "c"⟩, ⟨"/js/sub/b.js"⟩, 1, .relative⟩, 2⟩]

theorem spelledOut_chain :
    quotingPreprocessor.SpelledOut chainFiles ⟨"/js/a.js"⟩ chainBundle where
  linkless := linkless_of_nodes (by simp [chainFiles])
  entry := ⟨["js", "a.js"], by decide, rfl⟩
  targets := by
    intro i hi o ho
    have hall : ∀ o ∈ chainBundle.inclusions.filterMap (·.origin),
        Location.Named (Path.mk (LogicalName.fileName o.directive.target)).segments := by
      decide +kernel
    exact hall o (List.mem_filterMap.mpr ⟨i, hi, ho⟩)
  dirs := by
    rintro index ⟨⟩ d hd
    cases hd

/-- The requiring file of the last item is the second item, under the same path. -/
theorem listing_names_requirers_chain :
    (quotingPreprocessor.bundle chainFiles ⟨"/js/a.js"⟩).1 = .ok chainBundle ∧
    quotingPreprocessor.SpelledOut chainFiles ⟨"/js/a.js"⟩ chainBundle ∧
    ∃ item, (chainBundle.report chainFiles ⟨"/"⟩ none)[2]? = some item ∧
      ∃ m earlier, m < 2 ∧ (chainBundle.report chainFiles ⟨"/"⟩ none)[m]? = some earlier ∧
        item.fact? "required_by" = some (.string earlier.path) := by
  have hb : (quotingPreprocessor.bundle chainFiles ⟨"/js/a.js"⟩).1 = .ok chainBundle := by
    decide +kernel
  obtain ⟨m, parent, earlier, q, d, hm, -, hearlier, -, -, -, -, -, hsame⟩ :=
    listing_names_requirers quotingPreprocessor hb ⟨"/"⟩ none 2 _ rfl (by decide)
  exact ⟨hb, spelledOut_chain, _, rfl, m, earlier, hm, hearlier, hsame (Or.inr spelledOut_chain)⟩

def dottedFiles : Workspace where
  tree := ⟨[(["js"], .directory), (["js", "a.js"], .file (textOctets "#./b\n") 0),
    (["js", "b.js"], .file (textOctets "#c\n") 0), (["js", "c.js"], .file [] 0)]⟩

def dottedBundle : Bundle where
  output := "\n\n\n"
  inclusions := [⟨["js", "a.js"], none, 0⟩,
    ⟨["js", "b.js"], some ⟨⟨.quoted, "./b"⟩, ⟨"/js/a.js"⟩, 1, .relative⟩, 1⟩,
    ⟨["js", "c.js"], some ⟨⟨.quoted, "c"⟩, ⟨"/js/./b.js"⟩, 1, .relative⟩, 2⟩]

theorem bundle_dotted : (quotingPreprocessor.bundle dottedFiles ⟨"/js/a.js"⟩).1 = .ok dottedBundle := by
  decide +kernel

/-- The third item shows its requiring file with the dot, which no item shows as its path. -/
theorem listing_shows_dot :
    (quotingPreprocessor.bundle dottedFiles ⟨"/js/a.js"⟩).1 = .ok dottedBundle ∧
    ¬∀ k item, (dottedBundle.report dottedFiles ⟨"/"⟩ none)[k]? = some item → 0 < k →
      ∃ m earlier, ∃ d : Nat, m < k ∧ (dottedBundle.report dottedFiles ⟨"/"⟩ none)[m]? = some earlier ∧
        item.fact? "required_by" = some (.string earlier.path) ∧
        earlier.fact? "depth" = some (.integer d) ∧
        item.fact? "depth" = some (.integer (d + 1)) := by
  refine ⟨bundle_dotted, fun h => ?_⟩
  obtain ⟨m, earlier, -, -, hearlier, hrequirer, -⟩ := h 2 _ rfl (by decide)
  have hpaths : (dottedBundle.report dottedFiles ⟨"/"⟩ none).map (·.path) =
      ["js/a.js", "js/b.js", "js/c.js"] := by decide +kernel
  have hshown : (Path.mk "/js/./b.js").shown ⟨"/"⟩ = "js/./b.js" := by decide +kernel
  rw [Inclusion.requiredBy_item dottedFiles ⟨"/"⟩ none rfl, hshown] at hrequirer
  have hmem := List.mem_map_of_mem (List.mem_of_getElem? hearlier) (f := Item.path)
  rw [hpaths, ← Json.string.inj (Option.some.inj hrequirer)] at hmem
  exact absurd hmem (by decide)

end Preprocessor

end ScriptBundle
