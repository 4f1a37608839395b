import Mathlib.Data.List.Induction
import ScriptBundle.Listing
import ScriptBundle.Proofs.Search.Files
import ScriptBundle.Proofs.Text.Order

/-! # The listing of the search directories

The files of all search directories are shown in one list. Main statement: it has each name in each
directory once, if the name is UTF-8, in the order of the paths that are shown, so that only items of one
path can tell in which order the directories are configured.
-/

namespace ScriptBundle

section

variable {α : Type} (key : α → String) {xs : List α}

theorem key_le_trans (a b c : α) (hab : decide (key a ≤ key b)) (hbc : decide (key b ≤ key c)) :
    decide (key a ≤ key c) :=
  decide_eq_true (String.le_trans (of_decide_eq_true hab) (of_decide_eq_true hbc))

theorem key_le_total (a b : α) : decide (key a ≤ key b) || decide (key b ≤ key a) := by
  simpa using String.le_total (key a) (key b)

/-- Sorting keeps the elements of each key in their order. -/
theorem filter_mergeSort_key (xs : List α) (k : String) :
    (xs.mergeSort fun a b => key a ≤ key b).filter (key · == k) = xs.filter (key · == k) := by
  have hsame : (xs.filter (key · == k)).Pairwise fun a b => decide (key a ≤ key b) = true := by
    refine List.pairwise_of_forall_mem_list fun a ha b hb => ?_
    rw [eq_of_beq (List.mem_filter.mp ha).2, eq_of_beq (List.mem_filter.mp hb).2]
    exact decide_eq_true (String.le_refl k)
  have hsublist : (xs.filter (key · == k)).Sublist (xs.mergeSort fun a b => key a ≤ key b) :=
    List.sublist_mergeSort (key_le_trans key) (key_le_total key) hsame List.filter_sublist
  have hfiltered := hsublist.filter (key · == k)
  rw [List.filter_filter, funext fun x => Bool.and_self (key x == k)] at hfiltered
  have hperm := (List.mergeSort_perm xs fun a b => key a ≤ key b).filter (key · == k)
  exact (hfiltered.eq_of_length hperm.length_eq.symm).symm

/-- Elements that are sorted by a key are in the order of their keys, and where the keys agree they are as
they were before. -/
theorem pairwise_mergeSort_key {P : α → α → Prop} (h : xs.Pairwise P) :
    (xs.mergeSort fun a b => key a ≤ key b).Pairwise fun a b =>
      key a < key b ∨ key a = key b ∧ P a b := by
  rw [List.pairwise_iff_forall_sublist]
  intro a b hab
  have hsorted := List.pairwise_mergeSort (key_le_trans key) (key_le_total key) xs
  have hle := of_decide_eq_true (List.pairwise_iff_forall_sublist.mp hsorted hab)
  by_cases hlt : key a < key b
  · exact Or.inl hlt
  · have heq : key a = key b := String.le_antisymm hle (String.not_lt.mp hlt)
    have hsame := hab.filter (key · == key b)
    rw [filter_mergeSort_key] at hsame
    simp only [heq, beq_self_eq_true, List.filter_cons_of_pos, List.filter_nil] at hsame
    exact Or.inr ⟨heq, List.pairwise_iff_forall_sublist.mp h (hsame.trans List.filter_sublist)⟩

end

/-- Without its repetitions a list is in the order of the first places. -/
theorem pairwise_idxOf_eraseDups {α : Type} [BEq α] [LawfulBEq α] (xs : List α) :
    xs.eraseDups.Pairwise fun a b => xs.idxOf a < xs.idxOf b := by
  induction xs using List.reverseRecOn with
  | nil => exact List.Pairwise.nil
  | append_singleton xs x ih =>
    have hfront : xs.eraseDups.Pairwise fun a b => (xs ++ [x]).idxOf a < (xs ++ [x]).idxOf b := by
      refine ih.imp_of_mem fun {a b} ha hb hlt => ?_
      rw [List.mem_eraseDups] at ha hb
      rwa [List.idxOf_append_of_mem ha, List.idxOf_append_of_mem hb]
    rw [List.eraseDups_append]
    by_cases hx : x ∈ xs
    · simpa [List.removeAll, hx] using hfront
    · have hnew : ([x].removeAll xs).eraseDups = [x] := by simp [List.removeAll, hx, List.eraseDups_cons]
      rw [hnew, List.pairwise_append]
      refine ⟨hfront, List.pairwise_singleton _ _, fun a ha b hb => ?_⟩
      rw [List.mem_eraseDups] at ha
      rw [List.mem_singleton.mp hb, List.idxOf_append_of_mem ha, List.idxOf_append_of_notMem hx]
      exact Nat.lt_add_right _ (List.idxOf_lt_length_of_mem ha)

namespace FileTree

variable {t : FileTree} {l : Location}

theorem Proper.nodup_entries (h : t.Proper) (l : Location) : ((t.entries l).map (·.1)).Nodup := by
  have hnames : (t.entries l).map (·.1) = (t.nodes.map (·.1)).filterMap fun place =>
      place.getLast?.bind fun name => if place.dropLast == l then some name else none := by
    rw [entries, List.map_filterMap, List.filterMap_map]
    congr 1
    funext e
    rw [Function.comp_apply]
    rcases e.1.getLast? with _ | name
    · rfl
    · dsimp only [Option.bind_some]
      split <;> rfl
  rw [hnames]
  refine List.Nodup.filterMap ?_ h.once
  -- A place is told by the directory that it is in and by its name.
  have hplace : ∀ (place : Location) (name : RawText), (place.getLast?.bind fun name =>
      if place.dropLast == l then some name else none) = some name → place = l ++ [name] := by
    intro place name hname
    obtain ⟨last, hlast, hif⟩ := Option.bind_eq_some_iff.mp hname
    split at hif
    next hdir =>
      cases hif
      rw [← eq_of_beq hdir]
      exact (List.dropLast_append_getLast? _ hlast).symm
    next => cases hif
  intro place other name hname hother
  rw [hplace place name hname, hplace other name hother]

end FileTree

namespace SearchIndex

variable {w : Workspace} {index : SearchIndex} {searchPaths other : List String} {roots : Roots}
  {dir : Path} {name : RawText} {r : Report}

def listing (index : SearchIndex) : List (Path × RawText) :=
  index.flatMap fun d => d.files.map fun file => (d.dir, textOctets file)

def listedItem (w : Workspace) (root : Path) (entry : Path × RawText) : Item :=
  let path := entry.1.join ⟨entry.2⟩
  { kind := .file, path := path.shown root, mode := .index, facts := w.fileMeta path none }

theorem flatMap_items (w : Workspace) (root : Path) (index : SearchIndex) :
    index.flatMap (items w root) = index.listing.map (listedItem w root) := by
  rw [listing, List.map_flatMap]
  congr 1
  funext d
  rw [List.map_map]
  rfl

theorem report_eq_ok_iff : report w searchPaths roots = .ok r ↔
    ∃ index, build w searchPaths roots = .ok index ∧
      r = (index.listing.map (listedItem w roots.app)).mergeSort fun a b => a.path ≤ b.path := by
  unfold report
  rcases build w searchPaths roots with e | index
  · simp [bind, Except.bind]
  · simp only [bind, Except.bind, pure, Except.pure, flatMap_items, Report.sorted, Except.ok.injEq,
      exists_eq_left']
    exact eq_comm

theorem mem_listing_iff (h : build w searchPaths roots = .ok index) : (dir, name) ∈ index.listing ↔
    dir ∈ searchPaths.map roots.substitute ∧ w.hasEntry dir name ∧ name.text? ≠ none := by
  have hlisted : ∀ d ∈ index, ∀ file : String, file ∈ d.files ↔ w.hasEntry d.dir file := by
    intro d hd file
    rw [← contains_listFiles (listedIn_of_build h d hd), List.contains_iff_mem]
  have hdirs : dir ∈ searchPaths.map roots.substitute ↔ dir ∈ index.map (·.dir) := by
    rw [map_dir_of_build h, List.mem_eraseDups]
  rw [hdirs, listing, List.mem_flatMap, List.mem_map, Option.ne_none_iff_exists']
  constructor
  · rintro ⟨d, hd, hmem⟩
    obtain ⟨file, hfile, heq⟩ := List.mem_map.mp hmem
    cases heq
    exact ⟨⟨d, hd, rfl⟩, (hlisted d hd file).mp hfile, file, Octets.text?_eq_some_iff.mpr rfl⟩
  · rintro ⟨⟨d, hd, rfl⟩, hentry, file, hfile⟩
    obtain rfl := Octets.text?_eq_some_iff.mp hfile
    exact ⟨d, hd, List.mem_map.mpr ⟨file, (hlisted d hd file).mpr hentry, rfl⟩⟩

theorem nodup_fileNames {entries : List (RawText × FileNode)} (h : (entries.map (·.1)).Nodup) :
    (fileNames entries).Nodup := by
  have hnames : (entries.filter fun e => isListed e.2).filterMap (·.1.text?) =
      ((entries.filter fun e => isListed e.2).map (·.1)).filterMap Octets.text? := by
    rw [List.filterMap_map]
    rfl
  rw [fileNames, (List.mergeSort_perm _ _).nodup_iff, hnames]
  refine List.Nodup.filterMap ?_ (h.sublist (List.filter_sublist.map _))
  intro a b file ha hb
  rw [Octets.text?_eq_some_iff.mp ha, Octets.text?_eq_some_iff.mp hb]

theorem nodup_listing (hw : w.tree.Proper) (h : build w searchPaths roots = .ok index) :
    index.listing.Nodup := by
  have hdirs : (index.map (·.dir)).Nodup := by
    rw [map_dir_of_build h]
    exact nodup_eraseDups _
  rw [listing, List.nodup_flatMap]
  constructor
  · intro d hd
    obtain ⟨-, l, -, hfiles⟩ := listFiles_eq_ok_iff.mp (listedIn_of_build h d hd)
    have hnames : d.files.Nodup := by
      rw [hfiles]
      exact nodup_fileNames (hw.nodup_entries l)
    exact hnames.map fun a b hab => textOctets_inj.mp (congrArg Prod.snd hab)
  · refine (List.pairwise_map.mp hdirs).imp fun {d e} hne => ?_
    intro entry hd he
    obtain ⟨_, -, rfl⟩ := List.mem_map.mp hd
    obtain ⟨_, -, heq⟩ := List.mem_map.mp he
    exact hne (congrArg Prod.fst heq).symm

theorem pairwise_listing (h : build w searchPaths roots = .ok index) :
    index.listing.Pairwise fun a b =>
      (searchPaths.map roots.substitute).idxOf a.1 ≤ (searchPaths.map roots.substitute).idxOf b.1 := by
  have hdirs := pairwise_idxOf_eraseDups (searchPaths.map roots.substitute)
  rw [← map_dir_of_build h, List.pairwise_map] at hdirs
  rw [listing, List.pairwise_flatMap]
  constructor
  · intro d hd
    rw [List.pairwise_map]
    exact List.pairwise_of_forall fun _ _ => Nat.le_refl _
  · refine hdirs.imp fun {d e} hlt => ?_
    simp only [List.forall_mem_map]
    exact fun _ _ _ _ => Nat.le_of_lt hlt

/-- The bare paths of the listing do not depend on the order of the directories. -/
theorem text_raw_eq_of_perm {r' : Report} {other : SearchIndex} (hperm : index.listing.Perm other.listing)
    (hr : r = (index.listing.map (listedItem w roots.app)).mergeSort fun a b => a.path ≤ b.path)
    (hr' : r' = (other.listing.map (listedItem w roots.app)).mergeSort fun a b => a.path ≤ b.path)
    (layout : Json.Layout) : r'.text layout .raw = r.text layout .raw := by
  have hpaths : ∀ items : Report, (items.mergeSort fun a b => a.path ≤ b.path).map (·.path) =
      (items.map (·.path)).mergeSort (· ≤ ·) := by
    intro items
    exact List.map_mergeSort fun _ _ _ _ => rfl
  have hsame := mergeSort_eq_of_perm ((hperm.map (listedItem w roots.app)).map (·.path))
  rw [← hpaths, ← hpaths, ← hr, ← hr'] at hsame
  rw [Report.text, Report.text, hsame]

/-- If the listing can be made, it has one item for each name that a directory lists and no others: the names
of what is directly inside of it and no directory, as far as they are UTF-8. The items are in the order of the
octets of the paths that are shown, and those of one path in the order of their directories. The same
directories in any other order, or named again, give the same bare paths. -/
theorem report_lists_search_directories (w : Workspace) (searchPaths : List String) (roots : Roots)
    (r : Report) (hw : w.tree.Proper) (h : report w searchPaths roots = .ok r) :
    (∃ entries : List (Path × RawText),
      entries.Nodup ∧
      (∀ dir name, (dir, name) ∈ entries ↔ dir ∈ searchPaths.map roots.substitute ∧
        (∃ l n, w.locate dir = .ok l ∧ w.tree.node? (l ++ [name]) = some n ∧ n ≠ .directory) ∧
        name.text? ≠ none) ∧
      r = entries.map (listedItem w roots.app) ∧
      entries.Pairwise fun a b =>
        textOctets (listedItem w roots.app a).path < textOctets (listedItem w roots.app b).path ∨
        (listedItem w roots.app a).path = (listedItem w roots.app b).path ∧
          (searchPaths.map roots.substitute).idxOf a.1 ≤
            (searchPaths.map roots.substitute).idxOf b.1) ∧
    ∀ other, (∀ s, s ∈ other ↔ s ∈ searchPaths) → ∃ r', report w other roots = .ok r' ∧
      ∀ layout, r'.text layout .raw = r.text layout .raw := by
  obtain ⟨index, hbuild, hr⟩ := report_eq_ok_iff.mp h
  constructor
  · refine ⟨index.listing.mergeSort fun a b =>
      (listedItem w roots.app a).path ≤ (listedItem w roots.app b).path, ?_, ?_, ?_, ?_⟩
    · rw [(List.mergeSort_perm _ _).nodup_iff]
      exact nodup_listing hw hbuild
    · intro dir name
      rw [List.mem_mergeSort, mem_listing_iff hbuild, Workspace.hasEntry_iff]
      simp only [FileTree.mem_entries_iff, hw.node?_iff (List.append_ne_nil_of_right_ne_nil _
        (List.cons_ne_nil name []))]
    · rw [hr]
      symm
      exact List.map_mergeSort fun _ _ _ _ => rfl
    · refine (pairwise_mergeSort_key (fun a => (listedItem w roots.app a).path)
        (pairwise_listing hbuild)).imp fun {a b} hab => ?_
      rwa [textOctets_lt_iff]
  · intro other hother
    have hdirs : ∀ dir, dir ∈ other.map roots.substitute ↔ dir ∈ searchPaths.map roots.substitute := by
      intro dir
      simp only [List.mem_map, hother]
    obtain ⟨index', hbuild'⟩ : ∃ index', build w other roots = .ok index' := by
      rw [exists_build_iff]
      intro dir hdir
      exact exists_build_iff.mp ⟨index, hbuild⟩ dir ((hdirs dir).mp hdir)
    have hperm : index.listing.Perm index'.listing := by
      rw [List.perm_ext_iff_of_nodup (nodup_listing hw hbuild) (nodup_listing hw hbuild')]
      intro entry
      rw [mem_listing_iff hbuild, mem_listing_iff hbuild', hdirs]
    exact ⟨_, report_eq_ok_iff.mpr ⟨index', hbuild', rfl⟩, text_raw_eq_of_perm hperm hr rfl⟩

/-- A file with a backslash in its name is shown as the file of a directory below. -/
def backslashName : Workspace where
  tree := ⟨[(["a"], .directory), (["a", "b"], .directory), (["a", "b", "c.js"], .file [0x20] 0),
    (["a", "b\\c.js"], .file [] 0), (["a", "é.js"], .link ⟨"gone"⟩), (["a", "d"], .directory),
    (["a", "e.js"], .file [] 0), (["a", textOctets "é.js" ++ [0xFF]], .file [] 0)]⟩

theorem report_lists_search_directories_backslash :
    backslashName.tree.Proper ∧
    ∃ r, report backslashName ["APP/a/b", "APP/a", "APP//a/b"] (.ofApp ⟨"/"⟩) = .ok r ∧
      (∃ entries : List (Path × RawText), r = entries.map (listedItem backslashName ⟨"/"⟩) ∧
        (Path.mk "/a/b", textOctets "c.js") ∈ entries ∧ (Path.mk "/a", textOctets "b\\c.js") ∈ entries ∧
        (Path.mk "/a", textOctets "é.js") ∈ entries ∧ (Path.mk "/a", textOctets "d") ∉ entries) ∧
      (listedItem backslashName ⟨"/"⟩ (⟨"/a/b"⟩, "c.js")).path = "a/b/c.js" ∧
      (listedItem backslashName ⟨"/"⟩ (⟨"/a"⟩, "b\\c.js")).path = "a/b/c.js" ∧
      ∃ r', report backslashName ["APP/a", "APP//a/b", "APP/a", "APP/a/b"] (.ofApp ⟨"/"⟩) = .ok r' ∧
        r'.text .compact .raw = r.text .compact .raw := by
  have hproper : backslashName.tree.Proper := ⟨by decide, by decide +kernel⟩
  obtain ⟨index, hbuild⟩ : ∃ index, build backslashName ["APP/a/b", "APP/a", "APP//a/b"]
      (.ofApp ⟨"/"⟩) = .ok index := exists_build_iff.mpr (by decide +kernel)
  have hreport := report_eq_ok_iff.mpr ⟨index, hbuild, rfl⟩
  obtain ⟨⟨entries, -, hmem, hitems, -⟩, hother⟩ := report_lists_search_directories backslashName
    ["APP/a/b", "APP/a", "APP//a/b"] (.ofApp ⟨"/"⟩) _ hproper hreport
  have hdir : backslashName.locate ⟨"/a"⟩ = .ok (["a"] : Location) := by decide +kernel
  refine ⟨hproper, _, hreport, ⟨entries, hitems, ?_, ?_, ?_, ?_⟩, by decide +kernel, by decide +kernel, ?_⟩
  · exact (hmem _ _).mpr ⟨by decide +kernel, ⟨(["a", "b"] : Location), .file [0x20] 0, by decide +kernel,
      by decide +kernel, by decide⟩, by decide +kernel⟩
  · exact (hmem _ _).mpr ⟨by decide +kernel, ⟨_, .file [] 0, hdir, by decide +kernel, by decide⟩,
      by decide +kernel⟩
  · exact (hmem _ _).mpr ⟨by decide +kernel, ⟨_, .link ⟨"gone"⟩, hdir, by decide +kernel, by decide⟩,
      by decide +kernel⟩
  · rw [hmem]
    rintro ⟨-, ⟨l, n, hl, hn, hne⟩, -⟩
    cases hdir.symm.trans hl
    have hd : backslashName.tree.node? ((["a"] : Location) ++ [textOctets "d"]) = some .directory := by
      decide +kernel
    exact hne (Option.some.inj (hn.symm.trans hd))
  · have hsame : ∀ s, s ∈ ["APP/a", "APP//a/b", "APP/a", "APP/a/b"] ↔
        s ∈ ["APP/a/b", "APP/a", "APP//a/b"] := by
      intro s
      simp only [List.mem_cons, List.not_mem_nil]
      tauto
    obtain ⟨r', hr', htext⟩ := hother _ hsame
    exact ⟨r', hr', htext .compact⟩

def unreadableName : Workspace where
  tree := ⟨[(["a.js"], .file [] 0), ([0xFF :: textOctets ".js"], .file [] 0)]⟩

theorem report_leaves_out_names :
    unreadableName.tree.Proper ∧
    (∀ name ∈ [textOctets "a.js", 0xFF :: textOctets ".js"],
      unreadableName.tree.node? [name] = some (.file [] 0)) ∧
    (Roots.ofApp ⟨"/"⟩).substitute "APP" = ⟨"/"⟩ ∧ unreadableName.locate ⟨"/"⟩ = .ok [] ∧
    ∃ r, report unreadableName ["APP"] (.ofApp ⟨"/"⟩) = .ok r ∧ r.map (·.path) = ["a.js"] := by
  refine ⟨⟨by decide, by decide +kernel⟩, by decide +kernel, by decide +kernel, by decide +kernel, ?_⟩
  have hpaths : (report unreadableName ["APP"] (.ofApp ⟨"/"⟩)).toOption.map (·.map (·.path)) =
      some ["a.js"] := by decide +kernel
  obtain ⟨r, hr, hpath⟩ := Option.map_eq_some_iff.mp hpaths
  rcases hreport : report unreadableName ["APP"] (.ofApp ⟨"/"⟩) with _ | r'
  · rw [hreport] at hr
    cases hr
  · rw [hreport] at hr
    cases hr
    exact ⟨r, rfl, hpath⟩

end SearchIndex

end ScriptBundle
