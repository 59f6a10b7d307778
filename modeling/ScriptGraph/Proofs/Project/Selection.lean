import Mathlib.Data.List.Lex
import ScriptGraph.Proofs.Path.Relative
import ScriptGraph.Proofs.Project.Discovery

/-!
# Which scripts are discovered

The scripts of a project are the files of four extensions that no ignore file
and no hidden name keeps from the walk, that lie in no directory of dependencies
and that no pattern excludes. They come in the order of their paths, which goes
by components. A pattern is tried on the path as the walk goes it: below a root
that is given by a relative path, that is no absolute path.
-/

namespace ScriptGraph

/-! ## The order of paths -/

namespace Component

def rank : Component → Nat
  | .root => 0
  | .here => 1
  | .parent => 2
  | .name _ => 3

/-- One component comes before another: names go by their characters, all else by its sort. -/
def Before : Component → Component → Prop
  | .name chars, .name others => chars < others
  | part, other => part.rank < other.rank

theorem not_before_self (part : Component) : ¬ part.Before part := by
  cases part with
  | name chars => exact List.lt_irrefl chars
  | root | here | parent => exact Nat.lt_irrefl _

end Component

namespace Path

/-- One path comes before another: by the first component that differs, and a beginning before
what it begins. -/
def Precedes (path other : String) : Prop :=
  List.Lex Component.Before (components path.toList) (components other.toList)

theorem Precedes.ne {path other : String} (h : Precedes path other) : path ≠ other := by
  rintro rfl
  exact List.lex_irrefl Component.not_before_self _ h

def IsAbsolute (path : String) : Prop := (components path.toList).head? = some .root

instance (path : String) : Decidable (IsAbsolute path) := inferInstanceAs (Decidable (_ = _))

/-- Names that are joined to a root do not change where the path starts. -/
theorem isAbsolute_join (root : String) {names : List String}
    (hnames : ∀ name ∈ names, IsName name) :
    IsAbsolute (join root ("/".intercalate names)) ↔ IsAbsolute root := by
  rw [IsAbsolute, IsAbsolute, components_join root hnames]
  cases components root.toList with
  | nil => cases names <;> simp
  | cons part parts => rfl

/-! ## The names of scripts -/

theorem nameExtension?_eq_some_iff {name extension : List Char} :
    nameExtension? name = some extension ↔
      ∃ stem, stem ≠ [] ∧ '.' ∉ extension ∧ name = stem ++ '.' :: extension := by
  constructor
  · intro h
    unfold nameExtension? at h
    dsimp only at h
    split at h
    · cases h
    · cases h
    · rename_i dot last rest hback
      obtain rfl := Option.some.inj h
      have hdot : dot = '.' := by
        have hhead := List.head?_dropWhile_not (fun c : Char => decide (c ≠ '.')) name.reverse
        rw [hback] at hhead
        simpa using hhead
      refine ⟨(last :: rest).reverse, by simp, ?_, ?_⟩
      · intro hmem
        have hne := List.mem_takeWhile_imp (List.mem_reverse.mp hmem)
        simp at hne
      · calc name = (name.reverse.takeWhile (fun c => decide (c ≠ '.')) ++
              name.reverse.dropWhile (fun c => decide (c ≠ '.'))).reverse := by
              rw [List.takeWhile_append_dropWhile, List.reverse_reverse]
          _ = (last :: rest).reverse ++
              '.' :: (name.reverse.takeWhile fun c => decide (c ≠ '.')).reverse := by
              rw [hback, hdot, List.reverse_append, List.reverse_cons, List.append_assoc,
                List.singleton_append]
  · rintro ⟨stem, hstem, hdot, rfl⟩
    have hplain : ∀ c ∈ extension.reverse, decide (c ≠ '.') = true := by
      intro c hc
      simpa using ne_of_mem_of_not_mem (List.mem_reverse.mp hc) hdot
    have hreverse : (stem ++ '.' :: extension).reverse =
        extension.reverse ++ '.' :: stem.reverse := by
      simp
    obtain ⟨last, rest, hlast⟩ := List.exists_cons_of_ne_nil (List.reverse_ne_nil_iff.mpr hstem)
    simp only [nameExtension?, hreverse]
    rw [List.dropWhile_append_of_pos hplain, List.takeWhile_append_of_pos hplain, hlast]
    simp

theorem dot_not_mem_of_mem_scriptExtensions {extension : String}
    (h : extension ∈ scriptExtensions) : '.' ∉ extension.toList := by
  revert extension
  decide

end Path

namespace Discovery

theorem fileName?_intercalate {names : List String} (hnames : ∀ name ∈ names, Path.IsName name)
    {chars : List Char} :
    Path.fileName? ("/".intercalate names).toList = some chars ↔
      names.getLast? = some (String.ofList chars) := by
  rw [Path.fileName?_iff_segments, Path.filterMap_segments_intercalate hnames, List.getLast?_map]
  cases names.getLast? with
  | none => simp
  | some last => simp [String.ext_iff]

/-- A file is a script if its name is one of four extensions behind a dot that does not open it. -/
theorem isScript_iff {names : List String} (hnames : ∀ name ∈ names, Path.IsName name) :
    isScript names = true ↔
      ∃ stem extension, stem ≠ "" ∧ extension ∈ Path.scriptExtensions ∧
        names.getLast? = some (stem ++ "." ++ extension) := by
  constructor
  · intro h
    unfold isScript Path.isScript at h
    split at h
    · rename_i extension hextension
      obtain ⟨chars, hchars, hname⟩ := Option.bind_eq_some_iff.mp hextension
      obtain ⟨ending, hending, rfl⟩ := Option.map_eq_some_iff.mp hname
      obtain ⟨stem, hstem, -, rfl⟩ := Path.nameExtension?_eq_some_iff.mp hending
      refine ⟨String.ofList stem, String.ofList ending, ?_, List.contains_iff_mem.mp h, ?_⟩
      · simpa [String.ext_iff] using hstem
      · rw [(fileName?_intercalate hnames).mp hchars]
        simp [String.ext_iff]
    · cases h
  · rintro ⟨stem, extension, hstem, hextension, hlast⟩
    have hchars : Path.fileName? ("/".intercalate names).toList =
        some (stem.toList ++ '.' :: extension.toList) := by
      rw [fileName?_intercalate hnames, hlast]
      simp [String.ext_iff]
    have hname : Path.nameExtension? (stem.toList ++ '.' :: extension.toList) =
        some extension.toList :=
      Path.nameExtension?_eq_some_iff.mpr ⟨stem.toList,
        fun hnil => hstem (String.toList_inj.mp hnil),
        Path.dot_not_mem_of_mem_scriptExtensions hextension, rfl⟩
    have hending : Path.extension? ("/".intercalate names) = some extension := by
      rw [Path.extension?, hchars, Option.bind_some, hname, Option.map_some,
        String.ofList_toList]
    rw [isScript, Path.isScript, hending]
    exact List.contains_iff_mem.mpr hextension

end Discovery

/-! ## What patterns exclude -/

namespace Exclude

/-- A well-formed pattern among some texts matches a file's path, its path below the root, or one
of the names on the way to it. -/
def Rejects (texts : List String) (path : String) (names : List String) : Prop :=
  ∃ text ∈ texts, ∃ pattern, pattern? text = some pattern ∧
    (pattern.spans path.toList = true ∨ pattern.spans ("/".intercalate names).toList = true ∨
      ∃ name ∈ names, pattern.spans name.toList = true)

theorem covers_patterns_iff {texts : List String} {path : String} {names : List String} :
    covers (patterns texts) path names = true ↔ Rejects texts path names := by
  rw [covers, patterns, List.any_filterMap, List.any_eq_true]
  refine exists_congr fun text => and_congr_right fun _ => ?_
  cases pattern? text with
  | none => simp
  | some pattern => simp [or_assoc]

instance (texts : List String) (path : String) (names : List String) :
    Decidable (Rejects texts path names) :=
  decidable_of_iff _ covers_patterns_iff

theorem rejects_append {texts more : List String} {path : String} {names : List String} :
    Rejects (texts ++ more) path names ↔ Rejects texts path names ∨ Rejects more path names := by
  simp only [Rejects, List.mem_append, or_and_right, exists_or]

/-- Only the well-formed texts matter, not how often or in which order they stand. -/
theorem rejects_congr {texts others : List String}
    (h : ∀ text, (pattern? text).isSome → (text ∈ others ↔ text ∈ texts)) {path : String}
    {names : List String} : Rejects others path names ↔ Rejects texts path names := by
  refine exists_congr fun text => and_congr_left ?_
  rintro ⟨pattern, hpattern, -⟩
  exact h text (by rw [hpattern, Option.isSome_some])

end Exclude

/-! ## What the walk goes past -/

namespace Discovery

theorem ancestors_concat (place : List String) (name : String) :
    ancestors (place ++ [name]) = place :: ancestors place := by
  rw [ancestors, List.length_append, List.length_singleton, List.range_succ, List.reverse_concat,
    List.map_cons, List.take_left]
  refine congrArg (place :: ·) (List.map_congr_left fun n hn => ?_)
  have hlt := List.mem_range.mp (List.mem_reverse.mp hn)
  exact List.take_append_of_le_length (Nat.le_of_lt hlt)

/-- Whether an entry is hidden: by what is decided about it, or else by its name. -/
def hidesBy (name : String) : Option Verdict → Bool
  | some .leaveOut => true
  | some .keep => false
  | none => isHidden name

/-- Whether an entry of the directory at a place is hidden from a walk. The ignore files of that
directory and of those above it decide. -/
def hides (files : FileSystem) (place : List String) (name : String) (isDirectory : Bool) : Bool :=
  hidesBy name (IgnoreLayer.verdict? ((place :: ancestors place).map (IgnoreLayer.load files))
    (place ++ [name]) isDirectory)

/-- Whether nothing is hidden on the way from a place by names to a file. -/
def isVisible (files : FileSystem) : List String → List String → Bool
  | _, [] => true
  | place, name :: rest =>
    !hides files place name (!rest.isEmpty) && isVisible files (place ++ [name]) rest

theorem admits_iff (files : FileSystem) (place : List String) (name : String)
    (isDirectory : Bool) :
    admits ((place :: ancestors place).map (IgnoreLayer.load files)) (place ++ [name]) name
        isDirectory = true ↔
      name ≠ dependencies ∧ hides files place name isDirectory = false := by
  rw [admits, hides, Bool.and_eq_true, bne_iff_ne]
  refine and_congr_right fun _ => ?_
  cases IgnoreLayer.verdict? ((place :: ancestors place).map (IgnoreLayer.load files))
      (place ++ [name]) isDirectory with
  | none => rw [Bool.not_eq_true', hidesBy]
  | some verdict => cases verdict <;> simp [hidesBy]

/-- The names that lead to a file lead through directories. -/
theorem isDirectory_eq_of_at? {tree : FileTree} {names : List String}
    {bytes? : Option (List UInt8)}
    (h : tree.at? names = some (.file bytes?)) : tree.isDirectory = !names.isEmpty := by
  cases names with
  | nil =>
      obtain rfl := Option.some.inj h
      rfl
  | cons name names =>
      obtain ⟨entries, -, rfl, -, -⟩ := FileTree.exists_directory_of_at?_cons h
      rfl

/-- Names lead from a place to a file, and nothing on the way keeps a walk from it. -/
structure Reaches (files : FileSystem) (place : List String) (tree : FileTree)
    (names : List String) : Prop where
  isFile : ∃ bytes?, tree.at? names = some (.file bytes?)
  noDependencies : dependencies ∉ names
  visible : isVisible files place names = true

theorem reaches_nil {files : FileSystem} {place : List String} {tree : FileTree} :
    Reaches files place tree [] ↔ ∃ bytes?, tree = .file bytes? := by
  constructor
  · rintro ⟨⟨bytes?, hfile⟩, -, -⟩
    exact ⟨bytes?, Option.some.inj hfile⟩
  · rintro ⟨bytes?, rfl⟩
    exact ⟨⟨bytes?, rfl⟩, List.not_mem_nil, rfl⟩

theorem reaches_cons {files : FileSystem} {place : List String} {tree : FileTree} {name : String}
    {rest : List String} :
    Reaches files place tree (name :: rest) ↔
      ∃ entries sub, tree = .directory entries ∧ entries.lookup name = some sub ∧
        (name ≠ dependencies ∧ hides files place name sub.isDirectory = false) ∧
        Reaches files (place ++ [name]) sub rest := by
  constructor
  · rintro ⟨⟨bytes?, hfile⟩, hnames, hvisible⟩
    obtain ⟨entries, sub, rfl, hsub, hrest⟩ := FileTree.exists_directory_of_at?_cons hfile
    rw [List.mem_cons, not_or] at hnames
    rw [isVisible, Bool.and_eq_true, Bool.not_eq_true', ← isDirectory_eq_of_at? hrest] at hvisible
    exact ⟨entries, sub, rfl, hsub, ⟨Ne.symm hnames.1, hvisible.1⟩,
      ⟨bytes?, hrest⟩, hnames.2, hvisible.2⟩
  · rintro ⟨entries, sub, rfl, hsub, ⟨hname, hhides⟩, ⟨bytes?, hrest⟩, hnames, hvisible⟩
    refine ⟨⟨bytes?, ?_⟩, ?_, ?_⟩
    · rw [FileTree.at?, hsub, Option.bind_some, hrest]
    · rw [List.mem_cons, not_or]
      exact ⟨Ne.symm hname, hnames⟩
    · rw [isVisible, Bool.and_eq_true, Bool.not_eq_true', ← isDirectory_eq_of_at? hrest]
      exact ⟨hhides, hvisible⟩

theorem mem_filesOf_iff (files : FileSystem) {tree : FileTree} (h : tree.Proper)
    {place below names : List String} :
    names ∈ filesOf (IgnoreLayer.load files) ((ancestors place).map (IgnoreLayer.load files))
        place below tree ↔
      ∃ rest, names = below ++ rest ∧ Reaches files place tree rest := by
  induction h generalizing place below with
  | file bytes? =>
      rw [filesOf, List.mem_singleton]
      constructor
      · rintro rfl
        exact ⟨[], (List.append_nil _).symm, reaches_nil.mpr ⟨bytes?, rfl⟩⟩
      · rintro ⟨rest, rfl, hrest⟩
        cases rest with
        | nil => exact List.append_nil _
        | cons name rest =>
            obtain ⟨_, _, htree, -⟩ := reaches_cons.mp hrest
            cases htree
  | link target =>
      constructor
      · intro hnames
        cases hnames
      · rintro ⟨rest, -, ⟨bytes?, hrest⟩, -, -⟩
        cases rest <;> cases hrest
  | directory entries hnodup _ _ ih =>
      -- The layers of the entries are those of the directory and of all above it.
      rw [filesOf_directory, ← List.map_cons, List.mem_flatMap]
      constructor
      · rintro ⟨⟨name, sub⟩, hentry, hfound⟩
        rw [foundAt, List.mem_ite_nil_right, admits_iff, ← ancestors_concat place name,
          ih _ hentry] at hfound
        obtain ⟨hadmits, rest, rfl, hrest⟩ := hfound
        exact ⟨name :: rest, (List.append_cons below name rest).symm, reaches_cons.mpr
          ⟨entries, sub, rfl, FileTree.lookup_of_mem hnodup hentry, hadmits, hrest⟩⟩
      · rintro ⟨rest, rfl, hrest⟩
        cases rest with
        | nil =>
            obtain ⟨bytes?, htree⟩ := reaches_nil.mp hrest
            cases htree
        | cons name rest =>
            obtain ⟨_, sub, htree, hsub, hadmits, hrest⟩ := reaches_cons.mp hrest
            obtain rfl := FileTree.directory.inj htree
            have hentry := FileTree.mem_of_lookup hsub
            refine ⟨(name, sub), hentry, ?_⟩
            rw [foundAt, List.mem_ite_nil_right, admits_iff, ← ancestors_concat place name,
              ih _ hentry]
            exact ⟨hadmits, rest, List.append_cons below name rest, hrest⟩

end Discovery

/-! ## Discovery -/

open Discovery

variable {files : FileSystem} {root : String} {place names : List String}
  {entries : List (String × FileTree)} {exclude : List String}

theorem Discovery.selects_iff :
    selects root exclude names = true ↔
      isScript names = true ∧ ¬ Exclude.Rejects exclude (pathOf root names) names := by
  rw [selects, Bool.and_eq_true, Bool.not_eq_true', ← Bool.not_eq_true,
    Exclude.covers_patterns_iff]

/-- More patterns take away what they match, and nothing else. -/
theorem discover_append {found : List (List String)} (h : discover files root exclude = .ok found)
    (more : List String) :
    discover files root (exclude ++ more) =
      .ok (found.filter fun names => ¬ Exclude.Rejects more (pathOf root names) names) := by
  obtain ⟨hroot, rfl⟩ := exists_of_discover h
  have hselects : ∀ names, selects root (exclude ++ more) names =
      (decide (¬ Exclude.Rejects more (pathOf root names) names) &&
        selects root exclude names) := by
    intro names
    rw [Bool.eq_iff_iff, Bool.and_eq_true, decide_eq_true_iff, selects_iff, selects_iff,
      Exclude.rejects_append, not_or]
    tauto
  rw [discover_eq hroot, ← mergeSort_filter, List.filter_filter, funext hselects]

theorem discover_congr {others : List String}
    (h : ∀ text, (Exclude.pattern? text).isSome → (text ∈ others ↔ text ∈ exclude)) :
    discover files root others = discover files root exclude := by
  have hselects : selects root others = selects root exclude := by
    funext names
    rw [Bool.eq_iff_iff, selects_iff, selects_iff, Exclude.rejects_congr h]
  cases hroot : files.isDirectory root with
  | false => simp [discover, hroot]
  | true => rw [discover_eq hroot, discover_eq hroot, hselects]

/-- The order of places is that of their components, name by name. -/
theorem Discovery.lex_of_placeLe {others : List String} (hle : placeLe names others = true)
    (hne : names ≠ others) :
    List.Lex Component.Before (names.map fun name => .name name.toList)
      (others.map fun name => .name name.toList) := by
  induction names generalizing others with
  | nil =>
      cases others with
      | nil => exact absurd rfl hne
      | cons other others => exact .nil
  | cons name names ih =>
      cases others with
      | nil => cases hle
      | cons other others =>
          rw [placeLe_cons] at hle
          by_cases hsame : name = other
          · subst hsame
            exact .cons (ih (hle.2 rfl) fun heq => hne (by rw [heq]))
          · have hlt : name < other := by
              rw [← String.not_le]
              exact fun hge => hsame (String.le_antisymm hle.1 hge)
            exact .rel hlt

theorem Discovery.precedes_of_placeLe {others : List String}
    (hnames : ∀ name ∈ names, Path.IsName name) (hothers : ∀ name ∈ others, Path.IsName name)
    (hle : placeLe names others = true) (hne : names ≠ others) :
    Path.Precedes (pathOf root names) (pathOf root others) := by
  rw [Path.Precedes, pathOf, pathOf, Path.components_join root hnames,
    Path.components_join root hothers]
  apply List.Lex.append_left
  exact lex_of_placeLe hle hne

namespace FileSystem.Proper

variable (h : files.Proper) (hroot : files.locate? root = some place)
  (hplace : files.tree.at? place = some (.directory entries))

include h hroot hplace

theorem mem_walk_iff :
    names ∈ walk files root ↔ Reaches files place (.directory entries) names := by
  rw [walk_eq hroot hplace, mem_filesOf_iff files (h.tree.at? hplace).1]
  simp

theorem isName_of_mem_walk (hnames : names ∈ walk files root) :
    ∀ name ∈ names, Path.IsName name := by
  obtain ⟨⟨bytes?, hfile⟩, -, -⟩ := (h.mem_walk_iff hroot hplace).mp hnames
  exact ((h.tree.at? hplace).1.at? hfile).2

variable {found : List (List String)} (hfound : discover files root exclude = .ok found)

include hfound

theorem mem_discover_iff :
    names ∈ found ↔
      (∃ bytes?, files.tree.at? (place ++ names) = some (.file bytes?)) ∧
      isVisible files place names = true ∧ dependencies ∉ names ∧
      (∃ stem extension, stem ≠ "" ∧ extension ∈ Path.scriptExtensions ∧
        names.getLast? = some (stem ++ "." ++ extension)) ∧
      ¬ Exclude.Rejects exclude (Discovery.pathOf root names) names := by
  obtain ⟨-, rfl⟩ := exists_of_discover hfound
  have hat : files.tree.at? (place ++ names) = (FileTree.directory entries).at? names := by
    rw [FileTree.at?_append, hplace, Option.bind_some]
  rw [List.mem_mergeSort, List.mem_filter, h.mem_walk_iff hroot hplace, selects_iff, hat]
  constructor
  · rintro ⟨hreaches, hscript, hkept⟩
    have hnames := h.isName_of_mem_walk hroot hplace ((h.mem_walk_iff hroot hplace).mpr hreaches)
    exact ⟨hreaches.isFile, hreaches.visible, hreaches.noDependencies,
      (isScript_iff hnames).mp hscript, hkept⟩
  · rintro ⟨⟨bytes?, hfile⟩, hvisible, hdependencies, hscript, hkept⟩
    have hnames := ((h.tree.at? hplace).1.at? hfile).2
    exact ⟨⟨⟨bytes?, hfile⟩, hdependencies, hvisible⟩, (isScript_iff hnames).mpr hscript, hkept⟩

/-- The paths come in order, each once. -/
theorem pairwise_precedes_discover :
    (found.map (Discovery.pathOf root)).Pairwise Path.Precedes := by
  have hnodup := h.nodup_discover hfound
  have hnames : ∀ names ∈ found, ∀ name ∈ names, Path.IsName name := fun names hmem =>
    h.isName_of_mem_walk hroot hplace (mem_walk_of_discover hfound hmem)
  obtain ⟨-, rfl⟩ := exists_of_discover hfound
  have hsorted := List.pairwise_mergeSort placeLe_trans placeLe_total
    ((walk files root).filter (selects root exclude))
  rw [List.pairwise_map]
  refine (hsorted.and hnodup).imp_of_mem ?_
  rintro names others hmem hother ⟨hle, hne⟩
  exact precedes_of_placeLe (hnames names hmem) (hnames others hother) hle hne

end FileSystem.Proper

/-- A directory is always walked to its end, whatever is excluded. The paths that are found come
in strictly increasing order, so each comes once. They are those of the files with the extension
of a script that lie below the root, on the way to which nothing is hidden and nothing has the
name of the directory of dependencies, and which no well-formed pattern matches: neither on the
path as the walk goes it, nor on the path below the root, nor on one name. That first path leads to
the file, and is absolute exactly if the root is. More patterns take away what they match and
nothing else; patterns that are ill-formed, repeated or in another order make no difference. -/
theorem discover_is_exact (hfiles : files.Proper) (hroot : files.isDirectory root = true) :
    ∃ place, files.locate? root = some place ∧ ∀ exclude,
      ∃ found, discover files root exclude = .ok found ∧
        (found.map (pathOf root)).Pairwise Path.Precedes ∧ (found.map (pathOf root)).Nodup ∧
        (∀ names, names ∈ found ↔
          (∃ bytes?, files.tree.at? (place ++ names) = some (.file bytes?)) ∧
          isVisible files place names = true ∧ "node_modules" ∉ names ∧
          (∃ stem extension, stem ≠ "" ∧ extension ∈ ["js", "mjs", "cjs", "jsx"] ∧
            names.getLast? = some (stem ++ "." ++ extension)) ∧
          ¬ Exclude.Rejects exclude (pathOf root names) names) ∧
        (∀ names ∈ found, files.locate? (pathOf root names) = some (place ++ names) ∧
          (Path.IsAbsolute (pathOf root names) ↔ Path.IsAbsolute root)) ∧
        (∀ more, discover files root (exclude ++ more) =
          .ok (found.filter fun names => ¬ Exclude.Rejects more (pathOf root names) names)) ∧
        ∀ others, (∀ text, (Exclude.pattern? text).isSome → (text ∈ others ↔ text ∈ exclude)) →
          discover files root others = .ok found := by
  obtain ⟨place, entries, hlocate, hplace⟩ := FileSystem.exists_place_of_isDirectory hroot
  refine ⟨place, hlocate, fun exclude => ?_⟩
  have hfound : discover files root exclude = .ok _ := discover_eq hroot
  have hordered := hfiles.pairwise_precedes_discover hlocate hplace hfound
  refine ⟨_, hfound, hordered, hordered.imp Path.Precedes.ne, ?_, ?_, discover_append hfound, ?_⟩
  · exact fun names => hfiles.mem_discover_iff hlocate hplace hfound
  · intro names hnames
    have hwalk := mem_walk_of_discover hfound hnames
    obtain ⟨-, -, hpath⟩ := hfiles.exists_of_mem_walk hlocate hplace hwalk
    exact ⟨hpath, Path.isAbsolute_join root (hfiles.isName_of_mem_walk hlocate hplace hwalk)⟩
  · exact fun others hothers => (discover_congr hothers).trans hfound

/-- A project that is seen from a directory above it. It holds a script in a directory and one
beside it, a hidden script and one that it depends on. -/
def outpost : FileSystem where
  tree := FileTree.empty
    |>.insert (.file (some [])) ["x", "p", "a", "b.mjs"]
    |>.insert (.file (some [])) ["x", "p", "a.js"]
    |>.insert (.file (some [])) ["x", "p", ".c.js"]
    |>.insert (.file (some [])) ["x", "p", "node_modules", "d.js"]
  here := ["x"]

theorem proper_outpost : outpost.Proper where
  tree := by
    refine ((((FileTree.Proper.empty).insert (.file _) ?_).insert (.file _) ?_).insert
      (.file _) ?_).insert (.file _) ?_
    all_goals decide
  here := ⟨_, rfl⟩

/-- By components a directory comes before the script that has its name and a dot, though a dot
comes before a slash. The first script goes if the last pattern matches its path below the root. -/
theorem discover_outpost_is_exact :
    outpost.Proper ∧ outpost.isDirectory "/x/p" = true ∧
    discover outpost "/x/p" ["["] = .ok [["a", "b.mjs"], ["a.js"]] ∧
    discover outpost "/x/p" ["[", "a/*"] = .ok [["a.js"]] := by
  have hroot : outpost.isDirectory "/x/p" = true := by decide +kernel
  have hscripts : discover outpost "/x/p" ["["] = .ok [["a", "b.mjs"], ["a.js"]] := by
    apply discover_of_pairwise
    · exact hroot
    · decide +kernel
    · decide +kernel
  obtain ⟨place, -, hexact⟩ := discover_is_exact proper_outpost hroot
  obtain ⟨found, hfound, -, -, -, -, hmore, -⟩ := hexact ["["]
  obtain rfl := Except.ok.inj (hscripts.symm.trans hfound)
  refine ⟨proper_outpost, hroot, hscripts, (hmore ["a/*"]).trans ?_⟩
  decide +kernel

/-- Below a relative root, a pattern that matches the absolute path of a script does not exclude
the script. -/
theorem relative_root_evades_absolute_pattern :
    outpost.Proper ∧ outpost.isDirectory "../x/p" = true ∧
    outpost.locate? (pathOf "../x/p" ["a.js"]) = some ["x", "p", "a.js"] ∧
    Exclude.Rejects ["/*"] (FileSystem.pathOf ["x", "p", "a.js"]) ["a.js"] ∧
    discover outpost "../x/p" ["/*"] = .ok [["a", "b.mjs"], ["a.js"]] := by
  have hroot : outpost.isDirectory "../x/p" = true := by decide +kernel
  refine ⟨proper_outpost, hroot, by decide +kernel, by decide +kernel, ?_⟩
  apply discover_of_pairwise
  · exact hroot
  · decide +kernel
  · decide +kernel

end ScriptGraph
