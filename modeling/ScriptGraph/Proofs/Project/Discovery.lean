import Mathlib.Data.List.Nodup
import ScriptGraph.Proofs.Graph.Names
import ScriptGraph.Proofs.Project.Deletion

/-!
# What a walk finds

In a proper tree a walk finds places of files, each once, and sorting them
depends on nothing but which they are. What it finds depends on the tree below
the root and on the ignore files of the directories it enters and of those that
lead to the root. If none of these is the file that is deleted, then the walk
finds the other files just as before.
-/

namespace ScriptGraph

def FileTree.isDirectory : FileTree → Bool
  | .directory _ => true
  | _ => false

namespace Discovery

/-! ## The order of places -/

theorem placeLe_cons (a b : String) (place other : List String) :
    placeLe (a :: place) (b :: other) = true ↔
      a ≤ b ∧ (a = b → placeLe place other = true) := by
  by_cases h : a = b
  · subst h
    simp [placeLe]
  · simp [placeLe, h]

theorem placeLe_trans (a b c : List String) (hab : placeLe a b = true)
    (hbc : placeLe b c = true) : placeLe a c = true := by
  induction a generalizing b c with
  | nil => rfl
  | cons x a ih =>
      cases b with
      | nil => simp [placeLe] at hab
      | cons y b =>
          cases c with
          | nil => simp [placeLe] at hbc
          | cons z c =>
              rw [placeLe_cons] at hab hbc ⊢
              refine ⟨String.le_trans hab.1 hbc.1, ?_⟩
              rintro rfl
              obtain rfl := String.le_antisymm hab.1 hbc.1
              exact ih b c (hab.2 rfl) (hbc.2 rfl)

theorem placeLe_total (a b : List String) : (placeLe a b || placeLe b a) = true := by
  rw [Bool.or_eq_true]
  induction a generalizing b with
  | nil => exact .inl rfl
  | cons x a ih =>
      cases b with
      | nil => exact .inr rfl
      | cons y b =>
          rw [placeLe_cons, placeLe_cons]
          by_cases hxy : x = y
          · subst hxy
            rcases ih b with hab | hba
            · exact .inl ⟨String.le_refl x, fun _ => hab⟩
            · exact .inr ⟨String.le_refl x, fun _ => hba⟩
          · rcases String.le_total x y with hle | hle
            · exact .inl ⟨hle, fun heq => absurd heq hxy⟩
            · exact .inr ⟨hle, fun heq => absurd heq.symm hxy⟩

theorem placeLe_antisymm {a b : List String} (hab : placeLe a b = true)
    (hba : placeLe b a = true) : a = b := by
  induction a generalizing b with
  | nil =>
      cases b with
      | nil => rfl
      | cons y b => simp [placeLe] at hba
  | cons x a ih =>
      cases b with
      | nil => simp [placeLe] at hab
      | cons y b =>
          rw [placeLe_cons] at hab hba
          obtain rfl := String.le_antisymm hab.1 hba.1
          rw [ih (hab.2 rfl) (hba.2 rfl)]

/-- Leaving places out does not disturb the order of the others. -/
theorem mergeSort_filter (places : List (List String)) (keep : List String → Bool) :
    (places.filter keep).mergeSort placeLe = (places.mergeSort placeLe).filter keep := by
  have hsorted := (List.pairwise_mergeSort placeLe_trans placeLe_total places).filter keep
  have hperm : (places.filter keep).Perm ((places.mergeSort placeLe).filter keep) :=
    (List.mergeSort_perm places placeLe).symm.filter keep
  rw [mergeSort_eq_of_perm placeLe_trans placeLe_total (fun _ _ _ _ => placeLe_antisymm) hperm,
    List.mergeSort_of_pairwise hsorted]

/-! ## The files that a walk takes -/

def foundAt (load : List String → IgnoreLayer) (layers : List IgnoreLayer)
    (place below : List String) (entry : String × FileTree) : List (List String) :=
  if admits layers (place ++ [entry.1]) entry.1 entry.2.isDirectory then
    filesOf load layers (place ++ [entry.1]) (below ++ [entry.1]) entry.2
  else []

theorem foundAt_directory (load : List String → IgnoreLayer) (layers : List IgnoreLayer)
    (place below : List String) (name : String) (entries : List (String × FileTree)) :
    foundAt load layers place below (name, .directory entries) =
      if admits layers (place ++ [name]) name true then
        filesOf load layers (place ++ [name]) (below ++ [name]) (.directory entries)
      else [] := rfl

theorem filesIn_eq_flatMap (load : List String → IgnoreLayer) (layers : List IgnoreLayer)
    (place below : List String) (entries : List (String × FileTree)) :
    filesIn load layers place below entries =
      entries.flatMap (foundAt load layers place below) := by
  induction entries with
  | nil => rfl
  | cons entry entries ih =>
      obtain ⟨name, sub⟩ := entry
      rw [List.flatMap_cons, ← ih, foundAt]
      cases sub <;> rfl

theorem filesOf_directory (load : List String → IgnoreLayer) (layers : List IgnoreLayer)
    (place below : List String) (entries : List (String × FileTree)) :
    filesOf load layers place below (.directory entries) =
      entries.flatMap (foundAt load (load place :: layers) place below) := by
  rw [filesOf, filesIn_eq_flatMap]

variable {load : List String → IgnoreLayer} {tree : FileTree}

/-- The walk takes files only, and says where they are. -/
theorem exists_of_mem_filesOf (h : tree.Proper) {layers : List IgnoreLayer}
    {place below names : List String} (hnames : names ∈ filesOf load layers place below tree) :
    ∃ rest bytes?, names = below ++ rest ∧ tree.at? rest = some (.file bytes?) := by
  induction h generalizing layers place below with
  | file bytes? =>
      rw [filesOf, List.mem_singleton] at hnames
      exact ⟨[], bytes?, by rw [hnames, List.append_nil], rfl⟩
  | link target => simp [filesOf] at hnames
  | directory entries hnodup _ _ ih =>
      rw [filesOf_directory, List.mem_flatMap] at hnames
      obtain ⟨⟨name, sub⟩, hentry, hfound⟩ := hnames
      rw [foundAt] at hfound
      split at hfound
      · obtain ⟨rest, bytes?, rfl, hrest⟩ := ih _ hentry hfound
        refine ⟨name :: rest, bytes?, by simp, ?_⟩
        simp [FileTree.at?, FileTree.lookup_of_mem hnodup hentry, hrest]
      · simp at hfound

theorem exists_of_mem_foundAt {entry : String × FileTree} (h : entry.2.Proper)
    {layers : List IgnoreLayer} {place below names : List String}
    (hnames : names ∈ foundAt load layers place below entry) :
    ∃ rest, names = below ++ entry.1 :: rest := by
  rw [foundAt] at hnames
  split at hnames
  · obtain ⟨rest, _, rfl, -⟩ := exists_of_mem_filesOf h hnames
    exact ⟨rest, by simp⟩
  · simp at hnames

/-- The walk takes no file twice. -/
theorem nodup_filesOf (h : tree.Proper) (layers : List IgnoreLayer) (place below : List String) :
    (filesOf load layers place below tree).Nodup := by
  induction h generalizing layers place below with
  | file bytes? => simp [filesOf]
  | link target => simp [filesOf]
  | directory entries hnodup _ hentries ih =>
      rw [filesOf_directory, List.nodup_flatMap]
      constructor
      · intro entry hentry
        rw [foundAt]
        split
        · exact ih entry hentry _ _ _
        · exact List.nodup_nil
      · refine (List.pairwise_map.mp hnodup).imp_of_mem ?_
        intro entry other hentry hother hne names hnames hnames'
        obtain ⟨rest, rfl⟩ := exists_of_mem_foundAt (hentries _ hentry) hnames
        obtain ⟨rest', heq⟩ := exists_of_mem_foundAt (hentries _ hother) hnames'
        have hname := (List.append_cancel_left heq : entry.1 :: rest = other.1 :: rest')
        exact hne (List.cons.inj hname).1

/-- An entry of another name holds no file of that place. -/
theorem filter_foundAt_of_ne {entry : String × FileTree} (h : entry.2.Proper) {name : String}
    (hne : entry.1 ≠ name) (layers : List IgnoreLayer) (place below rest : List String) :
    (foundAt load layers place below entry).filter (· ≠ below ++ name :: rest) =
      foundAt load layers place below entry := by
  rw [List.filter_eq_self]
  intro names hnames
  obtain ⟨others, rfl⟩ := exists_of_mem_foundAt h hnames
  simp [hne]

theorem filter_flatMap_foundAt {entries : List (String × FileTree)}
    (h : ∀ entry ∈ entries, entry.2.Proper) {name : String}
    (hname : name ∉ entries.map Prod.fst) (layers : List IgnoreLayer)
    (place below rest : List String) :
    (entries.flatMap (foundAt load layers place below)).filter (· ≠ below ++ name :: rest) =
      entries.flatMap (foundAt load layers place below) := by
  rw [List.filter_flatMap]
  refine List.flatMap_congr fun entry hentry => ?_
  have hne : entry.1 ≠ name := fun hsame => hname (hsame ▸ List.mem_map_of_mem hentry)
  exact filter_foundAt_of_ne (h entry hentry) hne layers place below rest

/-- What remains of an entry is admitted like the entry, since a directory remains one. -/
theorem foundAt_remove? {name : String} {entry : FileTree} {layers : List IgnoreLayer}
    {place below rest : List String} {bytes? : Option (List UInt8)}
    (hrest : entry.at? rest = some (.file bytes?))
    (hbelow : (entry.remove? rest).toList.flatMap
        (filesOf load layers (place ++ [name]) (below ++ [name])) =
      (filesOf load layers (place ++ [name]) (below ++ [name]) entry).filter
        (· ≠ below ++ [name] ++ rest)) :
    ((entry.remove? rest).map fun left => (name, left)).toList.flatMap
        (foundAt load layers place below) =
      (foundAt load layers place below (name, entry)).filter (· ≠ below ++ name :: rest) := by
  rw [List.append_assoc, List.singleton_append] at hbelow
  cases rest with
  | nil =>
      obtain rfl := Option.some.inj hrest
      simp only [FileTree.remove?, foundAt]
      split
      · simp [filesOf]
      · simp
  | cons next rest =>
      obtain ⟨others, -, rfl, -, -⟩ := FileTree.exists_directory_of_at?_cons hrest
      simp only [FileTree.remove?, Option.toList_some, List.flatMap_cons, List.flatMap_nil,
        List.append_nil] at hbelow
      simp only [FileTree.remove?, Option.map_some, Option.toList_some, List.flatMap_cons,
        List.flatMap_nil, List.append_nil, foundAt_directory]
      by_cases hadmits : admits layers (place ++ [name]) name true = true
      · rw [if_pos hadmits, if_pos hadmits, hbelow]
      · rw [if_neg hadmits, if_neg hadmits, List.filter_nil]

variable (load) in
/-- Without a file, a walk takes the others as before. -/
theorem filesOf_remove? (h : tree.Proper) {rest : List String} {bytes? : Option (List UInt8)}
    (hfile : tree.at? rest = some (.file bytes?)) (layers : List IgnoreLayer)
    (place below : List String) :
    (tree.remove? rest).toList.flatMap (filesOf load layers place below) =
      (filesOf load layers place below tree).filter (· ≠ below ++ rest) := by
  -- On the names that lead to the file: the entries beside them hold other places.
  induction rest generalizing tree layers place below with
  | nil =>
      obtain rfl := Option.some.inj hfile
      simp [FileTree.remove?, filesOf]
  | cons name rest ih =>
      obtain ⟨entries, entry, rfl, hentry, hrest⟩ := FileTree.exists_directory_of_at?_cons hfile
      obtain ⟨before, after, rfl, -⟩ := List.lookup_eq_some_iff.mp hentry
      cases h with
      | directory _ hnodup _ hproper =>
          obtain ⟨hbefore, hafter⟩ := FileTree.not_mem_of_nodup hnodup
          have hkept := foundAt_remove? hrest (ih (hproper (name, entry) (by simp)) hrest
            (load place :: layers) (place ++ [name]) (below ++ [name]))
          simp only [FileTree.remove?, Option.toList_some, List.flatMap_nil, List.append_nil,
            filesOf_directory, FileTree.revise_of_nodup hnodup, List.flatMap_append,
            List.flatMap_cons, List.filter_append, hkept]
          rw [filter_flatMap_foundAt (fun other hother => hproper other (by simp [hother])) hbefore,
            filter_flatMap_foundAt (fun other hother => hproper other (by simp [hother])) hafter,
            List.append_assoc]

/-! ## The directories whose ignore files a walk reads -/

mutual

def enteredOf (load : List String → IgnoreLayer) (layers : List IgnoreLayer)
    (place : List String) : FileTree → List (List String)
  | .directory entries => place :: enteredIn load (load place :: layers) place entries
  | _ => []

def enteredIn (load : List String → IgnoreLayer) (layers : List IgnoreLayer)
    (place : List String) : List (String × FileTree) → List (List String)
  | [] => []
  | (name, entry) :: rest =>
    let entered :=
      if admits layers (place ++ [name]) name entry.isDirectory then
        enteredOf load layers (place ++ [name]) entry
      else []
    entered ++ enteredIn load layers place rest

end

/-- The directories whose ignore files are read on a walk. -/
def consulted (files : FileSystem) (root : String) : List (List String) :=
  match files.locate? root with
  | none => []
  | some place =>
    match files.tree.at? place with
    | some tree =>
      let load := IgnoreLayer.load files
      ancestors place ++ enteredOf load ((ancestors place).map load) place tree
    | none => []

/-- A path leads to what is read as an ignore file on a walk. -/
def ReadOnWalk (files : FileSystem) (root path : String) : Prop :=
  ∃ base ∈ consulted files root, ∃ source ∈ IgnoreSource.all,
    files.locate? (FileSystem.pathOf (base ++ source.location)) = files.locate? path

instance (files : FileSystem) (root path : String) : Decidable (ReadOnWalk files root path) :=
  inferInstanceAs (Decidable (∃ base ∈ consulted files root, ∃ source ∈ IgnoreSource.all,
    files.locate? (FileSystem.pathOf (base ++ source.location)) = files.locate? path))

theorem mem_enteredIn {layers : List IgnoreLayer} {place : List String}
    {entries : List (String × FileTree)} {entry : String × FileTree} (hentry : entry ∈ entries)
    (hadmits : admits layers (place ++ [entry.1]) entry.1 entry.2.isDirectory = true)
    {base : List String} (h : base ∈ enteredOf load layers (place ++ [entry.1]) entry.2) :
    base ∈ enteredIn load layers place entries := by
  induction entries with
  | nil => cases hentry
  | cons first entries ih =>
      rw [enteredIn, List.mem_append]
      rcases List.mem_cons.mp hentry with rfl | hentry
      · left
        rw [if_pos hadmits]
        exact h
      · exact .inr (ih hentry)

/-- A walk sees the rules of no directories but those it enters. -/
theorem filesOf_congr (h : tree.Proper) {other : List String → IgnoreLayer}
    {layers : List IgnoreLayer} {place : List String}
    (hload : ∀ base ∈ enteredOf load layers place tree, other base = load base)
    (below : List String) :
    filesOf other layers place below tree = filesOf load layers place below tree := by
  induction h generalizing layers place below with
  | file bytes? => rfl
  | link target => rfl
  | directory entries _ _ _ ih =>
      have hplace : other place = load place := hload place (by simp [enteredOf])
      rw [filesOf_directory, filesOf_directory, hplace]
      refine List.flatMap_congr fun entry hentry => ?_
      rw [foundAt, foundAt]
      split
      · rename_i hadmits
        refine ih entry hentry (fun base hbase => hload base ?_) _
        rw [enteredOf, List.mem_cons]
        exact .inr (mem_enteredIn hentry hadmits hbase)
      · rfl

end Discovery

open Discovery

/-! ## Walks over a file system -/

namespace FileSystem

variable {files : FileSystem} {root : String} {place names : List String}
  {entries : List (String × FileTree)}

theorem exists_place_of_isDirectory (h : files.isDirectory root = true) :
    ∃ place entries, files.locate? root = some place ∧
      files.tree.at? place = some (.directory entries) := by
  unfold isDirectory at h
  split at h
  · rename_i entries hfind
    obtain ⟨place, hplace, hentries⟩ := Option.bind_eq_some_iff.mp hfind
    exact ⟨place, entries, hplace, hentries⟩
  · cases h

theorem walk_eq {tree : FileTree} (hroot : files.locate? root = some place)
    (hplace : files.tree.at? place = some tree) :
    walk files root = filesOf (IgnoreLayer.load files)
      ((ancestors place).map (IgnoreLayer.load files)) place [] tree := by
  simp only [walk, hroot, hplace]

/-- A walk says where the files are that it takes. -/
theorem Proper.exists_of_mem_walk (h : files.Proper) (hroot : files.locate? root = some place)
    (hplace : files.tree.at? place = some (.directory entries))
    (hnames : names ∈ walk files root) :
    ∃ bytes?, files.tree.at? (place ++ names) = some (.file bytes?) ∧
      files.locate? (Discovery.pathOf root names) = some (place ++ names) := by
  have hproper := (h.tree.at? hplace).1
  rw [walk_eq hroot hplace] at hnames
  obtain ⟨rest, bytes?, rfl, hfile⟩ := exists_of_mem_filesOf hproper hnames
  refine ⟨bytes?, ?_, locate?_pathOf hroot hplace (hproper.at? hfile).2 hfile⟩
  rw [FileTree.at?_append, hplace, Option.bind_some, hfile]

theorem Proper.nodup_walk (h : files.Proper) (hroot : files.locate? root = some place)
    (hplace : files.tree.at? place = some (.directory entries)) : (walk files root).Nodup := by
  rw [walk_eq hroot hplace]
  exact nodup_filesOf (h.tree.at? hplace).1 _ _ _

theorem Proper.load_delete (h : files.Proper) {path : String} {bytes? : Option (List UInt8)}
    (hpath : files.locate? path = some place)
    (hfile : files.tree.at? place = some (.file bytes?)) {base : List String}
    (hbase : ∀ source ∈ IgnoreSource.all,
      files.locate? (pathOf (base ++ source.location)) ≠ some place) :
    IgnoreLayer.load (files.delete path) base = IgnoreLayer.load files base := by
  have hread : ∀ source ∈ IgnoreSource.all,
      IgnoreLayer.read (files.delete path) base source = IgnoreLayer.read files base source := by
    intro source hsource
    rw [IgnoreLayer.read, h.read?_delete hpath hfile (hbase source hsource), IgnoreLayer.read]
  simp only [IgnoreLayer.load, hread _ (by decide : IgnoreSource.own ∈ IgnoreSource.all),
    hread _ (by decide : IgnoreSource.shared ∈ IgnoreSource.all),
    hread _ (by decide : IgnoreSource.repository ∈ IgnoreSource.all)]

/-- Without a file that is not read as an ignore file, the walk finds all the others. -/
theorem Proper.walk_delete (h : files.Proper) (hroot : files.locate? root = some place)
    (hplace : files.tree.at? place = some (.directory entries))
    (hnames : names ∈ walk files root)
    (hread : ¬ ReadOnWalk files root (Discovery.pathOf root names)) :
    walk (files.delete (Discovery.pathOf root names)) root =
      (walk files root).filter (· ≠ names) := by
  obtain ⟨bytes?, hfile, hpath⟩ := h.exists_of_mem_walk hroot hplace hnames
  obtain ⟨left, hleft, hdelete, -⟩ := h.exists_delete hpath hfile
  have hproper := (h.tree.at? hplace).1
  have hbelow : (FileTree.directory entries).at? names = some (.file bytes?) := by
    rw [FileTree.at?_append, hplace, Option.bind_some] at hfile
    exact hfile
  have hload : ∀ base ∈ consulted files root,
      IgnoreLayer.load (files.delete (Discovery.pathOf root names)) base =
        IgnoreLayer.load files base := by
    intro base hbase
    refine h.load_delete hpath hfile fun source hsource hsame => hread ?_
    exact ⟨base, hbase, source, hsource, hsame.trans hpath.symm⟩
  simp only [consulted, hroot, hplace, List.mem_append] at hload
  -- The root is still where it was, and the file is gone from the tree below it.
  have hroot' : (files.delete (Discovery.pathOf root names)).locate? root = some place := by
    rw [h.locate?_delete hpath hfile, hroot, Option.filter_some, if_pos]
    have hne : place ≠ place ++ names := by
      intro heq
      obtain rfl : names = [] := by simpa using heq
      cases hbelow
    simpa using hne
  have hremove := h.tree.at?_remove? hplace names
  rw [hleft, Option.bind_some] at hremove
  cases hkept : (FileTree.directory entries).remove? names with
  | none =>
      cases names with
      | nil => cases hbelow
      | cons name rest => cases hkept
  | some kept =>
      have hplace' : (files.delete (Discovery.pathOf root names)).tree.at? place = some kept := by
        rw [hdelete, hremove, hkept]
      have hfound := filesOf_remove?
        (IgnoreLayer.load (files.delete (Discovery.pathOf root names))) hproper hbelow
        ((ancestors place).map (IgnoreLayer.load files)) place []
      rw [hkept, Option.toList_some, List.flatMap_cons, List.flatMap_nil, List.append_nil,
        filesOf_congr hproper (fun base hbase => hload base (.inr hbase))] at hfound
      rw [walk_eq hroot' hplace', walk_eq hroot hplace,
        List.map_congr_left fun base hbase => hload base (.inl hbase), hfound, List.nil_append]

end FileSystem

/-! ## Discovery -/

/-- Whether a file that the walk takes is a script that no pattern excludes. -/
def Discovery.selects (root : String) (exclude : List String) (names : List String) : Bool :=
  isScript names && !Exclude.covers (Exclude.patterns exclude) (pathOf root names) names

variable {files : FileSystem} {root : String} {exclude : List String}

theorem discover_eq (h : files.isDirectory root = true) :
    discover files root exclude =
      .ok (((walk files root).filter (selects root exclude)).mergeSort placeLe) := by
  have hselects : selects root exclude = fun names =>
      !Exclude.covers (Exclude.patterns exclude) (pathOf root names) names && isScript names := by
    funext names
    exact Bool.and_comm _ _
  rw [discover, if_pos h, hselects, ← List.filter_filter]

/-- A walk that comes upon its files in order leaves nothing to sort. -/
theorem discover_of_pairwise {found : List (List String)} (h : files.isDirectory root = true)
    (hfound : (walk files root).filter (selects root exclude) = found)
    (hsorted : found.Pairwise fun names others => placeLe names others = true) :
    discover files root exclude = .ok found := by
  rw [discover_eq h, hfound, List.mergeSort_of_pairwise hsorted]

theorem exists_of_discover {found : List (List String)}
    (h : discover files root exclude = .ok found) :
    files.isDirectory root = true ∧
      found = ((walk files root).filter (selects root exclude)).mergeSort placeLe := by
  cases hroot : files.isDirectory root with
  | false => simp [discover, hroot] at h
  | true =>
      rw [discover_eq hroot] at h
      exact ⟨rfl, (Except.ok.inj h).symm⟩

theorem mem_walk_of_discover {found : List (List String)} {names : List String}
    (h : discover files root exclude = .ok found) (hnames : names ∈ found) :
    names ∈ walk files root := by
  obtain ⟨-, rfl⟩ := exists_of_discover h
  exact (List.mem_filter.mp (List.mem_mergeSort.mp hnames)).1

theorem isScript_of_discover {found : List (List String)} {names : List String}
    (h : discover files root exclude = .ok found) (hnames : names ∈ found) :
    Path.isScript ("/".intercalate names) = true := by
  obtain ⟨-, rfl⟩ := exists_of_discover h
  have hselects := (List.mem_filter.mp (List.mem_mergeSort.mp hnames)).2
  exact (Bool.and_eq_true_iff.mp hselects).1

namespace FileSystem.Proper

variable {found : List (List String)} {names : List String}

theorem nodup_discover (h : files.Proper) (hfound : discover files root exclude = .ok found) :
    found.Nodup := by
  obtain ⟨hroot, rfl⟩ := exists_of_discover hfound
  obtain ⟨place, entries, hroot, hplace⟩ := exists_place_of_isDirectory hroot
  rw [(List.mergeSort_perm _ _).nodup_iff]
  exact (h.nodup_walk hroot hplace).filter _

/-- Without a file that is not read as an ignore file, all the other scripts are discovered. -/
theorem discover_delete (h : files.Proper) (hfound : discover files root exclude = .ok found)
    (hnames : names ∈ found) (hread : ¬ ReadOnWalk files root (Discovery.pathOf root names)) :
    discover (files.delete (Discovery.pathOf root names)) root exclude =
      .ok (found.filter (· ≠ names)) := by
  have hwalk := mem_walk_of_discover hfound hnames
  obtain ⟨hdirectory, rfl⟩ := exists_of_discover hfound
  obtain ⟨place, entries, hroot, hplace⟩ := exists_place_of_isDirectory hdirectory
  obtain ⟨bytes?, hfile, hpath⟩ := h.exists_of_mem_walk hroot hplace hwalk
  have hkept : (files.delete (Discovery.pathOf root names)).isDirectory root = true := by
    rw [h.isDirectory_delete hpath hfile, hdirectory]
    rw [hroot]
    intro heq
    rw [Option.some.inj heq, hfile] at hplace
    cases hplace
  rw [discover_eq hkept, h.walk_delete hroot hplace hwalk hread, ← mergeSort_filter,
    List.filter_filter, List.filter_filter]
  congr 3
  funext others
  exact Bool.and_comm _ _

/-- All other scripts can be read as before. -/
theorem read?_delete_of_mem (h : files.Proper)
    (hfound : discover files root exclude = .ok found) (hnames : names ∈ found)
    {other : List String} (hother : other ∈ found) (hne : other ≠ names) :
    (files.delete (Discovery.pathOf root names)).read? (Discovery.pathOf root other) =
      files.read? (Discovery.pathOf root other) := by
  obtain ⟨hdirectory, -⟩ := exists_of_discover hfound
  obtain ⟨place, entries, hroot, hplace⟩ := exists_place_of_isDirectory hdirectory
  obtain ⟨bytes?, hfile, hpath⟩ :=
    h.exists_of_mem_walk hroot hplace (mem_walk_of_discover hfound hnames)
  obtain ⟨-, -, hpath'⟩ :=
    h.exists_of_mem_walk hroot hplace (mem_walk_of_discover hfound hother)
  apply h.read?_delete hpath hfile
  rw [hpath']
  intro heq
  exact hne (List.append_cancel_left (Option.some.inj heq))

end FileSystem.Proper

end ScriptGraph
