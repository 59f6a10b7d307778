import Mathlib.Data.List.Basic
import ScriptGraph.Project.Discovery
import ScriptGraph.Proofs.Path.Components

/-!
# Places in a proper tree

A tree of files is proper if the entries of a directory have distinct names, and
names that a path can spell. In a proper tree a path that goes on from a
directory by plain names leads to the place that the names lead to, however many
links were followed on the way to the directory.
-/

namespace ScriptGraph

namespace FileTree

/-- The entries of each directory have distinct names, and names that a path can spell. -/
inductive Proper : FileTree → Prop
  | file (bytes? : Option (List UInt8)) : Proper (.file bytes?)
  | link (target : String) : Proper (.link target)
  | directory (entries : List (String × FileTree)) :
    (entries.map Prod.fst).Nodup → (∀ entry ∈ entries, Path.IsName entry.1) →
      (∀ entry ∈ entries, Proper entry.2) → Proper (.directory entries)

theorem mem_of_lookup {entries : List (String × FileTree)} {name : String} {entry : FileTree}
    (h : entries.lookup name = some entry) : (name, entry) ∈ entries := by
  obtain ⟨before, after, rfl, -⟩ := List.lookup_eq_some_iff.mp h
  simp

theorem lookup_of_mem {entries : List (String × FileTree)}
    (hnodup : (entries.map Prod.fst).Nodup) {name : String} {entry : FileTree}
    (h : (name, entry) ∈ entries) : entries.lookup name = some entry := by
  obtain ⟨before, after, rfl⟩ := List.append_of_mem h
  refine List.lookup_eq_some_iff.mpr ⟨before, after, rfl, ?_⟩
  intro other hother
  rw [List.map_append, List.nodup_append] at hnodup
  have hne := hnodup.2.2 other.1 (List.mem_map_of_mem hother) name (by simp)
  simpa using hne.symm

theorem at?_append (tree : FileTree) (place names : List String) :
    tree.at? (place ++ names) = (tree.at? place).bind fun sub => sub.at? names := by
  induction place generalizing tree with
  | nil => rfl
  | cons name place ih =>
      cases tree with
      | file bytes? => rfl
      | link target => rfl
      | directory entries =>
          simp only [List.cons_append, at?]
          cases entries.lookup name with
          | none => rfl
          | some entry => exact ih entry

theorem at?_concat {tree sub : FileTree} {place : List String} (h : tree.at? place = some sub)
    (name : String) : tree.at? (place ++ [name]) = sub.at? [name] := by
  rw [at?_append, h, Option.bind_some]

/-- Only a directory has anything below it. -/
theorem exists_directory_of_at?_cons {tree sub : FileTree} {name : String} {rest : List String}
    (h : tree.at? (name :: rest) = some sub) :
    ∃ entries entry, tree = .directory entries ∧ entries.lookup name = some entry ∧
      entry.at? rest = some sub := by
  cases tree with
  | file bytes? => simp [at?] at h
  | link target => simp [at?] at h
  | directory entries =>
      obtain ⟨entry, hentry, hrest⟩ := Option.bind_eq_some_iff.mp h
      exact ⟨entries, entry, rfl, hentry, hrest⟩

theorem Proper.at? {tree sub : FileTree} (h : tree.Proper) {place : List String}
    (hsub : tree.at? place = some sub) : sub.Proper ∧ ∀ name ∈ place, Path.IsName name := by
  induction place generalizing tree with
  | nil =>
      obtain rfl := Option.some.inj hsub
      exact ⟨h, by simp⟩
  | cons name place ih =>
      obtain ⟨entries, entry, rfl, hentry, hrest⟩ := exists_directory_of_at?_cons hsub
      cases h with
      | directory _ _ hnames hentries =>
          have hmem := mem_of_lookup hentry
          obtain ⟨hsub', hplace⟩ := ih (hentries _ hmem) hrest
          refine ⟨hsub', ?_⟩
          intro other hother
          rcases List.mem_cons.mp hother with rfl | hother
          · exact hnames _ hmem
          · exact hplace other hother

theorem names_setEntry (entries : List (String × FileTree)) (name : String) (entry : FileTree) :
    (setEntry entries name entry).map Prod.fst =
      if (entries.lookup name).isSome then entries.map Prod.fst
      else entries.map Prod.fst ++ [name] := by
  unfold setEntry
  split
  · rw [List.map_map]
    refine List.map_congr_left fun old _ => ?_
    simp only [Function.comp_apply]
    split <;> rfl
  · rw [List.map_append, List.map_singleton]

theorem mem_setEntry {entries : List (String × FileTree)} {name : String} {entry : FileTree}
    {other : String × FileTree} (h : other ∈ setEntry entries name entry) :
    other = (name, entry) ∨ other ∈ entries := by
  unfold setEntry at h
  split at h
  · obtain ⟨⟨key, old⟩, hold, rfl⟩ := List.mem_map.mp h
    by_cases hkey : key = name
    · left
      simp [hkey]
    · right
      simpa [hkey] using hold
  · rcases List.mem_append.mp h with h | h
    · exact .inr h
    · exact .inl (List.mem_singleton.mp h)

theorem Proper.setEntry {entries : List (String × FileTree)}
    (h : (FileTree.directory entries).Proper) {name : String} (hname : Path.IsName name)
    {entry : FileTree} (hentry : entry.Proper) :
    (FileTree.directory (setEntry entries name entry)).Proper := by
  cases h with
  | directory _ hnodup hnames hentries =>
      refine .directory _ ?_ ?_ ?_
      · rw [names_setEntry]
        split
        · exact hnodup
        · rename_i hnew
          have hfresh : name ∉ entries.map Prod.fst := by
            intro hmem
            obtain ⟨⟨_, old⟩, hold, rfl⟩ := List.mem_map.mp hmem
            exact hnew (by rw [lookup_of_mem hnodup hold, Option.isSome_some])
          exact List.nodup_append.mpr ⟨hnodup, by simp, by grind⟩
      · intro other hother
        rcases mem_setEntry hother with rfl | hother
        · exact hname
        · exact hnames other hother
      · intro other hother
        rcases mem_setEntry hother with rfl | hother
        · exact hentry
        · exact hentries other hother

theorem Proper.empty : FileTree.empty.Proper :=
  .directory [] List.nodup_nil (by simp) (by simp)

/-- Whatever is put into a proper tree, it stays proper. -/
theorem Proper.insert {tree entry : FileTree} (h : tree.Proper) (hentry : entry.Proper)
    {place : List String} (hplace : ∀ name ∈ place, Path.IsName name) :
    (tree.insert entry place).Proper := by
  induction place generalizing tree with
  | nil =>
      unfold FileTree.insert
      split
      · exact h
      · exact hentry
  | cons name rest ih =>
      have hname := hplace name List.mem_cons_self
      have hrest : ∀ other ∈ rest, Path.IsName other := fun other hother =>
        hplace other (List.mem_cons_of_mem name hother)
      have hfresh : (FileTree.directory [(name, FileTree.empty.insert entry rest)]).Proper := by
        refine .directory _ (by simp) ?_ ?_
        · simpa using hname
        · simpa using ih .empty hrest
      cases h with
      | file bytes? => exact hfresh
      | link target => exact hfresh
      | directory entries hnodup hnames hentries =>
          apply Proper.setEntry (.directory entries hnodup hnames hentries) hname
          apply ih _ hrest
          cases hold : entries.lookup name with
          | none => exact .empty
          | some old => exact hentries _ (mem_of_lookup hold)

/-- Plain names need no link to be followed. -/
theorem descend_names {tree sub : FileTree} {here names : List String}
    {bytes? : Option (List UInt8)}
    (hhere : tree.at? here.reverse = some sub) (hnames : sub.at? names = some (.file bytes?))
    (jump : List String → List Component → Option (List String)) :
    tree.descend jump here (names.map fun name => .name name.toList) =
      some (names.reverse ++ here) := by
  induction names generalizing here sub with
  | nil => rfl
  | cons name rest ih =>
      obtain ⟨entries, entry, rfl, hentry, hrest⟩ := exists_directory_of_at?_cons hnames
      have hnext : tree.at? (name :: here).reverse = some entry := by
        rw [List.reverse_cons, at?_concat hhere]
        simp [FileTree.at?, hentry]
      have hstep := ih hnext hrest
      rw [List.map_cons, descend, String.ofList_toList, hnext]
      cases rest with
      | nil =>
          obtain rfl := Option.some.inj hrest
          rfl
      | cons next rest =>
          obtain ⟨others, -, rfl, -, -⟩ := exists_directory_of_at?_cons hrest
          rw [List.reverse_cons, List.append_assoc]
          exact hstep

/-- Components that need no link to be followed may be put after any others that lead to a
directory. -/
theorem descend_append {tree : FileTree} {place out : List String} {more : List Component}
    {entries : List (String × FileTree)}
    (hplace : tree.at? place.reverse = some (.directory entries))
    (hmore : ∀ jump, tree.descend jump place more = some out)
    {jump : List String → List Component → Option (List String)}
    (hjump : ∀ here parts, jump here parts = some place → jump here (parts ++ more) = some out)
    {here : List String} {parts : List Component}
    (h : tree.descend jump here parts = some place) :
    tree.descend jump here (parts ++ more) = some out := by
  induction parts generalizing here with
  | nil =>
      obtain rfl := Option.some.inj h
      exact hmore jump
  | cons part parts ih =>
      cases part with
      | root => exact ih h
      | here => exact ih h
      | parent => exact ih h
      | name chars =>
          rw [descend] at h
          rw [List.cons_append, descend]
          split at h
          · cases h
          · -- A file is no directory, so it is not the place that the parts lead to.
            rename_i bytes? hfile
            split at h
            · obtain rfl := Option.some.inj h
              rw [hfile] at hplace
              cases hplace
            · cases h
          · exact ih h
          · have hrest := hjump _ _ h
            rw [List.append_assoc] at hrest
            exact hrest

theorem resolve_append {tree : FileTree} {place out : List String} {more : List Component}
    {entries : List (String × FileTree)}
    (hplace : tree.at? place.reverse = some (.directory entries))
    (hmore : ∀ jump, tree.descend jump place more = some out) {links : Nat}
    {here : List String} {parts : List Component}
    (h : tree.resolve links here parts = some place) :
    tree.resolve links here (parts ++ more) = some out := by
  induction links generalizing here parts with
  | zero => exact descend_append hplace hmore (by simp) h
  | succ links ih => exact descend_append hplace hmore (fun _ _ => ih) h

end FileTree

/-- The path of a file below a root leads to the place of the root and the names from there. -/
theorem FileSystem.locate?_pathOf {files : FileSystem} {root : String} {place names : List String}
    {entries : List (String × FileTree)} {bytes? : Option (List UInt8)}
    (hroot : files.locate? root = some place)
    (hplace : files.tree.at? place = some (.directory entries))
    (hnames : ∀ name ∈ names, Path.IsName name)
    (hfile : (FileTree.directory entries).at? names = some (.file bytes?)) :
    files.locate? (Discovery.pathOf root names) = some (place ++ names) := by
  obtain ⟨back, hback, rfl⟩ := Option.map_eq_some_iff.mp hroot
  have hmore := FileTree.descend_names hplace hfile
  have hresolve := FileTree.resolve_append hplace hmore hback
  rw [locate?, Discovery.pathOf, Path.components_join root hnames, hresolve, Option.map_some,
    List.reverse_append, List.reverse_reverse]

end ScriptGraph
