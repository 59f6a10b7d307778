import ScriptGraph.Proofs.Project.Places

/-!
# Deleting a file

Deleting a file changes what its own place holds and nothing else that can be
seen of a tree, place by place. So a path leads where it led before, unless it
led to the file, and every other file can still be read.
-/

namespace ScriptGraph

namespace FileTree

/-- The sort of an entry, with what it holds itself. -/
inductive Shape where
  | file (bytes? : Option (List UInt8))
  | link (target : String)
  | directory

/-- What can be seen of an entry without going into it. -/
def shape : FileTree → Shape
  | .file bytes? => .file bytes?
  | .link target => .link target
  | .directory _ => .directory

/-- Entries of which one is changed or goes. -/
def revise (entries : List (String × FileTree)) (name : String)
    (change : FileTree → Option FileTree) : List (String × FileTree) :=
  entries.filterMap fun entry =>
    if entry.1 = name then (change entry.2).map fun left => (entry.1, left) else some entry

/-- The tree without what names lead to, if that is not the whole tree. -/
def remove? (tree : FileTree) : List String → Option FileTree
  | [] => none
  | name :: rest =>
    match tree with
    | .directory entries => some (.directory (revise entries name fun entry => entry.remove? rest))
    | _ => some tree

theorem revise_of_not_mem {entries : List (String × FileTree)} {name : String}
    (h : name ∉ entries.map Prod.fst) (change : FileTree → Option FileTree) :
    revise entries name change = entries := by
  refine (List.filterMap_congr fun entry hentry => ?_).trans List.filterMap_some
  have hne : entry.1 ≠ name := fun hname => h (hname ▸ List.mem_map_of_mem hentry)
  rw [if_neg hne]

theorem revise_append (entries others : List (String × FileTree)) (name : String)
    (change : FileTree → Option FileTree) :
    revise (entries ++ others) name change = revise entries name change ++
      revise others name change := by
  simp [revise]

theorem not_mem_of_nodup {before after : List (String × FileTree)} {name : String}
    {entry : FileTree} (h : ((before ++ (name, entry) :: after).map Prod.fst).Nodup) :
    name ∉ before.map Prod.fst ∧ name ∉ after.map Prod.fst := by
  simp only [List.map_append, List.map_cons, List.nodup_append, List.nodup_cons] at h
  exact ⟨fun hmem => h.2.2 name hmem name List.mem_cons_self rfl, h.2.1.1⟩

/-- A revision is about the one entry of its name. -/
theorem revise_of_nodup {before after : List (String × FileTree)} {name : String}
    {entry : FileTree} (h : ((before ++ (name, entry) :: after).map Prod.fst).Nodup)
    (change : FileTree → Option FileTree) :
    revise (before ++ (name, entry) :: after) name change =
      before ++ ((change entry).map fun left => (name, left)).toList ++ after := by
  obtain ⟨hbefore, hafter⟩ := not_mem_of_nodup h
  have hsingle : revise [(name, entry)] name change =
      ((change entry).map fun left => (name, left)).toList := by
    cases hchange : change entry <;> simp [revise, hchange]
  rw [← List.singleton_append, revise_append, revise_append, revise_of_not_mem hbefore,
    revise_of_not_mem hafter, hsingle, List.append_assoc]

theorem lookup_of_not_mem {entries : List (String × FileTree)} {name : String}
    (h : name ∉ entries.map Prod.fst) : entries.lookup name = none := by
  rw [List.lookup_eq_none_iff]
  intro entry hentry
  have hne : entry.1 ≠ name := fun hname => h (hname ▸ List.mem_map_of_mem hentry)
  simpa using hne.symm

theorem lookup_revise {entries : List (String × FileTree)}
    (hnodup : (entries.map Prod.fst).Nodup) {name : String} {entry : FileTree}
    (h : entries.lookup name = some entry) (change : FileTree → Option FileTree)
    (other : String) :
    (revise entries name change).lookup other =
      if other = name then change entry else entries.lookup other := by
  obtain ⟨before, after, rfl, -⟩ := List.lookup_eq_some_iff.mp h
  obtain ⟨hbefore, hafter⟩ := not_mem_of_nodup hnodup
  rw [revise_of_nodup hnodup]
  by_cases hother : other = name
  · subst hother
    cases hchange : change entry <;>
      simp [List.lookup_append, lookup_of_not_mem hbefore, lookup_of_not_mem hafter]
  · have hne : (other == name) = false := beq_eq_false_iff_ne.mpr hother
    cases hchange : change entry <;>
      simp [List.lookup_append, List.lookup_cons, hne, hother]

/-- Removing a file changes what is seen at its own place only. -/
theorem Proper.shape_remove? {tree : FileTree} (h : tree.Proper) {place : List String}
    {bytes? : Option (List UInt8)} (hfile : tree.at? place = some (.file bytes?))
    (other : List String) :
    ((tree.remove? place).bind fun left => left.at? other).map shape =
      if other = place then none else (tree.at? other).map shape := by
  induction place generalizing tree other with
  | nil =>
      obtain rfl := Option.some.inj hfile
      cases other with
      | nil => rfl
      | cons name other => rfl
  | cons name rest ih =>
      obtain ⟨entries, entry, rfl, hentry, hrest⟩ := exists_directory_of_at?_cons hfile
      cases h with
      | directory _ hnodup _ hentries =>
          have hbelow := ih (hentries _ (mem_of_lookup hentry)) hrest
          cases other with
          | nil => simp [remove?, FileTree.at?, shape]
          | cons next other =>
              simp only [remove?, Option.bind_some, FileTree.at?, lookup_revise hnodup hentry]
              by_cases hnext : next = name
              · subst hnext
                rw [if_pos rfl, hentry, Option.bind_some, hbelow other]
                simp
              · rw [if_neg hnext, if_neg (by simp [hnext])]

/-- A file is removed from a tree by removing it from the directory at any place on the way. -/
theorem Proper.at?_remove? {tree sub : FileTree} (h : tree.Proper) {place : List String}
    (hplace : tree.at? place = some sub) (names : List String) :
    (tree.remove? (place ++ names)).bind (fun left => left.at? place) = sub.remove? names := by
  induction place generalizing tree with
  | nil =>
      obtain rfl := Option.some.inj hplace
      exact Option.bind_fun_some _
  | cons name place ih =>
      obtain ⟨entries, entry, rfl, hentry, hrest⟩ := exists_directory_of_at?_cons hplace
      cases h with
      | directory _ hnodup _ hentries =>
          have hbelow := ih (hentries _ (mem_of_lookup hentry)) hrest
          simp only [List.cons_append, remove?, Option.bind_some, FileTree.at?,
            lookup_revise hnodup hentry, if_pos]
          exact hbelow

/-- Nothing stands below a file. -/
theorem not_isPrefix_of_directory {tree : FileTree} {place other : List String}
    {bytes? : Option (List UInt8)} {entries : List (String × FileTree)}
    (hfile : tree.at? place = some (.file bytes?))
    (hother : tree.at? other = some (.directory entries)) : ¬ place <+: other := by
  rintro ⟨rest, rfl⟩
  rw [at?_append, hfile, Option.bind_some] at hother
  cases rest with
  | nil => cases hother
  | cons name rest => simp [FileTree.at?] at hother

/-! ## Where paths lead -/

/-- The next step of a path depends on the shape of what its name stands for. -/
theorem descend_name (tree : FileTree)
    (jump : List String → List Component → Option (List String)) (here : List String)
    (chars : List Char) (parts : List Component) :
    tree.descend jump here (.name chars :: parts) =
      match (tree.at? (String.ofList chars :: here).reverse).map shape with
      | none => none
      | some (.file _) => if parts.isEmpty then some (String.ofList chars :: here) else none
      | some .directory => tree.descend jump (String.ofList chars :: here) parts
      | some (.link target) => jump here (Path.components target.toList ++ parts) := by
  rw [descend]
  cases tree.at? (String.ofList chars :: here).reverse with
  | none => rfl
  | some entry => cases entry <;> rfl

section

variable {tree left : FileTree} {place : List String} {bytes? : Option (List UInt8)}

/-- Without the file, paths lead where they led, unless they led to it. The way there goes through
directories and links, which are as they were. -/
theorem descend_without (hfile : tree.at? place = some (.file bytes?))
    (hshape : ∀ other, (left.at? other).map shape =
      if other = place then none else (tree.at? other).map shape)
    (jump others : List String → List Component → Option (List String))
    (hjump : ∀ here parts, ¬ place <+: here.reverse →
      others here parts = (jump here parts).filter (· ≠ place.reverse))
    {here : List String} (hhere : ¬ place <+: here.reverse) (parts : List Component) :
    left.descend others here parts =
      (tree.descend jump here parts).filter (· ≠ place.reverse) := by
  -- The place reached so far is never the file's or below it, since nothing stands below a file.
  induction parts generalizing here with
  | nil =>
      have hne : here ≠ place.reverse := by
        rintro rfl
        simp at hhere
      rw [descend, descend, Option.filter_some, if_pos (by simpa using hne)]
  | cons part parts ih =>
      cases part with
      | root =>
          refine ih fun hnil => hhere ?_
          rw [List.prefix_nil.mp hnil]
          exact List.nil_prefix
      | here => exact ih hhere
      | parent =>
          refine ih fun htail => hhere (htail.trans ?_)
          cases here with
          | nil => exact List.prefix_refl _
          | cons name here => simp
      | name chars =>
          rw [descend_name, descend_name, hshape]
          by_cases hsame : (String.ofList chars :: here).reverse = place
          · have hback : String.ofList chars :: here = place.reverse := by
              rw [← hsame, List.reverse_reverse]
            rw [if_pos hsame, hsame, hfile]
            simp only [Option.map_some, shape, hback]
            split
            · rw [Option.filter_some, if_neg (by simp)]
            · rfl
          rw [if_neg hsame]
          split
          · rfl
          · have hne : String.ofList chars :: here ≠ place.reverse := by
              intro hback
              exact hsame (by rw [hback, List.reverse_reverse])
            split
            · rw [Option.filter_some, if_pos (by simpa using hne)]
            · rfl
          · apply ih
            rw [List.reverse_cons, List.prefix_concat_iff]
            rintro (heq | hprefix)
            · exact hsame (by rw [List.reverse_cons, heq])
            · exact hhere hprefix
          · exact hjump _ _ hhere

theorem resolve_without (hfile : tree.at? place = some (.file bytes?))
    (hshape : ∀ other, (left.at? other).map shape =
      if other = place then none else (tree.at? other).map shape)
    (links : Nat) {here : List String} (hhere : ¬ place <+: here.reverse)
    (parts : List Component) :
    left.resolve links here parts =
      (tree.resolve links here parts).filter (· ≠ place.reverse) := by
  induction links generalizing here parts with
  | zero =>
      exact descend_without hfile hshape (fun _ _ => none) (fun _ _ => none) (fun _ _ _ => rfl)
        hhere parts
  | succ links ih =>
      exact descend_without hfile hshape (tree.resolve links) (left.resolve links)
        (fun _ parts h => ih h parts) hhere parts

end

end FileTree

namespace FileSystem

/-- The tree is proper, and relative paths start from a directory of it. -/
structure Proper (files : FileSystem) : Prop where
  tree : files.tree.Proper
  here : ∃ entries, files.tree.at? files.here = some (.directory entries)

/-- The file system without the file that a path leads to. -/
def delete (files : FileSystem) (path : String) : FileSystem :=
  match (files.locate? path).bind files.tree.remove? with
  | some tree => { files with tree }
  | none => files

section

variable {files : FileSystem} {path : String} {place : List String} {bytes? : Option (List UInt8)}

theorem Proper.exists_delete (h : files.Proper) (hpath : files.locate? path = some place)
    (hfile : files.tree.at? place = some (.file bytes?)) :
    ∃ left, files.tree.remove? place = some left ∧ files.delete path = ⟨left, files.here⟩ ∧
      ∀ other, (left.at? other).map FileTree.shape =
        if other = place then none else (files.tree.at? other).map FileTree.shape := by
  obtain ⟨entries, hhere⟩ := h.here
  have hremoved := h.tree.shape_remove? hfile
  cases hleft : files.tree.remove? place with
  | none =>
      -- The file would be the whole tree, with no directory for paths to start from.
      have hnil : place = [] := by
        cases place with
        | nil => rfl
        | cons name rest =>
            obtain ⟨_, _, htree, -, -⟩ := FileTree.exists_directory_of_at?_cons hfile
            simp [FileTree.remove?, htree] at hleft
      exact absurd (hnil ▸ List.nil_prefix) (FileTree.not_isPrefix_of_directory hfile hhere)
  | some left =>
      refine ⟨left, rfl, ?_, ?_⟩
      · simp [delete, hpath, hleft]
      · intro other
        rw [← hremoved other, hleft, Option.bind_some]

/-- After a file was deleted, the paths that led to it lead nowhere, and the others where they
led. -/
theorem Proper.locate?_delete (h : files.Proper) (hpath : files.locate? path = some place)
    (hfile : files.tree.at? place = some (.file bytes?)) (other : String) :
    (files.delete path).locate? other = (files.locate? other).filter (· ≠ place) := by
  obtain ⟨left, -, hdelete, hshape⟩ := h.exists_delete hpath hfile
  obtain ⟨entries, hhere⟩ := h.here
  have hbelow : ¬ place <+: files.here.reverse.reverse := by
    rw [List.reverse_reverse]
    exact FileTree.not_isPrefix_of_directory hfile hhere
  rw [hdelete, locate?, locate?, FileTree.resolve_without hfile hshape _ hbelow]
  cases files.tree.resolve FileTree.maxLinks files.here.reverse
    (Path.components other.toList) with
  | none => rfl
  | some back =>
      by_cases hback : back = place.reverse
      · simp [hback, Option.filter_some]
      · have hne : back.reverse ≠ place := by
          rintro rfl
          simp at hback
        simp [hback, hne, Option.filter_some]

theorem Proper.shape_find?_delete (h : files.Proper) (hpath : files.locate? path = some place)
    (hfile : files.tree.at? place = some (.file bytes?)) {other : String}
    (hother : files.locate? other ≠ some place) :
    ((files.delete path).find? other).map FileTree.shape =
      (files.find? other).map FileTree.shape := by
  obtain ⟨left, -, hdelete, hshape⟩ := h.exists_delete hpath hfile
  rw [find?, find?, h.locate?_delete hpath hfile]
  cases hlocate : files.locate? other with
  | none => rfl
  | some target =>
      have hne : target ≠ place := by
        rintro rfl
        exact hother hlocate
      have htarget := hshape target
      rw [if_neg hne] at htarget
      simpa [hne, hdelete, Option.filter_some] using htarget

theorem read?_eq (files : FileSystem) (path : String) :
    files.read? path =
      match (files.find? path).map FileTree.shape with
      | some (.file bytes?) => bytes?
      | _ => none := by
  unfold read?
  cases files.find? path with
  | none => rfl
  | some entry => cases entry <;> rfl

theorem isDirectory_eq (files : FileSystem) (path : String) :
    files.isDirectory path =
      match (files.find? path).map FileTree.shape with
      | some .directory => true
      | _ => false := by
  unfold isDirectory
  cases files.find? path with
  | none => rfl
  | some entry => cases entry <;> rfl

/-- All other files can be read as before. -/
theorem Proper.read?_delete (h : files.Proper) (hpath : files.locate? path = some place)
    (hfile : files.tree.at? place = some (.file bytes?)) {other : String}
    (hother : files.locate? other ≠ some place) :
    (files.delete path).read? other = files.read? other := by
  rw [read?_eq, read?_eq, h.shape_find?_delete hpath hfile hother]

theorem Proper.isDirectory_delete (h : files.Proper) (hpath : files.locate? path = some place)
    (hfile : files.tree.at? place = some (.file bytes?)) {other : String}
    (hother : files.locate? other ≠ some place) :
    (files.delete path).isDirectory other = files.isDirectory other := by
  rw [isDirectory_eq, isDirectory_eq, h.shape_find?_delete hpath hfile hother]

end

end FileSystem

end ScriptGraph
