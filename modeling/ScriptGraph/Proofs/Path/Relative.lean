import ScriptGraph.Proofs.Path.Components
import ScriptGraph.Proofs.Path.ModuleName

/-!
# Paths relative to a root

A path relative to a root is put together again from components, so it has a
normal form: segments that are neither empty nor a `.`, with single slashes
between them. Taking off a root never takes off the last component, unless the
root is the whole path; so the name of a file's module is that of the file,
whatever the root.
-/

namespace ScriptGraph.Path

/-! ## Segments -/

theorem slash_not_mem_of_mem_segments {path piece : List Char} (h : piece ∈ segments path) :
    '/' ∉ piece := by
  induction path generalizing piece with
  | nil => simp_all [segments]
  | cons c path ih =>
      unfold segments at h
      split at h
      · rcases List.mem_cons.mp h with rfl | h
        · exact List.not_mem_nil
        · exact ih h
      · rename_i hc
        cases hpieces : segments path with
        | nil => exact absurd hpieces (segments_ne_nil path)
        | cons first rest =>
            rw [hpieces] at h ih
            rcases List.mem_cons.mp h with rfl | h
            · simpa [Ne.symm hc] using ih List.mem_cons_self
            · exact ih (List.mem_cons_of_mem first h)

theorem intercalate_slash_cons (piece next : List Char) (rest : List (List Char)) :
    ['/'].intercalate (piece :: next :: rest) =
      piece ++ '/' :: ['/'].intercalate (next :: rest) := by
  simp [List.intercalate_cons_cons]

theorem segments_intercalate {pieces : List (List Char)} (hpieces : pieces ≠ [])
    (h : ∀ piece ∈ pieces, '/' ∉ piece) : segments (['/'].intercalate pieces) = pieces := by
  induction pieces with
  | nil => exact absurd rfl hpieces
  | cons piece rest ih =>
      have hpiece := segments_of_no_slash (h piece List.mem_cons_self)
      cases rest with
      | nil => simpa using hpiece
      | cons next rest =>
          have hrest := ih (by simp) fun other hother => h other (List.mem_cons_of_mem piece hother)
          rw [intercalate_slash_cons, segments_append_slash, hpiece, hrest]
          rfl

theorem leaf_intercalate (front : List (List Char)) {last : List Char} (hlast : last ≠ [])
    (hslash : '/' ∉ last) : leaf (['/'].intercalate (front ++ [last])) = last := by
  induction front with
  | nil => simpa using leaf_of_no_slash hslash
  | cons piece front ih =>
      obtain ⟨next, rest, hrest⟩ := List.exists_cons_of_ne_nil (List.concat_ne_nil last front)
      have hother : ∃ c ∈ ['/'].intercalate (front ++ [last]), c ≠ '/' := by
        obtain ⟨c, hc⟩ := List.exists_mem_of_ne_nil last hlast
        refine ⟨c, leaf_subset _ ?_, ne_of_mem_of_not_mem hc hslash⟩
        rw [ih]
        exact hc
      rw [List.cons_append, hrest, intercalate_slash_cons, ← hrest, leaf_below piece hother, ih]

/-- A path without empty segments neither starts nor ends with a slash. -/
theorem ends_of_segments {path : List Char} (h : [] ∉ segments path) :
    path.head? ≠ some '/' ∧ path.getLast? ≠ some '/' := by
  constructor
  · intro hhead
    obtain ⟨rest, rfl⟩ := List.head?_eq_some_iff.mp hhead
    exact h (by simp [segments])
  · intro hlast
    obtain ⟨front, rfl⟩ := List.getLast?_eq_some_iff.mp hlast
    exact h (by simp [segments_append_slash, segments])

theorem not_dot_prefix_of_segments {path : List Char} (h : ['.'] ∉ segments path) :
    ¬ ['.', '/'] <+: path := by
  rintro ⟨rest, rfl⟩
  exact h (by simp [segments])

/-! ## Components -/

/-- The piece of a path that a component stands for is neither empty nor a `.`. -/
theorem plain_of_mem_components {path piece : List Char} {part : Component}
    (hpart : part ∈ components path) (hpiece : segment? part = some piece) :
    piece ≠ [] ∧ piece ≠ ['.'] ∧ '/' ∉ piece := by
  rcases List.mem_append.mp hpart with hopening | hbody
  · unfold opening at hopening
    split at hopening <;> simp_all [segment?]
  · obtain ⟨source, hsource, hcomponent⟩ := List.mem_filterMap.mp hbody
    have hslash := slash_not_mem_of_mem_segments hsource
    unfold component? at hcomponent
    split at hcomponent
    · cases hcomponent
    · rename_i hplain
      split at hcomponent
      · obtain rfl := Option.some.inj hcomponent
        obtain rfl := Option.some.inj hpiece
        decide
      · obtain rfl := Option.some.inj hcomponent
        obtain rfl := Option.some.inj hpiece
        exact ⟨fun h => hplain (.inl h), fun h => hplain (.inr h), hslash⟩

theorem fileName?_eq_some_iff {path name : List Char} :
    fileName? path = some name ↔ (components path).getLast? = some (.name name) := by
  unfold fileName?
  split
  · rename_i chars hlast
    simp [hlast]
  · rename_i hlast
    simpa using hlast name

/-- A file name comes from the segments of a path, not from how it opens. -/
theorem fileName?_iff_segments {path name : List Char} :
    fileName? path = some name ↔
      ((segments path).filterMap component?).getLast? = some (.name name) := by
  have hopening : (opening path).getLast? ≠ some (.name name) := by
    unfold opening
    split <;> simp
  rw [fileName?_eq_some_iff, components, List.getLast?_append]
  cases ((segments path).filterMap component?).getLast? with
  | none => simpa using hopening
  | some part => rfl

theorem fileName?_join (root : String) {path : String} {name : List Char}
    (h : fileName? path.toList = some name) : fileName? (join root path).toList = some name := by
  by_cases hslash : path.toList.head? = some '/'
  · obtain ⟨rest, hrest⟩ := List.head?_eq_some_iff.mp hslash
    unfold join
    split
    · exact h
    · rename_i hpath
      exact absurd hrest (hpath rest)
  · by_cases hroot : root = ""
    · rwa [hroot, join_of_empty]
    · have hlast := fileName?_iff_segments.mp h
      rw [fileName?_eq_some_iff, components_join_of_relative hroot hslash, List.getLast?_append,
        hlast]
      rfl

/-- What lies below a base is what comes behind it. -/
theorem below?_eq_some_iff {base file rest : List Component} :
    below? base file = some rest ↔ file = base ++ rest := by
  fun_induction below? base file with
  | case1 file => simp [eq_comm]
  | case2 b base => simp
  | case3 base part file ih => simp [ih]
  | case4 b base f file h => simp [Ne.symm h]

theorem relativeComponents_suffix (root file : List Char) :
    relativeComponents root file <:+ components file := by
  unfold relativeComponents
  cases hbelow : below? (components root) (components file) with
  | none => exact List.suffix_refl _
  | some rest => exact ⟨components root, (below?_eq_some_iff.mp hbelow).symm⟩

/-- Only a root that is the whole path leaves nothing of it. -/
theorem getLast?_relativeComponents {root file : List Char}
    (h : components root ≠ components file) :
    (relativeComponents root file).getLast? = (components file).getLast? := by
  unfold relativeComponents
  cases hbelow : below? (components root) (components file) with
  | none => rfl
  | some rest =>
      have hfile := below?_eq_some_iff.mp hbelow
      have hrest : rest ≠ [] := by
        rintro rfl
        exact h (by rw [hfile, List.append_nil])
      rw [hfile, Option.getD_some, List.getLast?_append_of_ne_nil _ hrest]

/-! ## Rendered paths -/

def relativeSegments (root file : String) : List (List Char) :=
  (relativeComponents root.toList file.toList).filterMap segment?

theorem toList_relative (root file : String) :
    (relative root file).toList = ['/'].intercalate (relativeSegments root file) := by
  rw [relative, String.toList_ofList]
  rfl

theorem plain_of_mem_relativeSegments {root file : String} {piece : List Char}
    (h : piece ∈ relativeSegments root file) : piece ≠ [] ∧ piece ≠ ['.'] ∧ '/' ∉ piece := by
  obtain ⟨part, hpart, hpiece⟩ := List.mem_filterMap.mp h
  exact plain_of_mem_components ((relativeComponents_suffix _ _).subset hpart) hpiece

theorem segments_relative {root file : String} (h : relative root file ≠ "") :
    segments (relative root file).toList = relativeSegments root file := by
  rw [toList_relative]
  apply segments_intercalate
  · intro hnil
    rw [ne_eq, ← String.toList_inj, toList_relative, hnil] at h
    exact h rfl
  · intro piece hpiece
    exact (plain_of_mem_relativeSegments hpiece).2.2

theorem relative_shape (root file : String) :
    (relative root file).toList.head? ≠ some '/' ∧
    ¬ ['.', '/'] <+: (relative root file).toList ∧
    (relative root file).toList.getLast? ≠ some '/' ∧
    (relative root file ≠ "" → [] ∉ segments (relative root file).toList) := by
  by_cases hempty : relative root file = ""
  · -- The empty path has one segment, which is empty.
    rw [hempty]
    simp
  · have hpieces : ∀ piece ∈ segments (relative root file).toList,
        piece ≠ [] ∧ piece ≠ ['.'] ∧ '/' ∉ piece := by
      rw [segments_relative hempty]
      exact fun piece => plain_of_mem_relativeSegments
    have hslash : [] ∉ segments (relative root file).toList := fun h => (hpieces _ h).1 rfl
    have hdot : ['.'] ∉ segments (relative root file).toList := fun h => (hpieces _ h).2.1 rfl
    obtain ⟨hhead, hlast⟩ := ends_of_segments hslash
    exact ⟨hhead, not_dot_prefix_of_segments hdot, hlast, fun _ => hslash⟩

theorem leaf_relative {root file : String} {name : List Char}
    (hname : fileName? file.toList = some name)
    (hroot : components root.toList ≠ components file.toList) :
    leaf (relative root file).toList = name ∧ name ≠ [] := by
  have hlast := fileName?_eq_some_iff.mp hname
  rw [← getLast?_relativeComponents hroot] at hlast
  obtain ⟨front, hfront⟩ := List.getLast?_eq_some_iff.mp hlast
  have hsegments : relativeSegments root file = front.filterMap segment? ++ [name] := by
    rw [relativeSegments, hfront, List.filterMap_append]
    rfl
  have hplain : name ≠ [] ∧ name ≠ ['.'] ∧ '/' ∉ name := by
    apply plain_of_mem_relativeSegments
    rw [hsegments]
    exact List.mem_append_right _ List.mem_cons_self
  rw [toList_relative, hsegments, leaf_intercalate _ hplain.1 hplain.2.2]
  exact ⟨rfl, hplain.1⟩

/-- A root and what is joined to it: the root is taken off again, and how the rest opened does
not show. -/
theorem relative_join (root : String) {path : String} (h : path.toList.head? ≠ some '/') :
    relative root (join root path) = relative "" path := by
  by_cases hroot : root = ""
  · rw [hroot, join_of_empty]
  · have hopening : (opening path.toList).filterMap segment? = [] := by
      unfold opening
      split <;> rfl
    have hbelow : relativeComponents root.toList (join root path).toList =
        (segments path.toList).filterMap component? := by
      rw [relativeComponents, components_join_of_relative hroot h,
        below?_eq_some_iff.mpr rfl, Option.getD_some]
    have hwhole : relativeComponents "".toList path.toList = components path.toList := rfl
    rw [← String.toList_inj, toList_relative, toList_relative, relativeSegments, hbelow,
      relativeSegments, hwhole, components, List.filterMap_append, hopening, List.nil_append]

theorem relative_of_components_eq {root file : String}
    (h : components root.toList = components file.toList) : relative root file = "" := by
  have hbelow : below? (components root.toList) (components file.toList) = some [] :=
    below?_eq_some_iff.mpr (by rw [h, List.append_nil])
  rw [relative, relativeComponents, hbelow]
  rfl

/-! ## Extensions -/

theorem nameExtension?_of_hidden {extension : List Char} (h : '.' ∉ extension) :
    nameExtension? ('.' :: extension) = none := by
  have hback : ('.' :: extension).reverse.dropWhile (· ≠ '.') = ['.'] := by
    have hplain : ∀ c ∈ extension.reverse, decide (c ≠ '.') = true := by
      intro c hc
      simpa using ne_of_mem_of_not_mem (List.mem_reverse.mp hc) h
    rw [List.reverse_cons, List.dropWhile_append_of_pos hplain]
    rfl
  simp only [nameExtension?, hback]

/-- The last dot of a script's path stands within its last segment and does not open it. -/
theorem front_of_extension {root path front extension : String} (hscript : isScript path = true)
    (hpath : relative root (join root path) = front ++ "." ++ extension)
    (hslash : '/' ∉ extension.toList) (hdot : '.' ∉ extension.toList) :
    front ≠ "" ∧ front.toList.getLast? ≠ some '/' := by
  have hnamed : ∃ name, fileName? path.toList = some name ∧ nameExtension? name ≠ none := by
    unfold isScript extension? at hscript
    cases hname : fileName? path.toList with
    | none => simp [hname] at hscript
    | some name =>
        refine ⟨name, rfl, fun hnone => ?_⟩
        simp [hname, hnone] at hscript
  obtain ⟨name, hname, hextension⟩ := hnamed
  have hroot : components root.toList ≠ components (join root path).toList := by
    intro hsame
    have hchars := congrArg String.toList (hpath.symm.trans (relative_of_components_eq hsame))
    simp at hchars
  have hleaf := (leaf_relative (fileName?_join root hname) hroot).1
  have hchars : (front ++ "." ++ extension).toList = front.toList ++ '.' :: extension.toList := by
    simp
  have hplain : '/' ∉ '.' :: extension.toList := by simpa using hslash
  rw [hpath, hchars] at hleaf
  -- Were the dot the first of the last segment, the name would have no extension.
  have hopens : leaf (front.toList ++ '.' :: extension.toList) ≠ '.' :: extension.toList := by
    intro hopens
    rw [← hleaf, hopens] at hextension
    exact hextension (nameExtension?_of_hidden hdot)
  constructor
  · rintro rfl
    exact hopens (leaf_of_no_slash hplain)
  · intro hlast
    obtain ⟨before, hbefore⟩ := List.getLast?_eq_some_iff.mp hlast
    rw [hbefore, List.append_assoc, List.singleton_append,
      leaf_below before ⟨'.', List.mem_cons_self, by decide⟩, leaf_of_no_slash hplain] at hopens
    exact hopens rfl

/-! ## Names of files -/

/-- The module of a file has the name that the file's own name gives, relative to any root but the
file itself, whether or not the file lies below it. A rendered path starts neither with a slash
nor with `./`, does not end with a slash, and has no empty segment. Relative to a root, what was
joined to the root is rendered as it is by itself. -/
theorem relative_keeps_module_name :
    (∀ (root file : String) (name : List Char), fileName? file.toList = some name →
      components root.toList ≠ components file.toList →
      moduleName (relative root file) = moduleName (String.ofList name) ∧
      [] ∉ segments (relative root file).toList) ∧
    (∀ root file : String,
      (relative root file).toList.head? ≠ some '/' ∧
      ¬ ['.', '/'] <+: (relative root file).toList ∧
      (relative root file).toList.getLast? ≠ some '/') ∧
    ∀ root path : String, path.toList.head? ≠ some '/' →
      relative root (join root path) = relative "" path := by
  refine ⟨?_, ?_, fun root path => relative_join root⟩
  · intro root file name hname hroot
    obtain ⟨hleaf, hne⟩ := leaf_relative hname hroot
    have hslash : '/' ∉ name := hleaf ▸ slash_not_mem_leaf _
    have hempty : relative root file ≠ "" := by
      intro hempty
      rw [hempty] at hleaf
      exact hne hleaf.symm
    refine ⟨?_, (relative_shape root file).2.2.2 hempty⟩
    rw [moduleName, moduleName, stem, hleaf, String.toList_ofList, stem_of_no_slash hslash]
  · intro root file
    obtain ⟨hhead, hdot, hlast, -⟩ := relative_shape root file
    exact ⟨hhead, hdot, hlast⟩

theorem relative_keeps_module_name_outside :
    fileName? "lib//app/./main.view.js/".toList = some "main.view.js".toList ∧
    components "./lib".toList ≠ components "lib//app/./main.view.js/".toList ∧
    moduleName (relative "./lib" "lib//app/./main.view.js/") =
      moduleName (String.ofList "main.view.js".toList) ∧
    [] ∉ segments (relative "./lib" "lib//app/./main.view.js/").toList ∧
    "./../x.js".toList.head? ≠ some '/' ∧
    relative "/p/" (join "/p/" "./../x.js") = relative "" "./../x.js" := by
  obtain ⟨hname, -, hjoin⟩ := relative_keeps_module_name
  have hfile : fileName? "lib//app/./main.view.js/".toList = some "main.view.js".toList := by
    decide +kernel
  have hroot : components "./lib".toList ≠ components "lib//app/./main.view.js/".toList := by
    decide +kernel
  obtain ⟨hmodule, hsegments⟩ := hname "./lib" "lib//app/./main.view.js/" _ hfile hroot
  have hrelative : "./../x.js".toList.head? ≠ some '/' := by decide
  exact ⟨hfile, hroot, hmodule, hsegments, hrelative, hjoin "/p/" "./../x.js" hrelative⟩

end ScriptGraph.Path
