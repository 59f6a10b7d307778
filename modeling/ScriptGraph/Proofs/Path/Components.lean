import Mathlib.Data.List.Basic
import ScriptGraph.Path

/-!
# Components of joined paths

The segments of a path come apart at every slash, so what is joined to a path
behind a slash has its components behind those of the path. This is said of any
relative path and of a path that goes on by plain names.
-/

namespace ScriptGraph.Path

/-- A text that a path can spell as one name. -/
def IsName (name : String) : Prop :=
  component? name.toList = some (.name name.toList) ∧ '/' ∉ name.toList

instance (name : String) : Decidable (IsName name) := inferInstanceAs (Decidable (_ ∧ _))

theorem segments_ne_nil (text : List Char) : segments text ≠ [] := by
  cases text with
  | nil => simp [segments]
  | cons c rest =>
      unfold segments
      split
      · simp
      · split <;> simp

theorem segments_append_slash (text more : List Char) :
    segments (text ++ '/' :: more) = segments text ++ segments more := by
  induction text with
  | nil => simp [segments]
  | cons c text ih =>
      rw [List.cons_append, segments, segments, ih]
      by_cases hc : c = '/'
      · rw [if_pos hc, if_pos hc, List.cons_append]
      · rw [if_neg hc, if_neg hc]
        cases hpieces : segments text with
        | nil => exact absurd hpieces (segments_ne_nil text)
        | cons piece pieces => rfl

theorem segments_of_no_slash {text : List Char} (h : '/' ∉ text) : segments text = [text] := by
  induction text with
  | nil => rfl
  | cons c text ih =>
      have hc : c ≠ '/' := fun hc => h (by simp [hc])
      have hrest : '/' ∉ text := fun hrest => h (List.mem_cons_of_mem c hrest)
      rw [segments, if_neg hc, ih hrest]

theorem intercalate_names_cons (name next : String) (rest : List String) :
    "/".toList.intercalate ((name :: next :: rest).map String.toList) =
      name.toList ++ '/' :: "/".toList.intercalate ((next :: rest).map String.toList) := by
  simp [List.intercalate_cons_cons]

theorem filterMap_segments_intercalate {names : List String} (h : ∀ name ∈ names, IsName name) :
    (segments ("/".intercalate names).toList).filterMap component? =
      names.map fun name => .name name.toList := by
  rw [String.toList_intercalate]
  induction names with
  | nil => rfl
  | cons name rest ih =>
      obtain ⟨hname, hslash⟩ := h name List.mem_cons_self
      have hrest := ih fun other hother => h other (List.mem_cons_of_mem name hother)
      cases rest with
      | nil => simp [segments_of_no_slash hslash, hname]
      | cons next rest =>
          rw [intercalate_names_cons, segments_append_slash, segments_of_no_slash hslash,
            List.filterMap_append, hrest]
          simp [hname]

theorem opening_append_slash {base : List Char} (h : base ≠ []) (more : List Char) :
    opening (base ++ '/' :: more) = opening base := by
  match base with
  | [] => exact absurd rfl h
  | [c] =>
      by_cases hc : c = '/'
      · simp [opening, hc]
      · by_cases hdot : c = '.'
        · simp [opening, hdot]
        · simp [opening, hc, hdot]
  | c :: d :: rest =>
      by_cases hc : c = '/'
      · simp [opening, hc]
      · by_cases hdot : c = '.' ∧ d = '/'
        · simp [opening, hdot.1, hdot.2]
        · unfold opening
          split <;> simp_all

theorem IsName.opening_eq_nil {name : String} (h : IsName name) : opening name.toList = [] := by
  obtain ⟨hname, hslash⟩ := h
  unfold opening
  split
  · rfl
  · simp_all
  · simp_all [component?]
  · simp_all
  · rfl

/-- A path of names opens with nothing else. -/
theorem opening_intercalate {names : List String} (h : ∀ name ∈ names, IsName name) :
    opening ("/".intercalate names).toList = [] := by
  rw [String.toList_intercalate]
  cases names with
  | nil => rfl
  | cons name rest =>
      have hname := h name List.mem_cons_self
      cases rest with
      | nil => simpa using hname.opening_eq_nil
      | cons next rest =>
          have hchars : name.toList ≠ [] := by
            intro hchars
            simp [IsName, hchars, component?] at hname
          rw [intercalate_names_cons, opening_append_slash hchars, hname.opening_eq_nil]

theorem components_append_slash {base : List Char} (h : base ≠ []) (more : List Char) :
    components (base ++ '/' :: more) =
      components base ++ (segments more).filterMap component? := by
  rw [components, opening_append_slash h, segments_append_slash, List.filterMap_append,
    components, List.append_assoc]

theorem components_concat_slash (base more : List Char) :
    components (base ++ '/' :: more) =
      components (base ++ ['/']) ++ (segments more).filterMap component? := by
  by_cases h : base = []
  · subst h
    simp [components, opening, segments, component?]
  · rw [components_append_slash h, components_append_slash h]
    simp [segments, component?]

theorem join_of_empty (path : String) : join "" path = path := by
  unfold join
  split <;> rfl

/-- What is joined to a path comes after its components; how it opened no longer counts. -/
theorem components_join_of_relative {root path : String} (hroot : root ≠ "")
    (hpath : path.toList.head? ≠ some '/') :
    components (join root path).toList =
      components root.toList ++ (segments path.toList).filterMap component? := by
  have hchars : root.toList ≠ [] := fun h => hroot (String.toList_eq_nil_iff.mp h)
  unfold join
  split
  · rename_i rest hslash
    simp [hslash] at hpath
  · split
    · rename_i hlast
      exact absurd (List.getLast?_eq_none_iff.mp hlast) hchars
    · rename_i hlast
      obtain ⟨front, hfront⟩ := List.getLast?_eq_some_iff.mp hlast
      rw [String.toList_append, hfront, List.append_assoc, List.singleton_append,
        components_concat_slash]
    · have hslash : "/".toList = ['/'] := rfl
      rw [String.toList_append, String.toList_append, List.append_assoc, hslash,
        List.singleton_append, components_append_slash hchars]

/-- Names that are joined to a path come after its components. -/
theorem components_join (root : String) {names : List String}
    (h : ∀ name ∈ names, IsName name) :
    components (join root ("/".intercalate names)).toList =
      components root.toList ++ names.map fun name => .name name.toList := by
  have hparts := filterMap_segments_intercalate h
  have hopening := opening_intercalate h
  by_cases hroot : root = ""
  · rw [hroot, join_of_empty, components, hopening, hparts]
    rfl
  · have hslash : ("/".intercalate names).toList.head? ≠ some '/' := by
      intro hslash
      obtain ⟨rest, hrest⟩ := List.head?_eq_some_iff.mp hslash
      simp [hrest, opening] at hopening
    rw [components_join_of_relative hroot hslash, hparts]

end ScriptGraph.Path
