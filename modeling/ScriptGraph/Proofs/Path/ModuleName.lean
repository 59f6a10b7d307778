import Mathlib.Data.List.Basic
import Mathlib.Data.List.TakeWhile
import ScriptGraph.Path

/-!
# Names of modules

The name of a module is what is left of the last segment of a path in front of
its first dot. So nothing that comes before the last segment counts, nor
trailing slashes, nor anything behind a dot of the last segment, and a name is
its own name.
-/

namespace ScriptGraph.Path

theorem takeWhile_append_cons {keeps : Char → Bool} {stop : Char} (h : keeps stop = false)
    (text more : List Char) : (text ++ stop :: more).takeWhile keeps = text.takeWhile keeps := by
  induction text with
  | nil => simp [h]
  | cons c text ih => rw [List.cons_append, List.takeWhile_cons, List.takeWhile_cons, ih]

/-! ## The last segment -/

theorem leaf_append_slash (path : List Char) : leaf (path ++ ['/']) = leaf path := by
  simp [leaf]

theorem leaf_subset (path : List Char) : leaf path ⊆ path := by
  intro c hc
  have hmem := (List.takeWhile_prefix _).subset (List.mem_reverse.mp hc)
  exact List.mem_reverse.mp ((List.dropWhile_suffix _).subset hmem)

theorem slash_not_mem_leaf (path : List Char) : '/' ∉ leaf path := by
  intro hmem
  have hslash := List.mem_takeWhile_imp (List.mem_reverse.mp hmem)
  simp at hslash

theorem reverse_leaf_of_last {path : List Char} (h : path.getLast? ≠ some '/') :
    (leaf path).reverse = path.reverse.takeWhile (· != '/') := by
  -- The path is read from its back, where there is no slash to leave off.
  have hkept : path.reverse.dropWhile (· == '/') = path.reverse := by
    rw [← List.head?_reverse] at h
    cases hpath : path.reverse with
    | nil => rfl
    | cons last rest =>
        have hlast : last ≠ '/' := by simpa [hpath] using h
        rw [List.dropWhile_cons_of_neg (by simpa using hlast)]
  rw [leaf, List.reverse_reverse, hkept]

theorem leaf_append {path more : List Char} (hpath : path.getLast? ≠ some '/')
    (hmore : '/' ∉ more) : leaf (path ++ more) = leaf path ++ more := by
  have hplain : ∀ c ∈ more.reverse, (c != '/') = true := by
    intro c hc
    simpa using ne_of_mem_of_not_mem (List.mem_reverse.mp hc) hmore
  have hlast : (path ++ more).getLast? ≠ some '/' := by
    rw [List.getLast?_append]
    cases hend : more.getLast? with
    | none => exact hpath
    | some last =>
        have hmem := List.mem_of_getLast? hend
        simpa using ne_of_mem_of_not_mem hmem hmore
  rw [← List.reverse_inj, reverse_leaf_of_last hlast, List.reverse_append, List.reverse_append,
    reverse_leaf_of_last hpath, List.takeWhile_append_of_pos hplain]

theorem leaf_of_no_slash {path : List Char} (h : '/' ∉ path) : leaf path = path := by
  change leaf ([] ++ path) = leaf [] ++ path
  exact leaf_append (by simp) h

/-- What stands before a slash does not count if more than slashes comes behind it. -/
theorem leaf_below (directory : List Char) {path : List Char} (h : ∃ c ∈ path, c ≠ '/') :
    leaf (directory ++ '/' :: path) = leaf path := by
  have hkept : (path.reverse.dropWhile (· == '/')).isEmpty = false := by
    obtain ⟨c, hmem, hc⟩ := h
    rw [List.isEmpty_eq_false_iff, ne_eq, List.dropWhile_eq_nil_iff]
    intro hall
    exact hc (by simpa using hall c (List.mem_reverse.mpr hmem))
  have hback : (directory ++ '/' :: path).reverse = path.reverse ++ '/' :: directory.reverse := by
    simp
  rw [leaf, hback, List.dropWhile_append, hkept, if_neg Bool.false_ne_true,
    takeWhile_append_cons (by decide), leaf]

/-! ## Names -/

theorem dot_not_mem_stem (path : List Char) : '.' ∉ stem path := by
  intro hmem
  have hdot := List.mem_takeWhile_imp hmem
  simp at hdot

theorem slash_not_mem_stem (path : List Char) : '/' ∉ stem path := fun hmem =>
  slash_not_mem_leaf path ((List.takeWhile_prefix _).subset hmem)

theorem stem_of_no_slash {path : List Char} (h : '/' ∉ path) :
    stem path = path.takeWhile (· != '.') := by
  rw [stem, leaf_of_no_slash h]

theorem stem_stem (path : List Char) : stem (stem path) = stem path := by
  rw [stem_of_no_slash (slash_not_mem_stem path), List.takeWhile_eq_self_iff]
  intro c hc
  simpa using ne_of_mem_of_not_mem hc (dot_not_mem_stem path)

@[simp] theorem toList_moduleName (path : String) :
    (moduleName path).toList = stem path.toList := by
  rw [moduleName, String.toList_ofList]

theorem moduleName_moduleName (path : String) : moduleName (moduleName path) = moduleName path := by
  rw [moduleName, toList_moduleName, stem_stem, moduleName]

theorem moduleName_below (directory : String) {path : String}
    (h : ∃ c ∈ path.toList, c ≠ '/') :
    moduleName (directory ++ "/" ++ path) = moduleName path := by
  have hchars : (directory ++ "/" ++ path).toList = directory.toList ++ '/' :: path.toList := by
    simp
  rw [moduleName, hchars, stem, leaf_below _ h, ← stem, moduleName]

theorem moduleName_append_slash (path : String) : moduleName (path ++ "/") = moduleName path := by
  have hchars : (path ++ "/").toList = path.toList ++ ['/'] := by simp
  rw [moduleName, hchars, stem, leaf_append_slash, ← stem, moduleName]

/-- Nothing behind a dot of the last segment counts. -/
theorem moduleName_append_dot {path extension : String}
    (hpath : path.toList.getLast? ≠ some '/') (hextension : '/' ∉ extension.toList) :
    moduleName (path ++ "." ++ extension) = moduleName path := by
  have hchars : (path ++ "." ++ extension).toList = path.toList ++ '.' :: extension.toList := by
    simp
  have hslash : '/' ∉ '.' :: extension.toList := by simpa using hextension
  rw [moduleName, hchars, stem, leaf_append hpath hslash, takeWhile_append_cons (by decide),
    ← stem, moduleName]

theorem moduleName_append_slashes (path : String) (count : Nat) :
    moduleName (path ++ String.ofList (List.replicate count '/')) = moduleName path := by
  induction count with
  | zero => rw [List.replicate_zero, String.ofList_nil, String.append_empty]
  | succ count ih =>
      have hone : path ++ String.ofList (List.replicate (count + 1) '/') =
          path ++ String.ofList (List.replicate count '/') ++ "/" := by
        rw [← String.toList_inj]
        simp [List.replicate_succ']
      rw [hone, moduleName_append_slash, ih]

/-! ## Spellings -/

/-- A text leads to a path: directories may stand before it, and behind it slashes, or a dot and an
extension. -/
def Spells (path text : String) : Prop :=
  ∃ front : String, (front = path ∨ ∃ directory : String, front = directory ++ "/" ++ path) ∧
    ((∃ count, text = front ++ String.ofList (List.replicate count '/')) ∨
      ∃ extension : String, '/' ∉ extension.toList ∧ text = front ++ "." ++ extension)

theorem moduleName_of_spells {path text : String} (hpath : path ≠ "")
    (hlast : path.toList.getLast? ≠ some '/') (h : Spells path text) :
    moduleName text = moduleName path := by
  obtain ⟨front, hfront, htail⟩ := h
  have hchars : path.toList ≠ [] := fun h => hpath (String.toList_eq_nil_iff.mp h)
  have hother : ∃ c ∈ path.toList, c ≠ '/' := by
    refine ⟨path.toList.getLast hchars, List.getLast_mem hchars, fun hslash => hlast ?_⟩
    rw [List.getLast?_eq_some_getLast hchars, hslash]
  have hname : moduleName front = moduleName path := by
    rcases hfront with rfl | ⟨directory, rfl⟩
    · rfl
    · exact moduleName_below directory hother
  have hend : front.toList.getLast? ≠ some '/' := by
    rcases hfront with rfl | ⟨directory, rfl⟩
    · exact hlast
    · rwa [String.toList_append, List.getLast?_append_of_ne_nil _ hchars]
  rcases htail with ⟨count, rfl⟩ | ⟨extension, hextension, rfl⟩
  · rw [moduleName_append_slashes, hname]
  · rw [moduleName_append_dot hend hextension, hname]

end ScriptGraph.Path
