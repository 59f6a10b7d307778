import ScriptGraph.Pattern.Basic

/-!
# Patterns for files to leave out

In such a pattern `?` stands for any character and `*` for any number of them,
slashes included, and brackets hold the characters that one may be. Two
asterisks that make up a whole component stand for any number of components.
-/

namespace ScriptGraph.Exclude

def members : List Char → CharSet
  | low :: '-' :: high :: rest => .union (.range low.toNat high.toNat) (members rest)
  | c :: rest => .union (.single c) (members rest)
  | [] => .empty

def close? (text : List Char) : Option (List Char × List Char) :=
  match text.dropWhile (· != ']') with
  | [] => none
  | _ :: after => some (text.takeWhile (· != ']'), after)

theorem close?_shorter {text inner after : List Char} (h : close? text = some (inner, after)) :
    after.length < text.length := by
  have hle := (List.dropWhile_sublist (p := (· != ']')) (l := text)).length_le
  unfold close? at h
  split at h
  · simp at h
  · rename_i heq
    simp only [Option.some.injEq, Prod.mk.injEq] at h
    rw [heq, h.2] at hle
    simp only [List.length_cons] at hle
    omega

/-- A set in brackets, after the opening one, with what follows it. At least one character stands
between the brackets, whichever it is. -/
def bracket? (text : List Char) : Option (CharSet × List Char) :=
  match text with
  | ['!'] => none
  | '!' :: first :: rest =>
    (close? rest).map fun (inner, after) => (.compl (members (first :: inner)), after)
  | first :: rest => (close? rest).map fun (inner, after) => (members (first :: inner), after)
  | [] => none

theorem bracket?_shorter {text after : List Char} {set : CharSet}
    (h : bracket? text = some (set, after)) : after.length < text.length := by
  unfold bracket? at h
  split at h
  · simp at h
  · obtain ⟨⟨inner, tail⟩, hclose, hpair⟩ := Option.map_eq_some_iff.1 h
    have := close?_shorter hclose
    simp only [Prod.mk.injEq] at hpair
    simp only [List.length_cons, ← hpair.2]
    omega
  · obtain ⟨⟨inner, tail⟩, hclose, hpair⟩ := Option.map_eq_some_iff.1 h
    have := close?_shorter hclose
    simp only [Prod.mk.injEq] at hpair
    simp only [List.length_cons, ← hpair.2]
    omega
  · simp at h

/-- The pattern that a text describes after a character, if it is well formed. -/
def patternAfter? (before : Option Char) (text : List Char) : Option Pattern :=
  match text with
  | [] => some .empty
  | '*' :: '*' :: '*' :: _ => none
  | '*' :: '*' :: rest =>
    if before.all (· == '/') then
      match rest with
      -- At the end the slash is a part of the wildcard.
      | [] | ['/'] => some (.many .any)
      | '/' :: rest =>
        (patternAfter? (some '/') rest).map fun tail =>
          .seq (.alt .empty (.seq (.many .any) (.char '/'))) tail
      | _ => none
    else none
  | '*' :: rest => (patternAfter? (some '*') rest).map (.seq (.many .any))
  | '?' :: rest => (patternAfter? (some '?') rest).map (.seq (.set .any))
  | '[' :: rest =>
    match _h : bracket? rest with
    | none => none
    | some (set, after) => (patternAfter? (some ']') after).map (.seq (.set set))
  | c :: rest => (patternAfter? (some c) rest).map (.seq (.char c))
termination_by text.length
decreasing_by
  all_goals simp only [List.length_cons]
  all_goals first
    | omega
    | have := bracket?_shorter _h; omega

def pattern? (text : String) : Option Pattern := patternAfter? none text.toList

def patterns (texts : List String) : List Pattern := texts.filterMap pattern?

/-- Whether one of some patterns matches a file's path, its path below the root, or one of the names
on the way to it. -/
def covers (patterns : List Pattern) (path : String) (names : List String) : Bool :=
  patterns.any fun pattern =>
    pattern.spans path.toList || pattern.spans ("/".intercalate names).toList ||
      names.any fun name => pattern.spans name.toList

end ScriptGraph.Exclude
