import ScriptGraph.Pattern.CharSet

/-!
# Patterns for names

A pattern matches a text if it matches some stretch of it. Matching takes the
text character by character and keeps what is left of the pattern: a place in
the text is matched as soon as nothing more is needed there.
-/

namespace ScriptGraph

inductive Anchor where
  | textStart
  | textEnd
  | lineStart
  | lineEnd
  /-- As `lineStart`, where a carriage return counts as a line break too. -/
  | returnStart
  /-- As `lineEnd`, where a carriage return counts as a line break too. -/
  | returnEnd
  | wordEdge
  | notWordEdge
  | wordStart
  | wordEnd
  /-- No character of a word stands to the left. -/
  | noWordLeft
  /-- No character of a word stands to the right. -/
  | noWordRight
  deriving DecidableEq, Repr, Inhabited

inductive Pattern where
  | fail
  | empty
  | set (chars : CharSet)
  /-- A condition, with the characters that words consist of. -/
  | anchor (kind : Anchor) (words : CharSet)
  | seq (first second : Pattern)
  | alt (left right : Pattern)
  /-- A number of copies in sequence: at least `least`, and at most `most` if that is given. -/
  | copies (body : Pattern) (least : Nat) (most : Option Nat)
  deriving DecidableEq, Repr, Inhabited

/-- A place in a text: the characters next to it. -/
structure Place where
  left : Option Char
  right : Option Char
  deriving DecidableEq, Repr, Inhabited

namespace Anchor

def beside (chars : CharSet) (c? : Option Char) : Bool :=
  match c? with
  | some c => chars.contains c.toNat
  | none => false

def holds (words : CharSet) (place : Place) : Anchor → Bool
  | .textStart => place.left.isNone
  | .textEnd => place.right.isNone
  | .lineStart => place.left.isNone || place.left == some '\n'
  | .lineEnd => place.right.isNone || place.right == some '\n'
  | .returnStart => place.left.isNone || place.left == some '\n' ||
      (place.left == some '\r' && place.right != some '\n')
  | .returnEnd => place.right.isNone || place.right == some '\r' ||
      (place.right == some '\n' && place.left != some '\r')
  | .wordEdge => beside words place.left != beside words place.right
  | .notWordEdge => beside words place.left == beside words place.right
  | .wordStart => !beside words place.left && beside words place.right
  | .wordEnd => beside words place.left && !beside words place.right
  | .noWordLeft => !beside words place.left
  | .noWordRight => !beside words place.right

end Anchor

namespace Pattern

def matchesEmpty (place : Place) : Pattern → Bool
  | .fail => false
  | .empty => true
  | .set _ => false
  | .anchor kind words => kind.holds words place
  | .seq first second => first.matchesEmpty place && second.matchesEmpty place
  | .alt left right => left.matchesEmpty place || right.matchesEmpty place
  | .copies body least _ => least == 0 || body.matchesEmpty place

/-- Two patterns in sequence, given the second one first; an empty one is left out. -/
def followedBy (rest first : Pattern) : Pattern :=
  match first, rest with
  | .empty, _ => rest
  | _, .empty => first
  | _, _ => .seq first rest

/-- What may be left of a pattern after one character to the right of a place. -/
def after (place : Place) (c : Char) : Pattern → List Pattern
  | .fail => []
  | .empty => []
  | .set chars => if chars.contains c.toNat then [.empty] else []
  | .anchor _ _ => []
  | .seq first second =>
    let through := (first.after place c).map (followedBy second)
    if first.matchesEmpty place then through ++ second.after place c else through
  | .alt left right => left.after place c ++ right.after place c
  | .copies body least most =>
    match most with
    | some 0 => []
    | _ =>
      let fewer := if body.matchesEmpty place then 0 else least - 1
      let rest := Pattern.copies body fewer (most.map (· - 1))
      (body.after place c).map (followedBy rest)

def searchFrom (pattern : Pattern) (left : Option Char) (open_ : List Pattern) :
    List Char → Bool
  | [] => (pattern :: open_).any (matchesEmpty ⟨left, none⟩)
  | c :: rest =>
    let place : Place := ⟨left, some c⟩
    (pattern :: open_).any (matchesEmpty place) ||
      searchFrom pattern (some c) (((pattern :: open_).flatMap (after place c)).eraseDups) rest

def spanFrom (left : Option Char) (open_ : List Pattern) : List Char → Bool
  | [] => open_.any (matchesEmpty ⟨left, none⟩)
  | c :: rest => spanFrom (some c) ((open_.flatMap (after ⟨left, some c⟩ c)).eraseDups) rest

def spans (pattern : Pattern) (text : List Char) : Bool := spanFrom none [pattern] text

def many (chars : CharSet) : Pattern := .copies (.set chars) 0 none

def char (c : Char) : Pattern := .set (.single c)

def seqs (patterns : List Pattern) : Pattern :=
  patterns.foldr (fun first rest => followedBy rest first) .empty

def alts (patterns : List Pattern) : Pattern := patterns.foldr .alt .fail

def isIn (pattern : Pattern) (text : String) : Bool :=
  searchFrom pattern none [] text.toList

end Pattern

end ScriptGraph
