import ScriptGraph.Source.Punctuation

/-!
# Expressions as patterns

Where a target of assignment or a list of parameters begins, it looks like an
expression. It is read as one, and turned into a pattern once what follows shows
that it is a pattern.
-/

namespace ScriptGraph.Source

namespace Tree

mutual

def toTarget? : Tree → Option Tree
  | .node kind span children =>
    match kind with
    | .identifier => some (.node kind span children)
    | .undefinedExpression => some (.node kind span children)
    | .memberExpression => some (.node kind span children)
    | .subscriptExpression => some (.node kind span children)
    | .object => (toProperties? children).map (.node .objectPattern span)
    | .array => (toElements? children).map (.node .arrayPattern span)
    | _ => none

/-- An expression as a parameter or an element of a pattern: a target, perhaps with a default, or
the rest. -/
def toElement? : Tree → Option Tree
  | .node kind span children =>
    match kind with
    | .identifier => some (.node kind span children)
    | .undefinedExpression => some (.node kind span children)
    | .memberExpression => some (.node kind span children)
    | .subscriptExpression => some (.node kind span children)
    | .object => (toProperties? children).map (.node .objectPattern span)
    | .array => (toElements? children).map (.node .arrayPattern span)
    | .assignmentExpression => some (.node .assignmentPattern span children)
    | .spreadElement => (toRest? children).map (.node .restPattern span)
    | _ => none

def toElements? : List (Option Field × Tree) → Option (List (Option Field × Tree))
  | [] => some []
  | (field, item) :: rest => do
    let item ← toElement? item
    let rest ← toElements? rest
    pure ((field, item) :: rest)

def toRest? : List (Option Field × Tree) → Option (List (Option Field × Tree))
  | [] => some []
  | (field, item) :: rest => do
    let item ← toTarget? item
    let rest ← toRest? rest
    pure ((field, item) :: rest)

def toPair? : List (Option Field × Tree) → Option (List (Option Field × Tree))
  | [] => some []
  | (some .value, item) :: rest => do
    let item ← toElement? item
    let rest ← toPair? rest
    pure ((some .value, item) :: rest)
  | (field, item) :: rest => do
    let rest ← toPair? rest
    pure ((field, item) :: rest)

def toProperties? : List (Option Field × Tree) → Option (List (Option Field × Tree))
  | [] => some []
  | (field, .node kind span children) :: rest => do
    let item ← match kind with
      | .pair => (toPair? children).map (.node .pairPattern span)
      | .spreadElement => (toRest? children).map (.node .restPattern span)
      | .shorthandPropertyIdentifier =>
        some (.node .shorthandPropertyIdentifierPattern span children)
      | .objectAssignmentPattern => some (.node .objectAssignmentPattern span children)
      | _ => none
    let rest ← toProperties? rest
    pure ((field, item) :: rest)

end

mutual

/-- Whether no object literal has been left with a default in it, which only a pattern may have. -/
def isSettled : Tree → Bool
  | .node kind _ children => areSettled (kind == .object) children

/-- Whether parts are settled; `literal` says that they are properties of an object literal. -/
def areSettled (literal : Bool) : List (Option Field × Tree) → Bool
  | [] => true
  | (_, part) :: rest =>
    !(literal && part.kind == .objectAssignmentPattern) && isSettled part &&
      areSettled literal rest

end

/-- An assignment's left side that is not a pattern: a target in parentheses also counts. -/
def toAssigned? (tree : Tree) : Option Tree :=
  if tree.kind == .parenthesizedExpression then some tree else toTarget? tree

/-- Whether an operation may be assigned to an expression; patterns have no value to operate on. -/
def isAugmentable (tree : Tree) : Bool :=
  [.identifier, .undefinedExpression, .memberExpression, .subscriptExpression,
    .parenthesizedExpression].contains tree.kind

end Tree

/-- The parameters between parentheses, if the items are patterns; a comma may follow the last. -/
def toParameters? (items : List (Option Tree)) : Option (List (Option Field × Tree)) :=
  let items := match items.reverse with
    | none :: rest => rest.reverse
    | _ => items
  items.mapM fun item => do
    let item ← item
    let pattern ← item.toElement?
    pure (none, pattern)

end ScriptGraph.Source
