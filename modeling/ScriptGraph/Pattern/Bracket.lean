import ScriptGraph.Pattern.Atom

/-!
# Sets of characters in brackets
-/

namespace ScriptGraph

structure NestedSet where
  set : CharSet
  depth : Nat
  deriving Inhabited

namespace NestedSet

def flat (set : CharSet) : NestedSet := ⟨set, 0⟩

def ofItems : List NestedSet → NestedSet
  | [] => flat .empty
  | [item] => item
  | items =>
    ⟨.unions (items.reverse.map (·.set)), (items.map (·.depth)).foldl max 0 + 1⟩

end NestedSet

inductive SetOperator where
  | inter
  | diff
  | symmDiff
  deriving DecidableEq, Repr, Inhabited

/-- What has been read of a set in brackets: a left operand with its operator, and the items read
since, the last one first. -/
structure BracketState where
  left : Option (NestedSet × SetOperator)
  items : List NestedSet
  deriving Inhabited

namespace BracketState

def close (flags : PatternFlags) (state : BracketState) : NestedSet :=
  let right := NestedSet.ofItems state.items
  match state.left with
  | none => right
  | some (left, operator) =>
    let a := left.set.foldFor flags
    let b := right.set.foldFor flags
    let set :=
      match operator with
      | .inter => CharSet.inter a b
      | .diff => CharSet.diff a b
      | .symmDiff => CharSet.symmDiff a b
    ⟨set, max left.depth right.depth + 1⟩

def operate (flags : PatternFlags) (state : BracketState) (operator : SetOperator) : BracketState :=
  ⟨some (state.close flags, operator), []⟩

def push (state : BracketState) (item : NestedSet) : BracketState :=
  { state with items := item :: state.items }

end BracketState

namespace PatternReader

/-- A name in colons and brackets, if one comes next and stands for a set. -/
def bracketName? : PatternReader (Option CharSet) := fun state =>
  let named :=
    match state.rest with
    | '[' :: ':' :: text =>
      let (negated, text) :=
        match text with
        | '^' :: text => (true, text)
        | _ => (false, text)
      let name := text.takeWhile (· != ':')
      match text.dropWhile (· != ':') with
      | ':' :: ']' :: after =>
        (CharSet.ofBracketName? (String.ofList name)).map fun set =>
          (set.foldAndNegate state.flags negated, after)
      | _ => none
    | _ => none
  match named with
  | some (set, after) => some (some set, { state with rest := after })
  | none => some (none, state)

def bracketSign : PatternReader Atom := do
  match ← take with
  | '\\' => escape
  | c => return .char c false

def asMember (atom : Atom) : PatternReader Char := do
  match atom with
  | .char c _ =>
    check ((← get).flags.wide || decide (c.toNat < 128))
    return c
  | _ => refuse

def bracketItem : PatternReader NestedSet := do
  let first ← bracketSign
  skipBlanks
  let next ← peek
  let flags := (← get).flags
  let tail := (← get).rest.tail
  let afterNext := (if flags.spaced then pastBlanks false tail else tail).head?
  if next != '-' || afterNext == some ']' || afterNext == some '-' then
    match first with
    | .chars set => return .flat set
    | _ => return .flat (.single (← asMember first))
  else
    advance
    let _ ← peek
    let last ← bracketSign
    let low ← asMember first
    let high ← asMember last
    check (decide (low.toNat ≤ high.toNat))
    return .flat (.range low.toNat high.toNat)

/-- The dashes and the closing bracket that stand for themselves at the start of a set. -/
def leadingItems : PatternReader (List NestedSet) := do
  let dashes ← loop (fun found => do
    if (← peek) == '-' then
      advance
      return .inl (NestedSet.flat (.single '-') :: found)
    else return .inr found) []
  if dashes.isEmpty && (← peek) == ']' then
    advance
    let _ ← peek
    return [.flat (.single ']')]
  else return dashes

/-- One step in brackets: an item, an operator, or the end. -/
def bracketStep (nested : PatternReader NestedSet) (state : BracketState) :
    PatternReader (BracketState ⊕ BracketState) := do
  skipBlanks
  let flags := (← get).flags
  match ← peek with
  | '[' =>
    match ← bracketName? with
    | some set => return .inl (state.push (.flat set))
    | none => return .inl (state.push (← nested))
  | ']' =>
    bump
    return .inr state
  | _ =>
    if ← eat ['&', '&'] then return .inl (state.operate flags .inter)
    else if ← eat ['-', '-'] then return .inl (state.operate flags .diff)
    else if ← eat ['~', '~'] then return .inl (state.operate flags .symmDiff)
    else return .inl (state.push (← bracketItem))

/-- A set in brackets, nested at most a number of levels deep. -/
def bracket : Nat → PatternReader NestedSet
  | 0 => refuse
  | levels + 1 => do
    bump
    skipBlanks
    let negated := (← peek) == '^'
    if negated then advance
    let items ← leadingItems
    let state ← loop (bracketStep (bracket levels)) ⟨none, items⟩
    let flags := (← get).flags
    let inner := state.close flags
    let set := inner.set.foldAndNegate flags negated
    return ⟨set, inner.depth + 1⟩

end PatternReader

end ScriptGraph
