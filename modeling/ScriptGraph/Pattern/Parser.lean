import ScriptGraph.Pattern.Bracket

/-!
# The text of a pattern

A pattern that is nested too deeply, or that would take too much room when
spread out, is refused like one that is malformed.
-/

namespace ScriptGraph

open Text

structure PatternPart where
  pattern : Pattern
  /-- The depth of nesting in which the part is written. -/
  depth : Nat
  /-- The room that the part takes when its repetitions are spread out. -/
  room : Nat
  /-- Whether a repetition sign may follow. -/
  isRepeatable : Bool
  deriving Inhabited

namespace PatternPart

def maxDepth : Nat := 250

def maxRoom : Nat := 10 * 1024 * 1024

def stepRoom : Nat := 32

def setRoom (set : CharSet) : Nat :=
  if set.isAscii then stepRoom else 64 * set.size

def empty : PatternPart := ⟨.empty, 0, stepRoom, true⟩

def ofChar (flags : PatternFlags) (c : Char) : PatternPart :=
  ⟨.set ((CharSet.single c).foldFor flags), 0, stepRoom * c.utf8Size, true⟩

def flagChange : PatternPart := ⟨.empty, 0, stepRoom, false⟩

def sequence : List PatternPart → PatternPart
  | [] => empty
  | [part] => part
  | parts =>
    { pattern := parts.foldl (fun rest part => .followedBy rest part.pattern) .empty
      depth := (parts.map (·.depth)).foldl max 0 + 1
      room := (parts.map (·.room)).foldl (· + ·) 0
      isRepeatable := true }

def choice : List PatternPart → PatternPart
  | [] => empty
  | [part] => part
  | parts =>
    { pattern := parts.foldl (fun rest part => .alt part.pattern rest) .fail
      depth := (parts.map (·.depth)).foldl max 0 + 1
      room := (parts.map (·.room)).foldl (· + ·) 0 + 2 * stepRoom
      isRepeatable := true }

def group (part : PatternPart) : PatternPart :=
  { part with depth := part.depth + 1, room := part.room + 2 * stepRoom, isRepeatable := true }

def repeated (part : PatternPart) (least : Nat) (most : Option Nat) : PatternPart :=
  let copies := most.getD (max least 1)
  { pattern := .copies part.pattern least most
    depth := part.depth + 1
    room := copies * part.room + (copies - least + 1) * stepRoom
    isRepeatable := true }

end PatternPart

namespace PatternReader

def ofAtom (atom : Atom) : PatternReader PatternPart := do
  let flags := (← get).flags
  match atom with
  | .char c isByte =>
    check (flags.wide || !isByte || decide (c.toNat < 128))
    return .ofChar flags c
  | .chars set =>
    check (set.isAllowed flags)
    return ⟨.set set, 0, PatternPart.setRoom set, true⟩
  | .anchor kind => return ⟨.anchor kind (.words flags), 0, PatternPart.stepRoom, true⟩
  | .dot =>
    check flags.wide
    let breaks :=
      if flags.dotAll then CharSet.empty
      else if flags.returns then .union (.single '\n') (.single '\r')
      else .single '\n'
    let set := CharSet.compl breaks
    return ⟨.set set, 0, PatternPart.setRoom set, true⟩

/-- The flag that a letter stands for, set or cleared. Greed has no bearing on whether a pattern
matches. -/
def changeFlag (flags : PatternFlags) (letter : Char) (value : Bool) : Option PatternFlags :=
  match letter with
  | 'i' => some { flags with caseless := value }
  | 'm' => some { flags with multiline := value }
  | 's' => some { flags with dotAll := value }
  | 'R' => some { flags with returns := value }
  | 'u' => some { flags with wide := value }
  | 'x' => some { flags with spaced := value }
  | 'U' => some flags
  | _ => none

structure FlagList where
  flags : PatternFlags
  seen : List Char
  value : Bool
  deriving Inhabited

def flagList : PatternReader (PatternFlags × Bool) := do
  let start := (← get).flags
  loop (fun (list : FlagList) => do
    let c ← peek
    if c == ':' || c == ')' then
      check (list.seen.head? != some '-')
      return .inr (list.flags, !list.seen.isEmpty)
    else
      bump
      check (!list.seen.contains c)
      if c == '-' then return .inl ⟨list.flags, c :: list.seen, false⟩
      else
        match changeFlag list.flags c list.value with
        | some flags => return .inl ⟨flags, c :: list.seen, list.value⟩
        | none => refuse) ⟨start, [], true⟩

def isNameChar (isFirst : Bool) (c : Char) : Bool :=
  c == '_' || Property.alphabetic.contains c.toNat ||
    (!isFirst && (c == '.' || c == '[' || c == ']' || Category.isIn ["nd", "nl", "no"] c.toNat))

def groupName : PatternReader Unit := do
  let state ← get
  let name := state.rest.takeWhile (· != '>')
  check (decide (name.length < state.rest.length))
  match name with
  | [] => refuse
  | first :: others =>
    check (isNameChar true first && others.all (isNameChar false))
    let text := String.ofList name
    check (!state.names.contains text)
    set { state with
      rest := state.rest.drop (name.length + 1)
      names := text :: state.names }

inductive Opening where
  | group (flags : PatternFlags)
  | flags (flags : PatternFlags)
  deriving Inhabited

def opening : PatternReader Opening := do
  bump
  skipBlanks
  let flags := (← get).flags
  let rest := (← get).rest
  let isLook := [['?', '='], ['?', '!'], ['?', '<', '='], ['?', '<', '!']].any
    fun sign => sign.isPrefixOf rest
  check (!isLook)
  if ← eat ['?', 'P', '<'] then
    groupName
    return .group flags
  else if ← eat ['?', '<'] then
    groupName
    return .group flags
  else if ← eat ['?'] then
    let (flags, isAny) ← flagList
    if (← take) == ')' then
      check isAny
      return .flags flags
    else return .group flags
  else return .group flags

/-- The parts read since the last bar, and those between the bars before, each the last first. -/
structure Branches where
  finished : List PatternPart
  current : List PatternPart
  deriving Inhabited

namespace Branches

def push (branches : Branches) (part : PatternPart) : Branches :=
  { branches with current := part :: branches.current }

def bar (branches : Branches) : Branches :=
  ⟨PatternPart.sequence branches.current :: branches.finished, []⟩

def close (branches : Branches) : PatternPart := PatternPart.choice branches.bar.finished

end Branches

def repeatLast (branches : Branches) (least : Nat) (most : Option Nat) :
    PatternReader Branches := do
  match branches.current with
  | [] => refuse
  | last :: before =>
    check last.isRepeatable
    return { branches with current := last.repeated least most :: before }

def counts : PatternReader (Nat × Option Nat) := do
  let least ← count?
  let (least, most) ←
    if (← peek) == ',' then
      advance
      match least with
      | none => refuse
      | some least =>
        if (← peek) == '\x7d' then pure (least, none)
        else
          match ← count? with
          | none => refuse
          | some most => pure (least, some most)
    else
      match least with
      | none => refuse
      | some least => pure (least, some least)
  check ((← peek) == '\x7d')
  advance
  check (most.all fun most => decide (least ≤ most))
  return (least, most)

/-- One step outside brackets: a part, a sign of repetition, a bar, or the end. -/
def patternStep (inner : PatternReader PatternPart) (branches : Branches) :
    PatternReader (Branches ⊕ Branches) := do
  skipBlanks
  match ← peek? with
  | none => return .inr branches
  | some c =>
    match c with
    | ')' => return .inr branches
    | '(' =>
      let outer := (← get).flags
      match ← opening with
      | .flags flags =>
        modify fun state => { state with flags := flags }
        return .inl (branches.push .flagChange)
      | .group flags =>
        modify fun state => { state with flags := flags }
        let part ← inner
        check ((← take) == ')')
        modify fun state => { state with flags := outer }
        return .inl (branches.push part.group)
    | '|' =>
      bump
      return .inl branches.bar
    | '[' =>
      let nested ← bracket PatternPart.maxDepth
      check (nested.set.isAllowed (← get).flags)
      return .inl
        (branches.push ⟨.set nested.set, nested.depth, PatternPart.setRoom nested.set, true⟩)
    | '?' | '*' | '+' =>
      bump
      let _ ← eat ['?']
      let (least, most) :=
        if c == '?' then (0, some 1) else if c == '*' then (0, none) else (1, none)
      return .inl (← repeatLast branches least most)
    | '\x7b' =>
      advance
      let (least, most) ← counts
      let _ ← eat ['?']
      return .inl (← repeatLast branches least most)
    | _ => return .inl (branches.push (← ofAtom (← sign)))

/-- What stands between parentheses, nested at most a number of levels deep. -/
def branches : Nat → PatternReader PatternPart
  | 0 => refuse
  | levels + 1 => do
    let read ← loop (patternStep (branches levels)) ⟨[], []⟩
    return read.close

def whole : PatternReader PatternPart := do
  let part ← branches (PatternPart.maxDepth + 1)
  check (← get).rest.isEmpty
  return part

end PatternReader

namespace Pattern

/-- The pattern that a text describes; the case of letters may not count from the start. -/
def ofText? (text : String) (caseless : Bool) : Option Pattern :=
  match PatternReader.whole ⟨text.toList, .start caseless, []⟩ with
  | none => none
  | some (part, _) =>
    if part.depth ≤ PatternPart.maxDepth ∧ part.room ≤ PatternPart.maxRoom then some part.pattern
    else none

def invalidMessage (text : String) : String := "invalid name pattern '" ++ text ++ "'"

end Pattern

end ScriptGraph
