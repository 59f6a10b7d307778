import ScriptGraph.Pattern.Basic

/-!
# Globs of ignore files

A glob is matched against the bytes of a path. `?` and `*` do not cross
slashes; two asterisks that make up a whole component stand for any number of
components; brackets hold the bytes that one may be, and braces hold
alternatives.
-/

namespace ScriptGraph

inductive GlobSign where
  | char (c : Char)
  /-- Any byte but a slash. -/
  | one
  /-- Any number of bytes but slashes. -/
  | run
  | set (negated : Bool) (ranges : List (Char × Char))
  /-- Any number of components, with the slash after them. -/
  | leading
  /-- Any number of components, with the slashes around them. -/
  | inner
  /-- Any number of components, with the slash before them. -/
  | trailing
  | choice (branches : List (List GlobSign))
  deriving Inhabited

namespace GlobSign

/-- The bytes of a character, each as the character with its value. -/
def bytesOf (c : Char) : List Char :=
  (String.utf8EncodeChar c).map fun byte => Char.ofNat byte.toNat

def bytesOfText (text : List Char) : List Char := text.flatMap bytesOf

/-- The bytes that a range in brackets stands for. Where an end has several bytes, the range is
between those that meet, and the others stand for themselves. -/
def rangeSet (range : Char × Char) : CharSet :=
  let low := bytesOf range.1
  let high := bytesOf range.2
  if range.1 == range.2 then .unions (low.map .single)
  else
    let last := (low.getLast?.getD range.1).toNat
    let first := (high.head?.getD range.2).toNat
    .unions (.range last first :: (low.dropLast ++ high.tail).map .single)

def anything : Pattern := .many .any

mutual

def pattern : GlobSign → Pattern
  | .char c => .seqs ((bytesOf c).map .char)
  | .one => .set (.compl (.single '/'))
  | .run => .many (.compl (.single '/'))
  | .set negated ranges =>
    let members := CharSet.unions (ranges.map rangeSet)
    .set (if negated then .compl members else members)
  | .leading => .alt (.copies (.char '/') 0 (some 1)) (.seq anything (.char '/'))
  | .inner => .alt (.char '/') (.seqs [.char '/', anything, .char '/'])
  | .trailing => .seq (.char '/') anything
  | .choice branches =>
    match (branchPatterns branches).filter (· != .empty) with
    | [] => .empty
    | patterns => .alts patterns

def sequencePattern : List GlobSign → Pattern
  | [] => .empty
  | sign :: rest => .followedBy (sequencePattern rest) sign.pattern

def branchPatterns : List (List GlobSign) → List Pattern
  | [] => []
  | branch :: rest => sequencePattern branch :: branchPatterns rest

end

end GlobSign

namespace IgnoreGlob

/-- What has been read of braces: the alternatives before the last comma, and the signs after it,
each the last first. -/
structure Frame where
  finished : List (List GlobSign)
  current : List GlobSign
  deriving Inhabited

structure State where
  /-- The innermost open braces, or the whole glob. -/
  top : Frame
  /-- What is open around them, the innermost first. -/
  below : List Frame
  /-- The last character read. -/
  last : Option Char
  deriving Inhabited

namespace State

def start : State := ⟨⟨[], []⟩, [], none⟩

def push (state : State) (sign : GlobSign) (last : Char) : State :=
  { state with
    top := { state.top with current := sign :: state.top.current }
    last := some last }

def swap (state : State) (sign : GlobSign) (last : Char) : State :=
  { state with
    top := { state.top with current := sign :: state.top.current.tail }
    last := some last }

end State

inductive Bracket where
  | unclosed
  | invalid
  | closed (ranges : List (Char × Char)) (after : List Char)
  deriving Inhabited

/-- The ranges of a set in brackets, the last first; a range may be waiting for its end. -/
def bracketRanges (ranges : List (Char × Char)) (isFirst isOpen : Bool) : List Char → Bracket
  | [] => .unclosed
  | c :: rest =>
    if c == ']' && !isFirst then
      .closed (if isOpen then ('-', '-') :: ranges else ranges) rest
    else if c == '-' && !isFirst && !isOpen then bracketRanges ranges false true rest
    else if isOpen then
      match ranges with
      | (low, _) :: before =>
        if low ≤ c then bracketRanges ((low, c) :: before) false false rest else .invalid
      | [] => .invalid
    else bracketRanges ((c, c) :: ranges) false false rest

/-- Reads a set in brackets, after the opening one. A bracket that is never closed stands for
itself. -/
def readBracket (state : State) (text : List Char) : Option (State × List Char) :=
  let (negated, inner) :=
    match text with
    | '!' :: inner => (true, inner)
    | '^' :: inner => (true, inner)
    | _ => (false, text)
  match bracketRanges [] true false inner with
  | .unclosed => some (state.push (.char '[') '[', text)
  | .invalid => none
  | .closed ranges after => some (state.push (.set negated ranges.reverse) ']', after)

def readDouble (state : State) (text : List Char) : State × List Char :=
  let plain := (state.push .run '*').push .run '*'
  let inBraces := !state.below.isEmpty
  let startsBranch := inBraces && (state.last == some ',' || state.last == some '\x7b')
  if state.top.current.isEmpty then
    match text with
    | [] => (state.push .leading '*', [])
    | '/' :: rest => (state.push .leading '/', rest)
    | _ => (plain, text)
  else if state.last != some '/' && !startsBranch then (plain, text)
  else
    let replaced (sign : GlobSign) (last : Char) : State :=
      match state.top.current.head? with
      | some .leading => state.swap .leading last
      | some .trailing => state.swap .trailing last
      | _ => state.swap sign last
    match text with
    | [] => (replaced .trailing '*', [])
    | '/' :: rest => (replaced .inner '/', rest)
    | c :: _ =>
      if inBraces && (c == ',' || c == '\x7d') then (replaced .trailing '*', text)
      else (plain, text)

def step (state : State) (text : List Char) : Option (State × List Char) :=
  match text with
  | [] => none
  | '?' :: rest => some (state.push .one '?', rest)
  | '*' :: '*' :: rest => some (readDouble state rest)
  | '*' :: rest => some (state.push .run '*', rest)
  | '[' :: rest => readBracket state rest
  | '\x7b' :: rest => some (⟨⟨[], []⟩, state.top :: state.below, some '\x7b'⟩, rest)
  | '\x7d' :: rest =>
    match state.below with
    | [] => none
    | outer :: below =>
      let branches := (state.top.current.reverse :: state.top.finished).reverse
      some (State.push ⟨outer, below, none⟩ (.choice branches) '\x7d', rest)
  | ',' :: rest =>
    if state.below.isEmpty then some (state.push (.char ',') ',', rest)
    else
      let finished := state.top.current.reverse :: state.top.finished
      some ({ state with top := ⟨finished, []⟩, last := some ',' }, rest)
  | ['\\'] => none
  | '\\' :: c :: rest => some (state.push (.char c) c, rest)
  | c :: rest => some (state.push (.char c) c, rest)

/-- Reads all signs. Each one takes something of the text. -/
def readAll (state : State) (text : List Char) : Option State :=
  if text.isEmpty then some state
  else
    match step state text with
    | none => none
    | some (state, after) => if after.length < text.length then readAll state after else none
termination_by text.length

/-- The pattern that the text of a glob describes, if it is well formed. -/
def pattern? (text : List Char) : Option Pattern :=
  match readAll .start text with
  | none => none
  | some state =>
    if state.below.isEmpty then
      match state.top.current with
      | [.leading] => some GlobSign.anything
      | signs => some (GlobSign.sequencePattern signs.reverse)
    else none

end IgnoreGlob

end ScriptGraph
