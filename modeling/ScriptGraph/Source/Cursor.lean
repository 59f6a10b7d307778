import ScriptGraph.Text.Utf8
import ScriptGraph.Source.Tree

/-!
# Reading a source from left to right

A cursor is a place in a source with everything to its right. A reader moves
the cursor and yields a value, or refuses; where one reader refuses another can
start over at the same place.
-/

namespace ScriptGraph.Source

structure Cursor where
  /-- What stands to the right. -/
  rest : List Glyph
  /-- The number of glyphs to the right. -/
  left : Nat
  /-- The number of glyphs to the left. -/
  offset : Nat
  /-- The number of line feeds to the left. -/
  line : Nat
  /-- The remarks passed so far, the last one first. -/
  remarks : List Remark
  deriving Inhabited

namespace Cursor

def start (glyphs : List Glyph) : Cursor := ⟨glyphs, glyphs.length, 0, 0, []⟩

def next (cursor : Cursor) : Cursor :=
  match cursor.rest with
  | [] => cursor
  | glyph :: rest =>
    { cursor with
      rest := rest
      left := cursor.left - 1
      offset := cursor.offset + 1
      line := if glyph = some '\n' then cursor.line + 1 else cursor.line }

def skip (cursor : Cursor) : Nat → Cursor
  | 0 => cursor
  | n + 1 => cursor.next.skip n

def peek? (cursor : Cursor) : Option Char :=
  match cursor.rest with
  | some c :: _ => some c
  | _ => none

def atEnd (cursor : Cursor) : Bool := cursor.rest.isEmpty

def sees (cursor : Cursor) (chars : List Char) : Bool :=
  (chars.map some).isPrefixOf cursor.rest

def spanTo (cursor later : Cursor) : Span := ⟨cursor.offset, later.offset, cursor.line⟩

def run (test : Glyph → Bool) (cursor : Cursor) : Nat := (cursor.rest.takeWhile test).length

def skipWhile (test : Glyph → Bool) (cursor : Cursor) : Cursor := cursor.skip (cursor.run test)

end Cursor

abbrev Reader := StateT Cursor Option

namespace Reader

def refuse {α : Type} : Reader α := fun _ => none

def check (condition : Bool) : Reader Unit := fun cursor =>
  if condition then some ((), cursor) else none

/-- Yields what a reader would yield, without moving; refuses nothing. -/
def ahead? {α : Type} (reader : Reader α) : Reader (Option α) := fun cursor =>
  some ((reader cursor).map Prod.fst, cursor)

/-- What a reader yields, or nothing if it refuses. -/
def optional {α : Type} (reader : Reader α) : Reader (Option α) := fun cursor =>
  match reader cursor with
  | some (value, after) => some (some value, after)
  | none => some (none, cursor)

/-- Repeats a step until it yields nothing, at most `fuel` times. -/
def repeatFuel {α : Type} (step : Reader (Option α)) (found : List α) : Nat → Reader (List α)
  | 0 => refuse
  | fuel + 1 => fun cursor =>
    match step cursor with
    | none => none
    | some (none, after) => some (found.reverse, after)
    | some (some value, after) => repeatFuel step (value :: found) fuel after

/-- Repeats a step until it yields nothing. A step that yields something moves the cursor, so what
stands to the right bounds the number of steps. -/
def repeatStep {α : Type} (step : Reader (Option α)) : Reader (List α) := fun cursor =>
  repeatFuel step [] (cursor.left + 2) cursor

end Reader

end ScriptGraph.Source
