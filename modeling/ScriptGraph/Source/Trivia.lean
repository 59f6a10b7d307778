import ScriptGraph.Source.Cursor

/-!
# Between tokens

Blanks and remarks separate tokens. A line break between two tokens can end a
statement, so it is told whether one was passed.
-/

namespace ScriptGraph.Source

def isBlank (c : Char) : Bool :=
  let n := c.toNat
  n == 0x20 || (0x09 ≤ n && n ≤ 0x0D) || n == 0xA0 || n == 0x1680 ||
    (0x2000 ≤ n && n ≤ 0x200B) || n == 0x2028 || n == 0x2029 || n == 0x202F || n == 0x205F ||
    n == 0x2060 || n == 0x3000 || n == 0xFEFF

def isLineBreak (c : Char) : Bool :=
  let n := c.toNat
  n == 0x0A || n == 0x0D || n == 0x2028 || n == 0x2029

def onChar (test : Char → Bool) : Glyph → Bool
  | some c => test c
  | none => false

/-- The number of glyphs up to and including the end of a block remark, of which `passed` have been
passed; none if it does not end. -/
def blockLength? (passed : Nat) : List Glyph → Option Nat
  | [] => none
  | [_] => none
  | a :: b :: rest =>
    if a = some '*' ∧ b = some '/' then some (passed + 2)
    else blockLength? (passed + 1) (b :: rest)

def lineLength (rest : List Glyph) : Nat :=
  (rest.takeWhile fun glyph => !onChar isLineBreak glyph).length

/-- The kind and length of the remark to the right, if there is one. Remarks in the manner of HTML
are known only where an operand may stand. -/
def remark? (atOperand : Bool) (rest : List Glyph) :
    Option ({ kind : Kind // kind.isComment = true } × Nat) :=
  match rest with
  | some '/' :: some '/' :: _ => some (⟨.comment, rfl⟩, lineLength rest)
  | some '/' :: some '*' :: inner =>
    (blockLength? 2 inner).map fun length => (⟨.comment, rfl⟩, length)
  | some '<' :: some '!' :: some '-' :: some '-' :: _ =>
    if atOperand then some (⟨.htmlComment, rfl⟩, lineLength rest) else none
  | some '-' :: some '-' :: some '>' :: _ =>
    if atOperand then some (⟨.htmlComment, rfl⟩, lineLength rest) else none
  | _ => none

namespace Cursor

/-- Moves past blanks and remarks, at most `fuel` of them. -/
def skipTriviaFuel (atOperand : Bool) : Nat → Cursor → Cursor
  | 0, cursor => cursor
  | fuel + 1, cursor =>
    match cursor.rest with
    | [] => cursor
    | glyph :: _ =>
      if onChar isBlank glyph then skipTriviaFuel atOperand fuel cursor.next
      else match remark? atOperand cursor.rest with
        | none => cursor
        | some (kind, length) =>
          let after := cursor.skip length
          skipTriviaFuel atOperand fuel
            { after with remarks := ⟨kind, cursor.spanTo after⟩ :: cursor.remarks }

def skipTrivia (cursor : Cursor) (atOperand : Bool) : Cursor :=
  skipTriviaFuel atOperand (cursor.left + 1) cursor

def breaksLine (cursor : Cursor) : Bool :=
  let after := cursor.skipTrivia false
  (cursor.rest.take (after.offset - cursor.offset)).any (onChar isLineBreak)

end Cursor

namespace Reader

def toOperand : Reader Unit := fun cursor => some ((), cursor.skipTrivia true)

/-- Moves to the next token where no operand starts. -/
def toToken : Reader Unit := fun cursor => some ((), cursor.skipTrivia false)

def lineBreak : Reader Bool := fun cursor => some (cursor.breaksLine, cursor)

end Reader

end ScriptGraph.Source
