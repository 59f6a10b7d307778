/-!
# Bytes as characters

Bytes are read as UTF-8. A byte that is no part of a well-formed character
stands for itself, so that reading never fails and loses no byte.
-/

namespace ScriptGraph

/-- A character, or `none` for a byte that is no part of one. -/
abbrev Glyph := Option Char

namespace Utf8

structure Pending where
  /-- The bytes read so far. -/
  seen : Nat
  /-- The bytes still to come. -/
  missing : Nat
  /-- The bits read so far. -/
  value : Nat
  /-- The least code point that may be written with this many bytes. -/
  least : Nat
  deriving DecidableEq, Repr, Inhabited

structure State where
  glyphs : Array Glyph
  pending : Option Pending
  deriving DecidableEq, Repr, Inhabited

def opens? (byte : Nat) : Option Pending :=
  if byte < 0xC0 then none
  else if byte < 0xE0 then some ⟨1, 1, byte % 32, 0x80⟩
  else if byte < 0xF0 then some ⟨1, 2, byte % 16, 0x800⟩
  else if byte < 0xF8 then some ⟨1, 3, byte % 8, 0x10000⟩
  else none

def stray (glyphs : Array Glyph) : Nat → Array Glyph
  | 0 => glyphs
  | n + 1 => stray (glyphs.push none) n

def first (glyphs : Array Glyph) (byte : Nat) : State :=
  if byte < 0x80 then ⟨glyphs.push (some (Char.ofNat byte)), none⟩
  else match opens? byte with
    | some pending => ⟨glyphs, some pending⟩
    | none => ⟨glyphs.push none, none⟩

/-- Ends a character with its last byte; its bytes are stray if it is overlong or no character. -/
def close (glyphs : Array Glyph) (pending : Pending) (value : Nat) : State :=
  if pending.least ≤ value ∧ value.isValidChar then ⟨glyphs.push (some (Char.ofNat value)), none⟩
  else ⟨stray glyphs (pending.seen + 1), none⟩

def step (state : State) (byte : UInt8) : State :=
  let byte := byte.toNat
  match state.pending with
  | none => first state.glyphs byte
  | some pending =>
    if byte / 64 = 2 then
      let value := pending.value * 64 + byte % 64
      if pending.missing = 1 then close state.glyphs pending value
      else ⟨state.glyphs, some { pending with
        seen := pending.seen + 1
        missing := pending.missing - 1
        value := value }⟩
    else first (stray state.glyphs pending.seen) byte

def finish (state : State) : Array Glyph :=
  match state.pending with
  | none => state.glyphs
  | some pending => stray state.glyphs pending.seen

def decode (bytes : List UInt8) : Array Glyph :=
  finish (bytes.foldl step ⟨#[], none⟩)

/-- The text that glyphs spell, unless one of them is a stray byte. -/
def spell? (glyphs : List Glyph) : Option String :=
  (glyphs.mapM id).map String.ofList

def text? (bytes : List UInt8) : Option String :=
  spell? (decode bytes).toList

end Utf8

end ScriptGraph
