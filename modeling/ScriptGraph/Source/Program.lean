import ScriptGraph.Source.Statement

/-!
# Whole sources

The rules of the grammar are tied together, and a source is read from its first
character to its last. A source that is not read to its end has no tree.
-/

namespace ScriptGraph.Source

namespace Reader

def rule (recur : Recur) : Nonterminal → Reader Tree
  | .statement => statement recur
  | .expression => expression recur
  | .initial => initial recur
  | .unary => unary recur
  | .newTarget => newTarget recur
  | .markup => markup recur

/-- Reads a part that may nest, at most `fuel` levels deep. -/
def nest : Nat → Recur
  | 0, _ => refuse
  | fuel + 1, part => rule (nest fuel) part

def hashBang : Reader (Option Tree) := do
  toOperand
  let start ← here
  if start.sees ['#', '!'] then
    set (start.skipWhile (· != some '\n'))
    some <$> close start .hashBangLine []
  else pure none

/-- A whole source. Each level of nesting takes a character or opens an expression or an operand
that does, so a few levels a character are enough. -/
def program (glyphs : List Glyph) : Reader Tree := do
  let start ← here
  let recur := nest (4 * glyphs.length + 8)
  let line ← hashBang
  let body ← repeatStep do
    toOperand
    let place ← here
    if place.atEnd then pure none else some <$> recur .statement
  close start .program (line.toList.map bare ++ body.map bare)

end Reader

/-- The tree of a source, its remarks included; none if the source does not follow the grammar. -/
def parse? (glyphs : List Glyph) : Option Tree :=
  match Reader.program glyphs (Cursor.start glyphs) with
  | some (tree, cursor) =>
    if tree.isSettled then
      some (cursor.remarks.foldr (fun remark => Tree.insert remark.tree) tree)
    else none
  | none => none

end ScriptGraph.Source
