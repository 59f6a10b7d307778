import ScriptGraph.Text.Category
import ScriptGraph.Text.Property

/-!
# Quoted text in messages

A text is shown between double quotes. Quotes, backslashes and the common
control characters are escaped by a letter; other characters that cannot be
seen, or that would join the character before them, by their number.
-/

namespace ScriptGraph.Text

namespace Quoted

/-- Whether a character can be seen; of the blanks only the common one counts. -/
def isPrintable (code : Nat) : Bool :=
  code == 0x20 ||
    !(Category.isIn ["cc", "cf", "co", "zl", "zp", "zs"] code || Category.isUnassigned code)

def hex (n : Nat) : String := String.ofList (Nat.toDigits 16 n)

def byNumber (c : Char) : String := "\\u\x7b" ++ hex c.toNat ++ "\x7d"

def escapeChar (c : Char) : String :=
  if c = '\x22' then "\\\""
  else if c = '\\' then "\\\\"
  else if c = '\n' then "\\n"
  else if c = '\r' then "\\r"
  else if c = '\t' then "\\t"
  else if c = '\x00' then "\\0"
  else if Property.graphemeExtend.contains c.toNat || !isPrintable c.toNat then byNumber c
  else c.toString

def quote (text : String) : String := "\"" ++ String.join (text.toList.map escapeChar) ++ "\""

end Quoted

end ScriptGraph.Text
