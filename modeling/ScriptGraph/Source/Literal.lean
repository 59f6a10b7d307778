import ScriptGraph.Source.Word

/-!
# Literals

How far numbers, strings and regular expressions reach. Nothing is decoded:
only the extent of a literal is found.
-/

namespace ScriptGraph.Source

/-- The length of digits with single underscores between them, of which `passed` glyphs have been
passed; the last of these was a digit. -/
def moreDigits (test : Char → Bool) (passed : Nat) : List Glyph → Nat
  | [] => passed
  | [a] => if onChar test a then passed + 1 else passed
  | a :: b :: rest =>
    if onChar test a then moreDigits test (passed + 1) (b :: rest)
    else if a = some '_' && onChar test b then moreDigits test (passed + 2) rest
    else passed

def digitsLength (test : Char → Bool) (rest : List Glyph) : Nat :=
  match rest with
  | glyph :: more => if onChar test glyph then moreDigits test 1 more else 0
  | [] => 0

/-- The length of an exponent part; zero if there is none. -/
def exponentLength (rest : List Glyph) : Nat :=
  match rest with
  | some e :: more =>
    if e = 'e' ∨ e = 'E' then
      let sign := match more with
        | some s :: _ => if s = '+' ∨ s = '-' then 1 else 0
        | _ => 0
      let digits := digitsLength isDigit (more.drop sign)
      if digits = 0 then 0 else 1 + sign + digits
    else 0
  | _ => 0

/-- Whether digits may be followed by a fraction or an exponent: a lone zero, or digits whose first
or second is not zero. -/
def takesFraction (digits : List Glyph) : Bool :=
  match digits with
  | [some '0'] => true
  | some '0' :: some c :: _ => decide ('1' ≤ c) && decide (c ≤ '9')
  | some c :: _ => decide ('1' ≤ c) && decide (c ≤ '9')
  | _ => false

/-- The length of a number that starts with a digit and has no base mark. -/
def decimalLength (rest : List Glyph) : Nat :=
  let whole := digitsLength isDigit rest
  let after := rest.drop whole
  match after with
  | some 'n' :: _ => whole + 1
  | some '.' :: more =>
    if takesFraction (rest.take whole) then
      let fraction := digitsLength isDigit more
      whole + 1 + fraction + exponentLength (more.drop fraction)
    else whole
  | _ => if takesFraction (rest.take whole) then whole + exponentLength after else whole

def baseDigit? : Char → Option (Char → Bool)
  | 'x' | 'X' => some isHexDigit
  | 'o' | 'O' => some fun c => decide ('0' ≤ c) && decide (c ≤ '7')
  | 'b' | 'B' => some fun c => c == '0' || c == '1'
  | _ => none

def basedLength (rest : List Glyph) : Nat :=
  match rest with
  | some '0' :: some mark :: more =>
    match baseDigit? mark with
    | some test =>
      let digits := digitsLength test more
      if digits = 0 then 0
      else if (more.drop digits).head? = some (some 'n') then digits + 3
      else digits + 2
    | none => 0
  | _ => 0

def numberLength (rest : List Glyph) : Nat :=
  match rest with
  | some '.' :: more =>
    let fraction := digitsLength isDigit more
    if fraction = 0 then 0 else 1 + fraction + exponentLength (more.drop fraction)
  | some c :: _ =>
    if isDigit c then
      let based := basedLength rest
      if based = 0 then decimalLength rest else based
    else 0
  | _ => 0

def escapeLength? (rest : List Glyph) : Option Nat :=
  match rest with
  | [] => none
  | some 'u' :: _ => codePointLength? rest
  | some 'x' :: a :: b :: _ => if onChar isHexDigit a && onChar isHexDigit b then some 3 else none
  | some 'x' :: _ => none
  | some '\r' :: some '\n' :: _ => some 2
  | _ :: _ => some 1

/-- The length of a quoted string after its opening quote, of which `passed` glyphs have been
passed and `escaped` more belong to an escape. -/
def stringLength? (quote : Char) (passed escaped : Nat) : List Glyph → Option Nat
  | [] => none
  | glyph :: rest =>
    match escaped with
    | n + 1 => stringLength? quote (passed + 1) n rest
    | 0 =>
      if glyph = some quote then some (passed + 1)
      else if glyph = some '\\' then
        match escapeLength? rest with
        | some length => stringLength? quote (passed + 1) length rest
        | none => none
      else if glyph = some '\n' ∨ glyph = some '\r' then none
      else stringLength? quote (passed + 1) 0 rest

def regexLength? (passed : Nat) (inClass escaped : Bool) : List Glyph → Option Nat
  | [] => none
  | glyph :: rest =>
    if glyph = some '\n' then none
    else if escaped then regexLength? (passed + 1) inClass false rest
    else if glyph = some '\\' then regexLength? (passed + 1) inClass true rest
    else if inClass then regexLength? (passed + 1) (glyph != some ']') false rest
    else if glyph = some '/' then some passed
    else regexLength? (passed + 1) (glyph == some '[') false rest

/-- The length of plain template text, which ends at a backquote, a backslash or a substitution. -/
def fragmentLength (passed : Nat) : List Glyph → Nat
  | [] => passed
  | glyph :: rest =>
    if glyph = some '\x60' ∨ glyph = some '\\' then passed
    else if glyph = some '$' ∧ rest.head? = some (some '\x7b') then passed
    else fragmentLength (passed + 1) rest

namespace Reader

/-- Moves past a number of glyphs; refuses if there are none. -/
def stretch (length : Nat) : Reader Span := fun cursor =>
  if length = 0 then none
  else
    let after := cursor.skip length
    some (cursor.spanTo after, after)

def number : Reader Tree := fun cursor =>
  (stretch (numberLength cursor.rest) cursor).map fun (span, after) =>
    (Tree.leaf .number span, after)

def string : Reader Tree := fun cursor =>
  match cursor.rest with
  | some c :: rest =>
    if c = '\x22' ∨ c = '\x27' then
      match stringLength? c 1 0 rest with
      | some length =>
        let after := cursor.skip length
        some (Tree.leaf .string (cursor.spanTo after), after)
      | none => none
    else none
  | _ => none

def regex : Reader Tree := fun cursor =>
  match cursor.rest with
  | some '/' :: rest =>
    match regexLength? 0 false false rest with
    | some (length + 1) =>
      let body := cursor.next
      let close := body.skip (length + 1)
      let flags := close.next
      let flagCount := flags.run (onChar fun c => decide ('a' ≤ c) && decide (c ≤ 'z'))
      let after := flags.skip flagCount
      let pattern := (some Field.pattern, Tree.leaf .regexPattern (body.spanTo close))
      let parts :=
        if flagCount = 0 then [pattern]
        else [pattern, (some Field.flags, Tree.leaf .regexFlags (flags.spanTo after))]
      some (.node .regex (cursor.spanTo after) parts, after)
    | _ => none
  | _ => none

end Reader

end ScriptGraph.Source
