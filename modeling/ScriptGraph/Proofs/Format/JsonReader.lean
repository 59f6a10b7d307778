import Mathlib.Data.List.Basic
import ScriptGraph.Format.Json

/-!
# Reading JSON text back

A reader for JSON text that knows the grammar and not the layout: the text is
cut into tokens, whatever blanks stand between them, and the tokens drive a
machine that keeps the open arrays and objects on a stack. Numbers are natural.
Written text is read back as the value it was written from, whatever characters
its strings and keys hold.
-/

namespace ScriptGraph.Json

/-! ## Tokens -/

inductive Token where
  | openArr
  | closeArr
  | openObj
  | closeObj
  | comma
  | colon
  | null
  | bool (value : Bool)
  | nat (value : Nat)
  | str (text : String)
  deriving DecidableEq, Repr

def isBlank (c : Char) : Bool := c = ' ' || c = '\n' || c = '\r' || c = '\t'

def punctuation? (c : Char) : Option Token :=
  if c = '[' then some .openArr
  else if c = ']' then some .closeArr
  else if c = '\x7b' then some .openObj
  else if c = '\x7d' then some .closeObj
  else if c = ',' then some .comma
  else if c = ':' then some .colon
  else none

def scalar? (word : List Char) : Option Token :=
  if word.all Char.isDigit then some (.nat (Nat.ofDigitChars 10 word 0))
  else if word = "null".toList then some .null
  else if word = "true".toList then some (.bool true)
  else if word = "false".toList then some (.bool false)
  else none

def hexValue? (c : Char) : Option Nat :=
  if c.isDigit then some (c.toNat - '0'.toNat)
  else if 'a' ≤ c ∧ c ≤ 'f' then some (c.toNat - 'a'.toNat + 10)
  else if 'A' ≤ c ∧ c ≤ 'F' then some (c.toNat - 'A'.toNat + 10)
  else none

def ofCode? (digits : List Char) : Option Char := do
  let values ← digits.mapM hexValue?
  let code := values.foldl (fun code value => 16 * code + value) 0
  if code.isValidChar then some (Char.ofNat code) else none

def unescape? (mark : Char) : Option Char :=
  if mark = '\x22' ∨ mark = '\\' ∨ mark = '/' then some mark
  else if mark = 'b' then some '\x08'
  else if mark = 'f' then some '\x0c'
  else if mark = 'n' then some '\n'
  else if mark = 'r' then some '\r'
  else if mark = 't' then some '\t'
  else none

def readChar? : List Char → Option (Char × List Char)
  | '\\' :: 'u' :: a :: b :: c :: d :: rest => (ofCode? [a, b, c, d]).map (·, rest)
  | '\\' :: mark :: rest => (unescape? mark).map (·, rest)
  | c :: rest => if c = '\\' ∨ c.toNat < 32 then none else some (c, rest)
  | [] => none

theorem length_lt_of_readChar? {text rest : List Char} {c : Char}
    (h : readChar? text = some (c, rest)) : rest.length < text.length := by
  unfold readChar? at h
  split at h
  · obtain ⟨_, -, hpair⟩ := Option.map_eq_some_iff.mp h
    obtain ⟨-, rfl⟩ := Prod.mk.inj hpair
    simp only [List.length_cons]
    omega
  · obtain ⟨_, -, hpair⟩ := Option.map_eq_some_iff.mp h
    obtain ⟨-, rfl⟩ := Prod.mk.inj hpair
    simp only [List.length_cons]
    omega
  · split at h
    · cases h
    · cases h
      simp
  · cases h

def readString? (text : List Char) : Option (List Char × List Char) :=
  if text.head? = some '\x22' then some ([], text.tail)
  else
    match _h : readChar? text with
    | some (c, rest) => (readString? rest).map fun (chars, rest) => (c :: chars, rest)
    | none => none
termination_by text.length
decreasing_by exact length_lt_of_readChar? _h

theorem length_le_of_readString? {text chars rest : List Char}
    (h : readString? text = some (chars, rest)) : rest.length ≤ text.length := by
  fun_induction readString? text generalizing chars rest with
  | case1 text =>
      cases h
      rw [List.length_tail]
      omega
  | case2 text _ c rest' hchar ih =>
      obtain ⟨⟨_, _⟩, hread, hpair⟩ := Option.map_eq_some_iff.mp h
      cases hpair
      have hrest := ih hread
      have hlt := length_lt_of_readChar? hchar
      omega
  | case3 => cases h

def tokens? : List Char → Option (List Token)
  | [] => some []
  | c :: rest =>
    if isBlank c then tokens? rest
    else if c = '\x22' then
      match _h : readString? rest with
      | some (chars, rest) => (tokens? rest).map (.str (String.ofList chars) :: ·)
      | none => none
    else
      match punctuation? c with
      | some token => (tokens? rest).map (token :: ·)
      | none =>
        match scalar? (c :: rest.takeWhile Char.isAlphanum) with
        | some token => (tokens? (rest.dropWhile Char.isAlphanum)).map (token :: ·)
        | none => none
termination_by text => text.length
decreasing_by
  · simp
  · have hle := length_le_of_readString? _h
    simp only [List.length_cons]
    omega
  · simp
  · have hle := (List.dropWhile_sublist (l := rest) Char.isAlphanum).length_le
    simp only [List.length_cons]
    omega

/-! ## The machine -/

inductive Frame where
  | item (before : List Json)
  | field (before : List (String × Json)) (key : String)

/-- What may come next, and what is open around it, the innermost first. -/
inductive Stage where
  | value (frames : List Frame)
  | firstItem (frames : List Frame)
  | firstKey (frames : List Frame)
  | key (frames : List Frame) (before : List (String × Json))
  | colon (frames : List Frame) (before : List (String × Json)) (key : String)
  | done (frames : List Frame) (value : Json)

def beginValue (frames : List Frame) : Token → Option Stage
  | .null => some (.done frames .null)
  | .bool value => some (.done frames (.bool value))
  | .nat value => some (.done frames (.nat value))
  | .str text => some (.done frames (.str text))
  | .openArr => some (.firstItem frames)
  | .openObj => some (.firstKey frames)
  | .closeArr | .closeObj | .comma | .colon => none

def step : Stage → Token → Option Stage
  | .value frames, token => beginValue frames token
  | .firstItem frames, .closeArr => some (.done frames (.arr []))
  | .firstItem frames, token => beginValue (.item [] :: frames) token
  | .firstKey frames, .closeObj => some (.done frames (.obj []))
  | .firstKey frames, .str key => some (.colon frames [] key)
  | .key frames before, .str key => some (.colon frames before key)
  | .colon frames before key, .colon => some (.value (.field before key :: frames))
  | .done (.item before :: frames) value, .comma =>
    some (.value (.item (before ++ [value]) :: frames))
  | .done (.item before :: frames) value, .closeArr =>
    some (.done frames (.arr (before ++ [value])))
  | .done (.field before key :: frames) value, .comma =>
    some (.key frames (before ++ [(key, value)]))
  | .done (.field before key :: frames) value, .closeObj =>
    some (.done frames (.obj (before ++ [(key, value)])))
  | _, _ => none

def read? (stage : Stage) (text : List Char) : Option Stage :=
  (tokens? text).bind fun tokens => tokens.foldlM step stage

def parse? (text : String) : Option Json :=
  match read? (.value []) text.toList with
  | some (.done [] value) => some value
  | _ => none

/-! ## Strings -/

theorem ofCode?_hexDigit : ∀ n < 32,
    ofCode? ['0', '0', hexDigit (n / 16), hexDigit (n % 16)] = some (Char.ofNat n) := by
  decide

theorem readChar?_escapeChar (c : Char) (rest : List Char) :
    readChar? (escapeChar c ++ rest) = some (c, rest) := by
  unfold escapeChar
  split_ifs with hquote hback hb ht hn hf hr hcontrol
  · subst hquote
    rfl
  · subst hback
    rfl
  · subst hb
    rfl
  · subst ht
    rfl
  · subst hn
    rfl
  · subst hf
    rfl
  · subst hr
    rfl
  · calc readChar? _ = (ofCode? ['0', '0', hexDigit (c.toNat / 16),
          hexDigit (c.toNat % 16)]).map (·, rest) := rfl
      _ = some (c, rest) := by
          rw [ofCode?_hexDigit c.toNat hcontrol, Char.ofNat_toNat]
          rfl
  · simp [readChar?, hback, hcontrol]

theorem head?_escapeChar_append (c : Char) (rest : List Char) :
    (escapeChar c ++ rest).head? ≠ some '\x22' := by
  unfold escapeChar
  split_ifs with hquote
  case neg => simpa using hquote
  all_goals simp

/-- A string ends at the quote that was written behind it, whatever it holds. -/
theorem readString?_escape (chars rest : List Char) :
    readString? (chars.flatMap escapeChar ++ '\x22' :: rest) = some (chars, rest) := by
  induction chars with
  | nil =>
      rw [readString?]
      simp
  | cons c chars ih =>
      rw [List.flatMap_cons, List.append_assoc, readString?, if_neg (head?_escapeChar_append c _)]
      split
      · rename_i hread
        rw [readChar?_escapeChar] at hread
        cases hread
        rw [ih]
        rfl
      · rename_i hread
        rw [readChar?_escapeChar] at hread
        cases hread

/-! ## Reading on -/

def Begins (text : List Char) (token : Token) (rest : List Char) : Prop :=
  tokens? text = (tokens? rest).map (token :: ·)

theorem read?_nil (stage : Stage) : read? stage [] = some stage := by
  simp [read?, tokens?]

theorem Begins.read? {text rest : List Char} {token : Token} (h : Begins text token rest)
    (stage : Stage) : read? stage text = (step stage token).bind (read? · rest) := by
  unfold Json.read?
  rw [h]
  cases tokens? rest with
  | none => cases step stage token <;> rfl
  | some tokens => rfl

theorem read?_blank {c : Char} (hc : isBlank c = true) (stage : Stage) (rest : List Char) :
    read? stage (c :: rest) = read? stage rest := by
  unfold read?
  rw [tokens?, if_pos hc]

theorem begins_punctuation {c : Char} {token : Token} (hc : punctuation? c = some token)
    (rest : List Char) : Begins (c :: rest) token rest := by
  have hplain : isBlank c = false ∧ c ≠ '\x22' := by
    unfold punctuation? at hc
    split_ifs at hc with h h h h h h
    all_goals
      subst h
      decide
  unfold Begins
  rw [tokens?, hplain.1, if_neg (by decide), if_neg hplain.2, hc]

theorem begins_quote (text : String) (rest : List Char) :
    Begins ((quote text).toList ++ rest) (.str text) rest := by
  have hread : readString? (text.toList.flatMap escapeChar ++ ['\x22'] ++ rest) =
      some (text.toList, rest) := by
    rw [List.append_assoc]
    exact readString?_escape text.toList rest
  unfold Begins quote
  rw [String.toList_ofList, List.cons_append, tokens?, if_neg (by decide), if_pos rfl]
  split
  · rename_i heq
    rw [hread] at heq
    cases heq
    rw [String.ofList_toList]
  · rename_i heq
    rw [hread] at heq
    cases heq

def Ends (rest : List Char) : Prop := rest.takeWhile Char.isAlphanum = []

theorem begins_scalar {word rest : List Char} {token : Token} (hne : word ≠ [])
    (hword : word.all Char.isAlphanum = true) (hrest : Ends rest)
    (htoken : scalar? word = some token) : Begins (word ++ rest) token rest := by
  obtain ⟨c, chars, rfl⟩ := List.exists_cons_of_ne_nil hne
  rw [List.all_cons, Bool.and_eq_true, List.all_eq_true] at hword
  obtain ⟨hc, hchars⟩ := hword
  have hne : ∀ other : Char, other.isAlphanum = false → c ≠ other := by
    rintro other hother rfl
    rw [hc] at hother
    cases hother
  have htake : (chars ++ rest).takeWhile Char.isAlphanum = chars := by
    rw [List.takeWhile_append_of_pos hchars, hrest, List.append_nil]
  have hdrop : (chars ++ rest).dropWhile Char.isAlphanum = rest := by
    rw [List.dropWhile_append_of_pos hchars]
    have hall := List.takeWhile_append_dropWhile (p := Char.isAlphanum) (l := rest)
    rwa [hrest, List.nil_append] at hall
  have hblank : isBlank c = false := by
    simp [isBlank, hne ' ' (by decide), hne '\n' (by decide), hne '\r' (by decide),
      hne '\t' (by decide)]
  have hpunctuation : punctuation? c = none := by
    simp [punctuation?, hne '[' (by decide), hne ']' (by decide), hne '\x7b' (by decide),
      hne '\x7d' (by decide), hne ',' (by decide), hne ':' (by decide)]
  unfold Begins
  rw [List.cons_append, tokens?, hblank, if_neg (by decide), if_neg (hne '\x22' (by decide)),
    hpunctuation, htake, hdrop, htoken]

theorem read?_newline (stage : Stage) (level : Nat) (rest : List Char) :
    read? stage ((newline level).toList ++ rest) = read? stage rest := by
  have hindent : ∀ n, read? stage (List.replicate n ' ' ++ rest) = read? stage rest := by
    intro n
    induction n with
    | zero => rfl
    | succ n ih => rw [List.replicate_succ, List.cons_append, read?_blank rfl, ih]
  rw [newline, String.toList_ofList, List.cons_append, read?_blank rfl, hindent]

theorem ends_newline (level : Nat) (rest : List Char) : Ends ((newline level).toList ++ rest) := by
  rw [newline, String.toList_ofList]
  rfl

/-! ## Values -/

/-- The values that hold natural numbers only. -/
inductive Readable : Json → Prop where
  | null : Readable .null
  | bool (value : Bool) : Readable (.bool value)
  | nat (value : Nat) : Readable (.nat value)
  | str (value : String) : Readable (.str value)
  | arr {items : List Json} (h : ∀ item ∈ items, Readable item) : Readable (.arr items)
  | obj {fields : List (String × Json)} (h : ∀ field ∈ fields, Readable field.2) :
      Readable (.obj fields)

/-- That a stage takes a value next; it may instead see its array closed. -/
def Awaits (stage : Stage) (frames : List Frame) : Prop :=
  ∀ token, token ≠ .closeArr → step stage token = beginValue frames token

theorem awaits_value (frames : List Frame) : Awaits (.value frames) frames :=
  fun _ _ => rfl

theorem awaits_firstItem (frames : List Frame) :
    Awaits (.firstItem frames) (.item [] :: frames) := by
  intro token htoken
  cases token with
  | closeArr => exact absurd rfl htoken
  | _ => rfl

/-- That reading the text of a value, on any level and before anything that ends a word, takes
the reader past the value. -/
def ReadsBack (value : Json) : Prop :=
  ∀ (level : Nat) (stage : Stage) (frames : List Frame) (rest : List Char),
    Awaits stage frames → Ends rest →
      read? stage ((value.renderAt level).toList ++ rest) = read? (.done frames value) rest

theorem readsBack_of_word {value : Json} (word : List Char) {token : Token}
    (hword : ∀ level, (value.renderAt level).toList = word) (hne : word ≠ [])
    (halnum : word.all Char.isAlphanum = true) (htoken : scalar? word = some token)
    (hbegin : ∀ frames, beginValue frames token = some (.done frames value)) :
    value.ReadsBack := by
  intro level stage frames rest hstage hrest
  have hclose : token ≠ .closeArr := by
    rintro rfl
    cases hbegin frames
  rw [hword, (begins_scalar hne halnum hrest htoken).read?, hstage token hclose, hbegin]
  rfl

theorem readsBack_null : ReadsBack .null :=
  readsBack_of_word "null".toList (fun _ => by rw [renderAt]) (by decide) (by decide) rfl
    fun _ => rfl

theorem readsBack_bool (value : Bool) : ReadsBack (.bool value) := by
  cases value with
  | true =>
      exact readsBack_of_word "true".toList (fun _ => by rw [renderAt, if_pos rfl])
        (by decide) (by decide) rfl fun _ => rfl
  | false =>
      exact readsBack_of_word "false".toList (fun _ => by rw [renderAt, if_neg (by decide)])
        (by decide) (by decide) rfl fun _ => rfl

theorem readsBack_nat (value : Nat) : ReadsBack (.nat value) := by
  have hdigits : ∀ c ∈ Nat.toDigits 10 value, c.isDigit = true := fun c hc =>
    Nat.isDigit_of_mem_toDigits (by omega) (by omega) hc
  have htoken : scalar? (Nat.toDigits 10 value) = some (.nat value) := by
    rw [scalar?, if_pos (List.all_eq_true.mpr hdigits), Nat.ofDigitChars_ten_toDigits]
  refine readsBack_of_word (Nat.toDigits 10 value) ?_ Nat.toDigits_ne_nil ?_ htoken fun _ => rfl
  · intro level
    rw [renderAt, Nat.toString_eq_repr, Nat.toList_repr]
  · rw [List.all_eq_true]
    intro c hc
    simp [Char.isAlphanum, hdigits c hc]

theorem readsBack_str (value : String) : ReadsBack (.str value) := by
  intro level stage frames rest hstage _
  rw [renderAt, (begins_quote value rest).read?, hstage _ (by simp)]
  rfl

theorem ends_renderItems (level outer : Nat) (items : List Json) (rest : List Char) :
    Ends ((renderItems level items).toList ++ ((newline outer).toList ++ rest)) := by
  cases items with
  | nil =>
      rw [renderItems, String.toList_empty, List.nil_append]
      exact ends_newline outer rest
  | cons item items =>
      simp only [renderItems, String.toList_append, List.append_assoc]
      rfl

theorem ends_renderFields (level outer : Nat) (fields : List (String × Json))
    (rest : List Char) :
    Ends ((renderFields level fields).toList ++ ((newline outer).toList ++ rest)) := by
  cases fields with
  | nil =>
      rw [renderFields, String.toList_empty, List.nil_append]
      exact ends_newline outer rest
  | cons field fields =>
      simp only [renderFields, String.toList_append, List.append_assoc]
      rfl

/-- The items after one that was read, up to the bracket that closes their array. -/
theorem read?_renderItems {items : List Json} (hitems : ∀ item ∈ items, ReadsBack item)
    (level outer : Nat) (frames : List Frame) (before : List Json) (last : Json)
    (rest : List Char) :
    read? (.done (.item before :: frames) last)
        ((renderItems level items).toList ++ ((newline outer).toList ++ ']' :: rest)) =
      read? (.done frames (.arr (before ++ last :: items))) rest := by
  induction items generalizing before last with
  | nil =>
      rw [renderItems, String.toList_empty, List.nil_append, read?_newline,
        (begins_punctuation (by rfl) rest).read?]
      rfl
  | cons item items ih =>
      have hitem := hitems item List.mem_cons_self
      replace ih := ih fun item hmem => hitems item (List.mem_cons_of_mem _ hmem)
      simp only [renderItems, String.toList_append, List.append_assoc]
      rw [show ",".toList = [','] from rfl, List.singleton_append,
        (begins_punctuation (by rfl) _).read?]
      change read? (.value (.item (before ++ [last]) :: frames)) _ = _
      rw [read?_newline, hitem level _ _ _ (awaits_value _) (ends_renderItems _ _ _ _), ih,
        List.append_assoc]
      rfl

/-- A key and its value. -/
theorem read?_field {stage : Stage} {frames : List Frame} {before : List (String × Json)}
    {key : String} (hstage : step stage (.str key) = some (.colon frames before key))
    {value : Json} (hvalue : ReadsBack value) (level : Nat) {rest : List Char}
    (hrest : Ends rest) :
    read? stage ((quote key).toList ++ (": ".toList ++ ((value.renderAt level).toList ++ rest))) =
      read? (.done (.field before key :: frames) value) rest := by
  rw [(begins_quote key _).read?, hstage, Option.bind_some,
    show ": ".toList = [':', ' '] from rfl, List.cons_append,
    (begins_punctuation (by rfl) _).read?]
  change read? (.value (.field before key :: frames)) _ = _
  rw [List.singleton_append, read?_blank rfl, hvalue level _ _ _ (awaits_value _) hrest]

/-- The fields after one that was read, up to the brace that closes their object. -/
theorem read?_renderFields {fields : List (String × Json)}
    (hfields : ∀ field ∈ fields, ReadsBack field.2) (level outer : Nat) (frames : List Frame)
    (before : List (String × Json)) (key : String) (last : Json) (rest : List Char) :
    read? (.done (.field before key :: frames) last)
        ((renderFields level fields).toList ++ ((newline outer).toList ++ '\x7d' :: rest)) =
      read? (.done frames (.obj (before ++ (key, last) :: fields))) rest := by
  induction fields generalizing before key last with
  | nil =>
      rw [renderFields, String.toList_empty, List.nil_append, read?_newline,
        (begins_punctuation (by rfl) rest).read?]
      rfl
  | cons field fields ih =>
      obtain ⟨name, value⟩ := field
      have hvalue : ReadsBack value := hfields (name, value) List.mem_cons_self
      replace ih := ih fun field hmem => hfields field (List.mem_cons_of_mem _ hmem)
      simp only [renderFields, String.toList_append, List.append_assoc]
      rw [show ",".toList = [','] from rfl, List.singleton_append,
        (begins_punctuation (by rfl) _).read?]
      change read? (.key frames (before ++ [(key, last)])) _ = _
      rw [read?_newline, read?_field rfl hvalue level (ends_renderFields _ _ _ _), ih,
        List.append_assoc]
      rfl

theorem readsBack_arr {items : List Json} (hitems : ∀ item ∈ items, ReadsBack item) :
    ReadsBack (.arr items) := by
  intro level stage frames rest hstage _
  have hopen : ∀ text, read? stage ('[' :: text) = read? (.firstItem frames) text := by
    intro text
    rw [(begins_punctuation (by rfl) text).read?, hstage _ (by simp)]
    rfl
  cases items with
  | nil =>
      rw [renderAt, show "[]".toList = ['[', ']'] from rfl, List.cons_append, hopen,
        List.singleton_append, (begins_punctuation (by rfl) rest).read?]
      rfl
  | cons item items =>
      simp only [renderAt, String.toList_append, List.append_assoc]
      rw [show "[".toList = ['['] from rfl, List.singleton_append, hopen, read?_newline,
        hitems item List.mem_cons_self _ _ _ _ (awaits_firstItem frames)
          (ends_renderItems _ _ _ _),
        show "]".toList = [']'] from rfl, List.singleton_append]
      exact read?_renderItems (fun item hmem => hitems item (List.mem_cons_of_mem _ hmem))
        _ _ _ [] _ _

theorem readsBack_obj {fields : List (String × Json)}
    (hfields : ∀ field ∈ fields, ReadsBack field.2) : ReadsBack (.obj fields) := by
  intro level stage frames rest hstage _
  have hopen : ∀ text, read? stage ('\x7b' :: text) = read? (.firstKey frames) text := by
    intro text
    rw [(begins_punctuation (by rfl) text).read?, hstage _ (by simp)]
    rfl
  cases fields with
  | nil =>
      rw [renderAt, show "\x7b\x7d".toList = ['\x7b', '\x7d'] from rfl, List.cons_append, hopen,
        List.singleton_append, (begins_punctuation (by rfl) rest).read?]
      rfl
  | cons field fields =>
      obtain ⟨key, value⟩ := field
      have hvalue : ReadsBack value := hfields (key, value) List.mem_cons_self
      simp only [renderAt, String.toList_append, List.append_assoc]
      rw [show "\x7b".toList = ['\x7b'] from rfl, List.singleton_append, hopen, read?_newline,
        read?_field rfl hvalue _ (ends_renderFields _ _ _ _),
        show "\x7d".toList = ['\x7d'] from rfl, List.singleton_append]
      exact read?_renderFields (fun field hmem => hfields field (List.mem_cons_of_mem _ hmem))
        _ _ _ [] _ _ _

theorem Readable.readsBack {value : Json} (h : value.Readable) : value.ReadsBack := by
  induction h with
  | null => exact readsBack_null
  | bool value => exact readsBack_bool value
  | nat value => exact readsBack_nat value
  | str value => exact readsBack_str value
  | arr _ ih => exact readsBack_arr ih
  | obj _ ih => exact readsBack_obj ih

/-- Written text is read back as the value it was written from. -/
theorem Readable.parse?_render {value : Json} (h : value.Readable) :
    parse? value.render = some value := by
  have hread : read? (.value []) (value.renderAt 0).toList = some (.done [] value) := by
    rw [← List.append_nil (value.renderAt 0).toList,
      h.readsBack 0 _ _ [] (awaits_value []) rfl, read?_nil]
  unfold parse? render
  rw [hread]

end ScriptGraph.Json
