import MeshControl.Json.Parse

/-!
# Compact text is read back

`Json.parse?_compact` says that reading the compact text of a value gives the value. A value must be `Written`
for this: it has no number but natural ones, whose literals are free, and no part that no text can hold. The
proof follows `render` through `value?`, which gets by with as much fuel as the text has characters.
-/

namespace MeshControl.Json

/-- A value of which every part can be written. -/
inductive Written : Json → Prop
  | null : Written .null
  | bool (value : Bool) : Written (.bool value)
  | natural (value : Nat) : Written (.natural value)
  | text (value : String) : Written (.text value)
  | list {items : List Json} (each : ∀ item ∈ items, Written item) : Written (.list items)
  | object {fields : List (String × Json)} (each : ∀ field ∈ fields, Written field.2) : Written (.object fields)

section Literals

/-- The piece as which an escaped character is read. -/
def pieceOf (char : Char) : Piece :=
  if char.toNat < 32 ∧ char ∉ ['\n', '\t', '\r', '\x08', '\x0c'] then .unit char.toNat else .char char

theorem hexValue?_hexDigit : ∀ digit < 16, hexValue? (hexDigit digit) = some digit := by decide

/-- The code unit of a control character is read from its escape. -/
theorem codeUnit?_control {number : Nat} (control : number < 32) :
    codeUnit? '0' '0' (hexDigit (number / 16)) (hexDigit (number % 16)) = some number := by
  have high := hexValue?_hexDigit (number / 16) (by omega)
  have low := hexValue?_hexDigit (number % 16) (by omega)
  have zero : hexValue? '0' = some 0 := by decide
  simp only [codeUnit?, zero, high, low, Option.bind_eq_bind, Option.bind_some, Option.pure_def]
  congr 1
  omega

/-- A character that stands for itself is read as it is. -/
theorem literal?_plain {char : Char} (notQuote : char ≠ '"') (notBackslash : char ≠ '\\')
    (printable : ¬ char.toNat < 32) (rest : List Char) :
    literal? (char :: rest) = (literal? rest).map fun (pieces, rest) => (.char char :: pieces, rest) := by
  rw [literal?.eq_def]
  split
  next empty => cases empty
  next same => exact absurd (List.cons.inj same).1 notQuote
  next same => exact absurd (List.cons.inj same).1 notBackslash
  next same => exact absurd (List.cons.inj same).1 notBackslash
  next same =>
    obtain ⟨rfl, rfl⟩ := List.cons.inj same
    exact if_neg fun refused => refused.elim printable notBackslash

/-- The escape of a character that has no letter of its own for it. -/
theorem escape_of_not_mem {char : Char} (unnamed : char ∉ ['"', '\\', '\n', '\t', '\r', '\x08', '\x0c']) :
    escape char = if char.toNat < 32 then
        ['\\', 'u', '0', '0', hexDigit (char.toNat / 16), hexDigit (char.toNat % 16)]
      else [char] := by
  simp only [List.mem_cons, List.not_mem_nil, or_false, not_or] at unnamed
  simp only [escape, unnamed, if_false]

/-- An escaped character is read as one piece. -/
theorem literal?_escape (char : Char) (rest : List Char) :
    literal? (escape char ++ rest) =
      (literal? rest).map fun (pieces, rest) => (pieceOf char :: pieces, rest) := by
  by_cases named : char ∈ ['"', '\\', '\n', '\t', '\r', '\x08', '\x0c']
  · simp only [List.mem_cons, List.not_mem_nil, or_false] at named
    rcases named with rfl | rfl | rfl | rfl | rfl | rfl | rfl <;> rfl
  · rw [escape_of_not_mem named]
    simp only [List.mem_cons, List.not_mem_nil, or_false, not_or] at named
    split
    next control =>
      have piece : pieceOf char = .unit char.toNat := by simp [pieceOf, control, named]
      simp only [List.cons_append, List.nil_append, literal?, codeUnit?_control control, piece]
    next printable =>
      have piece : pieceOf char = .char char := by simp [pieceOf, printable]
      rw [List.singleton_append, literal?_plain named.1 named.2.1 printable, piece]

/-- The pieces of escaped characters write these characters. -/
theorem joined?_pieces (chars : List Char) : joined? (chars.map pieceOf) = some chars := by
  induction chars with
  | nil => rfl
  | cons char chars inductionHypothesis =>
    rw [List.map_cons, pieceOf]
    split
    next control =>
      -- An escaped unit below thirty-two is no half of a surrogate pair, whatever follows it.
      have high : isHighSurrogate char.toNat = false := by
        simp only [isHighSurrogate, Bool.and_eq_false_iff, decide_eq_false_iff_not]
        omega
      have low : isLowSurrogate char.toNat = false := by
        simp only [isLowSurrogate, Bool.and_eq_false_iff, decide_eq_false_iff_not]
        omega
      have same : Char.ofNat char.toNat = char := Char.ofNat_toNat char
      generalize char.toNat = unit at high low same
      rw [joined?.eq_def]
      split <;> simp_all
    next => simp [joined?, inductionHypothesis]

/-- A string literal is read up to its closing quotation mark. -/
theorem literal?_quote (chars rest : List Char) :
    literal? (chars.flatMap escape ++ '"' :: rest) = some (chars.map pieceOf, rest) := by
  induction chars with
  | nil => simp [literal?]
  | cons char chars inductionHypothesis =>
    rw [List.flatMap_cons, List.append_assoc, literal?_escape, inductionHypothesis]
    rfl

end Literals

section Tokens

/-- What may stand behind a value: nothing, a comma or a closing bracket. -/
def EndsValue (rest : List Char) : Prop := ∀ char ∈ rest.head?, char = ',' ∨ char = ']' ∨ char = '\x7d'

theorem endsValue_nil : EndsValue [] := by simp [EndsValue]

theorem endsValue_renderItems (items : List Json) (rest : List Char) :
    EndsValue (renderItems items ++ rest) := by
  cases items <;> simp [EndsValue, renderItems]

theorem endsValue_renderFields (fields : List (String × Json)) (rest : List Char) :
    EndsValue (renderFields fields ++ rest) := by
  cases fields <;> simp [EndsValue, renderFields]

theorem length_renderItems_pos (items : List Json) : 0 < (renderItems items).length := by
  cases items <;> simp [renderItems]

theorem length_renderFields_pos (fields : List (String × Json)) : 0 < (renderFields fields).length := by
  cases fields <;> simp [renderFields]

/-- Nothing is skipped in front of a token. -/
theorem skipSpace_cons {char : Char} (token : isSpace char = false) (rest : List Char) :
    skipSpace (char :: rest) = char :: rest := by
  simp [skipSpace, token]

end Tokens

section Naturals

/-- A number is written with at least one digit. -/
theorem toDigits_eq_cons (number : Nat) :
    ∃ first more, Nat.toDigits 10 number = first :: more ∧ first.isDigit = true := by
  obtain ⟨first, more, written⟩ := List.exists_cons_of_ne_nil (Nat.toDigits_ne_nil (b := 10) (n := number))
  exact ⟨first, more, written,
    Nat.isDigit_of_mem_toDigits (b := 10) (n := number) (by decide) (by decide) (by simp [written])⟩

/-- The digits of a number other than zero have no leading zero. -/
theorem head?_toDigits_ne_zero {number : Nat} (positive : 0 < number) :
    (Nat.toDigits 10 number).head? ≠ some '0' := by
  induction number using Nat.strongRecOn with
  | ind number inductionHypothesis =>
    by_cases single : number < 10
    · simp [Nat.toDigits_of_lt_base single, Nat.digitChar_eq_zero]
      omega
    · have shorter := inductionHypothesis (number / 10) (by omega) (by omega)
      rw [Nat.toDigits_of_base_le (by decide) (by omega), List.head?_append,
        Option.or_of_isSome (by simp [Nat.toDigits_ne_nil])]
      exact shorter

theorem digitsValue_toDigits (number : Nat) : digitsValue (Nat.toDigits 10 number) = number := by
  have value : Nat.ofDigitChars 10 (Nat.toDigits 10 number) 0 = number :=
    Nat.ofDigitChars_toDigits (by decide) (by decide)
  simp only [Nat.ofDigitChars, Nat.mul_comm 10] at value
  exact value

/-- Nothing that may stand behind a value goes on with a number. -/
theorem EndsValue.number_over {rest : List Char} (ends : EndsValue rest) :
    digits rest = ([], rest) ∧ fraction? rest = some ([], rest) ∧ exponent? rest = some ([], rest) := by
  cases rest with
  | nil => exact ⟨rfl, rfl, rfl⟩
  | cons char rest =>
    rcases ends char rfl with rfl | rfl | rfl
    · exact ⟨rfl, rfl, rfl⟩
    · exact ⟨rfl, rfl, rfl⟩
    · exact ⟨rfl, rfl, rfl⟩

/-- A natural number is read up to the end of its digits. -/
theorem number?_toDigits (number : Nat) {rest : List Char} (ends : EndsValue rest) :
    number? (Nat.toDigits 10 number ++ rest) = some (.natural number, rest) := by
  have isDigit : ∀ char ∈ Nat.toDigits 10 number, char.isDigit = true := fun char member =>
    Nat.isDigit_of_mem_toDigits (by decide) (by decide) member
  obtain ⟨noDigits, fraction, exponent⟩ := ends.number_over
  simp only [digits, Prod.mk.injEq] at noDigits
  have whole : digits (Nat.toDigits 10 number ++ rest) = (Nat.toDigits 10 number, rest) := by
    rw [digits, List.takeWhile_append_of_pos isDigit, List.dropWhile_append_of_pos isDigit, noDigits.1,
      noDigits.2, List.append_nil]
  have sign : (Nat.toDigits 10 number ++ rest).takeWhile (· = '-') = [] := by
    obtain ⟨first, more, written, digit⟩ := toDigits_eq_cons number
    have noSign : first ≠ '-' := by
      rintro rfl
      revert digit
      decide
    simp [written, noSign]
  have leading : (Nat.toDigits 10 number).length = 1 ∨ (Nat.toDigits 10 number).head? ≠ some '0' := by
    rcases Nat.eq_zero_or_pos number with rfl | positive
    · exact .inl rfl
    · exact .inr (head?_toDigits_ne_zero positive)
  have admitted : (guard (!(Nat.toDigits 10 number).isEmpty && ((Nat.toDigits 10 number).length = 1 ||
      (Nat.toDigits 10 number).head? != some '0')) : Option Unit) = some () :=
    if_pos (by simpa [Nat.toDigits_ne_nil] using leading)
  rw [number?, sign, List.take_nil, List.length_nil, List.drop_zero, whole]
  dsimp only
  rw [admitted, fraction]
  simp only [Option.pure_def, Option.bind_eq_bind, Option.bind_some, exponent, List.isEmpty_nil,
    Bool.and_self, if_true, digitsValue_toDigits]

end Naturals

section Steps

variable (fuel : Nat) (rest : List Char)

theorem value?_quote :
    value? (fuel + 1) ('"' :: rest) = (literal? rest).map fun (pieces, rest) => (ofLiteral pieces, rest) := rfl

theorem value?_list_cons {first : Char} (token : isSpace first = false) (isOpen : first ≠ ']') :
    value? (fuel + 1) ('[' :: first :: rest) = do
      let (item, rest) ← value? fuel (first :: rest)
      let (items, rest) ← items? fuel rest
      return (.list (item :: items), rest) := by
  have bracket : skipSpace ('[' :: first :: rest) = '[' :: first :: rest := rfl
  rw [value?, bracket]
  simp only [skipSpace_cons token]
  split <;> simp_all

theorem value?_object_cons :
    value? (fuel + 1) ('\x7b' :: '"' :: rest) = do
      let (field, rest) ← namedValue? fuel ('"' :: rest)
      let (fields, rest) ← fields? fuel rest
      return (ofFields (field :: fields), rest) := rfl

theorem items?_comma :
    items? (fuel + 1) (',' :: rest) = do
      let (item, rest) ← value? fuel rest
      let (items, rest) ← items? fuel rest
      return (item :: items, rest) := rfl

theorem fields?_comma :
    fields? (fuel + 1) (',' :: rest) = do
      let (field, rest) ← namedValue? fuel rest
      let (fields, rest) ← fields? fuel rest
      return (field :: fields, rest) := rfl

end Steps

section Values

/-- Reading the text of a value in front of something else gives the value, with enough fuel. -/
def ReadBack (value : Json) : Prop :=
  ∀ fuel rest, (render value).length ≤ fuel + 1 → EndsValue rest →
    value? (fuel + 1) (render value ++ rest) = some (value, rest)

/-- The text of a natural number is that of its digits. -/
theorem render_natural (number : Nat) : render (.natural number) = Nat.toDigits 10 number := by
  simp [render, Nat.repr_eq_ofList_toDigits]

/-- No digit is a space or begins anything but a number. -/
theorem isNumeric_of_isDigit {char : Char} (digit : char.isDigit = true) :
    isSpace char = false ∧ char ∉ [']', 'n', 't', 'f', '"', '[', '\x7b'] := by
  constructor
  · cases space : isSpace char with
    | false => rfl
    | true =>
      simp only [isSpace, Bool.or_eq_true, decide_eq_true_eq] at space
      rcases space with ((rfl | rfl) | rfl) | rfl <;> revert digit <;> decide
  · intro member
    have none : [']', 'n', 't', 'f', '"', '[', '\x7b'].all (fun other => !other.isDigit) = true := by decide
    simpa [digit] using List.all_eq_true.1 none char member

/-- The text of a value begins with a token that closes no list. -/
theorem Written.render_eq_cons {value : Json} (written : Written value) :
    ∃ first more, render value = first :: more ∧ isSpace first = false ∧ first ≠ ']' := by
  cases written with
  | null => exact ⟨'n', _, rfl, by decide, by decide⟩
  | bool value => cases value with
    | true => exact ⟨'t', _, rfl, by decide, by decide⟩
    | false => exact ⟨'f', _, rfl, by decide, by decide⟩
  | natural value =>
    obtain ⟨first, more, digits, isDigit⟩ := toDigits_eq_cons value
    obtain ⟨token, others⟩ := isNumeric_of_isDigit isDigit
    exact ⟨first, more, by rw [render_natural, digits], token, fun isBracket => others (by simp [isBracket])⟩
  | text value => exact ⟨'"', _, rfl, by decide, by decide⟩
  | @list items each => cases items with
    | nil => exact ⟨'[', _, rfl, by decide, by decide⟩
    | cons item items => exact ⟨'[', _, rfl, by decide, by decide⟩
  | @object fields each => cases fields with
    | nil => exact ⟨'\x7b', _, rfl, by decide, by decide⟩
    | cons field fields => exact ⟨'\x7b', _, rfl, by decide, by decide⟩

/-- The items behind the first one are read up to the closing bracket. -/
theorem items?_render {items : List Json} (each : ∀ item ∈ items, ReadBack item) (fuel : Nat) (rest : List Char)
    (enough : (renderItems items).length ≤ fuel + 1) :
    items? (fuel + 1) (renderItems items ++ rest) = some (items, rest) := by
  induction items generalizing fuel with
  | nil => rfl
  | cons item items inductionHypothesis =>
    rw [List.forall_mem_cons] at each
    simp only [renderItems, List.length_cons, List.length_append] at enough
    have closing := length_renderItems_pos items
    obtain ⟨fuel, rfl⟩ := Nat.exists_eq_add_of_le' (show 1 ≤ fuel by omega)
    have first := each.1 fuel (renderItems items ++ rest) (by omega) (endsValue_renderItems items rest)
    have others := inductionHypothesis each.2 fuel (by omega)
    rw [renderItems, List.cons_append, List.append_assoc, items?_comma, first]
    simp only [Option.bind_eq_bind, Option.bind_some, others, Option.pure_def]

/-- A field is read as the pieces of its name and its value. -/
def piecesOf (field : String × Json) : List Piece × Json := (field.1.toList.map pieceOf, field.2)

theorem namedValue?_render {field : String × Json} (value : ReadBack field.2) (fuel : Nat) {rest : List Char}
    (enough : (render field.2).length ≤ fuel + 1) (ends : EndsValue rest) :
    namedValue? (fuel + 2) (quote field.1 ++ ':' :: (render field.2 ++ rest)) =
      some (piecesOf field, rest) := by
  have name := literal?_quote field.1.toList (':' :: (render field.2 ++ rest))
  have read := value fuel rest enough ends
  have quotation (chars : List Char) : skipSpace ('"' :: chars) = '"' :: chars := rfl
  have colon (chars : List Char) : skipSpace (':' :: chars) = ':' :: chars := rfl
  rw [quote, List.cons_append, List.append_assoc, List.singleton_append, namedValue?, quotation]
  simp only [Option.bind_eq_bind, name, Option.bind_some, colon, read, Option.pure_def]
  rfl

/-- The fields behind the first one are read up to the closing brace. -/
theorem fields?_render {fields : List (String × Json)} (each : ∀ field ∈ fields, ReadBack field.2) (fuel : Nat)
    (rest : List Char) (enough : (renderFields fields).length ≤ fuel + 1) :
    fields? (fuel + 1) (renderFields fields ++ rest) = some (fields.map piecesOf, rest) := by
  induction fields generalizing fuel with
  | nil => rfl
  | cons field fields inductionHypothesis =>
    rw [List.forall_mem_cons] at each
    simp only [renderFields, List.length_cons, List.length_append] at enough
    have closing := length_renderFields_pos fields
    obtain ⟨fuel, rfl⟩ := Nat.exists_eq_add_of_le' (show 2 ≤ fuel by omega)
    have first := namedValue?_render each.1 fuel (by omega) (endsValue_renderFields fields rest)
    have others := inductionHypothesis each.2 (fuel + 1) (by omega)
    rw [renderFields, List.cons_append, List.append_assoc, List.cons_append, List.append_assoc, fields?_comma,
      first]
    simp only [Option.bind_eq_bind, Option.bind_some, others, Option.pure_def, List.map_cons]

/-- The pieces of names make up an object with these names. -/
theorem ofFields_pieces (fields : List (String × Json)) : ofFields (fields.map piecesOf) = .object fields := by
  have names : (fields.map piecesOf).mapM (fun field =>
      (joined? field.1).map fun name => (String.ofList name, field.2)) = some fields := by
    induction fields with
    | nil => rfl
    | cons field fields inductionHypothesis =>
      rw [List.map_cons, List.mapM_cons, inductionHypothesis]
      simp [piecesOf, joined?_pieces]
  rw [ofFields, names]

theorem readBack_natural (value : Nat) : ReadBack (.natural value) := by
  intro fuel rest _ ends
  obtain ⟨first, more, digits, isDigit⟩ := toDigits_eq_cons value
  obtain ⟨token, others⟩ := isNumeric_of_isDigit isDigit
  have number := number?_toDigits value ends
  rw [digits, List.cons_append] at number
  rw [render_natural, digits, List.cons_append, value?, skipSpace_cons token]
  split <;> simp_all

theorem readBack_text (value : String) : ReadBack (.text value) := by
  intro fuel rest _ _
  rw [render, quote, List.cons_append, List.append_assoc, List.singleton_append, value?_quote, literal?_quote]
  simp [ofLiteral, joined?_pieces]

theorem readBack_list {items : List Json} (written : ∀ item ∈ items, Written item)
    (each : ∀ item ∈ items, ReadBack item) : ReadBack (.list items) := by
  intro fuel rest enough _
  cases items with
  | nil => rfl
  | cons item items =>
    rw [List.forall_mem_cons] at written each
    simp only [render, List.length_cons, List.length_append] at enough
    have closing := length_renderItems_pos items
    obtain ⟨fuel, rfl⟩ := Nat.exists_eq_add_of_le' (show 1 ≤ fuel by omega)
    obtain ⟨first, more, text, token, isOpen⟩ := written.1.render_eq_cons
    have read := each.1 fuel (renderItems items ++ rest) (by omega) (endsValue_renderItems items rest)
    have others := items?_render each.2 fuel rest (by omega)
    rw [text, List.cons_append] at read
    rw [render, List.cons_append, List.append_assoc, text, List.cons_append,
      value?_list_cons _ _ token isOpen, read]
    simp only [Option.bind_eq_bind, Option.bind_some, others, Option.pure_def]

theorem readBack_object {fields : List (String × Json)} (each : ∀ field ∈ fields, ReadBack field.2) :
    ReadBack (.object fields) := by
  intro fuel rest enough _
  cases fields with
  | nil => rfl
  | cons field fields =>
    rw [List.forall_mem_cons] at each
    simp only [render, List.length_cons, List.length_append] at enough
    have closing := length_renderFields_pos fields
    obtain ⟨fuel, rfl⟩ := Nat.exists_eq_add_of_le' (show 2 ≤ fuel by omega)
    have read := namedValue?_render each.1 fuel (by omega) (endsValue_renderFields fields rest)
    have others := fields?_render each.2 (fuel + 1) rest (by omega)
    rw [quote, List.cons_append] at read
    rw [render, List.cons_append, List.append_assoc, List.cons_append, List.append_assoc, quote,
      List.cons_append, value?_object_cons, read]
    simp only [Option.bind_eq_bind, Option.bind_some, others, Option.pure_def, ← List.map_cons, ofFields_pieces]

/-- A written value is read back. -/
theorem Written.readBack {value : Json} (written : Written value) : ReadBack value := by
  induction written with
  | null => exact fun _ _ _ _ => rfl
  | bool value => cases value <;> exact fun _ _ _ _ => rfl
  | natural value => exact readBack_natural value
  | text value => exact readBack_text value
  | list written each => exact readBack_list written each
  | object _ each => exact readBack_object each

end Values

/-- Reading the compact text of a written value gives the value. -/
theorem parse?_compact {value : Json} (written : Written value) : parse? value.compact = some value := by
  have characters : value.compact.toList = render value := by simp [compact]
  have read := written.readBack (2 * (render value).length + 1) [] (by omega) endsValue_nil
  rw [List.append_nil] at read
  rw [parse?, characters, read]
  rfl

end MeshControl.Json
