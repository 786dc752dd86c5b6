import Mathlib
import MeshControl.Proofs.Access.Names

/-!
# The form of generated names

The readable form of a key consists of lower-case letters, digits, hyphens and dots, and has a letter or digit at
both ends unless the key has none at all. So an admitted stem, a hyphen and the readable form are an admitted name,
and so are the stem, a hyphen and the hash. The switch between the two keeps the name within its greatest length
(`Naming.IsStem.isGenerated_bounded_iff`).
-/

namespace MeshControl.Naming

section Characters

/-- A letter or digit in lower case is plain, since a letter in upper case is none any more. -/
theorem isPlain_toLower {char : Char} (alphanumeric : isAlphanumeric char.toLower = true) :
    IsPlain char.toLower := by
  change ((char.toLower.isUpper || char.toLower.isLower) || char.toLower.isDigit) = true at alphanumeric
  rw [Char.isUpper_toLower_eq_false, Bool.false_or, Bool.or_eq_true] at alphanumeric
  exact alphanumeric

/-- Letters and digits stay such in lower case, and no other character becomes one. -/
theorem isAlphanumeric_toLower (char : Char) : isAlphanumeric char.toLower = isAlphanumeric char := by
  by_cases upper : char.isUpper = true
  · have letter : char.isAlpha = true := by
      change (char.isUpper || char.isLower) = true
      rw [upper, Bool.true_or]
    change (char.toLower.isAlpha || char.toLower.isDigit) = (char.isAlpha || char.isDigit)
    rw [Char.isAlpha_toLower_eq_isAlpha, letter, Bool.true_or, Bool.true_or]
  · rw [Char.toLower_eq_of_not_isUpper upper]

/-- Whatever character it stands for, a character of a readable form is one of those in admitted names. -/
theorem isNameChar_sanitizeChar (char : Char) : IsNameChar (sanitizeChar char) := by
  unfold sanitizeChar
  dsimp only
  split
  case isTrue kept =>
    rw [Bool.or_eq_true, Bool.or_eq_true, decide_eq_true_eq, decide_eq_true_eq] at kept
    rcases kept with (alphanumeric | hyphen) | dot
    · exact .inl (isPlain_toLower alphanumeric)
    · exact .inr (.inl hyphen)
    · exact .inr (.inr dot)
  case isFalse => exact .inr (.inl rfl)

/-- A letter or digit is replaced by one, and any other character by none. -/
theorem isAlphanumeric_sanitizeChar (char : Char) :
    isAlphanumeric (sanitizeChar char) = isAlphanumeric char := by
  unfold sanitizeChar
  dsimp only
  split
  case isTrue => exact isAlphanumeric_toLower char
  case isFalse replaced =>
    rw [Bool.or_eq_true, Bool.or_eq_true, not_or, not_or, isAlphanumeric_toLower] at replaced
    rw [Bool.eq_false_of_not_eq_true replaced.1.1]
    decide

/-- The letters and digits in admitted names are plain. -/
theorem IsNameChar.isPlain {char : Char} (admitted : IsNameChar char)
    (alphanumeric : isAlphanumeric char = true) : IsPlain char := by
  rcases admitted with plain | rfl | rfl
  · exact plain
  · exact absurd alphanumeric (by decide)
  · exact absurd alphanumeric (by decide)

/-- The characters of admitted names take one byte each. -/
theorem IsNameChar.utf8Size_eq_one {char : Char} (admitted : IsNameChar char) : char.utf8Size = 1 := by
  rw [Char.utf8Size_eq_one_iff]
  rcases admitted with (lower | digit) | rfl | rfl
  · have below : char.val ≤ 'z'.val := of_decide_eq_true (Bool.and_eq_true_iff.1 lower).2
    exact UInt32.le_trans below (by decide)
  · have below : char.val ≤ '9'.val := of_decide_eq_true (Bool.and_eq_true_iff.1 digit).2
    exact UInt32.le_trans below (by decide)
  · decide
  · decide

theorem IsHexDigit.isPlain {char : Char} (digit : IsHexDigit char) : IsPlain char := by
  rcases digit with decimal | ⟨atLeast, atMost⟩
  · exact .inr decimal
  · have below : char ≤ 'z' := Char.le_trans atMost (by decide)
    exact .inl (Bool.and_eq_true_iff.2 ⟨decide_eq_true atLeast, decide_eq_true below⟩)

end Characters

theorem utf8Len_eq_length {chars : List Char} (admitted : ∀ char ∈ chars, IsNameChar char) :
    String.utf8Len chars = chars.length := by
  induction chars with
  | nil => rfl
  | cons char rest inductionHypothesis =>
    rw [List.forall_mem_cons] at admitted
    rw [String.utf8Len, inductionHypothesis admitted.2, admitted.1.utf8Size_eq_one, List.length_cons]

/-- A text of characters of admitted names has as many bytes as characters. -/
theorem utf8ByteSize_eq_length {text : String} (admitted : ∀ char ∈ text.toList, IsNameChar char) :
    text.utf8ByteSize = text.length := by
  rw [← String.utf8Len_toList, utf8Len_eq_length admitted, String.length_toList]

section Trimming

variable {chars : List Char}

/-- What is left is trimmed at its end after it was trimmed at its start. -/
theorem trimEnds_eq (chars : List Char) :
    trimEnds chars = (chars.dropWhile (!isAlphanumeric ·)).rdropWhile (!isAlphanumeric ·) := rfl

theorem mem_of_mem_trimEnds {char : Char} (member : char ∈ trimEnds chars) : char ∈ chars :=
  (List.dropWhile_suffix _).subset ((List.rdropWhile_prefix _ _).subset member)

/-- Only characters without any letter or digit are trimmed altogether. -/
theorem trimEnds_eq_nil_iff : trimEnds chars = [] ↔ ∀ char ∈ chars, isAlphanumeric char = false := by
  rw [trimEnds_eq, List.rdropWhile_eq_nil_iff, ← List.dropWhile_eq_nil_iff, List.dropWhile_idempotent,
    List.dropWhile_eq_nil_iff]
  simp only [Bool.not_eq_true']

/-- What is left starts with a letter or digit. -/
theorem isAlphanumeric_of_head?_trimEnds {char : Char} (first : (trimEnds chars).head? = some char) :
    isAlphanumeric char = true := by
  obtain ⟨rest, starts⟩ := List.rdropWhile_prefix (!isAlphanumeric ·) (chars.dropWhile (!isAlphanumeric ·))
  have found : (chars.dropWhile (!isAlphanumeric ·)).head? = some char := by
    rw [← starts, ← trimEnds_eq, List.head?_append, first, Option.some_or]
  have stopped := List.head?_dropWhile_not (!isAlphanumeric ·) chars
  rw [found] at stopped
  simpa using stopped

/-- What is left ends with a letter or digit. -/
theorem isAlphanumeric_of_getLast?_trimEnds {char : Char} (last : (trimEnds chars).getLast? = some char) :
    isAlphanumeric char = true := by
  have nonempty : trimEnds chars ≠ [] := fun empty => by simp [empty] at last
  have stopped := List.rdropWhile_last_not (!isAlphanumeric ·) (chars.dropWhile (!isAlphanumeric ·)) nonempty
  rw [List.getLast?_eq_some_getLast nonempty, Option.some_inj] at last
  rw [Bool.not_eq_true'] at stopped
  exact last ▸ Bool.eq_true_of_not_eq_false stopped

end Trimming

section Sanitize

variable {text : String}

theorem toList_sanitize (text : String) : (sanitize text).toList = trimEnds (text.toList.map sanitizeChar) :=
  String.toList_ofList

theorem isNameChar_of_mem_sanitize {char : Char} (member : char ∈ (sanitize text).toList) :
    IsNameChar char := by
  rw [toList_sanitize] at member
  obtain ⟨original, _, rfl⟩ := List.mem_map.1 (mem_of_mem_trimEnds member)
  exact isNameChar_sanitizeChar original

/-- Only texts without any letter or digit have no readable form. -/
theorem sanitize_eq_empty_iff : sanitize text = "" ↔ ∀ char ∈ text.toList, isAlphanumeric char = false := by
  rw [← String.toList_eq_nil_iff, toList_sanitize, trimEnds_eq_nil_iff, List.forall_mem_map]
  simp only [isAlphanumeric_sanitizeChar]

theorem sanitize_ne_empty_iff : sanitize text ≠ "" ↔ ∃ char ∈ text.toList, isAlphanumeric char = true := by
  simp only [ne_eq, sanitize_eq_empty_iff, not_forall, exists_prop, Bool.not_eq_false]

/-- A readable form is an admitted name unless it is empty. -/
theorem isValid_sanitize (nonempty : sanitize text ≠ "") : IsValid (sanitize text) := by
  have listed : (sanitize text).toList ≠ [] := mt String.toList_eq_nil_iff.1 nonempty
  obtain ⟨head, first⟩ := Option.isSome_iff_exists.1 (List.isSome_head?.2 listed)
  obtain ⟨tail, last⟩ := Option.isSome_iff_exists.1 (List.getLast?_isSome.2 listed)
  refine ⟨fun char => isNameChar_of_mem_sanitize, ⟨head, first, ?_⟩, ⟨tail, last, ?_⟩⟩
  · have admitted := isNameChar_of_mem_sanitize (List.mem_of_head? first)
    rw [toList_sanitize] at first
    exact admitted.isPlain (isAlphanumeric_of_head?_trimEnds first)
  · have admitted := isNameChar_of_mem_sanitize (List.mem_of_getLast? last)
    rw [toList_sanitize] at last
    exact admitted.isPlain (isAlphanumeric_of_getLast?_trimEnds last)

/-- The admitted names and the empty text are what stands for itself. -/
theorem sanitize_eq_self_iff : sanitize text = text ↔ text = "" ∨ IsValid text := by
  constructor
  · intro same
    by_cases empty : text = ""
    · exact .inl empty
    · exact .inr (same ▸ isValid_sanitize (same.symm ▸ empty))
  · rintro (rfl | valid)
    · exact sanitize_eq_empty_iff.2 (by simp)
    · exact sanitize_of_isValid valid

end Sanitize

section Hash

theorem length_hash (key : String) : (hash key).length = 16 := by
  simp [hash, hexWord]

theorem isNameChar_of_mem_hash {key : String} {char : Char} (member : char ∈ (hash key).toList) :
    IsNameChar char :=
  .inl (isHexDigit_of_mem_hash member).isPlain

theorem utf8ByteSize_hash (key : String) : (hash key).utf8ByteSize = 16 := by
  rw [utf8ByteSize_eq_length fun char => isNameChar_of_mem_hash, length_hash]

theorem isValid_hash (key : String) : IsValid (hash key) := by
  have listed : (hash key).toList ≠ [] := fun empty => by
    have length := length_hash key
    rw [← String.length_toList, empty] at length
    exact absurd length (by decide)
  refine ⟨fun char => isNameChar_of_mem_hash, ⟨_, List.head?_eq_some_head listed, ?_⟩,
    ⟨_, List.getLast?_eq_some_getLast listed, ?_⟩⟩
  · exact (isHexDigit_of_mem_hash (List.head_mem listed)).isPlain
  · exact (isHexDigit_of_mem_hash (List.getLast_mem listed)).isPlain

end Hash

/-- A name for an object with a stem: an admitted name that starts with the stem and a hyphen and has no more than
the sixty-three bytes of a label value. -/
structure IsGenerated (stem name : String) : Prop extends IsValid name where
  starts : (stem ++ "-").toList <+: name.toList
  short : name.utf8ByteSize ≤ 63

/-- A stem is admitted itself, and leaves room for a hyphen and a hash. -/
structure IsStem (stem : String) : Prop where
  valid : IsValid stem
  roomy : stem.utf8ByteSize + 17 ≤ maxLength

instance (stem : String) : Decidable (IsStem stem) :=
  decidable_of_iff (IsValid stem ∧ stem.utf8ByteSize + 17 ≤ maxLength)
    ⟨fun ⟨valid, roomy⟩ => ⟨valid, roomy⟩, fun isStem => ⟨isStem.valid, isStem.roomy⟩⟩

section Bounded

variable {stem key : String}

theorem utf8ByteSize_append_hyphen (stem : String) : (stem ++ "-").utf8ByteSize = stem.utf8ByteSize + 1 := by
  rw [String.utf8ByteSize_append]
  rfl

/-- A stem, a hyphen and an admitted name are a name for an object, if they are not too long. -/
theorem IsStem.isGenerated {rest : String} (isStem : IsStem stem) (valid : IsValid rest)
    (short : (stem ++ "-" ++ rest).utf8ByteSize ≤ maxLength) : IsGenerated stem (stem ++ "-" ++ rest) where
  toIsValid := isStem.valid.joined (fun _ hyphen => .inr (.inl (List.mem_singleton.1 hyphen))) valid
  starts := ⟨rest.toList, by rw [← String.toList_append]⟩
  -- The greatest length of a name is that of a label value.
  short := short

/-- With a hash a name is never too long. -/
theorem IsStem.isGenerated_hash (isStem : IsStem stem) (key : String) :
    IsGenerated stem (stem ++ "-" ++ hash key) := by
  refine isStem.isGenerated (isValid_hash key) ?_
  rw [String.utf8ByteSize_append, utf8ByteSize_append_hyphen, utf8ByteSize_hash]
  exact isStem.roomy

/-- The name of a key with a readable form is well formed, whether it holds that form or the hash. -/
theorem IsStem.isGenerated_bounded (isStem : IsStem stem) (readable : sanitize key ≠ "") :
    IsGenerated stem (bounded stem key) := by
  unfold bounded
  dsimp only
  split
  case isTrue short => exact isStem.isGenerated (isValid_sanitize readable) short
  case isFalse => exact isStem.isGenerated_hash key

/-- The name of a key without a readable form is the stem with a hyphen at its end. -/
theorem IsStem.bounded_of_sanitize_eq_empty (isStem : IsStem stem) (unreadable : sanitize key = "") :
    bounded stem key = stem ++ "-" := by
  have short : (stem ++ "-").utf8ByteSize ≤ maxLength := by
    have roomy := isStem.roomy
    rw [utf8ByteSize_append_hyphen]
    omega
  unfold bounded
  rw [unreadable, String.append_empty]
  exact if_pos short

/-- Exactly the keys with a letter or digit have well-formed names. -/
theorem IsStem.isGenerated_bounded_iff (isStem : IsStem stem) :
    IsGenerated stem (bounded stem key) ↔ ∃ char ∈ key.toList, isAlphanumeric char = true := by
  rw [← sanitize_ne_empty_iff]
  refine ⟨fun generated unreadable => ?_, isStem.isGenerated_bounded⟩
  -- Without a letter or digit the name ends with the hyphen.
  obtain ⟨last, isLast, plain⟩ := generated.last
  rw [isStem.bounded_of_sanitize_eq_empty unreadable, String.toList_append, List.getLast?_append] at isLast
  have hyphen : '-' = last := Option.some_inj.1 isLast
  exact absurd (hyphen ▸ plain) (by decide)

end Bounded

/-- Names are well formed for exactly the keys with a letter or digit. Readable forms are admitted names or empty,
and exactly these texts are their own readable forms. Hashes are sixteen hexadecimal digits. -/
theorem generated_names_wellFormed :
    (∀ stem ∈ [Access.gatewayStem, Access.serviceStem], ∀ key : String,
      IsGenerated stem (bounded stem key) ↔ ∃ char ∈ key.toList, char.isAlphanum = true) ∧
    (∀ text : String,
      (sanitize text = "" ∨ IsValid (sanitize text)) ∧
      sanitize (sanitize text) = sanitize text ∧
      (sanitize text = text ↔ text = "" ∨ IsValid text)) ∧
    ∀ key : String, (hash key).length = 16 ∧ ∀ char ∈ (hash key).toList, IsHexDigit char := by
  have stems : ∀ stem ∈ [Access.gatewayStem, Access.serviceStem], IsStem stem := by decide
  have readable (text : String) : sanitize text = "" ∨ IsValid (sanitize text) :=
    (em (sanitize text = "")).imp_right isValid_sanitize
  refine ⟨fun stem listed key => (stems stem listed).isGenerated_bounded_iff, fun text => ?_, fun key => ?_⟩
  · exact ⟨readable text, sanitize_eq_self_iff.2 (readable text), sanitize_eq_self_iff⟩
  · exact ⟨length_hash key, fun char => isHexDigit_of_mem_hash⟩

/-- A key that just fits stays readable, and with one digit more its hash takes its place. -/
theorem generated_names_wellFormed_tram :
    let fitting := "Ein_Straßenbahn-Übergang.am.Marktplatz-42"
    let exceeding := "Ein_Straßenbahn-Übergang.am.Marktplatz-421"
    Access.gatewayStem ∈ [Access.gatewayStem, Access.serviceStem] ∧
    sanitize fitting = "ein-stra-enbahn--bergang.am.marktplatz-42" ∧
    (bounded Access.gatewayStem fitting).utf8ByteSize = 63 ∧
    63 < (Access.gatewayStem ++ "-" ++ sanitize exceeding).utf8ByteSize ∧
    IsGenerated Access.gatewayStem (bounded Access.gatewayStem fitting) ∧
    IsGenerated Access.gatewayStem (bounded Access.gatewayStem exceeding) := by
  intro fitting exceeding
  have listed : Access.gatewayStem ∈ [Access.gatewayStem, Access.serviceStem] := List.mem_cons_self
  have wellFormed := generated_names_wellFormed.1 Access.gatewayStem listed
  exact ⟨listed, by decide, by decide, by decide, (wellFormed fitting).2 ⟨'E', by decide, by decide⟩,
    (wellFormed exceeding).2 ⟨'E', by decide, by decide⟩⟩

end MeshControl.Naming
