import MeshControl.Naming

/-!
# Names that tell keys apart

A name as Kubernetes admits it is its own readable form (`Naming.sanitize_of_isValid`). So a bounded name
is the stem with the key itself, or with a hash of the key, which has no dot. Keys with a dot are therefore
told apart by their bounded names, unless two long ones have one hash (`Naming.eq_of_bounded_eq`).
-/

namespace MeshControl.Naming

/-- A lower-case ASCII letter or a digit. -/
def IsPlain (char : Char) : Prop := char.isLower = true ∨ char.isDigit = true

/-- A character of the names that Kubernetes admits. -/
def IsNameChar (char : Char) : Prop := IsPlain char ∨ char = '-' ∨ char = '.'

instance (char : Char) : Decidable (IsPlain char) :=
  inferInstanceAs (Decidable (char.isLower = true ∨ char.isDigit = true))

instance (char : Char) : Decidable (IsNameChar char) :=
  inferInstanceAs (Decidable (IsPlain char ∨ char = '-' ∨ char = '.'))

/-- A name as Kubernetes admits it: lower-case letters, digits, hyphens and dots, with a letter or digit at
both ends. -/
structure IsValid (name : String) : Prop where
  chars : ∀ char ∈ name.toList, IsNameChar char
  first : ∃ char ∈ name.toList.head?, IsPlain char
  last : ∃ char ∈ name.toList.getLast?, IsPlain char

/-- A name as Kubernetes admits it for namespaces and services, without dots. -/
structure IsLabel (name : String) : Prop extends IsValid name where
  noDot : '.' ∉ name.toList

theorem isValid_iff {name : String} :
    IsValid name ↔ name.toList.all (IsNameChar ·) ∧ name.toList.head?.any (IsPlain ·) ∧
      name.toList.getLast?.any (IsPlain ·) := by
  simp only [List.all_eq_true, Option.any_eq_true, decide_eq_true_eq, ← Option.mem_def]
  exact ⟨fun valid => ⟨valid.chars, valid.first, valid.last⟩,
    fun ⟨chars, first, last⟩ => ⟨chars, first, last⟩⟩

-- The three checks look at the characters of the name only, never for one among all characters.
instance (name : String) : Decidable (IsValid name) := decidable_of_iff _ isValid_iff.symm

instance (name : String) : Decidable (IsLabel name) :=
  decidable_of_iff (IsValid name ∧ '.' ∉ name.toList)
    ⟨fun ⟨valid, noDot⟩ => ⟨valid, noDot⟩, fun label => ⟨label.toIsValid, label.noDot⟩⟩

theorem IsPlain.isAlphanumeric {char : Char} (plain : IsPlain char) : isAlphanumeric char = true := by
  change ((char.isUpper || char.isLower) || char.isDigit) = true
  rcases plain with lower | digit
  · rw [lower, Bool.or_true, Bool.true_or]
  · rw [digit, Bool.or_true]

theorem IsPlain.toLower {char : Char} (plain : IsPlain char) : char.toLower = char := by
  have notUpper : ¬ (char.val ≥ 'A'.val ∧ char.val ≤ 'Z'.val) := by
    rintro ⟨atLeast, atMost⟩
    rw [ge_iff_le, UInt32.le_iff_toNat_le] at atLeast
    rw [UInt32.le_iff_toNat_le] at atMost
    rcases plain with lower | digit
    · have upperEnd : 'Z'.val.toNat = 90 := rfl
      have lowerStart : 'a'.val.toNat = 97 := rfl
      have after : 'a'.val ≤ char.val := of_decide_eq_true (Bool.and_eq_true_iff.1 lower).1
      rw [UInt32.le_iff_toNat_le] at after
      omega
    · have upperStart : 'A'.val.toNat = 65 := rfl
      have digitEnd : '9'.val.toNat = 57 := rfl
      have before : char.val ≤ '9'.val := of_decide_eq_true (Bool.and_eq_true_iff.1 digit).2
      rw [UInt32.le_iff_toNat_le] at before
      omega
  exact dif_neg notUpper

/-- Characters of admitted names stand for themselves. -/
theorem sanitizeChar_of_isNameChar {char : Char} (admitted : IsNameChar char) : sanitizeChar char = char := by
  rcases admitted with plain | rfl | rfl
  · simp [sanitizeChar, plain.toLower, plain.isAlphanumeric]
  · decide
  · decide

/-- Nothing is trimmed from characters with a letter or digit at both ends. -/
theorem trimEnds_of_ends {chars : List Char} (first : ∃ char ∈ chars.head?, IsPlain char)
    (last : ∃ char ∈ chars.getLast?, IsPlain char) : trimEnds chars = chars := by
  obtain ⟨head, isFirst, firstPlain⟩ := first
  obtain ⟨rest, starts⟩ := List.head?_eq_some_iff.1 isFirst
  obtain ⟨tail, isLast, lastPlain⟩ := last
  obtain ⟨earlier, ends⟩ := List.getLast?_eq_some_iff.1 isLast
  have fromStart : chars.dropWhile (fun char => !isAlphanumeric char) = chars := by
    rw [starts, List.dropWhile_cons_of_neg (by simp [firstPlain.isAlphanumeric])]
  unfold trimEnds
  rw [fromStart, ends, List.reverse_append, List.reverse_singleton, List.singleton_append,
    List.dropWhile_cons_of_neg (by simp [lastPlain.isAlphanumeric])]
  simp

/-- An admitted name is its own readable form. -/
theorem sanitize_of_isValid {name : String} (valid : IsValid name) : sanitize name = name := by
  have same : name.toList.map sanitizeChar = name.toList := by
    rw [List.map_congr_left fun char member => sanitizeChar_of_isNameChar (valid.chars char member)]
    exact List.map_id _
  rw [sanitize, same, trimEnds_of_ends valid.first valid.last, String.ofList_toList]

/-- Admitted names that are joined with hyphens or dots are an admitted name. -/
theorem IsValid.joined {start separator last : String} (startValid : IsValid start)
    (separatorChars : ∀ char ∈ separator.toList, IsNameChar char) (lastValid : IsValid last) :
    IsValid (start ++ separator ++ last) := by
  obtain ⟨head, isFirst, headPlain⟩ := startValid.first
  obtain ⟨tail, isLast, tailPlain⟩ := lastValid.last
  rw [Option.mem_def] at isFirst isLast
  refine ⟨fun char member => ?_, ⟨head, ?_, headPlain⟩, ⟨tail, ?_, tailPlain⟩⟩
  · simp only [String.toList_append, List.mem_append] at member
    rcases member with (inStart | between) | inLast
    · exact startValid.chars char inStart
    · exact separatorChars char between
    · exact lastValid.chars char inLast
  · simp [isFirst]
  · rw [String.toList_append, List.getLast?_append, isLast, Option.some_or, Option.mem_def]

/-- Admitted names that are joined with a dot are an admitted name. -/
theorem IsValid.dotted {start last : String} (startValid : IsValid start) (lastValid : IsValid last) :
    IsValid (start ++ "." ++ last) :=
  startValid.joined (fun _ dot => .inr (.inr (List.mem_singleton.1 dot))) lastValid

/-- The name of a key with a stem is too long to hold the key itself. -/
def Exceeds (stem key : String) : Prop := maxLength < (stem ++ "-" ++ key).utf8ByteSize

instance (stem key : String) : Decidable (Exceeds stem key) :=
  inferInstanceAs (Decidable (maxLength < (stem ++ "-" ++ key).utf8ByteSize))

/-- The name of an admitted key holds the key, or its hash where this is too long. -/
theorem bounded_of_isValid (stem : String) {key : String} (valid : IsValid key) :
    bounded stem key = if Exceeds stem key then stem ++ "-" ++ hash key else stem ++ "-" ++ key := by
  unfold bounded
  rw [sanitize_of_isValid valid]
  dsimp only
  by_cases long : Exceeds stem key
  · rw [if_pos long, if_neg (Nat.not_le.2 long)]
  · rw [if_neg long, if_pos (Nat.not_lt.1 long)]

/-- A lower-case hexadecimal digit. -/
def IsHexDigit (char : Char) : Prop := char.isDigit = true ∨ 'a' ≤ char ∧ char ≤ 'f'

instance (char : Char) : Decidable (IsHexDigit char) :=
  inferInstanceAs (Decidable (char.isDigit = true ∨ 'a' ≤ char ∧ char ≤ 'f'))

theorem isHexDigit_hexDigit : ∀ digit < 16, IsHexDigit (Json.hexDigit digit) := by decide

/-- A hash consists of lower-case hexadecimal digits. -/
theorem isHexDigit_of_mem_hash {key : String} {char : Char} (member : char ∈ (hash key).toList) :
    IsHexDigit char := by
  have word {word : UInt32} (inWord : char ∈ hexWord word) : IsHexDigit char := by
    obtain ⟨index, _, rfl⟩ := List.mem_map.1 inWord
    exact isHexDigit_hexDigit _ (Nat.mod_lt _ (by decide))
  rw [hash, String.toList_ofList, List.mem_append] at member
  exact member.elim word word

/-- A hash has no dot. -/
theorem dot_not_mem_hash (key : String) : '.' ∉ (hash key).toList := fun member =>
  absurd (isHexDigit_of_mem_hash member) (by decide)

/-- Admitted keys with a dot are told apart by their names, unless both are too long and have one hash. -/
theorem eq_of_bounded_eq {stem key other : String} (valid : IsValid key) (otherValid : IsValid other)
    (dot : '.' ∈ key.toList) (otherDot : '.' ∈ other.toList)
    (hashes : Exceeds stem key → Exceeds stem other → hash key = hash other → key = other)
    (same : bounded stem key = bounded stem other) : key = other := by
  rw [bounded_of_isValid stem valid, bounded_of_isValid stem otherValid] at same
  by_cases long : Exceeds stem key
  · by_cases otherLong : Exceeds stem other
    · rw [if_pos long, if_pos otherLong, String.append_right_inj] at same
      exact hashes long otherLong same
    · rw [if_pos long, if_neg otherLong, String.append_right_inj] at same
      exact absurd (same ▸ otherDot) (dot_not_mem_hash key)
  · by_cases otherLong : Exceeds stem other
    · rw [if_neg long, if_pos otherLong, String.append_right_inj] at same
      exact absurd (same ▸ dot) (dot_not_mem_hash other)
    · rw [if_neg long, if_neg otherLong, String.append_right_inj] at same
      exact same

end MeshControl.Naming
