import Mathlib

namespace HarvesterCloudProvider

/-!
# Trimming, splitting and quoting texts

`strings.Trim` with a cut set and `strings.TrimSpace`, which are idempotent, the
fields of `strings.Split` at one character, hexadecimal digits, and the quoted
texts of `strconv.Quote` that error messages hold.
-/

section Trimming

/-- `strings.Trim`: drop the leading and the trailing characters of a cut set. -/
def trim (text cutset : String) : String :=
  String.ofList
    ((text.toList.dropWhile fun char => char ∈ cutset.toList).rdropWhile
      fun char => char ∈ cutset.toList)

/-- Neither the first nor the last character of a text is in the cut set. -/
def EndsOutside (cutset text : String) : Prop :=
  ∀ char,
    text.toList.head? = some char ∨ text.toList.getLast? = some char →
    char ∉ cutset.toList

/-- Dropping at both ends keeps a list exactly when neither end is dropped. -/
theorem rdropWhile_dropWhile_eq_self_iff
    {α : Type}
    (dropped : α → Bool)
    (values : List α) :
    (values.dropWhile dropped).rdropWhile dropped = values ↔
      ∀ value,
        values.head? = some value ∨ values.getLast? = some value →
        dropped value = false := by
  constructor
  · intro kept
    have shortened := (List.rdropWhile_prefix dropped (values.dropWhile dropped)).length_le
    rw [kept] at shortened
    have front : values.dropWhile dropped = values :=
      (List.dropWhile_suffix dropped).eq_of_length_le shortened
    have back : values.rdropWhile dropped = values := by
      rwa [front] at kept
    rintro value (first | last)
    · obtain ⟨rest, rfl⟩ := List.head?_eq_some_iff.mp first
      have stopped := List.dropWhile_eq_self_iff.mp front (by simp)
      simpa using stopped
    · obtain ⟨rest, rfl⟩ := List.getLast?_eq_some_iff.mp last
      have stopped := List.rdropWhile_eq_self_iff.mp back (by simp)
      simpa using stopped
  · intro ends
    have front : values.dropWhile dropped = values := by
      cases values with
      | nil =>
          rfl
      | cons first rest =>
          have kept := ends first (.inl rfl)
          exact List.dropWhile_cons_of_neg (by simp [kept])
    rw [front]
    refine List.rdropWhile_eq_self_iff.mpr fun nonempty => ?_
    have kept := ends _ (.inr (List.getLast?_eq_some_getLast nonempty))
    simp [kept]

/-- Trimming changes a text exactly when one of its ends is in the cut set. -/
theorem trim_eq_self_iff (text cutset : String) :
    trim text cutset = text ↔ EndsOutside cutset text := by
  rw [trim, ← String.toList_inj, String.toList_ofList,
    rdropWhile_dropWhile_eq_self_iff]
  simp only [EndsOutside, decide_eq_false_iff_not]

/-- Dropping at both ends a second time drops nothing more. -/
theorem rdropWhile_dropWhile_idempotent
    {α : Type}
    (dropped : α → Bool)
    (values : List α) :
    (((values.dropWhile dropped).rdropWhile dropped).dropWhile dropped).rdropWhile
        dropped =
      (values.dropWhile dropped).rdropWhile dropped := by
  refine (rdropWhile_dropWhile_eq_self_iff dropped _).mpr ?_
  rintro value (first | last)
  · -- What is left starts where the first pass stopped at the front.
    obtain ⟨rest, shape⟩ := List.rdropWhile_prefix dropped (values.dropWhile dropped)
    obtain ⟨later, start⟩ := List.head?_eq_some_iff.mp first
    have front : (values.dropWhile dropped).head? = some value := by
      rw [← shape, start]
      rfl
    have stopped := List.head?_dropWhile_not dropped values
    rw [front] at stopped
    simpa using stopped
  · have nonempty : (values.dropWhile dropped).rdropWhile dropped ≠ [] := by
      intro empty
      simp [empty] at last
    rw [List.getLast?_eq_some_getLast nonempty, Option.some.injEq] at last
    have stopped := List.rdropWhile_last_not dropped _ nonempty
    rw [last] at stopped
    simpa using stopped

/-- Trimming a second time changes nothing. -/
theorem trim_trim (text cutset : String) :
    trim (trim text cutset) cutset = trim text cutset := by
  unfold trim
  rw [String.toList_ofList, rdropWhile_dropWhile_idempotent]

/-- The runes for which `unicode.IsSpace` holds. -/
def spaceRunes : List Nat :=
  [0x09, 0x0A, 0x0B, 0x0C, 0x0D, 0x20, 0x85, 0xA0, 0x1680, 0x2000, 0x2001, 0x2002,
    0x2003, 0x2004, 0x2005, 0x2006, 0x2007, 0x2008, 0x2009, 0x200A, 0x2028, 0x2029,
    0x202F, 0x205F, 0x3000]

/-- `unicode.IsSpace`. -/
def isSpace (rune : Char) : Bool :=
  rune.toNat ∈ spaceRunes

/-- `strings.TrimSpace`. -/
def trimSpace (text : String) : String :=
  String.ofList ((text.toList.dropWhile isSpace).rdropWhile isSpace)

theorem trimSpace_trimSpace (text : String) :
    trimSpace (trimSpace text) = trimSpace text := by
  unfold trimSpace
  rw [String.toList_ofList, rdropWhile_dropWhile_idempotent]

/-- Trimming adds no characters. -/
theorem toList_trimSpace_subset (text : String) :
    (trimSpace text).toList ⊆ text.toList := by
  intro character member
  rw [trimSpace, String.toList_ofList] at member
  exact List.dropWhile_subset _ ((List.rdropWhile_prefix _ _).subset member)

end Trimming

section Fields

/-- The fields between separators do not hold the separator. -/
theorem separator_notMem_splitOn
    {separator : Char}
    {text field : List Char}
    (member : field ∈ text.splitOn separator) :
    separator ∉ field := by
  induction text generalizing field with
  | nil =>
      rw [List.splitOn_nil, List.mem_singleton] at member
      rw [member]
      exact List.not_mem_nil
  | cons character rest inductionHypothesis =>
      rw [List.splitOn_cons_eq_if_modifyHead] at member
      by_cases same : character = separator
      · rw [if_pos (beq_iff_eq.mpr same)] at member
        rcases List.mem_cons.mp member with rfl | later
        · exact List.not_mem_nil
        · exact inductionHypothesis later
      · rw [if_neg (beq_iff_eq.not.mpr same)] at member
        cases split : rest.splitOn separator with
        | nil =>
            exact (List.splitOn_ne_nil separator rest split).elim
        | cons first fields =>
            rw [split] at member inductionHypothesis
            rcases List.mem_cons.mp member with rfl | later
            · rw [List.mem_cons, not_or]
              exact ⟨Ne.symm same, inductionHypothesis List.mem_cons_self⟩
            · exact inductionHypothesis (List.mem_cons_of_mem _ later)

end Fields

section Digits

/-- The value of a hexadecimal digit of either case. -/
def hexDigitValue (character : Char) : Option Nat :=
  if character.isDigit then
    some (character.toNat - '0'.toNat)
  else if 'a' ≤ character ∧ character ≤ 'f' then
    some (character.toNat - 'a'.toNat + 10)
  else if 'A' ≤ character ∧ character ≤ 'F' then
    some (character.toNat - 'A'.toNat + 10)
  else
    none

theorem hexDigitValue_digitChar
    {digit : Nat}
    (small : digit < 16) :
    hexDigitValue digit.digitChar = some digit := by
  have checked : ∀ digit : Fin 16, hexDigitValue digit.val.digitChar = some digit.val := by
    decide
  exact checked ⟨digit, small⟩

/-- The last hexadecimal digits of a number. -/
def hexDigits : Nat → Nat → List Char
  | 0, _ => []
  | width + 1, value => hexDigits width (value / 16) ++ [(value % 16).digitChar]

end Digits

section Quoting

/-- The separators, format characters and private characters above Latin-1. -/
def unprintedRanges : List (Nat × Nat) :=
  [(0x0600, 0x0605), (0x061C, 0x061C), (0x06DD, 0x06DD), (0x070F, 0x070F),
    (0x0890, 0x0891), (0x08E2, 0x08E2), (0x1680, 0x1680), (0x180E, 0x180E),
    (0x2000, 0x200F), (0x2028, 0x202F), (0x205F, 0x206F), (0x3000, 0x3000),
    (0xE000, 0xF8FF), (0xFEFF, 0xFEFF), (0xFFF9, 0xFFFB), (0x110BD, 0x110BD),
    (0x110CD, 0x110CD), (0x13430, 0x1343F), (0x1BCA0, 0x1BCA3), (0x1D173, 0x1D17A),
    (0xE0001, 0xE007F), (0xF0000, 0x10FFFF)]

/-- `strconv.IsPrint`; a code point that no character has counts as printed. -/
def isPrint (rune : Char) : Bool :=
  let code := rune.toNat
  if code ≤ 0xFF then
    (0x20 ≤ code && code < 0x7F) || (0xA1 ≤ code && code ≠ 0xAD)
  else
    unprintedRanges.all fun range => code < range.1 || range.2 < code

/-- The characters that are escaped by a letter. -/
def letterEscapes : List (Nat × Char) :=
  [(0x07, 'a'), (0x08, 'b'), (0x0C, 'f'), (0x0A, 'n'), (0x0D, 'r'), (0x09, 't'), (0x0B, 'v')]

/-- `appendEscapedRune`. -/
def escapedRune (quote rune : Char) : List Char :=
  let code := rune.toNat
  if rune = quote ∨ rune = '\\' then
    ['\\', rune]
  else if isPrint rune then
    [rune]
  else
    match letterEscapes.lookup code with
    | some letter => ['\\', letter]
    | none =>
        if code < 0x20 ∨ code = 0x7F then
          '\\' :: 'x' :: hexDigits 2 code
        else if code < 0x10000 then
          '\\' :: 'u' :: hexDigits 4 code
        else
          '\\' :: 'U' :: hexDigits 8 code

/-- A text as `%q` prints it. -/
def quote (text : String) : String :=
  String.ofList ('"' :: (text.toList.flatMap (escapedRune '"') ++ ['"']))

/-- A character as `%q` prints it. -/
def quoteRune (rune : Char) : String :=
  String.ofList ('\'' :: (escapedRune '\'' rune ++ ['\'']))

example : quote "a\"\t\x01é" = "\"a\\\"\\t\\x01é\"" := by
  decide +kernel

end Quoting

end HarvesterCloudProvider
