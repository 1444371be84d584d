import HarvesterCloudProvider.NilableMap
import HarvesterCloudProvider.TextFields

namespace HarvesterCloudProvider

/-!
# JSON text of string maps and string lists

The reader accepts the whole JSON grammar and then decodes the value into the
requested Go type, as `encoding/json` does: the text `null` decodes to a nil
map or slice, a `null` element decodes to the empty string, repeated keys keep
the last value, and any other element type is an error.

The writer follows `json.Marshal` on a string map: keys in sorted order, the
two-character escapes, and `\u` escapes for control characters, for the HTML
characters and for the two Unicode line separators.

The main result is that reading back a written map yields that map.
-/

namespace JsonText

/-- A JSON value, with numbers kept as text. -/
inductive JsonValue where
  | null
  | boolean (value : Bool)
  | number (digits : List Char)
  | text (characters : List Char)
  | array (items : List JsonValue)
  | object (members : List (List Char × JsonValue))

/-- The white space JSON allows between tokens. -/
def isSpace (character : Char) : Bool :=
  character = ' ' || character = '\t' || character = '\n' || character = '\r'

/-- Drop leading white space. -/
def skipSpace (input : List Char) : List Char :=
  input.dropWhile isSpace

/-- The code unit named by the four digits of a `\u` escape. -/
def hexQuad (first second third fourth : Char) : Option Nat := do
  let a ← hexDigitValue first
  let b ← hexDigitValue second
  let c ← hexDigitValue third
  let d ← hexDigitValue fourth
  return ((a * 16 + b) * 16 + c) * 16 + d

/-- The character named by a two-character escape. -/
def shortEscape (character : Char) : Option Char :=
  match character with
  | '"' => some '"'
  | '\\' => some '\\'
  | '/' => some '/'
  | 'b' => some (Char.ofNat 8)
  | 'f' => some (Char.ofNat 12)
  | 'n' => some '\n'
  | 'r' => some '\r'
  | 't' => some '\t'
  | _ => none

/-- The character that stands for half of a surrogate pair. -/
def replacementCharacter : Char :=
  Char.ofNat 0xFFFD

/-- A string body before surrogate pairs are joined. -/
inductive StringUnit where
  | plain (character : Char)
  | code (unit : Nat)

/-- Put one unit in front of the rest of a string body. -/
def prepend
    (unit : StringUnit) :
    Option (List StringUnit × List Char) →
      Option (List StringUnit × List Char) :=
  Option.map fun parsed => (unit :: parsed.1, parsed.2)

/-- Read a string body up to its closing quote. -/
def readUnits : List Char → Option (List StringUnit × List Char)
  | [] => none
  | '"' :: rest => some ([], rest)
  | '\\' :: 'u' :: a :: b :: c :: d :: rest =>
      match hexQuad a b c d with
      | some unit => prepend (.code unit) (readUnits rest)
      | none => none
  | '\\' :: character :: rest =>
      match shortEscape character with
      | some meant => prepend (.plain meant) (readUnits rest)
      | none => none
  | character :: rest =>
      if character.toNat < 0x20 ∨ character = '\\' then
        none
      else
        prepend (.plain character) (readUnits rest)

/-- Code units that open a surrogate pair. -/
def isHighHalf (unit : Nat) : Bool :=
  0xD800 ≤ unit && unit < 0xDC00

/-- Code units that close a surrogate pair. -/
def isLowHalf (unit : Nat) : Bool :=
  0xDC00 ≤ unit && unit < 0xE000

/-- The character of a surrogate pair. -/
def joinHalves (high low : Nat) : Char :=
  Char.ofNat (0x10000 + (high - 0xD800) * 0x400 + (low - 0xDC00))

/-- The character of a single code unit. -/
def singleUnit (unit : Nat) : Char :=
  if isHighHalf unit || isLowHalf unit then
    replacementCharacter
  else
    Char.ofNat unit

/--
Join surrogate pairs.  The first argument is a high half that still waits for
its low half; a half without its partner becomes the replacement character.
-/
def joinUnits : Option Nat → List StringUnit → List Char
  | none, [] => []
  | some _, [] => [replacementCharacter]
  | none, .plain character :: rest => character :: joinUnits none rest
  | some _, .plain character :: rest =>
      replacementCharacter :: character :: joinUnits none rest
  | none, .code unit :: rest =>
      if isHighHalf unit then
        joinUnits (some unit) rest
      else
        singleUnit unit :: joinUnits none rest
  | some high, .code unit :: rest =>
      if isLowHalf unit then
        joinHalves high unit :: joinUnits none rest
      else if isHighHalf unit then
        replacementCharacter :: joinUnits (some unit) rest
      else
        replacementCharacter :: singleUnit unit :: joinUnits none rest

/-- Decode a string body up to its closing quote. -/
def readString (input : List Char) : Option (List Char × List Char) :=
  (readUnits input).map fun parsed => (joinUnits none parsed.1, parsed.2)

/-- A nonempty run of decimal digits. -/
def readDigits (input : List Char) : Option (List Char × List Char) :=
  match input.takeWhile Char.isDigit with
  | [] => none
  | digits => some (digits, input.dropWhile Char.isDigit)

/-- The integer part of a number: zero, or digits without a leading zero. -/
def readInteger (input : List Char) : Option (List Char × List Char) :=
  match input with
  | '0' :: rest => some (['0'], rest)
  | _ => readDigits input

/-- An optional fraction. -/
def readFraction (input : List Char) : Option (List Char × List Char) :=
  match input with
  | '.' :: rest => (readDigits rest).map fun parsed => ('.' :: parsed.1, parsed.2)
  | _ => some ([], input)

/-- The digits of an exponent behind an optional sign. -/
def readExponentDigits (input : List Char) : Option (List Char × List Char) :=
  match input with
  | '+' :: rest => (readDigits rest).map fun parsed => ('+' :: parsed.1, parsed.2)
  | '-' :: rest => (readDigits rest).map fun parsed => ('-' :: parsed.1, parsed.2)
  | _ => readDigits input

/-- An optional exponent. -/
def readExponent (input : List Char) : Option (List Char × List Char) :=
  match input with
  | 'e' :: rest =>
      (readExponentDigits rest).map fun parsed => ('e' :: parsed.1, parsed.2)
  | 'E' :: rest =>
      (readExponentDigits rest).map fun parsed => ('E' :: parsed.1, parsed.2)
  | _ => some ([], input)

/-- A number without its sign. -/
def readUnsigned (input : List Char) : Option (List Char × List Char) := do
  let (integer, afterInteger) ← readInteger input
  let (fraction, afterFraction) ← readFraction afterInteger
  let (exponent, rest) ← readExponent afterFraction
  return (integer ++ fraction ++ exponent, rest)

/-- A number in the JSON grammar. -/
def readNumber (input : List Char) : Option (List Char × List Char) :=
  match input with
  | '-' :: rest => (readUnsigned rest).map fun parsed => ('-' :: parsed.1, parsed.2)
  | _ => readUnsigned input

mutual

/-- Read one value; the fuel bounds nesting and element counts. -/
def readValue : Nat → List Char → Option (JsonValue × List Char)
  | 0, _ => none
  | fuel + 1, input =>
      match skipSpace input with
      | 'n' :: 'u' :: 'l' :: 'l' :: rest => some (.null, rest)
      | 't' :: 'r' :: 'u' :: 'e' :: rest => some (.boolean true, rest)
      | 'f' :: 'a' :: 'l' :: 's' :: 'e' :: rest => some (.boolean false, rest)
      | '"' :: rest =>
          (readString rest).map fun parsed => (.text parsed.1, parsed.2)
      | '[' :: rest =>
          match skipSpace rest with
          | ']' :: later => some (.array [], later)
          | _ =>
              (readItems fuel rest).map fun parsed => (.array parsed.1, parsed.2)
      | '\x7b' :: rest =>
          match skipSpace rest with
          | '\x7d' :: later => some (.object [], later)
          | _ =>
              (readMembers fuel rest).map fun parsed =>
                (.object parsed.1, parsed.2)
      | other =>
          (readNumber other).map fun parsed => (.number parsed.1, parsed.2)

/-- Read array items up to the closing bracket. -/
def readItems : Nat → List Char → Option (List JsonValue × List Char)
  | 0, _ => none
  | fuel + 1, input => do
      let (item, afterItem) ← readValue fuel input
      match skipSpace afterItem with
      | ',' :: rest =>
          let (items, later) ← readItems fuel rest
          return (item :: items, later)
      | ']' :: rest => return ([item], rest)
      | _ => none

/-- Read object members up to the closing brace. -/
def readMembers :
    Nat → List Char → Option (List (List Char × JsonValue) × List Char)
  | 0, _ => none
  | fuel + 1, input =>
      match skipSpace input with
      | '"' :: afterQuote => do
          let (key, afterKey) ← readString afterQuote
          match skipSpace afterKey with
          | ':' :: afterColon =>
              let (value, afterValue) ← readValue fuel afterColon
              match skipSpace afterValue with
              | ',' :: rest =>
                  let (members, later) ← readMembers fuel rest
                  return ((key, value) :: members, later)
              | '\x7d' :: rest => return ([(key, value)], rest)
              | _ => none
          | _ => none
      | _ => none

end

/-- Read a whole text: one value with only white space around it. -/
def parse (input : String) : Option JsonValue := do
  let (value, rest) ← readValue (input.toList.length + 1) input.toList
  match skipSpace rest with
  | [] => return value
  | _ => none

/-- Decode into a string element; `null` leaves the zero value. -/
def decodeString : JsonValue → Option String
  | .text characters => some (String.ofList characters)
  | .null => some ""
  | _ => none

/-- Decode the members of an object into string entries, in order. -/
def decodeMembers :
    List (List Char × JsonValue) → Option (List (String × String))
  | [] => some []
  | (key, value) :: rest => do
      let element ← decodeString value
      let entries ← decodeMembers rest
      return (String.ofList key, element) :: entries

/-- `json.Unmarshal` into a string map that starts out nil. -/
def unmarshalStringMap (input : String) : Option (NilableMap String String) := do
  match ← parse input with
  | .null => return none
  | .object members =>
      let entries ← decodeMembers members
      return some (Std.ExtTreeMap.ofList entries)
  | _ => none

/-- The empty text is no JSON value. -/
theorem unmarshalStringMap_empty : unmarshalStringMap "" = none := by
  rfl

/-- `json.Unmarshal` into a string slice that starts out nil. -/
def unmarshalStringSlice (input : String) : Option (List String) := do
  match ← parse input with
  | .null => return []
  | .array items => items.mapM decodeString
  | _ => none

/-- The `\u00xx` escape of a character below 256. -/
def byteEscape (character : Char) : List Char :=
  ['\\', 'u', '0', '0',
    (character.toNat / 16).digitChar, (character.toNat % 16).digitChar]

/-- The text of one character inside a written string. -/
def escapeCharacter (character : Char) : List Char :=
  if character = '"' then ['\\', '"']
  else if character = '\\' then ['\\', '\\']
  else if character = Char.ofNat 8 then ['\\', 'b']
  else if character = Char.ofNat 12 then ['\\', 'f']
  else if character = '\n' then ['\\', 'n']
  else if character = '\r' then ['\\', 'r']
  else if character = '\t' then ['\\', 't']
  else if character.toNat < 0x20 then byteEscape character
  else if character = '<' ∨ character = '>' ∨ character = '&' then
    byteEscape character
  else if character = Char.ofNat 0x2028 then ['\\', 'u', '2', '0', '2', '8']
  else if character = Char.ofNat 0x2029 then ['\\', 'u', '2', '0', '2', '9']
  else [character]

/-- A written string with its quotes. -/
def quoted (value : String) : List Char :=
  '"' :: (value.toList.flatMap escapeCharacter ++ ['"'])

/-- One written map entry. -/
def memberText (entry : String × String) : List Char :=
  quoted entry.1 ++ ':' :: quoted entry.2

/-- Written map entries separated by commas and closed by the brace. -/
def membersText : List (String × String) → List Char
  | [] => ['\x7d']
  | [entry] => memberText entry ++ ['\x7d']
  | entry :: rest => memberText entry ++ ',' :: membersText rest

/-- `json.Marshal` of a string map that is not nil. -/
def marshalStringMap (entries : Std.ExtTreeMap String String) : String :=
  String.ofList ('\x7b' :: membersText entries.toList)

section RoundTrip

/-- A `\u00xx` escape names the character it was written for. -/
private theorem hexQuad_byteEscape
    {character : Char}
    (small : character.toNat < 256) :
    hexQuad '0' '0'
        (character.toNat / 16).digitChar
        (character.toNat % 16).digitChar =
      some character.toNat := by
  have high : hexDigitValue (character.toNat / 16).digitChar = _ :=
    hexDigitValue_digitChar (by omega)
  have low : hexDigitValue (character.toNat % 16).digitChar = _ :=
    hexDigitValue_digitChar (by omega)
  have zero : hexDigitValue '0' = some 0 := by decide
  simp only [hexQuad, high, low, zero, Option.bind_eq_bind,
    Option.bind_some]
  show some _ = some _
  congr 1
  omega

/--
What the reader sees of one written character: some unit that decodes to that
character and does not touch the text behind it.
-/
private def Reads (written : List Char) (character : Char) : Prop :=
  ∃ unit,
    (∀ rest, readUnits (written ++ rest) = prepend unit (readUnits rest)) ∧
      ∀ units,
        joinUnits none (unit :: units) = character :: joinUnits none units

private theorem reads_shortEscape
    {letter character : Char}
    (notUnicode : letter ≠ 'u')
    (meaning : shortEscape letter = some character) :
    Reads ['\\', letter] character := by
  refine ⟨.plain character, ?_, fun units => rfl⟩
  intro rest
  simp only [List.cons_append, List.nil_append]
  rw [readUnits]
  · rw [meaning]
  · intro a b c d later shape
    exact fun _ => (notUnicode shape).elim

private theorem reads_codeEscape
    {a b c d character : Char}
    (named : hexQuad a b c d = some character.toNat)
    (notHalf :
      (isHighHalf character.toNat || isLowHalf character.toNat) = false) :
    Reads ['\\', 'u', a, b, c, d] character := by
  refine ⟨.code character.toNat, ?_, ?_⟩
  · intro rest
    simp [readUnits, named]
  · intro units
    obtain ⟨notHigh, notLow⟩ := Bool.or_eq_false_iff.mp notHalf
    simp [joinUnits, singleUnit, notHigh, notLow]

private theorem reads_byteEscape
    {character : Char}
    (small : character.toNat < 256) :
    Reads (byteEscape character) character := by
  refine reads_codeEscape (hexQuad_byteEscape small) ?_
  simp only [isHighHalf, isLowHalf, Bool.or_eq_false_iff,
    Bool.and_eq_false_iff, decide_eq_false_iff_not]
  omega

private theorem reads_self
    {character : Char}
    (notQuote : character ≠ '"')
    (notBackslash : character ≠ '\\')
    (printable : ¬ character.toNat < 0x20) :
    Reads [character] character := by
  refine ⟨.plain character, ?_, fun units => rfl⟩
  intro rest
  simp only [List.cons_append, List.nil_append]
  rw [readUnits.eq_def]
  split <;> simp_all

/-- Every written character reads back as itself. -/
private theorem reads_escapeCharacter (character : Char) :
    Reads (escapeCharacter character) character := by
  unfold escapeCharacter
  split
  · rename_i quote
    subst quote
    exact reads_shortEscape (by decide) rfl
  rename_i notQuote
  split
  · rename_i backslash
    subst backslash
    exact reads_shortEscape (by decide) rfl
  rename_i notBackslash
  split
  · rename_i backspace
    subst backspace
    exact reads_shortEscape (by decide) rfl
  split
  · rename_i formFeed
    subst formFeed
    exact reads_shortEscape (by decide) rfl
  split
  · rename_i newline
    subst newline
    exact reads_shortEscape (by decide) rfl
  split
  · rename_i carriageReturn
    subst carriageReturn
    exact reads_shortEscape (by decide) rfl
  split
  · rename_i tab
    subst tab
    exact reads_shortEscape (by decide) rfl
  split
  · rename_i control
    exact reads_byteEscape (by omega)
  rename_i printable
  split
  · rename_i html
    apply reads_byteEscape
    rcases html with rfl | rfl | rfl <;> decide
  split
  · rename_i lineSeparator
    subst lineSeparator
    exact reads_codeEscape (by decide +kernel) (by decide +kernel)
  split
  · rename_i paragraphSeparator
    subst paragraphSeparator
    exact reads_codeEscape (by decide +kernel) (by decide +kernel)
  · exact reads_self notQuote notBackslash printable

/-- A written string body reads back up to its closing quote. -/
private theorem readString_escaped
    (characters rest : List Char) :
    readString (characters.flatMap escapeCharacter ++ '"' :: rest) =
      some (characters, rest) := by
  suffices
      ∃ units,
        readUnits (characters.flatMap escapeCharacter ++ '"' :: rest) =
            some (units, rest) ∧
          joinUnits none units = characters by
    obtain ⟨units, read, joined⟩ := this
    simp [readString, read, joined]
  induction characters with
  | nil =>
      exact ⟨[], by simp [readUnits], rfl⟩
  | cons character later inductionHypothesis =>
      obtain ⟨units, read, joined⟩ := inductionHypothesis
      obtain ⟨unit, unitRead, unitJoined⟩ :=
        reads_escapeCharacter character
      refine ⟨unit :: units, ?_, ?_⟩
      · rw [List.flatMap_cons, List.append_assoc, unitRead, read]
        rfl
      · rw [unitJoined, joined]

private theorem readString_quoted
    (value : String)
    (rest : List Char) :
    ∃ body,
      quoted value ++ rest = '"' :: body ∧
        readString body = some (value.toList, rest) := by
  refine ⟨value.toList.flatMap escapeCharacter ++ '"' :: rest, ?_, ?_⟩
  · simp [quoted]
  · exact readString_escaped value.toList rest

/-- Tokens other than white space are not skipped. -/
private theorem skipSpace_token
    (token : Char)
    (notSpace : isSpace token = false)
    (rest : List Char) :
    skipSpace (token :: rest) = token :: rest := by
  simp [skipSpace, notSpace]

/-- A written string reads back as a text value. -/
private theorem readValue_quoted
    (fuel : Nat)
    (value : String)
    (rest : List Char) :
    readValue (fuel + 1) (quoted value ++ rest) =
      some (.text value.toList, rest) := by
  obtain ⟨body, shape, read⟩ := readString_quoted value rest
  rw [shape, readValue, skipSpace_token '"' (by decide)]
  simp [read]

/-- Written entries read back in order, given one unit of fuel for each. -/
private theorem readMembers_membersText
    (entries : List (String × String))
    (nonempty : entries ≠ [])
    (fuel : Nat)
    (enough : entries.length < fuel)
    (rest : List Char) :
    readMembers fuel (membersText entries ++ rest) =
      some
        (entries.map fun entry =>
          (entry.1.toList, JsonValue.text entry.2.toList),
          rest) := by
  induction entries generalizing fuel with
  | nil =>
      exact (nonempty rfl).elim
  | cons entry later inductionHypothesis =>
      obtain ⟨fuel, rfl⟩ : ∃ smaller, fuel = smaller + 2 :=
        ⟨fuel - 2, by simp only [List.length_cons] at enough; omega⟩
      -- Behind the entry stands the brace or a comma with more entries.
      obtain ⟨tail, textShape, tailShape⟩ :
          ∃ tail,
            membersText (entry :: later) ++ rest =
                quoted entry.1 ++ ':' :: (quoted entry.2 ++ tail) ∧
              ((later = [] ∧ tail = '\x7d' :: rest) ∨
                (later ≠ [] ∧ tail = ',' :: (membersText later ++ rest))) := by
        cases later with
        | nil =>
            exact ⟨'\x7d' :: rest, by simp [membersText, memberText],
              .inl ⟨rfl, rfl⟩⟩
        | cons second others =>
            exact ⟨',' :: (membersText (second :: others) ++ rest),
              by simp [membersText, memberText],
              .inr ⟨by simp, rfl⟩⟩
      obtain ⟨body, keyShape, keyRead⟩ :=
        readString_quoted entry.1 (':' :: (quoted entry.2 ++ tail))
      have valueRead := readValue_quoted fuel entry.2 tail
      rw [textShape, keyShape, readMembers,
        skipSpace_token '"' (by decide)]
      simp only [keyRead, Option.bind_eq_bind, Option.bind_some,
        skipSpace_token ':' (by decide), valueRead]
      rcases tailShape with ⟨rfl, rfl⟩ | ⟨more, rfl⟩
      · simp [skipSpace_token '\x7d' (by decide)]
      · have laterRead :=
          inductionHypothesis more (fuel + 1)
            (by simp only [List.length_cons] at enough; omega)
        simp [skipSpace_token ',' (by decide), laterRead]

private theorem decodeMembers_texts
    (entries : List (String × String)) :
    decodeMembers
        (entries.map fun entry =>
          (entry.1.toList, JsonValue.text entry.2.toList)) =
      some entries := by
  induction entries with
  | nil =>
      rfl
  | cons entry later inductionHypothesis =>
      simp [decodeMembers, decodeString, inductionHypothesis]

/-- The entry list of a map rebuilds that map. -/
private theorem ofList_toList
    (entries : Std.ExtTreeMap String String) :
    Std.ExtTreeMap.ofList entries.toList = entries := by
  apply Std.ExtTreeMap.ext_getElem?
  intro key
  cases stored : entries[key]? with
  | some value =>
      exact Std.ExtTreeMap.getElem?_ofList_of_mem (by simp)
        Std.ExtTreeMap.distinct_keys_toList
        (Std.ExtTreeMap.mem_toList_iff_getElem?_eq_some.mpr stored)
  | none =>
      apply Std.ExtTreeMap.getElem?_ofList_of_contains_eq_false
      rw [Std.ExtTreeMap.map_fst_toList_eq_keys]
      simpa using stored

/-- The written text of entries is at least as long as their number. -/
private theorem length_le_membersText
    (entries : List (String × String)) :
    entries.length < (membersText entries).length + 1 := by
  induction entries with
  | nil =>
      simp
  | cons entry later inductionHypothesis =>
      cases later with
      | nil =>
          simp [membersText]
      | cons second others =>
          simp only [membersText, List.length_append, List.length_cons]
            at inductionHypothesis ⊢
          omega

/-- Written entries open with the quote of the first key. -/
private theorem membersText_opening
    {entries : List (String × String)}
    (nonempty : entries ≠ []) :
    ∃ others, membersText entries = '"' :: others := by
  cases entries with
  | nil =>
      exact (nonempty rfl).elim
  | cons entry later =>
      cases later <;> simp [membersText, memberText, quoted]

/-- Reading back a written string map yields that map. -/
theorem unmarshalStringMap_marshalStringMap
    (entries : Std.ExtTreeMap String String) :
    unmarshalStringMap (marshalStringMap entries) = some (some entries) := by
  have characters :
      (marshalStringMap entries).toList =
        '\x7b' :: membersText entries.toList := by
    simp [marshalStringMap]
  have value :
      ∃ members,
        readValue
            ((marshalStringMap entries).toList.length + 1)
            (marshalStringMap entries).toList =
          some (.object members, []) ∧
          decodeMembers members = some entries.toList := by
    rw [characters, readValue, skipSpace_token '\x7b' (by decide)]
    by_cases empty : entries.toList = []
    · exact ⟨[], by simp [empty, membersText, skipSpace, isSpace],
        by simp [empty, decodeMembers]⟩
    · have read :=
        readMembers_membersText entries.toList empty
          ((membersText entries.toList).length + 1)
          (length_le_membersText entries.toList) []
      rw [List.append_nil] at read
      obtain ⟨others, shape⟩ := membersText_opening empty
      refine ⟨_, ?_, decodeMembers_texts entries.toList⟩
      simp only [shape, List.length_cons] at read ⊢
      simp [read, skipSpace_token '"' (by decide)]
  obtain ⟨members, read, decoded⟩ := value
  simp [unmarshalStringMap, parse, read, skipSpace, decoded, ofList_toList]

end RoundTrip

end JsonText

end HarvesterCloudProvider
