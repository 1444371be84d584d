import HarvesterCloudProvider.TextFields

namespace HarvesterCloudProvider

/-!
# Records of comma-separated fields

One record is written on one line: the fields are joined by commas, and a field
that could be misread is put in quotes, its own quotes doubled.  Reading takes the
first record of a text.  Line breaks inside quotes belong to the field, but a
carriage return in front of a line feed is dropped on the way in.

A record is read back as it was written, up to these carriage returns, unless it
has no field or is a single empty one.
-/

namespace Csv

section Writing

/-- Whether a field could be misread without quotes. -/
def fieldNeedsQuotes : List Char → Bool
  | [] => false
  | first :: rest =>
      first :: rest = ['\\', '.'] ||
        (first :: rest).any (fun character => character ∈ [',', '"', '\r', '\n']) ||
        isSpace first

/-- Double the quotes of a field. -/
def escaped (field : List Char) : List Char :=
  field.flatMap fun character => if character = '"' then ['"', '"'] else [character]

/-- A field as it is written. -/
def writtenField (field : List Char) : List Char :=
  if fieldNeedsQuotes field then '"' :: (escaped field ++ ['"']) else field

/-- A record as it is written, without the end of the line. -/
def writeRecord : List (List Char) → List Char
  | [] => []
  | [field] => writtenField field
  | field :: next :: rest => writtenField field ++ ',' :: writeRecord (next :: rest)

end Writing

section Reading

/-- What is wrong with a quote. -/
inductive QuoteError where
  | bareQuote
  | quote
  deriving Repr, DecidableEq

/-- A wrong or missing quote, with the text from it on. -/
structure Misquote where
  error : QuoteError
  unread : List Char
  deriving Repr, DecidableEq

/-- A place in a text; columns count bytes. -/
structure Position where
  line : Nat := 1
  column : Nat := 1
  deriving Repr, DecidableEq

/-- Why no record is read. -/
inductive ReadError where
  | endOfFile
  | parseError (startLine : Nat) (position : Position) (error : QuoteError)
  deriving Repr, DecidableEq

/-- Drop the carriage returns in front of line feeds, and one at the end. -/
def normalizeLines : List Char → List Char
  | [] => []
  | first :: rest =>
      if first = '\r' ∧ (rest = [] ∨ rest.head? = some '\n') then
        normalizeLines rest
      else
        first :: normalizeLines rest

/-- Where the reader is in a field. -/
inductive FieldMode where
  | start
  | plain
  | quoted
  /-- Behind a quote inside quotes. -/
  | closing
  deriving Repr, DecidableEq

/-- Read the fields up to the end of the record; the current one is kept in reverse. -/
def readFields : FieldMode → List Char → List Char → Except Misquote (List (List Char))
  | .start, _, [] => .ok [[]]
  | .start, _, next :: rest =>
      if next = '"' then
        readFields .quoted [] rest
      else if next = ',' then
        (readFields .start [] rest).map ([] :: ·)
      else if next = '\n' then
        .ok [[]]
      else
        readFields .plain [next] rest
  | .plain, field, [] => .ok [field.reverse]
  | .plain, field, next :: rest =>
      if next = '"' then
        .error { error := .bareQuote, unread := next :: rest }
      else if next = ',' then
        (readFields .start [] rest).map (field.reverse :: ·)
      else if next = '\n' then
        .ok [field.reverse]
      else
        readFields .plain (next :: field) rest
  | .quoted, _, [] => .error { error := .quote, unread := [] }
  | .quoted, field, next :: rest =>
      if next = '"' then
        readFields .closing field rest
      else
        readFields .quoted (next :: field) rest
  | .closing, field, [] => .ok [field.reverse]
  | .closing, field, next :: rest =>
      if next = '"' then
        readFields .quoted ('"' :: field) rest
      else if next = ',' then
        (readFields .start [] rest).map (field.reverse :: ·)
      else if next = '\n' then
        .ok [field.reverse]
      else
        -- The quote in front of this character is the wrong one.
        .error { error := .quote, unread := '"' :: next :: rest }

/-- The place behind a text that was read.  The end of a text is on its last line. -/
def Position.behind (position : Position) : (read unread : List Char) → Position
  | [], _ => position
  | character :: rest, unread =>
      if character = '\n' ∧ rest ++ unread ≠ [] then
        Position.behind { line := position.line + 1 } rest unread
      else
        Position.behind { position with column := position.column + character.utf8Size }
          rest unread

/-- The error about a quote, with the line where the record starts. -/
def Misquote.readError (lines : List Char) (misquote : Misquote) : ReadError :=
  .parseError
    (1 + (lines.takeWhile (· = '\n')).length)
    (Position.behind {} (lines.take (lines.length - misquote.unread.length)) misquote.unread)
    misquote.error

/-- Read the first record behind empty lines. -/
def readRecord (text : List Char) : Except ReadError (List (List Char)) :=
  let lines := normalizeLines text
  match lines.dropWhile (· = '\n') with
  | [] => .error .endOfFile
  | next :: rest => (readFields .start [] (next :: rest)).mapError fun misquote =>
      misquote.readError lines

end Reading

section RoundTrip

/-- Where a field of a written record ends. -/
def EndsField : List Char → Prop
  | [] => True
  | next :: _ => next = ','

/-- The characters of a field without quotes are read one after the other. -/
theorem readFields_plain
    {field : List Char}
    (harmless : ∀ character ∈ field, character ∉ [',', '"', '\r', '\n'])
    (before rest : List Char) :
    readFields .plain before (field ++ rest) =
      readFields .plain (field.reverse ++ before) rest := by
  induction field generalizing before with
  | nil =>
      rfl
  | cons first later inductionHypothesis =>
      have harmlessFirst := harmless first List.mem_cons_self
      simp only [List.mem_cons, List.not_mem_nil, or_false, not_or] at harmlessFirst
      obtain ⟨noComma, noQuote, -, noNewline⟩ := harmlessFirst
      rw [List.cons_append, readFields, if_neg noQuote, if_neg noComma, if_neg noNewline,
        inductionHypothesis fun character member =>
          harmless character (List.mem_cons_of_mem _ member)]
      rw [List.reverse_cons, List.append_assoc]
      rfl

/-- The characters of a quoted field are read up to the closing quote. -/
theorem readFields_escaped (field before rest : List Char) :
    readFields .quoted before (escaped field ++ '"' :: rest) =
      readFields .closing (field.reverse ++ before) rest := by
  induction field generalizing before with
  | nil =>
      rw [escaped, List.flatMap_nil, List.nil_append, readFields, if_pos rfl]
      rfl
  | cons first later inductionHypothesis =>
      rw [escaped, List.flatMap_cons, ← escaped, List.append_assoc, List.reverse_cons,
        List.append_assoc, List.singleton_append]
      by_cases isQuote : first = '"'
      · rw [if_pos isQuote, isQuote, List.cons_append, List.singleton_append, readFields,
          if_pos rfl, readFields, if_pos rfl, inductionHypothesis]
      · rw [if_neg isQuote, List.singleton_append, readFields, if_neg isQuote,
          inductionHypothesis]

/-- The characters of a field that needs no quotes. -/
theorem harmless_of_fieldNeedsQuotes
    {field : List Char}
    (unquoted : fieldNeedsQuotes field = false) :
    ∀ character ∈ field, character ∉ [',', '"', '\r', '\n'] := by
  cases field with
  | nil =>
      intro character member
      cases member
  | cons first rest =>
      rw [fieldNeedsQuotes, Bool.or_eq_false_iff, Bool.or_eq_false_iff] at unquoted
      intro character member listed
      have harmful := List.any_eq_false.mp unquoted.1.2 character member
      exact harmful (decide_eq_true listed)

/-- A written field is read back, and the record goes on behind it. -/
theorem readFields_writtenField
    (field : List Char)
    {rest : List Char}
    (ends : EndsField rest) :
    readFields .start [] (writtenField field ++ rest) =
      match rest with
      | [] => .ok [field]
      | _ :: later => (readFields .start [] later).map (field :: ·) := by
  have comma_ne_quote : ',' ≠ '"' := by decide
  unfold writtenField
  cases quotes : fieldNeedsQuotes field with
  | true =>
      rw [if_pos rfl, List.cons_append, List.append_assoc, List.singleton_append, readFields,
        if_pos rfl, readFields_escaped, List.append_nil]
      cases rest with
      | nil =>
          rw [readFields, List.reverse_reverse]
      | cons next later =>
          cases ends
          rw [readFields, if_neg comma_ne_quote, if_pos rfl, List.reverse_reverse]
  | false =>
      rw [if_neg Bool.false_ne_true]
      have harmless := harmless_of_fieldNeedsQuotes quotes
      cases field with
      | nil =>
          cases rest with
          | nil =>
              rfl
          | cons next later =>
              cases ends
              rw [List.nil_append, readFields, if_neg comma_ne_quote, if_pos rfl]
      | cons first others =>
          have harmlessFirst := harmless first List.mem_cons_self
          simp only [List.mem_cons, List.not_mem_nil, or_false, not_or] at harmlessFirst
          obtain ⟨noComma, noQuote, -, noNewline⟩ := harmlessFirst
          rw [List.cons_append, readFields, if_neg noQuote, if_neg noComma, if_neg noNewline,
            readFields_plain fun character member =>
              harmless character (List.mem_cons_of_mem _ member)]
          have whole : (others.reverse ++ [first]).reverse = first :: others := by simp
          cases rest with
          | nil =>
              rw [readFields, whole]
          | cons next later =>
              cases ends
              rw [readFields, if_neg comma_ne_quote, if_pos rfl, whole]

/-- The fields of a written record are read back. -/
theorem readFields_writeRecord
    {fields : List (List Char)}
    (nonempty : fields ≠ []) :
    readFields .start [] (writeRecord fields) = .ok fields := by
  induction fields with
  | nil =>
      exact (nonempty rfl).elim
  | cons field rest inductionHypothesis =>
      cases rest with
      | nil =>
          have read := @readFields_writtenField field [] trivial
          rwa [List.append_nil] at read
      | cons next later =>
          rw [writeRecord, @readFields_writtenField field (',' :: _) rfl]
          dsimp only
          rw [inductionHypothesis (List.cons_ne_nil _ _)]
          rfl

/-- A field without the carriage returns in front of line feeds. -/
def unreturned : List Char → List Char
  | [] => []
  | first :: rest =>
      if first = '\r' ∧ rest.head? = some '\n' then
        unreturned rest
      else
        first :: unreturned rest

/-- A text without carriage returns is left as it is, whatever follows. -/
theorem normalizeLines_append
    {text : List Char}
    (noReturn : '\r' ∉ text)
    (rest : List Char) :
    normalizeLines (text ++ rest) = text ++ normalizeLines rest := by
  induction text with
  | nil =>
      rfl
  | cons first later inductionHypothesis =>
      rw [List.mem_cons, not_or] at noReturn
      rw [List.cons_append, normalizeLines, if_neg fun returned => noReturn.1 returned.1.symm,
        inductionHypothesis noReturn.2, List.cons_append]

theorem unreturned_eq_self
    {field : List Char}
    (noReturn : '\r' ∉ field) :
    unreturned field = field := by
  induction field with
  | nil =>
      rfl
  | cons first later inductionHypothesis =>
      rw [List.mem_cons, not_or] at noReturn
      rw [unreturned, if_neg fun returned => noReturn.1 returned.1.symm,
        inductionHypothesis noReturn.2]

/-- Inside quotes only carriage returns in front of line feeds are dropped. -/
theorem normalizeLines_escaped (field rest : List Char) :
    normalizeLines (escaped field ++ '"' :: rest) =
      escaped (unreturned field) ++ '"' :: normalizeLines rest := by
  have quote_ne_return : '"' ≠ '\r' := by decide
  induction field with
  | nil =>
      rw [escaped, List.flatMap_nil, List.nil_append, normalizeLines,
        if_neg fun returned => quote_ne_return returned.1]
      rfl
  | cons first later inductionHypothesis =>
      have next : (escaped later ++ '"' :: rest).head? = some '\n' ↔ later.head? = some '\n' := by
        cases later with
        | nil =>
            simp [escaped]
        | cons second others =>
            by_cases isQuote : second = '"' <;> simp [escaped, isQuote]
      have goesOn : escaped later ++ '"' :: rest ≠ [] := by simp
      rw [escaped, List.flatMap_cons, ← escaped, List.append_assoc, unreturned]
      by_cases isQuote : first = '"'
      · have noReturn : first ≠ '\r' := isQuote ▸ quote_ne_return
        rw [if_pos isQuote, if_neg fun returned => noReturn returned.1]
        rw [List.cons_append, List.singleton_append, normalizeLines,
          if_neg fun returned => quote_ne_return returned.1, normalizeLines,
          if_neg fun returned => quote_ne_return returned.1, inductionHypothesis]
        simp [escaped, isQuote]
      · rw [if_neg isQuote, List.singleton_append, normalizeLines]
        by_cases returned : first = '\r' ∧ later.head? = some '\n'
        · rw [if_pos ⟨returned.1, .inr (next.mpr returned.2)⟩, if_pos returned,
            inductionHypothesis]
        · rw [if_neg fun dropped => returned
              ⟨dropped.1, next.mp (dropped.2.resolve_left goesOn)⟩,
            if_neg returned, inductionHypothesis]
          simp [escaped, isQuote]

/-- A character that has to be quoted is left where there was one. -/
theorem exists_special_unreturned
    {field : List Char}
    {character : Char}
    (member : character ∈ field)
    (special : character ∈ [',', '"', '\r', '\n']) :
    ∃ other ∈ unreturned field, other ∈ [',', '"', '\r', '\n'] := by
  induction field generalizing character with
  | nil =>
      cases member
  | cons first later inductionHypothesis =>
      rw [unreturned]
      split
      · rename_i returned
        exact inductionHypothesis (List.mem_of_mem_head? returned.2) (by decide)
      · rcases List.mem_cons.mp member with rfl | member
        · exact ⟨character, List.mem_cons_self, special⟩
        · obtain ⟨other, kept, otherSpecial⟩ := inductionHypothesis member special
          exact ⟨other, List.mem_cons_of_mem _ kept, otherSpecial⟩

/-- A field with a character that has to be quoted. -/
theorem fieldNeedsQuotes_of_special
    {field : List Char}
    {character : Char}
    (member : character ∈ field)
    (special : character ∈ [',', '"', '\r', '\n']) :
    fieldNeedsQuotes field = true := by
  cases field with
  | nil =>
      cases member
  | cons first rest =>
      rw [fieldNeedsQuotes, Bool.or_eq_true, Bool.or_eq_true]
      exact .inl (.inr (List.any_eq_true.mpr ⟨character, member, decide_eq_true special⟩))

/-- Dropping carriage returns does not change whether a field is quoted. -/
theorem normalizeLines_writtenField (field rest : List Char) :
    normalizeLines (writtenField field ++ rest) =
      writtenField (unreturned field) ++ normalizeLines rest := by
  by_cases returned : '\r' ∈ field
  · have special : '\r' ∈ [',', '"', '\r', '\n'] := by decide
    obtain ⟨other, kept, otherSpecial⟩ := exists_special_unreturned returned special
    rw [writtenField, if_pos (fieldNeedsQuotes_of_special returned special), writtenField,
      if_pos (fieldNeedsQuotes_of_special kept otherSpecial), List.cons_append,
      List.append_assoc, List.singleton_append, normalizeLines,
      if_neg fun dropped => absurd dropped.1 (by decide), normalizeLines_escaped]
    simp
  · have noReturn : '\r' ∉ writtenField field := by
      unfold writtenField
      split
      · simp only [escaped, List.mem_cons, List.mem_append, List.mem_flatMap, not_or,
          List.not_mem_nil, or_false]
        refine ⟨by decide, ?_, by decide⟩
        rintro ⟨character, member, written⟩
        split at written
        · simp at written
        · rw [List.mem_singleton] at written
          exact returned (written ▸ member)
      · exact returned
    rw [unreturned_eq_self returned, normalizeLines_append noReturn]

/-- A written record loses the carriage returns of its fields. -/
theorem normalizeLines_writeRecord (fields : List (List Char)) :
    normalizeLines (writeRecord fields) = writeRecord (fields.map unreturned) := by
  induction fields with
  | nil =>
      rfl
  | cons field rest inductionHypothesis =>
      cases rest with
      | nil =>
          have written := normalizeLines_writtenField field []
          rw [List.append_nil] at written
          rw [writeRecord, written]
          exact List.append_nil _
      | cons next later =>
          rw [writeRecord, normalizeLines_writtenField, normalizeLines,
            if_neg fun dropped => absurd dropped.1 (by decide), inductionHypothesis]
          rfl

/-- A written record does not start with the end of a line. -/
theorem head?_writeRecord_ne (fields : List (List Char)) :
    (writeRecord fields).head? ≠ some '\n' := by
  have field_ne :
      ∀ (field rest : List Char),
        rest.head? ≠ some '\n' →
        (writtenField field ++ rest).head? ≠ some '\n' := by
    intro field rest follows starts
    unfold writtenField at starts
    cases quotes : fieldNeedsQuotes field with
    | true =>
        rw [quotes, if_pos rfl] at starts
        simp at starts
    | false =>
        rw [quotes, if_neg Bool.false_ne_true] at starts
        cases field with
        | nil =>
            exact follows starts
        | cons first others =>
            have isNewline : first = '\n' := by simpa using starts
            exact harmless_of_fieldNeedsQuotes quotes first List.mem_cons_self
              (by simp [isNewline])
  cases fields with
  | nil =>
      simp [writeRecord]
  | cons field rest =>
      cases rest with
      | nil =>
          have ne := field_ne field [] (by simp)
          rwa [List.append_nil] at ne
      | cons next later =>
          exact field_ne field _ (by simp)

/-- Only a record without fields or with one empty field is written as nothing. -/
theorem writeRecord_eq_nil_iff (fields : List (List Char)) :
    writeRecord fields = [] ↔ fields = [] ∨ fields = [[]] := by
  cases fields with
  | nil =>
      simp [writeRecord]
  | cons field rest =>
      cases rest with
      | nil =>
          cases field with
          | nil =>
              simp [writeRecord, writtenField, fieldNeedsQuotes]
          | cons first others =>
              unfold writeRecord writtenField
              split <;> simp
      | cons next later =>
          simp [writeRecord]

theorem unreturned_eq_nil_iff {field : List Char} : unreturned field = [] ↔ field = [] := by
  induction field with
  | nil =>
      exact iff_of_true rfl rfl
  | cons first later inductionHypothesis =>
      refine iff_of_false ?_ (List.cons_ne_nil _ _)
      rw [unreturned]
      split
      · rename_i returned
        intro empty
        rw [inductionHypothesis.mp empty] at returned
        cases returned.2
      · exact List.cons_ne_nil _ _

/-- What is read of a written record. -/
theorem readRecord_writeRecord (fields : List (List Char)) :
    readRecord (writeRecord fields) =
      if fields = [] ∨ fields = [[]] then
        .error .endOfFile
      else
        .ok (fields.map unreturned) := by
  have starts := head?_writeRecord_ne (fields.map unreturned)
  have nothing := writeRecord_eq_nil_iff (fields.map unreturned)
  have sameKind :
      (fields.map unreturned = [] ∨ fields.map unreturned = [[]]) ↔
        (fields = [] ∨ fields = [[]]) := by
    simp [List.map_eq_cons_iff, unreturned_eq_nil_iff]
  rw [sameKind] at nothing
  unfold readRecord
  rw [normalizeLines_writeRecord]
  cases written : writeRecord (fields.map unreturned) with
  | nil =>
      rw [if_pos (nothing.mp written)]
      rfl
  | cons first rest =>
      rw [written] at starts nothing
      have kept : ¬ (first = '\n') := by simpa using starts
      dsimp only
      rw [List.dropWhile_cons, if_neg (by simpa using kept)]
      have notNothing := nothing.not.mp (List.cons_ne_nil _ _)
      rw [if_neg notNothing]
      dsimp only
      have present : fields.map unreturned ≠ [] := fun empty =>
        notNothing (sameKind.mp (.inl empty))
      rw [← written, readFields_writeRecord present]
      rfl

end RoundTrip

section Plain

/-- Without quotes and line breaks the fields are the parts between the commas. -/
theorem readFields_unquoted
    {text : List Char}
    (noQuote : '"' ∉ text)
    (noNewline : '\n' ∉ text) :
    readFields .start [] text = .ok (text.splitOn ',') ∧
      ∀ before,
        readFields .plain before text =
          .ok ((text.splitOn ',').modifyHead (before.reverse ++ ·)) := by
  induction text with
  | nil =>
      exact ⟨rfl, fun before => by simp [readFields]⟩
  | cons next rest inductionHypothesis =>
      rw [List.mem_cons, not_or] at noQuote noNewline
      obtain ⟨starts, goesOn⟩ := inductionHypothesis noQuote.2 noNewline.2
      rw [readFields, if_neg (Ne.symm noQuote.1), if_neg (Ne.symm noNewline.1), starts,
        List.splitOn_cons_eq_if_modifyHead]
      by_cases comma : next = ','
      · rw [if_pos comma, if_pos (beq_iff_eq.mpr comma)]
        refine ⟨rfl, fun before => ?_⟩
        rw [readFields, if_neg (Ne.symm noQuote.1), if_pos comma, starts]
        simp [Except.map]
      · rw [if_neg comma, if_neg (beq_iff_eq.not.mpr comma), goesOn]
        cases fields : rest.splitOn ',' with
        | nil =>
            exact (List.splitOn_ne_nil ',' rest fields).elim
        | cons field later =>
            refine ⟨rfl, fun before => ?_⟩
            rw [readFields, if_neg (Ne.symm noQuote.1), if_neg comma,
              if_neg (Ne.symm noNewline.1), goesOn, fields]
            simp

/-- A text without quotes and line breaks is split at its commas. -/
theorem readRecord_unquoted
    {text : List Char}
    (nonempty : text ≠ [])
    (noQuote : '"' ∉ text)
    (noReturn : '\r' ∉ text)
    (noNewline : '\n' ∉ text) :
    readRecord text = .ok (text.splitOn ',') := by
  have normal : normalizeLines text = text := by
    have kept := normalizeLines_append noReturn []
    rw [List.append_nil] at kept
    rw [kept]
    exact List.append_nil _
  unfold readRecord
  rw [normal]
  cases text with
  | nil =>
      exact (nonempty rfl).elim
  | cons first rest =>
      have kept : ¬ (first = '\n') := fun isNewline =>
        noNewline (isNewline ▸ List.mem_cons_self)
      dsimp only
      rw [List.dropWhile_cons, if_neg (by simpa using kept)]
      dsimp only
      rw [(readFields_unquoted noQuote noNewline).1]
      rfl

/-- A quote that is never closed is missed at the end. -/
example :
    readRecord ['\n', '"', 'a', '\n', 'b'] =
      .error (.parseError 2 { line := 3, column := 2 } .quote) := by
  decide

end Plain

end Csv

end HarvesterCloudProvider
