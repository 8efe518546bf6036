import Mathlib.Data.List.TakeWhile

namespace NestBackend

/-!
# `application/x-www-form-urlencoded`

The standard parser: pieces between ampersands, each split at its first equals
sign, with `+` for a space and `%XX` for a byte.  Decoding undoes an encoding,
and a text that nobody encoded survives it only where there is nothing to
decode.
-/

namespace FormUrlEncoded

/-! ## Bytes to characters -/

/-- U+FFFD, which stands for bytes that are not UTF-8. -/
def replacementChar : Char := Char.ofNat 0xFFFD

/--
A UTF-8 sequence under way: how many bytes are missing, the code point so far,
and the bounds of the next byte.
-/
structure Utf8Sequence where
  missing : Nat
  codePoint : Nat
  lower : Nat
  upper : Nat
  deriving DecidableEq, Repr

/-- What a byte starts where no sequence is under way. -/
def startByte (byte : Nat) : Char ⊕ Utf8Sequence :=
  if byte ≤ 0x7F then
    .inl (Char.ofNat byte)
  else if 0xC2 ≤ byte ∧ byte ≤ 0xDF then
    .inr ⟨1, byte - 0xC0, 0x80, 0xBF⟩
  else if 0xE0 ≤ byte ∧ byte ≤ 0xEF then
    .inr ⟨2, byte - 0xE0, if byte = 0xE0 then 0xA0 else 0x80,
      if byte = 0xED then 0x9F else 0xBF⟩
  else if 0xF0 ≤ byte ∧ byte ≤ 0xF4 then
    .inr ⟨3, byte - 0xF0, if byte = 0xF0 then 0x90 else 0x80,
      if byte = 0xF4 then 0x8F else 0xBF⟩
  else
    .inl replacementChar

/--
UTF-8 decode without byte order mark.  A byte out of bounds ends the sequence
with a replacement character and is then read on its own.
-/
def utf8Decode : Option Utf8Sequence → List Nat → List Char
  | none, [] => []
  | some _, [] => [replacementChar]
  | none, byte :: rest =>
      match startByte byte with
      | .inl char => char :: utf8Decode none rest
      | .inr started => utf8Decode (some started) rest
  | some sequence, byte :: rest =>
      if sequence.lower ≤ byte ∧ byte ≤ sequence.upper then
        if sequence.missing = 1 then
          Char.ofNat (sequence.codePoint * 64 + (byte - 0x80)) ::
            utf8Decode none rest
        else
          utf8Decode
            (some ⟨sequence.missing - 1,
              sequence.codePoint * 64 + (byte - 0x80), 0x80, 0xBF⟩)
            rest
      else
        replacementChar ::
          match startByte byte with
          | .inl char => char :: utf8Decode none rest
          | .inr started => utf8Decode (some started) rest

/-- Every character takes a byte, or the sequence that was under way. -/
theorem length_utf8Decode_le
    (bytes : List Nat)
    (sequence : Option Utf8Sequence) :
    (utf8Decode sequence bytes).length ≤
      bytes.length + if sequence.isSome then 1 else 0 := by
  induction bytes generalizing sequence with
  | nil =>
      cases sequence with
      | none => exact Nat.le_refl _
      | some sequence => exact Nat.le_refl _
  | cons byte rest inductionHypothesis =>
      have idle := inductionHypothesis none
      have busy := fun started => inductionHypothesis (some started)
      simp only [Option.isSome_none, Option.isSome_some,
        Bool.false_eq_true, ↓reduceIte] at idle busy
      cases sequence with
      | none =>
          simp only [utf8Decode, List.length_cons]
          cases startByte byte with
          | inl char => simpa using idle
          | inr started => simpa using busy started
      | some sequence =>
          simp only [utf8Decode, List.length_cons]
          split
          · split
            · simp only [List.length_cons, Option.isSome_some, ↓reduceIte]
              omega
            · have later :=
                busy
                  ⟨sequence.missing - 1,
                    sequence.codePoint * 64 + (byte - 0x80), 0x80, 0xBF⟩
              simp only [Option.isSome_some, ↓reduceIte]
              omega
          · cases startByte byte with
            | inl char =>
                simp only [List.length_cons, Option.isSome_some,
                  ↓reduceIte]
                omega
            | inr started =>
                have later := busy started
                simp only [List.length_cons, Option.isSome_some,
                  ↓reduceIte]
                omega

/-! ## Decoding -/

/-- The value of a hexadecimal digit. -/
def hexValue? (char : Char) : Option Nat :=
  if char.isDigit then some (char.toNat - '0'.toNat)
  else if 'a' ≤ char ∧ char ≤ 'f' then some (char.toNat - 'a'.toNat + 10)
  else if 'A' ≤ char ∧ char ≤ 'F' then some (char.toNat - 'A'.toNat + 10)
  else none

/-- The byte that two hexadecimal digits stand for. -/
def byte? (high low : Char) : Option Nat :=
  (hexValue? high).bind fun upper =>
    (hexValue? low).map fun lower => 16 * upper + lower

/-- A plus sign stands for a space. -/
def plusToSpace (char : Char) : Char :=
  if char = '+' then ' ' else char

/--
Decode the rest of a text, after some bytes.  No character outside `%XX`
continues a UTF-8 sequence, so the bytes can be decoded where a run of them
ends.
-/
def decodeAfter (bytes : List Nat) : List Char → List Char
  | [] => utf8Decode none bytes
  | '%' :: high :: low :: rest =>
      match byte? high low with
      | some byte => decodeAfter (bytes ++ [byte]) rest
      | none =>
          utf8Decode none bytes ++
            '%' :: decodeAfter [] (high :: low :: rest)
  | char :: rest =>
      utf8Decode none bytes ++ plusToSpace char :: decodeAfter [] rest

/-- `+` to space, then percent-decoding, then UTF-8 decoding. -/
def decode (text : List Char) : List Char :=
  decodeAfter [] text

/-- Whether a `%` is followed by two hexadecimal digits somewhere. -/
def hasEscape : List Char → Bool
  | [] => false
  | '%' :: high :: low :: rest =>
      (byte? high low).isSome || hasEscape (high :: low :: rest)
  | _ :: rest => hasEscape rest

/-- There is nothing to decode in the text. -/
structure Verbatim (text : List Char) : Prop where
  noPlus : '+' ∉ text
  noEscape : hasEscape text = false

example :
    decode "a+b%2B%E2%82%AC%E2%82c%zz%".toList =
      "a b+€\uFFFDc%zz%".toList := by
  decide +kernel

/-- Decoding makes no text longer. -/
theorem length_decodeAfter_le
    (bytes : List Nat)
    (text : List Char) :
    (decodeAfter bytes text).length ≤ bytes.length + text.length := by
  have flushed := fun pending => length_utf8Decode_le pending none
  simp only [Option.isSome_none, Bool.false_eq_true, ↓reduceIte,
    Nat.add_zero] at flushed
  induction bytes, text using decodeAfter.induct with
  | case1 bytes => simpa [decodeAfter] using flushed bytes
  | case2 bytes high low rest byte found inductionHypothesis =>
      simp only [decodeAfter, found, List.length_cons]
      simp only [List.length_append, List.length_singleton]
        at inductionHypothesis
      omega
  | case3 bytes high low rest notFound inductionHypothesis =>
      have here := flushed bytes
      simp only [decodeAfter, notFound, List.length_append,
        List.length_cons, List.length_nil] at inductionHypothesis ⊢
      omega
  | case4 bytes char rest notEscape inductionHypothesis =>
      have here := flushed bytes
      rw [decodeAfter.eq_3 bytes char rest notEscape]
      simp only [List.length_append, List.length_cons, List.length_nil]
        at inductionHypothesis ⊢
      omega

/-- A text with an escape gets shorter. -/
theorem length_decodeAfter_lt
    (bytes : List Nat)
    {text : List Char}
    (escape : hasEscape text = true) :
    (decodeAfter bytes text).length < bytes.length + text.length := by
  have flushed := fun pending => length_utf8Decode_le pending none
  simp only [Option.isSome_none, Bool.false_eq_true, ↓reduceIte,
    Nat.add_zero] at flushed
  induction bytes, text using decodeAfter.induct with
  | case1 bytes => simp [hasEscape] at escape
  | case2 bytes high low rest byte found inductionHypothesis =>
      have later := length_decodeAfter_le (bytes ++ [byte]) rest
      simp only [decodeAfter, found, List.length_cons]
      simp only [List.length_append, List.length_singleton] at later
      omega
  | case3 bytes high low rest notFound inductionHypothesis =>
      have here := flushed bytes
      simp only [hasEscape, notFound, Option.isSome_none,
        Bool.false_or] at escape
      have later := inductionHypothesis escape
      simp only [decodeAfter, notFound, List.length_append,
        List.length_cons, List.length_nil] at later ⊢
      omega
  | case4 bytes char rest notEscape inductionHypothesis =>
      have here := flushed bytes
      rw [hasEscape.eq_3 char rest notEscape] at escape
      have later := inductionHypothesis escape
      rw [decodeAfter.eq_3 bytes char rest notEscape]
      simp only [List.length_append, List.length_cons, List.length_nil]
        at later ⊢
      omega

/-- Without an escape only the plus signs change. -/
theorem decodeAfter_of_noEscape
    (bytes : List Nat)
    {text : List Char}
    (noEscape : hasEscape text = false) :
    decodeAfter bytes text =
      utf8Decode none bytes ++ text.map plusToSpace := by
  induction bytes, text using decodeAfter.induct with
  | case1 bytes => simp [decodeAfter]
  | case2 bytes high low rest byte found inductionHypothesis =>
      simp [hasEscape, found] at noEscape
  | case3 bytes high low rest notFound inductionHypothesis =>
      simp only [hasEscape, notFound, Option.isSome_none,
        Bool.false_or] at noEscape
      have percent :
          List.map plusToSpace ('%' :: high :: low :: rest) =
            '%' :: List.map plusToSpace (high :: low :: rest) :=
        rfl
      rw [decodeAfter]
      simp only [notFound]
      rw [inductionHypothesis noEscape, percent]
      rfl
  | case4 bytes char rest notEscape inductionHypothesis =>
      rw [hasEscape.eq_3 char rest notEscape] at noEscape
      rw [decodeAfter.eq_3 bytes char rest notEscape,
        inductionHypothesis noEscape, List.map_cons]
      rfl

/-- A decoded text is no longer than what it was read from. -/
theorem length_decode_le
    (text : List Char) :
    (decode text).length ≤ text.length := by
  simpa [decode] using length_decodeAfter_le [] text

/-- A text is read as itself exactly when there is nothing to decode in it. -/
theorem decode_eq_self_iff
    {text : List Char} :
    decode text = text ↔ Verbatim text := by
  cases escape : hasEscape text with
  | true =>
      have shorter := length_decodeAfter_lt [] escape
      constructor
      · intro same
        unfold decode at same
        rw [same] at shorter
        simp at shorter
      · rintro ⟨-, noEscape⟩
        rw [escape] at noEscape
        cases noEscape
  | false =>
      have read : decode text = text.map plusToSpace :=
        decodeAfter_of_noEscape [] escape
      rw [read]
      constructor
      · intro same
        refine ⟨?_, escape⟩
        intro member
        rw [← same] at member
        obtain ⟨char, -, becomesPlus⟩ := List.mem_map.mp member
        unfold plusToSpace at becomesPlus
        split at becomesPlus
        · exact absurd becomesPlus (by decide)
        · contradiction
      · rintro ⟨noPlus, -⟩
        refine (List.map_congr_left ?_).trans (List.map_id text)
        intro char member
        have notPlus : char ≠ '+' := by
          rintro rfl
          exact noPlus member
        exact if_neg notPlus

/-! ## Fields -/

/-- One piece: its name and its value, which is empty without a sign. -/
def readField (piece : List Char) : List Char × List Char :=
  (decode (piece.takeWhile (fun char => char != '=')),
    decode ((piece.dropWhile (fun char => char != '=')).drop 1))

/-- The pieces that are not empty, each read as a field. -/
def parse (text : List Char) : List (List Char × List Char) :=
  ((text.splitOn '&').filter (fun piece => !piece.isEmpty)).map readField

/-- A field written as it is, with nothing encoded. -/
def writeField (field : List Char × List Char) : List Char :=
  field.1 ++ '=' :: field.2

/-- A field that is read back when it is written as it is. -/
structure PlainField (field : List Char × List Char) : Prop where
  nameVerbatim : Verbatim field.1
  valueVerbatim : Verbatim field.2
  noSign : '=' ∉ field.1
  noAmpersand : '&' ∉ field.1 ∧ '&' ∉ field.2

/-- The length of a field without its sign. -/
def fieldSize (field : List Char × List Char) : Nat :=
  field.1.length + field.2.length

/-- A piece is no shorter than its field, and its sign is not part of it. -/
theorem fieldSize_readField_le
    (piece : List Char) :
    fieldSize (readField piece) ≤ piece.length ∧
      ('=' ∈ piece → fieldSize (readField piece) < piece.length) := by
  have name :=
    length_decode_le (piece.takeWhile (fun char => char != '='))
  have value :=
    length_decode_le ((piece.dropWhile (fun char => char != '=')).drop 1)
  have both :
      (piece.takeWhile (fun char => char != '=')).length +
          (piece.dropWhile (fun char => char != '=')).length =
        piece.length := by
    rw [← List.length_append, List.takeWhile_append_dropWhile]
  rw [List.length_drop] at value
  simp only [fieldSize, readField]
  refine ⟨by omega, ?_⟩
  intro sign
  have remains : piece.dropWhile (fun char => char != '=') ≠ [] := by
    intro none
    have allOther := List.dropWhile_eq_nil_iff.mp none '=' sign
    simp at allOther
  have positive := List.length_pos_iff.mpr remains
  omega

/-- The first field comes from what stands before the first ampersand. -/
theorem parse_append
    {piece : List Char}
    (noAmpersand : '&' ∉ piece)
    (nonempty : piece ≠ [])
    (rest : List Char) :
    parse (piece ++ '&' :: rest) = readField piece :: parse rest := by
  unfold parse
  rw [List.splitOn_append_cons_self_of_not_mem noAmpersand]
  simp [nonempty]

/-- Without an ampersand there is one field. -/
theorem parse_single
    {piece : List Char}
    (noAmpersand : '&' ∉ piece)
    (nonempty : piece ≠ []) :
    parse piece = [readField piece] := by
  unfold parse
  rw [List.splitOn_eq_singleton noAmpersand]
  simp [nonempty]

/-- An ampersand at the front is skipped. -/
theorem parse_ampersand
    (rest : List Char) :
    parse ('&' :: rest) = parse rest := by
  unfold parse
  rw [List.splitOn_cons_eq_if_modifyHead]
  simp

/-- What follows a text: nothing, or something after an ampersand. -/
def Follows (tail : List Char) : Prop :=
  tail = [] ∨ ∃ rest, tail = '&' :: rest

/-- A piece without an ampersand is one field, whatever follows it. -/
theorem Follows.parse
    {tail piece : List Char}
    (follows : Follows tail)
    (noAmpersand : '&' ∉ piece)
    (nonempty : piece ≠ []) :
    ∃ rest, FormUrlEncoded.parse (piece ++ tail) = readField piece :: rest := by
  rcases follows with rfl | ⟨rest, rfl⟩
  · rw [List.append_nil, parse_single noAmpersand nonempty]
    exact ⟨[], rfl⟩
  · rw [parse_append noAmpersand nonempty]
    exact ⟨_, rfl⟩

/--
A text with an ampersand and a sign is broken up: its first field falls short
of the text by more than the sign.
-/
theorem parse_broken
    {text tail : List Char}
    (follows : Follows tail)
    (sign : '=' ∈ text)
    (ampersand : '&' ∈ text) :
    ∃ field rest,
      parse (text ++ tail) = field :: rest ∧
        fieldSize field + 1 < text.length := by
  induction text with
  | nil => cases sign
  | cons head text inductionHypothesis =>
      by_cases leading : head = '&'
      · subst leading
        rw [List.cons_append, parse_ampersand, List.length_cons]
        have laterSign : '=' ∈ text :=
          (List.mem_cons.mp sign).resolve_left (by decide)
        by_cases again : '&' ∈ text
        · obtain ⟨field, rest, parsed, short⟩ :=
            inductionHypothesis laterSign again
          exact ⟨field, rest, parsed, by omega⟩
        · have nonempty : text ≠ [] := List.ne_nil_of_mem laterSign
          have short := (fieldSize_readField_le text).2 laterSign
          obtain ⟨rest, parsed⟩ := follows.parse again nonempty
          exact ⟨readField text, rest, parsed, by omega⟩
      · obtain ⟨piece, after, split, noAmpersand⟩ :=
          List.eq_append_cons_of_mem ampersand
        have nonempty : piece ≠ [] := by
          rintro rfl
          exact leading (List.cons.inj split).1
        have parsed := parse_append noAmpersand nonempty (after ++ tail)
        refine ⟨readField piece, parse (after ++ tail), ?_, ?_⟩
        · rw [split, List.append_assoc, List.cons_append, parsed]
        · obtain ⟨short, shorter⟩ := fieldSize_readField_le piece
          have whole := congrArg List.length split
          rw [List.length_append, List.length_cons, List.length_cons]
            at whole
          rw [List.length_cons]
          rw [split] at sign
          rcases List.mem_append.mp sign with inPiece | inAfter
          · have strict := shorter inPiece
            omega
          · have later : '=' ∈ after :=
              (List.mem_cons.mp inAfter).resolve_left (by decide)
            have positive := List.length_pos_of_mem later
            omega

/-- No character of a text without a sign is the sign. -/
theorem ne_of_noSign
    {text : List Char}
    (noSign : '=' ∉ text) :
    ∀ char ∈ text, (char != '=') = true := by
  intro char member
  have different : char ≠ '=' := by
    rintro rfl
    exact noSign member
  simpa using different

/-- Reading what was written: one field. -/
theorem readField_writeField_iff
    {field : List Char × List Char} :
    readField (writeField field) = field ↔
      Verbatim field.1 ∧ Verbatim field.2 ∧ '=' ∉ field.1 := by
  obtain ⟨name, value⟩ := field
  by_cases sign : '=' ∈ name
  · constructor
    · intro same
      have shorter :
          ((name ++ '=' :: value).takeWhile
              (fun char => char != '=')).length <
            name.length := by
        obtain ⟨before, after, rfl, absent⟩ :=
          List.eq_append_cons_of_mem sign
        rw [List.append_assoc, List.cons_append,
          List.takeWhile_append_of_pos (ne_of_noSign absent)]
        simp
      have read := congrArg (List.length ∘ Prod.fst) same
      have decoded :=
        length_decode_le
          ((name ++ '=' :: value).takeWhile (fun char => char != '='))
      simp only [readField, writeField, Function.comp_apply] at read
      omega
    · rintro ⟨-, -, noSign⟩
      exact absurd sign noSign
  · have read :
        readField (writeField (name, value)) =
          (decode name, decode value) := by
      simp only [readField, writeField]
      rw [List.takeWhile_append_of_pos (ne_of_noSign sign),
        List.dropWhile_append_of_pos (ne_of_noSign sign)]
      simp
    rw [read, Prod.mk.injEq, decode_eq_self_iff, decode_eq_self_iff]
    simp only [sign, not_false_eq_true, and_true]

/-- Fields written as they are, between ampersands. -/
def writeFields (fields : List (List Char × List Char)) : List Char :=
  ['&'].intercalate (fields.map writeField)

/-- The first field, and the others after an ampersand each. -/
theorem writeFields_cons
    (field : List Char × List Char)
    (rest : List (List Char × List Char)) :
    writeFields (field :: rest) =
      writeField field ++
        rest.flatMap (fun other => '&' :: writeField other) := by
  induction rest generalizing field with
  | nil => simp [writeFields]
  | cons next others inductionHypothesis =>
      have shape :
          writeFields (field :: next :: others) =
            writeField field ++ '&' :: writeFields (next :: others) := by
        simp [writeFields, List.intercalate_cons_cons]
      rw [shape, inductionHypothesis next]
      simp

/-- What is read of a first piece, and of the fields written after it. -/
theorem parse_piece
    {piece : List Char}
    (noAmpersand : '&' ∉ piece)
    (nonempty : piece ≠ [])
    (rest : List (List Char × List Char)) :
    parse
        (piece ++ rest.flatMap (fun other => '&' :: writeField other)) =
      readField piece :: parse (writeFields rest) := by
  cases rest with
  | nil =>
      rw [List.flatMap_nil, List.append_nil,
        parse_single noAmpersand nonempty]
      rfl
  | cons next others =>
      rw [writeFields_cons, List.flatMap_cons, List.cons_append]
      exact parse_append noAmpersand nonempty _

/-- Something follows the first field, or nothing. -/
theorem follows_flatMap
    (rest : List (List Char × List Char)) :
    Follows (rest.flatMap (fun other => '&' :: writeField other)) := by
  cases rest with
  | nil => exact .inl rfl
  | cons next others => exact .inr ⟨_, List.flatMap_cons⟩

/-- There is no ampersand in what is written of a field. -/
theorem ampersand_notMem_writeField_iff
    {field : List Char × List Char} :
    '&' ∉ writeField field ↔ '&' ∉ field.1 ∧ '&' ∉ field.2 := by
  simp [writeField]

/--
Fields that are written as they are and read back are the same exactly when
each of them is plain.
-/
theorem parse_writeFields_iff
    {fields : List (List Char × List Char)} :
    parse (writeFields fields) = fields ↔
      ∀ field ∈ fields, PlainField field := by
  induction fields with
  | nil => simp [writeFields, parse]
  | cons field rest inductionHypothesis =>
      have nonempty : writeField field ≠ [] := by simp [writeField]
      rw [writeFields_cons, List.forall_mem_cons]
      by_cases ampersand : '&' ∈ writeField field
      · constructor
        · intro same
          obtain ⟨first, others, broken, short⟩ :=
            parse_broken (follows_flatMap rest) (by simp [writeField])
              ampersand
          rw [broken] at same
          obtain ⟨rfl, -⟩ := List.cons.inj same
          simp only [writeField, fieldSize, List.length_append,
            List.length_cons] at short
          omega
        · rintro ⟨plain, -⟩
          exact
            (ampersand_notMem_writeField_iff.mpr plain.noAmpersand
              ampersand).elim
      · rw [parse_piece ampersand nonempty, List.cons.injEq,
          inductionHypothesis, readField_writeField_iff]
        have separate := ampersand_notMem_writeField_iff.mp ampersand
        constructor
        · rintro ⟨⟨name, value, noSign⟩, others⟩
          exact ⟨⟨name, value, noSign, separate⟩, others⟩
        · rintro ⟨plain, others⟩
          exact
            ⟨⟨plain.nameVerbatim, plain.valueVerbatim, plain.noSign⟩,
              others⟩

end FormUrlEncoded

end NestBackend
