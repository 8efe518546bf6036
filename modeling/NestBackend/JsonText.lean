import NestBackend.JavaScript

namespace NestBackend

namespace JavaScript

/-!
# JSON texts

The texts that `JSON.stringify` writes and `JSON.parse` reads.  A text has its
properties in some order and a value has not, so a text is written from a tree
that keeps the order, and what is read is the value of a tree.  Reading what has
been written gives the value back.

A number is written as its own text.  Read from other texts, a number that is
not whole keeps the literal that it was read from.
-/

/-- A JSON value with its properties in the order of their definition. -/
inductive JsonTree where
  | null
  | bool (value : Bool)
  | num (value : Rat) (text : String)
  | str (text : String)
  | arr (elements : List JsonTree)
  | obj (members : List (String × JsonTree))

namespace JsonTree

mutual

/-- The value without the order. -/
def value : JsonTree → Json
  | .null => .null
  | .bool value => .bool value
  | .num value text => .num value text
  | .str text => .str text
  | .arr elements => .arr (values elements)
  | .obj members => .obj (lookup members)

/-- The values of elements. -/
def values : List JsonTree → List Json
  | [] => []
  | element :: rest => element.value :: values rest

/-- The property lookup of an object; of two members the later one counts. -/
def lookup : List (String × JsonTree) → JsonObject
  | [] => fun _ => none
  | (name, member) :: rest => fun query =>
      (lookup rest query).or
        (if query = name then some member.value else none)

end

end JsonTree

/-! ## Writing -/

namespace JsonTree

/-- A control character as it is written: its code in four digits. -/
def escapedCode (char : Char) : List Char :=
  ['\\', 'u', '0', '0', Nat.digitChar (char.toNat / 16),
    Nat.digitChar (char.toNat % 16)]

/-- How one character of a string is written. -/
def escape (char : Char) : List Char :=
  match char.toNat with
  | 0x08 => ['\\', 'b']
  | 0x09 => ['\\', 't']
  | 0x0A => ['\\', 'n']
  | 0x0C => ['\\', 'f']
  | 0x0D => ['\\', 'r']
  | 0x22 => ['\\', '"']
  | 0x5C => ['\\', '\\']
  | code => if code < 0x20 then escapedCode char else [char]

/-- A string from its first quotation mark on. -/
def quoted (text : String) : List Char :=
  '"' :: text.toList.flatMap escape ++ ['"']

mutual

/-- The text of a value. -/
def text : JsonTree → List Char
  | .null => ['n', 'u', 'l', 'l']
  | .bool true => ['t', 'r', 'u', 'e']
  | .bool false => ['f', 'a', 'l', 's', 'e']
  | .num _ text => text.toList
  | .str text => quoted text
  | .arr [] => ['[', ']']
  | .arr (element :: rest) => '[' :: element.text ++ elementsText rest
  | .obj [] => ['{', '}']
  | .obj ((name, member) :: rest) =>
      '{' :: quoted name ++ ':' :: member.text ++ membersText rest

/-- The text of an array after one of its elements. -/
def elementsText : List JsonTree → List Char
  | [] => [']']
  | element :: rest => ',' :: element.text ++ elementsText rest

/-- The text of an object after one of its members. -/
def membersText : List (String × JsonTree) → List Char
  | [] => ['}']
  | (name, member) :: rest =>
      ',' :: quoted name ++ ':' :: member.text ++ membersText rest

end

end JsonTree

/-! ## Reading -/

namespace JsonTree

/-- The white space of JSON. -/
def isSpace (char : Char) : Bool :=
  char == ' ' || char == '\t' || char == '\n' || char == '\r'

/-- The text from its first character on that is no white space. -/
def skipSpace (text : List Char) : List Char :=
  text.dropWhile isSpace

/-- What a mark after a backslash stands for. -/
def unescape? : Char → Option Char
  | 'b' => some (Char.ofNat 0x08)
  | 't' => some '\t'
  | 'n' => some '\n'
  | 'f' => some (Char.ofNat 0x0C)
  | 'r' => some '\r'
  | '"' => some '"'
  | '\\' => some '\\'
  | '/' => some '/'
  | _ => none

/--
The character with a code in hexadecimal digits.  Half of a surrogate pair is
no character of its own.
-/
def ofCode? (digits : List Char) : Option Char :=
  if digits.all (fun digit => digitValue digit < 16) then
    if 0xD800 ≤ digitsValue 16 digits ∧ digitsValue 16 digits ≤ 0xDFFF then
      some (Char.ofNat 0xFFFD)
    else
      some (Char.ofNat (digitsValue 16 digits))
  else
    none

/-- The rest of a string after its first quotation mark, and what follows. -/
def readChars : List Char → Option (List Char × List Char)
  | [] => none
  | '"' :: rest => some ([], rest)
  | '\\' :: 'u' :: first :: second :: third :: fourth :: rest =>
      match ofCode? [first, second, third, fourth], readChars rest with
      | some char, some (chars, after) => some (char :: chars, after)
      | _, _ => none
  | '\\' :: mark :: rest =>
      match unescape? mark, readChars rest with
      | some char, some (chars, after) => some (char :: chars, after)
      | _, _ => none
  | char :: rest =>
      if char.toNat < 0x20 then
        none
      else
        match readChars rest with
        | some (chars, after) => some (char :: chars, after)
        | none => none

/-- The characters that a number is made of. -/
def isNumberChar (char : Char) : Bool :=
  char.isDigit || char == '-' || char == '+' || char == '.' ||
    char == 'e' || char == 'E'

/-- Digits, and at least one. -/
def isDigits (text : List Char) : Bool :=
  text != [] && text.all Char.isDigit

/-- The exponent of a number, or nothing. -/
def isExponent : List Char → Bool
  | [] => true
  | mark :: rest =>
      (mark == 'e' || mark == 'E') &&
        match rest with
        | '-' :: digits => isDigits digits
        | '+' :: digits => isDigits digits
        | digits => isDigits digits

/-- A number without its sign: no zero in front, digits around the point. -/
def isUnsigned (text : List Char) : Bool :=
  let whole := text.takeWhile Char.isDigit
  whole != [] && (whole.length == 1 || whole.head? != some '0') &&
    match text.dropWhile Char.isDigit with
    | '.' :: rest =>
        rest.takeWhile Char.isDigit != [] &&
          isExponent (rest.dropWhile Char.isDigit)
    | rest => isExponent rest

/-- A number as JSON has it. -/
def isNumber : List Char → Bool
  | '-' :: rest => isUnsigned rest
  | text => isUnsigned text

/-- The text of a number that was read. -/
def numberText (value : Rat) (literal : String) : String :=
  if value.den = 1 then toString value.num else literal

/-- A number and what follows it. -/
def readNumber (text : List Char) : Option (JsonTree × List Char) :=
  let literal := text.takeWhile isNumberChar
  if isNumber literal then
    match stringToNumber (String.ofList literal) with
    | .finite value =>
        some (.num value (numberText value (String.ofList literal)),
          text.dropWhile isNumberChar)
    | _ => none
  else
    none

mutual

/--
A value and what follows it.  Each nested call has one character less before it,
so a text has fuel enough in its own length.
-/
def readValue : Nat → List Char → Option (JsonTree × List Char)
  | 0, _ => none
  | fuel + 1, text =>
      match skipSpace text with
      | 'n' :: 'u' :: 'l' :: 'l' :: rest => some (.null, rest)
      | 't' :: 'r' :: 'u' :: 'e' :: rest => some (.bool true, rest)
      | 'f' :: 'a' :: 'l' :: 's' :: 'e' :: rest => some (.bool false, rest)
      | '"' :: rest =>
          (readChars rest).map fun read => (.str (String.ofList read.1), read.2)
      | '[' :: rest =>
          match skipSpace rest with
          | ']' :: after => some (.arr [], after)
          | _ => do
              let (element, after) ← readValue fuel rest
              let (elements, after) ← readElements fuel after
              some (.arr (element :: elements), after)
      | '{' :: rest =>
          match skipSpace rest with
          | '}' :: after => some (.obj [], after)
          | _ => do
              let (member, after) ← readMember fuel rest
              let (members, after) ← readMembers fuel after
              some (.obj (member :: members), after)
      | other => readNumber other

/-- The elements of an array after one of them. -/
def readElements : Nat → List Char → Option (List JsonTree × List Char)
  | 0, _ => none
  | fuel + 1, text =>
      match skipSpace text with
      | ']' :: after => some ([], after)
      | ',' :: rest => do
          let (element, after) ← readValue fuel rest
          let (elements, after) ← readElements fuel after
          some (element :: elements, after)
      | _ => none

/-- A name, a colon and a value. -/
def readMember : Nat → List Char → Option ((String × JsonTree) × List Char)
  | 0, _ => none
  | fuel + 1, text =>
      match skipSpace text with
      | '"' :: rest => do
          let (name, after) ← readChars rest
          match skipSpace after with
          | ':' :: rest =>
              let (member, after) ← readValue fuel rest
              some ((String.ofList name, member), after)
          | _ => none
      | _ => none

/-- The members of an object after one of them. -/
def readMembers :
    Nat → List Char → Option (List (String × JsonTree) × List Char)
  | 0, _ => none
  | fuel + 1, text =>
      match skipSpace text with
      | '}' :: after => some ([], after)
      | ',' :: rest => do
          let (member, after) ← readMember fuel rest
          let (members, after) ← readMembers fuel after
          some (member :: members, after)
      | _ => none

end

end JsonTree

/-- `JSON.parse`; nothing where it throws. -/
def parseJson (text : String) : Option Json :=
  match JsonTree.readValue (text.length + 1) text.toList with
  | some (tree, rest) =>
      if JsonTree.skipSpace rest = [] then some tree.value else none
  | none => none

/-! ## What has been written is read back -/

namespace JsonTree

variable {rest : List Char}

/-- The text of a number: it is one, and a whole number is its digits. -/
structure NumberText (value : Rat) (text : String) : Prop where
  isNumber : JsonTree.isNumber text.toList = true
  chars : ∀ char ∈ text.toList, isNumberChar char = true
  number : stringToNumber text = .finite value
  whole : value.den = 1 → text = toString value.num

mutual

/-- The numbers are written as numbers, and no name is there twice. -/
def Writable : JsonTree → Prop
  | .num value text => NumberText value text
  | .arr elements => AllWritable elements
  | .obj members => (members.map Prod.fst).Nodup ∧ MembersWritable members
  | _ => True

/-- The same of elements. -/
def AllWritable : List JsonTree → Prop
  | [] => True
  | element :: rest => element.Writable ∧ AllWritable rest

/-- The same of members. -/
def MembersWritable : List (String × JsonTree) → Prop
  | [] => True
  | (_, member) :: rest => member.Writable ∧ MembersWritable rest

end

/-- Nothing of a number follows. -/
def Ends (rest : List Char) : Prop :=
  ∀ char tail, rest = char :: tail → isNumberChar char = false

/-- A character with a code. -/
theorem eq_ofNat
    {char : Char}
    {code : Nat}
    (same : char.toNat = code) :
    char = Char.ofNat code := by
  rw [← same, Char.ofNat_toNat]

/-- A control character is read from its code. -/
theorem ofCode?_escaped :
    ∀ code < 0x20,
      ofCode? ['0', '0', Nat.digitChar (code / 16),
          Nat.digitChar (code % 16)] =
        some (Char.ofNat code) := by
  decide

/-- A character that is written plainly is read as itself. -/
theorem readChars_plain
    {char : Char}
    (noMark : char.toNat ≠ 0x22)
    (noBackslash : char.toNat ≠ 0x5C)
    (noControl : ¬ char.toNat < 0x20) :
    readChars (char :: rest) =
      (readChars rest).map fun read => (char :: read.1, read.2) := by
  have notMark : char ≠ '"' := by
    rintro rfl
    exact noMark rfl
  have notBackslash : char ≠ '\\' := by
    rintro rfl
    exact noBackslash rfl
  rw [readChars.eq_def]
  split
  · rename_i nothing
    cases nothing
  · rename_i same
    exact absurd (List.cons.inj same).1 notMark
  · rename_i same
    exact absurd (List.cons.inj same).1 notBackslash
  · rename_i same
    exact absurd (List.cons.inj same).1 notBackslash
  · rename_i same
    obtain ⟨rfl, rfl⟩ := List.cons.inj same
    rw [if_neg noControl]
    cases readChars rest <;> rfl

/-- One character of a string is read back. -/
theorem readChars_escape (char : Char) :
    readChars (escape char ++ rest) =
      (readChars rest).map fun read => (char :: read.1, read.2) := by
  have marked :
      ∀ mark,
        mark ≠ 'u' →
        unescape? mark = some char →
          readChars ('\\' :: mark :: rest) =
            (readChars rest).map fun read => (char :: read.1, read.2) := by
    intro mark noCode meaning
    rw [readChars.eq_def]
    split
    · rename_i nothing
      cases nothing
    · rename_i same
      exact absurd (List.cons.inj same).1 (by decide)
    · rename_i same
      exact absurd (List.cons.inj (List.cons.inj same).2).1 noCode
    · rename_i same
      obtain ⟨rfl, rfl⟩ := List.cons.inj (List.cons.inj same).2
      rw [meaning]
      cases readChars rest <;> rfl
    · rename_i noEscape same
      obtain ⟨rfl, rfl⟩ := List.cons.inj same
      exact absurd rfl (noEscape _ _ rfl)
  unfold escape
  split
  · rename_i code
    exact marked 'b' (by decide) (congrArg some (eq_ofNat code).symm)
  · rename_i code
    exact marked 't' (by decide) (congrArg some (eq_ofNat code).symm)
  · rename_i code
    exact marked 'n' (by decide) (congrArg some (eq_ofNat code).symm)
  · rename_i code
    exact marked 'f' (by decide) (congrArg some (eq_ofNat code).symm)
  · rename_i code
    exact marked 'r' (by decide) (congrArg some (eq_ofNat code).symm)
  · rename_i code
    exact marked '"' (by decide) (congrArg some (eq_ofNat code).symm)
  · rename_i code
    exact marked '\\' (by decide) (congrArg some (eq_ofNat code).symm)
  · rename_i noMark noBackslash
    split
    · rename_i control
      have read := ofCode?_escaped char.toNat control
      rw [Char.ofNat_toNat] at read
      simp only [escapedCode, List.cons_append, List.nil_append]
      rw [readChars.eq_def]
      simp only [read]
      cases readChars rest <;> rfl
    · rename_i noControl
      exact readChars_plain noMark noBackslash noControl

/-- The characters of a string are read back. -/
theorem readChars_quoted (chars : List Char) :
    readChars (chars.flatMap escape ++ '"' :: rest) =
      some (chars, rest) := by
  induction chars with
  | nil => simp [readChars]
  | cons char later inductionHypothesis =>
      rw [List.flatMap_cons, List.append_assoc, readChars_escape,
        inductionHypothesis]
      rfl

/-! ### Numbers -/

/-- A number is read up to where nothing of it follows. -/
theorem readNumber_text
    {value : Rat}
    {text : String}
    (number : NumberText value text)
    (ends : Ends rest) :
    readNumber (text.toList ++ rest) =
      some (.num value text, rest) := by
  have noMore : rest.takeWhile isNumberChar = [] := by
    cases rest with
    | nil => rfl
    | cons char tail =>
        rw [List.takeWhile_cons_of_neg]
        simp [ends char tail rfl]
  have stays : rest.dropWhile isNumberChar = rest := by
    cases rest with
    | nil => rfl
    | cons char tail =>
        rw [List.dropWhile_cons_of_neg]
        simp [ends char tail rfl]
  have literal :
      (text.toList ++ rest).takeWhile isNumberChar = text.toList := by
    rw [List.takeWhile_append_of_pos number.chars, noMore, List.append_nil]
  have after : (text.toList ++ rest).dropWhile isNumberChar = rest := by
    rw [List.dropWhile_append_of_pos number.chars, stays]
  have itself : numberText value text = text := by
    unfold numberText
    split
    · rename_i isWhole
      exact (number.whole isWhole).symm
    · rfl
  unfold readNumber
  simp only [literal, after, number.isNumber, ↓reduceIte,
    String.ofList_toList, number.number, itself]

/-- What is no white space is not skipped. -/
theorem skipSpace_cons
    {char : Char}
    (noSpace : isSpace char = false) :
    skipSpace (char :: rest) = char :: rest := by
  unfold skipSpace
  rw [List.dropWhile_cons_of_neg]
  simp [noSpace]

/-- A number begins with a character of a number. -/
theorem NumberText.head
    {value : Rat}
    {text : String}
    (number : NumberText value text) :
    ∃ char later, text.toList = char :: later ∧ isNumberChar char = true := by
  cases shape : text.toList with
  | nil =>
      have isNumber := number.isNumber
      rw [shape] at isNumber
      exact absurd isNumber (by decide)
  | cons char later =>
      refine ⟨char, later, rfl, number.chars char ?_⟩
      rw [shape]
      exact List.mem_cons_self

/-- White space is in no number. -/
theorem noSpace_of_isNumberChar
    {char : Char}
    (isNumber : isNumberChar char = true) :
    isSpace char = false := by
  cases space : isSpace char with
  | false => rfl
  | true =>
      simp only [isSpace, Bool.or_eq_true, beq_iff_eq] at space
      rcases space with ((rfl | rfl) | rfl) | rfl <;>
        exact absurd isNumber (by decide)

/-- A number is read as a value. -/
theorem readValue_number
    {value : Rat}
    {text : String}
    (number : NumberText value text)
    (ends : Ends rest)
    (fuel : Nat) :
    readValue (fuel + 1) (text.toList ++ rest) =
      some (.num value text, rest) := by
  have read := readNumber_text number ends
  obtain ⟨char, later, shape, isNumber⟩ := number.head
  rw [shape, List.cons_append] at read ⊢
  have starts :
      ∀ {other : Char} {tail : List Char},
        skipSpace (char :: (later ++ rest)) = other :: tail →
          isNumberChar other = true := by
    intro other tail same
    rw [skipSpace_cons (noSpace_of_isNumberChar isNumber)] at same
    rw [← (List.cons.inj same).1]
    exact isNumber
  unfold readValue
  split
  · rename_i same
    exact absurd (starts same) (by decide)
  · rename_i same
    exact absurd (starts same) (by decide)
  · rename_i same
    exact absurd (starts same) (by decide)
  · rename_i same
    exact absurd (starts same) (by decide)
  · rename_i same
    exact absurd (starts same) (by decide)
  · rename_i same
    exact absurd (starts same) (by decide)
  · rw [skipSpace_cons (noSpace_of_isNumberChar isNumber)]
    exact read

/-! ### Values -/

/-- A text begins with a character that closes nothing and is no space. -/
theorem text_head
    {tree : JsonTree}
    (writable : tree.Writable) :
    ∃ char later,
      tree.text = char :: later ∧ isSpace char = false ∧ char ≠ ']' := by
  cases tree with
  | null => exact ⟨_, _, rfl, by decide, by decide⟩
  | bool value =>
      cases value <;> exact ⟨_, _, rfl, by decide, by decide⟩
  | num value text =>
      unfold Writable at writable
      obtain ⟨char, later, shape, isNumber⟩ := writable.head
      refine ⟨char, later, shape, noSpace_of_isNumberChar isNumber, ?_⟩
      rintro rfl
      exact absurd isNumber (by decide)
  | str text => exact ⟨_, _, rfl, by decide, by decide⟩
  | arr elements =>
      cases elements <;> exact ⟨_, _, rfl, by decide, by decide⟩
  | obj members =>
      cases members <;> exact ⟨_, _, rfl, by decide, by decide⟩

/-- A value in an array ends before the next element. -/
theorem ends_elementsText (elements : List JsonTree) :
    Ends (elementsText elements ++ rest) := by
  intro char tail same
  cases elements with
  | nil =>
      rw [← (List.cons.inj same).1]
      decide
  | cons element later =>
      rw [← (List.cons.inj same).1]
      decide

/-- A value in an object ends before the next member. -/
theorem ends_membersText (members : List (String × JsonTree)) :
    Ends (membersText members ++ rest) := by
  intro char tail same
  cases members with
  | nil =>
      rw [← (List.cons.inj same).1]
      decide
  | cons member later =>
      rw [← (List.cons.inj same).1]
      decide

/-- A string is read as a value. -/
theorem readValue_quoted (text : String) (fuel : Nat) :
    readValue (fuel + 1) (quoted text ++ rest) =
      some (.str text, rest) := by
  have shape :
      quoted text ++ rest =
        '"' :: (text.toList.flatMap escape ++ '"' :: rest) := by
    simp [quoted]
  rw [shape]
  change (readChars _).map _ = _
  rw [readChars_quoted, Option.map_some, String.ofList_toList]

/-- An array with elements is its first element and the others. -/
theorem readValue_array
    {text later : List Char}
    {char : Char}
    (shape : text = char :: later)
    (noSpace : isSpace char = false)
    (notClosed : char ≠ ']')
    (fuel : Nat) :
    readValue (fuel + 1) ('[' :: text) =
      (readValue fuel text).bind fun read =>
        (readElements fuel read.2).map fun others =>
          (.arr (read.1 :: others.1), others.2) := by
  have opened : skipSpace ('[' :: text) = '[' :: text :=
    skipSpace_cons rfl
  have inside : skipSpace text = char :: later := by
    rw [shape]
    exact skipSpace_cons noSpace
  rw [readValue.eq_def]
  simp only [opened, inside]
  split
  · rename_i closed
    exact absurd (List.cons.inj closed).1 notClosed
  · cases readValue fuel text with
    | none => rfl
    | some read =>
        simp only [Option.bind_eq_bind, Option.bind_some]
        cases readElements fuel read.2 <;> rfl

/-- An object with members is its first member and the others. -/
theorem readValue_object
    {text later : List Char}
    (shape : text = '"' :: later)
    (fuel : Nat) :
    readValue (fuel + 1) ('{' :: text) =
      (readMember fuel text).bind fun read =>
        (readMembers fuel read.2).map fun others =>
          (.obj (read.1 :: others.1), others.2) := by
  have opened : skipSpace ('{' :: text) = '{' :: text :=
    skipSpace_cons rfl
  have inside : skipSpace text = '"' :: later := by
    rw [shape]
    exact skipSpace_cons rfl
  rw [readValue.eq_def]
  simp only [opened, inside]
  cases readMember fuel text with
  | none => rfl
  | some read =>
      simp only [Option.bind_eq_bind, Option.bind_some]
      cases readMembers fuel read.2 <;> rfl

/-- A further element is read after its comma. -/
theorem readElements_comma
    (text : List Char)
    (fuel : Nat) :
    readElements (fuel + 1) (',' :: text) =
      (readValue fuel text).bind fun read =>
        (readElements fuel read.2).map fun others =>
          (read.1 :: others.1, others.2) := by
  have opened : skipSpace (',' :: text) = ',' :: text :=
    skipSpace_cons rfl
  rw [readElements.eq_def]
  simp only [opened]
  cases readValue fuel text with
  | none => rfl
  | some read =>
      simp only [Option.bind_eq_bind, Option.bind_some]
      cases readElements fuel read.2 <;> rfl

/-- A further member is read after its comma. -/
theorem readMembers_comma
    (text : List Char)
    (fuel : Nat) :
    readMembers (fuel + 1) (',' :: text) =
      (readMember fuel text).bind fun read =>
        (readMembers fuel read.2).map fun others =>
          (read.1 :: others.1, others.2) := by
  have opened : skipSpace (',' :: text) = ',' :: text :=
    skipSpace_cons rfl
  rw [readMembers.eq_def]
  simp only [opened]
  cases readMember fuel text with
  | none => rfl
  | some read =>
      simp only [Option.bind_eq_bind, Option.bind_some]
      cases readMembers fuel read.2 <;> rfl

/-- A quoted name and what follows it. -/
theorem quoted_append (name : String) :
    quoted name ++ rest =
      '"' :: (name.toList.flatMap escape ++ '"' :: rest) := by
  simp [quoted]

/-- A member is its name and its value. -/
theorem readMember_quoted
    (name : String)
    (text : List Char)
    (fuel : Nat) :
    readMember (fuel + 1) (quoted name ++ ':' :: text) =
      (readValue fuel text).map fun read => ((name, read.1), read.2) := by
  rw [quoted_append, readMember.eq_def]
  have opened :
      skipSpace
          ('"' :: (name.toList.flatMap escape ++ '"' :: ':' :: text)) =
        '"' :: (name.toList.flatMap escape ++ '"' :: ':' :: text) :=
    skipSpace_cons rfl
  have colon : skipSpace (':' :: text) = ':' :: text :=
    skipSpace_cons rfl
  simp only [opened, readChars_quoted, Option.bind_eq_bind,
    Option.bind_some, colon, String.ofList_toList]
  cases readValue fuel text <;> rfl

/-- With so much fuel every text that fits is read as it was written. -/
structure ReadsBack (fuel : Nat) : Prop where
  value :
    ∀ {tree : JsonTree} {rest : List Char},
      tree.Writable →
      Ends rest →
      tree.text.length ≤ fuel →
        readValue fuel (tree.text ++ rest) = some (tree, rest)
  elements :
    ∀ {elements : List JsonTree} {rest : List Char},
      AllWritable elements →
      (elementsText elements).length ≤ fuel →
        readElements fuel (elementsText elements ++ rest) =
          some (elements, rest)
  member :
    ∀ {name : String} {tree : JsonTree} {rest : List Char},
      tree.Writable →
      Ends rest →
      (quoted name ++ ':' :: tree.text).length ≤ fuel →
        readMember fuel (quoted name ++ ':' :: (tree.text ++ rest)) =
          some ((name, tree), rest)
  members :
    ∀ {members : List (String × JsonTree)} {rest : List Char},
      MembersWritable members →
      (membersText members).length ≤ fuel →
        readMembers fuel (membersText members ++ rest) =
          some (members, rest)

/-- A value is read with one unit more. -/
theorem ReadsBack.value_succ
    {fuel : Nat}
    (readsBack : ReadsBack fuel)
    {tree : JsonTree}
    (writable : tree.Writable)
    (ends : Ends rest)
    (enough : tree.text.length ≤ fuel + 1) :
    readValue (fuel + 1) (tree.text ++ rest) = some (tree, rest) := by
  cases tree with
  | null => rfl
  | bool value => cases value <;> rfl
  | num value text =>
      unfold Writable at writable
      exact readValue_number writable ends fuel
  | str text => exact readValue_quoted text fuel
  | arr elements =>
      cases elements with
      | nil => rfl
      | cons element others =>
          unfold Writable AllWritable at writable
          obtain ⟨char, later, shape, noSpace, notClosed⟩ :=
            text_head writable.1
          simp only [text, List.cons_append, List.append_assoc,
            List.length_cons, List.length_append] at enough ⊢
          rw [readValue_array (by rw [shape]; rfl) noSpace notClosed,
            readsBack.value writable.1 (ends_elementsText others)
              (by omega),
            Option.bind_some,
            readsBack.elements writable.2 (by omega)]
          rfl
  | obj members =>
      cases members with
      | nil => rfl
      | cons first others =>
          obtain ⟨name, member⟩ := first
          unfold Writable MembersWritable at writable
          simp only [text, List.cons_append, List.append_assoc,
            List.length_cons, List.length_append] at enough ⊢
          rw [readValue_object (quoted_append name),
            readsBack.member writable.2.1 (ends_membersText others)
              (by simp only [List.length_append, List.length_cons]; omega),
            Option.bind_some,
            readsBack.members writable.2.2 (by omega)]
          rfl

/-- So are the elements of an array. -/
theorem ReadsBack.elements_succ
    {fuel : Nat}
    (readsBack : ReadsBack fuel)
    {elements : List JsonTree}
    (writable : AllWritable elements)
    (enough : (elementsText elements).length ≤ fuel + 1) :
    readElements (fuel + 1) (elementsText elements ++ rest) =
      some (elements, rest) := by
  cases elements with
  | nil => rfl
  | cons element others =>
      unfold AllWritable at writable
      simp only [elementsText, List.cons_append, List.append_assoc,
        List.length_cons, List.length_append] at enough ⊢
      rw [readElements_comma,
        readsBack.value writable.1 (ends_elementsText others) (by omega),
        Option.bind_some,
        readsBack.elements writable.2 (by omega)]
      rfl

/-- So are the members of an object. -/
theorem ReadsBack.members_succ
    {fuel : Nat}
    (readsBack : ReadsBack fuel)
    {members : List (String × JsonTree)}
    (writable : MembersWritable members)
    (enough : (membersText members).length ≤ fuel + 1) :
    readMembers (fuel + 1) (membersText members ++ rest) =
      some (members, rest) := by
  cases members with
  | nil => rfl
  | cons first others =>
      obtain ⟨name, member⟩ := first
      unfold MembersWritable at writable
      simp only [membersText, List.cons_append, List.append_assoc,
        List.length_cons, List.length_append] at enough ⊢
      rw [readMembers_comma,
        readsBack.member writable.1 (ends_membersText others)
          (by simp only [List.length_append, List.length_cons]; omega),
        Option.bind_some,
        readsBack.members writable.2 (by omega)]
      rfl

/-- Whatever the fuel, what fits is read back. -/
theorem readsBack (fuel : Nat) : ReadsBack fuel := by
  induction fuel with
  | zero =>
      constructor
      · intro tree rest writable _ enough
        obtain ⟨char, later, shape, -⟩ := text_head writable
        rw [shape] at enough
        cases enough
      · intro elements rest _ enough
        cases elements <;> cases enough
      · intro name tree rest _ _ enough
        cases enough
      · intro members rest _ enough
        cases members <;> cases enough
  | succ fuel inductionHypothesis =>
      constructor
      · exact inductionHypothesis.value_succ
      · exact inductionHypothesis.elements_succ
      · intro name tree rest writable ends enough
        rw [readMember_quoted,
          inductionHypothesis.value writable ends
            (by
              simp only [quoted, List.length_append, List.length_cons]
                at enough
              omega)]
        rfl
      · exact inductionHypothesis.members_succ

/-! ### Whole numbers -/

section Digits

variable (number : Nat)

/-- The digits of a number are digits. -/
theorem toDigits_isDigit :
    ∀ char ∈ Nat.toDigits 10 number, char.isDigit = true :=
  fun _ member =>
    Nat.isDigit_of_mem_toDigits (by decide) (by decide) member

/-- A digit is its value. -/
theorem digitValue_of_isDigit
    {char : Char}
    (isDigit : char.isDigit = true) :
    digitValue char = char.toNat - '0'.toNat := by
  unfold digitValue
  rw [if_pos isDigit]

/-- Digits are read from the left, as in the standard library. -/
theorem digitsValue_eq
    {digits : List Char}
    (areDigits : ∀ char ∈ digits, char.isDigit = true) :
    digitsValue 10 digits = Nat.ofDigitChars 10 digits 0 := by
  have folded :
      ∀ total,
        digits.foldl (fun total digit => total * 10 + digitValue digit)
            total =
          Nat.ofDigitChars 10 digits total := by
    induction digits with
    | nil => simp
    | cons char rest inductionHypothesis =>
        intro total
        rw [List.foldl_cons, Nat.ofDigitChars_cons,
          inductionHypothesis
            (fun other member =>
              areDigits other (List.mem_cons_of_mem char member)),
          digitValue_of_isDigit (areDigits char List.mem_cons_self),
          Nat.mul_comm]
  exact folded 0

/-- No number but zero begins with a zero. -/
theorem toDigits_head
    (positive : 0 < number) :
    (Nat.toDigits 10 number).head? ≠ some '0' := by
  induction number using Nat.strongRecOn with
  | ind number inductionHypothesis =>
      rcases Nat.lt_or_ge number 10 with single | more
      · rw [Nat.toDigits_of_lt_base single, List.head?_cons]
        intro same
        have zero := Nat.digitChar_eq_zero.mp (Option.some.inj same)
        omega
      · have earlier :=
          inductionHypothesis (number / 10) (by omega) (by omega)
        rw [Nat.toDigits_of_base_le (by decide) more, List.head?_append]
        cases first : (Nat.toDigits 10 (number / 10)).head? with
        | none =>
            exact absurd (List.head?_eq_none_iff.mp first)
              Nat.toDigits_ne_nil
        | some char =>
            rw [first] at earlier
            exact earlier

/-- The digits of a number are a number of JSON. -/
theorem isUnsigned_toDigits :
    isUnsigned (Nat.toDigits 10 number) = true := by
  have all := toDigits_isDigit number
  have whole :
      (Nat.toDigits 10 number).takeWhile Char.isDigit =
        Nat.toDigits 10 number :=
    List.takeWhile_eq_self_iff.mpr all
  have nothing :
      (Nat.toDigits 10 number).dropWhile Char.isDigit = [] :=
    List.dropWhile_eq_nil_iff.mpr all
  have nonempty : (Nat.toDigits 10 number != []) = true := by
    simp
  have noZero :
      ((Nat.toDigits 10 number).length == 1 ||
        (Nat.toDigits 10 number).head? != some '0') = true := by
    rcases Nat.eq_zero_or_pos number with rfl | positive
    · rfl
    · simp [toDigits_head number positive]
  unfold isUnsigned
  simp only [whole, nothing, nonempty, noZero, Bool.true_and, isExponent]

/-- The digits of a number mean the number. -/
theorem unsignedLiteral_toDigits :
    unsignedLiteral (Nat.toDigits 10 number) = .finite (number : Rat) := by
  have all := toDigits_isDigit number
  have noWord : Nat.toDigits 10 number ≠ "Infinity".toList := by
    intro same
    have isDigit := all 'I' (by rw [same]; decide)
    exact absurd isDigit (by decide)
  have whole :
      (Nat.toDigits 10 number).takeWhile Char.isDigit =
        Nat.toDigits 10 number :=
    List.takeWhile_eq_self_iff.mpr all
  have nothing :
      (Nat.toDigits 10 number).dropWhile Char.isDigit = [] :=
    List.dropWhile_eq_nil_iff.mpr all
  unfold unsignedLiteral
  rw [if_neg noWord]
  have unit : (number : Rat) / 1 = number := by
    grind
  simp [whole, nothing, exponent?, digitsValue_eq all, unit]

/-- No white space is around what has none. -/
theorem trim_eq
    {text : List Char}
    (noSpace : ∀ char ∈ text, isWhiteSpace char = false) :
    ((text.dropWhile isWhiteSpace).reverse.dropWhile
        isWhiteSpace).reverse =
      text := by
  have kept :
      ∀ {chars : List Char},
        (∀ char ∈ chars, isWhiteSpace char = false) →
          chars.dropWhile isWhiteSpace = chars := by
    intro chars none
    cases chars with
    | nil => rfl
    | cons char rest =>
        rw [List.dropWhile_cons_of_neg]
        simp [none char List.mem_cons_self]
  rw [kept noSpace,
    kept (fun char member => noSpace char (List.mem_reverse.mp member)),
    List.reverse_reverse]

/-- What a number is made of is no white space. -/
theorem noWhiteSpace_of_isNumberChar
    {char : Char}
    (isNumber : isNumberChar char = true) :
    isWhiteSpace char = false := by
  have between : 0x20 < char.toNat ∧ char.toNat < 0xA0 := by
    simp only [isNumberChar, Bool.or_eq_true, beq_iff_eq] at isNumber
    rcases isNumber with ((((digit | rfl) | rfl) | rfl) | rfl) | rfl
    · obtain ⟨above, below⟩ := Char.isDigit_iff_toNat.mp digit
      have first : '0'.toNat = 0x30 := rfl
      have last : '9'.toNat = 0x39 := rfl
      omega
    all_goals decide
  unfold isWhiteSpace
  rw [Bool.or_eq_false_iff]
  constructor
  · simp only [List.mem_cons, List.not_mem_nil, or_false,
      decide_eq_false_iff_not]
    omega
  · simp only [Bool.and_eq_false_iff, decide_eq_false_iff_not]
    omega

/-- A digit is a character of a number. -/
theorem isNumberChar_of_isDigit
    {char : Char}
    (isDigit : char.isDigit = true) :
    isNumberChar char = true := by
  simp [isNumberChar, isDigit]

/-- The digits of a number are read as the number. -/
theorem stringToNumber_toDigits
    {text : String}
    (shape : text.toList = Nat.toDigits 10 number) :
    stringToNumber text = .finite (number : Rat) := by
  have all := toDigits_isDigit number
  have trimmed :=
    trim_eq
      (fun char member =>
        noWhiteSpace_of_isNumberChar
          (isNumberChar_of_isDigit (all char member)))
  unfold stringToNumber
  rw [shape, trimmed]
  simp only
  split
  case h_10 => exact unsignedLiteral_toDigits number
  case h_1 nothing => exact absurd nothing Nat.toDigits_ne_nil
  all_goals
    rename_i same
    rw [same] at all
    simp at all

/-- Digits are no sign. -/
theorem isNumber_toDigits :
    isNumber (Nat.toDigits 10 number) = true := by
  unfold isNumber
  split
  · rename_i rest same
    have isDigit := toDigits_isDigit number '-' (by rw [same]; simp)
    exact absurd isDigit (by decide)
  · exact isUnsigned_toDigits number

/-- Signed digits are read as the number below zero. -/
theorem stringToNumber_negated
    {text : String}
    (shape : text.toList = '-' :: Nat.toDigits 10 number) :
    stringToNumber text = .finite (-(number : Rat)) := by
  have chars :
      ∀ char ∈ '-' :: Nat.toDigits 10 number,
        isWhiteSpace char = false := by
    intro char member
    apply noWhiteSpace_of_isNumberChar
    rcases List.mem_cons.mp member with rfl | digit
    · rfl
    · exact isNumberChar_of_isDigit (toDigits_isDigit number char digit)
  unfold stringToNumber
  rw [shape, trim_eq chars]
  simp only [unsignedLiteral_toDigits]

end Digits

/-- A whole number is written as its digits. -/
theorem numberText_int (value : Int) :
    NumberText (value : Rat) (toString value) := by
  cases value with
  | ofNat number =>
      have shape :
          (toString (Int.ofNat number)).toList =
            Nat.toDigits 10 number :=
        Nat.toList_repr
      constructor
      · rw [shape]
        exact isNumber_toDigits number
      · rw [shape]
        exact fun char member =>
          isNumberChar_of_isDigit (toDigits_isDigit number char member)
      · exact stringToNumber_toDigits number shape
      · intro _
        rfl
  | negSucc number =>
      have shape :
          (toString (Int.negSucc number)).toList =
            '-' :: Nat.toDigits 10 (number + 1) := by
        rw [Int.toString_eq_repr, Int.repr_eq_if,
          if_neg (by omega), String.toList_append, Nat.toList_repr]
        rfl
      constructor
      · rw [shape]
        exact isUnsigned_toDigits (number + 1)
      · rw [shape]
        intro char member
        rcases List.mem_cons.mp member with rfl | digit
        · rfl
        · exact isNumberChar_of_isDigit (toDigits_isDigit _ char digit)
      · rw [stringToNumber_negated (number + 1) shape]
        congr 1
      · intro _
        rfl

end JsonTree

/-- What `JSON.stringify` has written `JSON.parse` reads. -/
theorem parseJson_text
    {tree : JsonTree}
    (writable : tree.Writable) :
    parseJson (String.ofList tree.text) = some tree.value := by
  have nothing : JsonTree.Ends [] := by
    intro char tail same
    cases same
  have read :=
    (JsonTree.readsBack (tree.text.length + 1)).value writable nothing
      (Nat.le_succ _)
  rw [List.append_nil] at read
  unfold parseJson
  rw [String.length_ofList, String.toList_ofList, read]
  rfl

end JavaScript

end NestBackend
