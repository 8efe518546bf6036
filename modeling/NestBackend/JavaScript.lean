import Mathlib.Data.List.TakeWhile
import Mathlib.Data.Rat.Defs

namespace NestBackend

/-!
# JavaScript values

The fragment of ECMAScript that the services compute with: the string methods
they call, the coercion of a value to a number or to text, JSON values, and
object literals built with spread syntax.

Parsed JSON never holds `undefined`, while an object under construction may
have an own property whose value is `undefined`.  The two are different types
here, and `Properties.stringify` is the only way from the second to the first.
-/

namespace JavaScript

/-! ## Strings -/

/-- Replace the first occurrence of `pattern`, scanning from the left. -/
def replaceFirstChars
    (pattern replacement : List Char) :
    List Char → List Char
  | [] =>
      if pattern = [] then replacement else []
  | head :: rest =>
      if pattern.isPrefixOf (head :: rest) then
        replacement ++ (head :: rest).drop pattern.length
      else
        head :: replaceFirstChars pattern replacement rest

/--
`text.replace(pattern, replacement)` for a string pattern and a replacement
without `$`.
-/
def replaceFirst
    (text pattern replacement : String) : String :=
  String.ofList
    (replaceFirstChars pattern.toList replacement.toList text.toList)

/-- Replacing a leading occurrence by nothing strips it. -/
theorem replaceFirstChars_prefix
    (pattern rest : List Char) :
    replaceFirstChars pattern [] (pattern ++ rest) = rest := by
  cases pattern with
  | nil =>
      cases rest with
      | nil => rfl
      | cons head tail => simp [replaceFirstChars]
  | cons head tail =>
      have leading :
          (head :: tail).isPrefixOf ((head :: tail) ++ rest) = true := by
        simp
      rw [List.cons_append] at leading ⊢
      simp only [replaceFirstChars, leading, ↓reduceIte]
      simp

/-- `(pattern + rest).replace(pattern, "")` is `rest`. -/
theorem replaceFirst_prefix
    (pattern rest : String) :
    replaceFirst (pattern ++ rest) pattern "" = rest := by
  unfold replaceFirst
  rw [String.toList_append]
  have emptyText : "".toList = ([] : List Char) := rfl
  rw [emptyText, replaceFirstChars_prefix, String.ofList_toList]

/-- A pattern without the separator that is not in the stem is found last. -/
theorem replaceFirstChars_last
    {separator : Char}
    {pattern : List Char}
    (noSeparator : separator ∉ pattern)
    (replacement : List Char)
    (stem : List Char)
    (absent : ¬ pattern <:+: stem) :
    replaceFirstChars pattern replacement
        (stem ++ separator :: pattern) =
      stem ++ separator :: replacement := by
  have nonempty : pattern ≠ [] := by
    rintro rfl
    exact absent (List.nil_infix)
  -- an occurrence that starts in the stem ends in it or spans the separator
  have notPrefix :
      ∀ {tail : List Char},
        tail <:+ stem →
        pattern.isPrefixOf (tail ++ separator :: pattern) = false := by
    intro tail isTail
    rw [← Bool.not_eq_true, List.isPrefixOf_iff_prefix]
    intro isPrefix
    rcases Nat.lt_or_ge tail.length pattern.length with longer | shorter
    · have spans : tail ++ [separator] <+: pattern := by
        refine List.prefix_of_prefix_length_le ?_ isPrefix ?_
        · exact ⟨pattern, by simp⟩
        · rw [List.length_append]
          exact longer
      exact noSeparator (spans.subset (by simp))
    · have inside : pattern <+: tail :=
        List.prefix_of_prefix_length_le isPrefix
          (List.prefix_append tail _) shorter
      exact absent (inside.isInfix.trans isTail.isInfix)
  have found :
      replaceFirstChars pattern replacement (separator :: pattern) =
        separator :: replacement := by
    have skips := notPrefix (List.nil_suffix)
    rw [List.nil_append] at skips
    unfold replaceFirstChars
    rw [skips]
    cases pattern with
    | nil => exact (nonempty rfl).elim
    | cons head rest => simp [replaceFirstChars]
  have skipped :
      ∀ tail : List Char,
        tail <:+ stem →
        replaceFirstChars pattern replacement
            (tail ++ separator :: pattern) =
          tail ++ separator :: replacement := by
    intro tail isTail
    induction tail with
    | nil => exact found
    | cons head rest inductionHypothesis =>
        have restTail : rest <:+ stem :=
          (List.suffix_cons head rest).trans isTail
        have skips := notPrefix isTail
        rw [List.cons_append] at skips ⊢
        unfold replaceFirstChars
        rw [skips]
        simp only [Bool.false_eq_true, ↓reduceIte,
          inductionHypothesis restTail, List.cons_append]
  exact skipped stem (List.suffix_refl stem)

/-- `(key + ":" + id).replace(id, replacement)` keeps the key. -/
theorem replaceFirst_last
    {key id : String}
    (noColon : ':' ∉ id.toList)
    (absent : ¬ id.toList <:+: key.toList)
    (replacement : String) :
    replaceFirst (key ++ ":" ++ id) id replacement =
      key ++ ":" ++ replacement := by
  have colon : ":".toList = [':'] := rfl
  unfold replaceFirst
  apply String.toList_injective
  simp only [String.toList_append, colon, String.toList_ofList,
    List.append_assoc, List.singleton_append]
  exact replaceFirstChars_last noColon _ _ absent

/-- `text.startsWith(leading)`. -/
def startsWith (text leading : String) : Bool :=
  leading.toList.isPrefixOf text.toList

/-- `text.split(" ")[1]`, undefined when `text` has no space. -/
def splitSecond (text : String) : Option String :=
  match text.toList.dropWhile (fun char => char != ' ') with
  | [] => none
  | _ :: rest =>
      some (String.ofList (rest.takeWhile (fun char => char != ' ')))

/-- The word after a spaceless word and one space is the second piece. -/
theorem splitSecond_append
    {first second : String}
    (firstSpaceless : ' ' ∉ first.toList)
    (secondSpaceless : ' ' ∉ second.toList) :
    splitSecond (first ++ " " ++ second) = some second := by
  have dropFirst :
      (first ++ " " ++ second).toList.dropWhile
          (fun char => char != ' ') =
        ' ' :: second.toList := by
    rw [String.toList_append, String.toList_append, List.append_assoc]
    rw [List.dropWhile_append_of_pos]
    · rfl
    · intro char member
      have different : char ≠ ' ' := by
        rintro rfl
        exact firstSpaceless member
      simpa using different
  have takeSecond :
      second.toList.takeWhile (fun char => char != ' ') =
        second.toList := by
    rw [List.takeWhile_eq_self_iff]
    intro char member
    have different : char ≠ ' ' := by
      rintro rfl
      exact secondSpaceless member
    simpa using different
  simp only [splitSecond, dropFirst, takeSecond, String.ofList_toList]

/-! ## Numbers -/

/--
The result of a coercion to a number.  Finite values are exact rationals, not
rounded to a double.
-/
inductive Numeric where
  | finite (value : Rat)
  | infinite (negative : Bool)
  | notANumber
  deriving DecidableEq

namespace Numeric

/-- Multiplication by a positive constant. -/
def scale (factor : Rat) : Numeric → Numeric
  | .finite value => .finite (value * factor)
  | other => other

/-- Subtraction of a finite number. -/
def minus (amount : Rat) : Numeric → Numeric
  | .finite value => .finite (value - amount)
  | other => other

/-- The operator `<`, false as soon as one side is `NaN`. -/
def lessThan : Numeric → Numeric → Bool
  | .finite left, .finite right => decide (left < right)
  | .finite _, .infinite negative => !negative
  | .infinite negative, .finite _ => negative
  | .infinite left, .infinite right => left && !right
  | _, _ => false

/-- Zero and `NaN` are the falsy numbers. -/
def truthy : Numeric → Bool
  | .finite value => value != 0
  | .infinite _ => true
  | .notANumber => false

/-- The value as an integer, when it is one. -/
def toInt? : Numeric → Option Int
  | .finite value => if value.den = 1 then some value.num else none
  | _ => none

end Numeric

/-- White space and line terminators, stripped around numeric text. -/
def isWhiteSpace (char : Char) : Bool :=
  char.toNat ∈
      [0x9, 0xA, 0xB, 0xC, 0xD, 0x20, 0xA0, 0x1680, 0x2028, 0x2029,
        0x202F, 0x205F, 0x3000, 0xFEFF] ||
    (0x2000 ≤ char.toNat && char.toNat ≤ 0x200A)

/-- The value of a digit in any base up to sixteen. -/
def digitValue (char : Char) : Nat :=
  if char.isDigit then char.toNat - '0'.toNat
  else if 'a' ≤ char ∧ char ≤ 'f' then char.toNat - 'a'.toNat + 10
  else if 'A' ≤ char ∧ char ≤ 'F' then char.toNat - 'A'.toNat + 10
  else 16

/-- Read digits in `base`, most significant first. -/
def digitsValue (base : Nat) (digits : List Char) : Nat :=
  digits.foldl (fun total digit => total * base + digitValue digit) 0

/-- A nonempty run of digits of `base` and nothing else. -/
def radixLiteral (base : Nat) (digits : List Char) : Numeric :=
  if digits != [] && digits.all (fun digit => digitValue digit < base) then
    .finite (digitsValue base digits : Rat)
  else
    .notANumber

/-- The exponent part of a decimal literal; absent means zero. -/
def exponent? : List Char → Option Int
  | [] => some 0
  | mark :: digits =>
      if mark = 'e' ∨ mark = 'E' then
        match digits with
        | '-' :: negated =>
            (radixLiteral 10 negated).toInt?.map (fun value => -value)
        | '+' :: positive => (radixLiteral 10 positive).toInt?
        | plain => (radixLiteral 10 plain).toInt?
      else
        none

/-- An unsigned decimal literal or `Infinity`. -/
def unsignedLiteral (text : List Char) : Numeric :=
  if text = "Infinity".toList then
    .infinite false
  else
    let whole := text.takeWhile Char.isDigit
    let afterWhole := text.dropWhile Char.isDigit
    let fraction :=
      match afterWhole with
      | '.' :: rest => rest.takeWhile Char.isDigit
      | _ => []
    let afterFraction :=
      match afterWhole with
      | '.' :: rest => rest.dropWhile Char.isDigit
      | other => other
    match exponent? afterFraction with
    | none => .notANumber
    | some power =>
        if whole = [] ∧ fraction = [] then
          .notANumber
        else
          let mantissa : Rat :=
            (digitsValue 10 (whole ++ fraction) : Rat) /
              10 ^ fraction.length
          if 0 ≤ power then
            .finite (mantissa * 10 ^ power.toNat)
          else
            .finite (mantissa / 10 ^ (-power).toNat)

/-- `StringToNumber`: the numeric meaning of a string operand. -/
def stringToNumber (text : String) : Numeric :=
  let trimmed :=
    ((text.toList.dropWhile isWhiteSpace).reverse.dropWhile
      isWhiteSpace).reverse
  match trimmed with
  | [] => .finite 0
  | '0' :: 'x' :: digits => radixLiteral 16 digits
  | '0' :: 'X' :: digits => radixLiteral 16 digits
  | '0' :: 'o' :: digits => radixLiteral 8 digits
  | '0' :: 'O' :: digits => radixLiteral 8 digits
  | '0' :: 'b' :: digits => radixLiteral 2 digits
  | '0' :: 'B' :: digits => radixLiteral 2 digits
  | '-' :: rest =>
      match unsignedLiteral rest with
      | .finite value => .finite (-value)
      | .infinite negative => .infinite (!negative)
      | .notANumber => .notANumber
  | '+' :: rest => unsignedLiteral rest
  | plain => unsignedLiteral plain

example : stringToNumber " 12.5e1\n" = .finite 125 := by
  decide +kernel

/-! ## JSON values -/

/--
A parsed JSON value.  A number carries the text that `Number::toString` gives
it, and an object is its property lookup, so that key order plays no part in
equality.
-/
inductive Json where
  | null
  | bool (value : Bool)
  | num (value : Rat) (text : String)
  | str (text : String)
  | arr (elements : List Json)
  | obj (properties : String → Option Json)

/-- The property lookup of one parsed JSON object. -/
abbrev JsonObject := String → Option Json

namespace Json

/-- An integral number, as `Math.floor(Date.now() / 1000)` produces it. -/
def int (value : Int) : Json :=
  .num value (toString value)

mutual

/--
The text of a value in a template literal.  An object prints as its default
tag; a payload object with a `constructor` property makes the copy that
`plainToInstance` takes throw instead.
-/
def templateText : Json → String
  | .null => "null"
  | .bool value => toString value
  | .num _ text => text
  | .str text => text
  | .arr elements => String.intercalate "," (elementTexts elements)
  | .obj _ => "[object Object]"

/-- The texts that `Array.prototype.join` puts together; null gives none. -/
def elementTexts : List Json → List String
  | [] => []
  | .null :: rest => "" :: elementTexts rest
  | element :: rest => templateText element :: elementTexts rest

end

/-- `ToNumber`, as the arithmetic operators apply it. -/
def toNumber : Json → Numeric
  | .null => .finite 0
  | .bool value => .finite (if value then 1 else 0)
  | .num value _ => .finite value
  | .str text => stringToNumber text
  | .arr elements => stringToNumber (templateText (.arr elements))
  | .obj _ => .notANumber

/-- `ToBoolean`. -/
def truthy : Json → Bool
  | .null => false
  | .bool value => value
  | .num value _ => value != 0
  | .str text => text != ""
  | .arr _ => true
  | .obj _ => true

/-- `value[name]` for a string `name` that only an object can own. -/
def property (name : String) : Json → Option Json
  | .obj properties => properties name
  | _ => none

/-- `value === text`. -/
def isText (text : String) : Json → Bool
  | .str other => other == text
  | _ => false

/-- class-validator's `isString`. -/
def isString : Json → Bool
  | .str _ => true
  | _ => false

/-- class-validator's `isNumber`; parsed numbers are finite. -/
def isNumber : Json → Bool
  | .num _ _ => true
  | _ => false

@[simp] theorem templateText_str (text : String) :
    templateText (.str text) = text := rfl

@[simp] theorem toNumber_int (value : Int) :
    toNumber (.int value) = .finite value := rfl

@[simp] theorem isNumber_int (value : Int) :
    isNumber (.int value) = true := rfl

/-- An integral number keeps its value. -/
theorem int_injective : Function.Injective int := by
  intro first second same
  have sameValue : (first : Rat) = (second : Rat) := (Json.num.inj same).1
  exact Rat.intCast_inj.mp sameValue

end Json

/-- The text of a possibly undefined value in a template literal. -/
def templateText? (value : Option Json) : String :=
  (value.map Json.templateText).getD "undefined"

/-- `ToNumber` of a possibly undefined value. -/
def toNumber? (value : Option Json) : Numeric :=
  (value.map Json.toNumber).getD .notANumber

/-- `elements.includes(text)`. -/
def includes (elements : List Json) (text : String) : Bool :=
  elements.any (Json.isText text)

theorem includes_iff
    {elements : List Json}
    {text : String} :
    includes elements text = true ↔ Json.str text ∈ elements := by
  unfold includes
  rw [List.any_eq_true]
  constructor
  · rintro ⟨element, member, sameText⟩
    cases element with
    | str other =>
        have otherText : other = text := by
          simpa [Json.isText] using sameText
        rw [← otherText]
        exact member
    | _ => simp [Json.isText] at sameText
  · intro member
    exact ⟨.str text, member, by simp [Json.isText]⟩

/-! ## Objects under construction -/

/--
The own properties of an object in memory: `none` is an absent property and
`some none` an own property whose value is `undefined`.
-/
abbrev Properties := String → Option (Option Json)

/-- The own properties of a parsed object. -/
def JsonObject.properties (object : JsonObject) : Properties :=
  fun name => (object name).map some

namespace Properties

/-- The object literal `{}`. -/
def empty : Properties := fun _ => none

/-- Define one own property, replacing an earlier one of the same name. -/
def set
    (name : String)
    (value : Option Json)
    (object : Properties) : Properties :=
  fun query => if query = name then some value else object query

/-- `{ ...under, ...upper }`: own properties of `upper` win. -/
def spread (under upper : Properties) : Properties :=
  fun name => (upper name).or (under name)

/-- The elements of a list under the names `"0"`, `"1"`, and so on. -/
def indexed (elements : List Json) : Properties := fun name =>
  ((List.range elements.length).find?
    (fun index => toString index == name)).map
    (fun index => elements[index]?)

/--
The own properties that spreading a value copies.  Texts are split into code
points, which are code units below U+10000.
-/
def ofJson : Option Json → Properties
  | some (.obj properties) => JsonObject.properties properties
  | some (.arr elements) => indexed elements
  | some (.str text) =>
      indexed (text.toList.map fun char => .str (String.singleton char))
  | _ => empty

/-- `object[name]`, undefined for an absent property. -/
def get (object : Properties) (name : String) : Option Json :=
  (object name).join

/--
`JSON.stringify` and back: own properties that are `undefined` are dropped.
-/
def stringify (object : Properties) : JsonObject :=
  fun name => (object name).join

@[simp] theorem set_same
    (name : String)
    (value : Option Json)
    (object : Properties) :
    object.set name value name = some value := by
  simp [set]

theorem set_other
    {name query : String}
    (different : query ≠ name)
    (value : Option Json)
    (object : Properties) :
    object.set name value query = object query := by
  simp [set, different]

@[simp] theorem stringify_properties (object : JsonObject) :
    stringify object.properties = object := by
  funext name
  cases found : object name <;>
    simp [stringify, JsonObject.properties, found]

end Properties

end JavaScript

end NestBackend
