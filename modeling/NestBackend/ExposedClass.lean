import NestBackend.Doubles

namespace NestBackend

open JavaScript

/-!
# Classes that expose their properties one by one

A class that excludes everything and exposes some properties turns any plain
object into an instance with exactly these properties: each is converted from
the property of the same name, or is the default.  The instance is then checked
property by property.

An instance is accepted only if every property passes its checks, nothing but
the exposed names of the plain object matters, and an accepted instance that is
written out and read again is accepted as the same.
-/

/-- The value of a property of an instance. -/
inductive PropertyValue where
  | undefined
  | json (value : Json)
  /-- What `Number` made of a value. -/
  | number (value : Numeric)

namespace PropertyValue

/-- A property of a plain object. -/
def ofProperty : Option Json → PropertyValue
  | none => .undefined
  | some value => .json value

/-- `value === undefined || value === null`. -/
def isNil : PropertyValue → Bool
  | .undefined => true
  | .json .null => true
  | _ => false

/-- class-validator's `isString`. -/
def isString : PropertyValue → Bool
  | .json value => value.isString
  | _ => false

/-- The double that a value is, if it is a number. -/
def number? : PropertyValue → Option Numeric
  | .json (.num value _) => some (Numeric.finite value).toDouble
  | .number value => some value.toDouble
  | _ => none

/-- The double that a value is in arithmetic. -/
def toNumeric : PropertyValue → Numeric
  | .undefined => .notANumber
  | .json value => value.toNumber.toDouble
  | .number value => value.toDouble

/-- class-validator's `isNumber`: neither `NaN` nor infinite. -/
def isNumber (value : PropertyValue) : Bool :=
  value.number?.any Numeric.isFinite

/-- class-validator's `isNotEmpty`. -/
def isNotEmpty : PropertyValue → Bool
  | .undefined => false
  | .json .null => false
  | .json (.str text) => text != ""
  | _ => true

/-- class-validator's `min`. -/
def min (least : Rat) (value : PropertyValue) : Bool :=
  value.number?.any (Numeric.atLeast least)

/-- class-validator's `max`. -/
def max (most : Rat) (value : PropertyValue) : Bool :=
  value.number?.any (Numeric.atMost most)

/-- class-validator's `isEnum`, for an enumeration of texts. -/
def isEnum (texts : List String) : PropertyValue → Bool
  | .json (.str text) => texts.contains text
  | _ => false

/--
`@Type(() => Number)`.  The elements of a list are converted one by one, which
leaves it a list.
-/
def asNumber : PropertyValue → PropertyValue
  | .json .null => .json .null
  | .json (.arr elements) => .json (.arr elements)
  | .json value => .number value.toNumber
  | other => other

/-- A number is itself in arithmetic. -/
theorem toNumeric_of_number?
    {value : PropertyValue}
    {number : Numeric}
    (isNumber : value.number? = some number) :
    value.toNumeric = number := by
  cases value with
  | undefined => cases isNumber
  | json value =>
      cases value with
      | num rational text => exact Option.some.inj isNumber
      | _ => cases isNumber
  | number value => exact Option.some.inj isNumber

/-- A finite number is a double. -/
theorem isDouble_of_number?
    {value : PropertyValue}
    {double : Rat}
    (isNumber : value.number? = some (.finite double)) :
    Binary64.IsDouble double ∧ double < Binary64.limit := by
  cases value with
  | undefined => cases isNumber
  | json value =>
      cases value with
      | num rational text =>
          exact Numeric.isDouble_of_toDouble (Option.some.inj isNumber)
      | _ => cases isNumber
  | number value =>
      exact Numeric.isDouble_of_toDouble (Option.some.inj isNumber)

end PropertyValue

/--
A check: the name of its constraint and, for the name of a property, what an
error says of it.
-/
structure PropertyCheck where
  constraint : String
  message : String → String
  holds : PropertyValue → Bool

namespace PropertyCheck

/-- `@IsString()`. -/
def isString : PropertyCheck where
  constraint := "isString"
  message property := property ++ " must be a string"
  holds := PropertyValue.isString

/-- `@IsNotEmpty()`. -/
def isNotEmpty : PropertyCheck where
  constraint := "isNotEmpty"
  message property := property ++ " should not be empty"
  holds := PropertyValue.isNotEmpty

/-- `@IsNumber()`. -/
def isNumber : PropertyCheck where
  constraint := "isNumber"
  message property :=
    property ++ " must be a number conforming to the specified constraints"
  holds := PropertyValue.isNumber

/-- `@Min(least)`. -/
def min (least : Nat) : PropertyCheck where
  constraint := "min"
  message property := property ++ " must not be less than " ++ toString least
  holds := PropertyValue.min least

/-- `@Max(most)`. -/
def max (most : Nat) : PropertyCheck where
  constraint := "max"
  message property :=
    property ++ " must not be greater than " ++ toString most
  holds := PropertyValue.max most

/-- `@IsEnum(texts)`. -/
def isEnum (texts : List String) : PropertyCheck where
  constraint := "isEnum"
  message property :=
    property ++ " must be one of the following values: " ++
      ", ".intercalate texts
  holds := PropertyValue.isEnum texts

end PropertyCheck

/-- An exposed property with its decorators. -/
structure ExposedProperty where
  name : String
  /-- What the constructor sets. -/
  default : PropertyValue
  /-- The conversions of a given value. -/
  convert : PropertyValue → PropertyValue
  /-- `@IsOptional()`. -/
  optional : Bool
  /-- The other checks, in the order in which they are made. -/
  checks : List PropertyCheck

/-- `ValidationError`: the constraints that are not met, with their texts. -/
structure ValidationError where
  property : String
  constraints : List (String × String)
  deriving DecidableEq, Repr

namespace ExposedProperty

/-- The value that an instance gets. -/
def valueOf
    (exposeDefaultValues : Bool)
    (property : ExposedProperty) : PropertyValue → PropertyValue
  | .undefined =>
      if exposeDefaultValues then
        property.default
      else
        property.convert .undefined
  | given => property.convert given

/-- Every check is passed, or the property is optional and has no value. -/
def accepts (property : ExposedProperty) (value : PropertyValue) : Bool :=
  (property.optional && value.isNil) ||
    property.checks.all (fun check => check.holds value)

/-- The error of a property: all constraints that fail, or the first one. -/
def error?
    (stopAtFirstError : Bool)
    (property : ExposedProperty)
    (value : PropertyValue) : Option ValidationError :=
  if property.accepts value then
    none
  else
    let failing :=
      (property.checks.filter (fun check => !check.holds value)).map
        fun check => (check.constraint, check.message property.name)
    some
      { property := property.name
        constraints := if stopAtFirstError then failing.take 1 else failing }

end ExposedProperty

/-- A class, whose properties have different names. -/
structure ExposedClass where
  properties : List ExposedProperty
  distinct : (properties.map ExposedProperty.name).Nodup

/-- The own properties of an instance. -/
abbrev Instance := List (String × PropertyValue)

namespace Instance

/-- `instance[name]`. -/
def get (entity : Instance) (name : String) : PropertyValue :=
  ((entity.find? (fun entry => entry.1 == name)).map Prod.snd).getD
    .undefined

end Instance

namespace ExposedClass

variable
  (exposeDefaultValues stopAtFirstError : Bool)
  (cls : ExposedClass)

/-- `plainToInstance`. -/
def plainToInstance (plain : String → PropertyValue) : Instance :=
  cls.properties.map fun property =>
    (property.name,
      property.valueOf exposeDefaultValues (plain property.name))

/-- `validate`. -/
def validate (entity : Instance) : List ValidationError :=
  cls.properties.filterMap fun property =>
    property.error? stopAtFirstError (entity.get property.name)

/-- The instance, or the errors if there are any. -/
def transform
    (plain : String → PropertyValue) :
    Except (List ValidationError) Instance :=
  let entity := cls.plainToInstance exposeDefaultValues plain
  match cls.validate stopAtFirstError entity with
  | [] => .ok entity
  | errors => .error errors

variable
  {exposeDefaultValues stopAtFirstError : Bool}
  {cls : ExposedClass}
  {property : ExposedProperty}
  {plain : String → PropertyValue}
  {entity : Instance}

/-- A property of an instance. -/
theorem get_plainToInstance
    (member : property ∈ cls.properties) :
    (cls.plainToInstance exposeDefaultValues plain).get property.name =
      property.valueOf exposeDefaultValues (plain property.name) := by
  obtain ⟨properties, distinct⟩ := cls
  unfold plainToInstance Instance.get
  induction properties with
  | nil => cases member
  | cons head rest inductionHypothesis =>
      rw [List.map_cons, List.nodup_cons] at distinct
      rw [List.map_cons, List.find?_cons]
      rcases List.mem_cons.mp member with rfl | inRest
      · simp
      · have different : (head.name == property.name) = false := by
          rw [beq_eq_false_iff_ne]
          intro same
          exact distinct.1 (same ▸ List.mem_map_of_mem inRest)
        simp only [different]
        exact inductionHypothesis distinct.2 inRest

/-- An instance has no other properties. -/
theorem get_plainToInstance_other
    {name : String}
    (other : name ∉ cls.properties.map ExposedProperty.name) :
    (cls.plainToInstance exposeDefaultValues plain).get name =
      .undefined := by
  unfold plainToInstance Instance.get
  rw [List.find?_eq_none.mpr]
  · rfl
  · intro entry inInstance isName
    obtain ⟨property, member, rfl⟩ := List.mem_map.mp inInstance
    exact other (List.mem_map.mpr ⟨property, member, by simpa using isName⟩)

/-- There is no error exactly if every property is accepted. -/
theorem validate_eq_nil_iff :
    cls.validate stopAtFirstError entity = [] ↔
      ∀ property ∈ cls.properties,
        property.accepts (entity.get property.name) = true := by
  unfold validate
  rw [List.filterMap_eq_nil_iff]
  constructor
  · intro none property member
    by_contra rejected
    have hasError := none property member
    simp [ExposedProperty.error?, rejected] at hasError
  · intro accepted property member
    simp [ExposedProperty.error?, accepted property member]

/-- An error is about a property that is not accepted. -/
theorem mem_validate
    {error : ValidationError}
    (member : error ∈ cls.validate stopAtFirstError entity) :
    ∃ property ∈ cls.properties,
      error.property = property.name ∧
        property.accepts (entity.get property.name) = false ∧
        error.constraints ≠ [] ∧
        ∀ constraint ∈ error.constraints,
          ∃ check ∈ property.checks,
            constraint = (check.constraint, check.message property.name) ∧
              check.holds (entity.get property.name) = false := by
  obtain ⟨property, inClass, hasError⟩ := List.mem_filterMap.mp member
  unfold ExposedProperty.error? at hasError
  by_cases accepted :
      property.accepts (entity.get property.name) = true
  · rw [if_pos accepted] at hasError
    cases hasError
  · rw [if_neg accepted] at hasError
    obtain rfl := Option.some.inj hasError
    refine ⟨property, inClass, rfl, by simpa using accepted, ?_, ?_⟩
    · have someFail :
          property.checks.filter
              (fun check => !check.holds (entity.get property.name)) ≠
            [] := by
        intro noneFail
        have allHold :
            property.checks.all
                (fun check => check.holds (entity.get property.name)) =
              true := by
          rw [List.all_eq_true]
          intro check inChecks
          simpa using List.filter_eq_nil_iff.mp noneFail check inChecks
        exact accepted (by simp [ExposedProperty.accepts, allHold])
      cases stopAtFirstError with
      | true => simpa using someFail
      | false => simpa using someFail
    · intro constraint inError
      have inFailing :
          constraint ∈
            (property.checks.filter
                (fun check => !check.holds (entity.get property.name))).map
              fun check =>
                (check.constraint, check.message property.name) := by
        cases stopAtFirstError with
        | true => exact List.mem_of_mem_take inError
        | false => exact inError
      obtain ⟨check, inChecks, same⟩ := List.mem_map.mp inFailing
      obtain ⟨ofProperty, fails⟩ := List.mem_filter.mp inChecks
      exact ⟨check, ofProperty, same.symm, by simpa using fails⟩

/-- An accepted object, and the instance that it is turned into. -/
theorem transform_eq_ok_iff :
    cls.transform exposeDefaultValues stopAtFirstError plain = .ok entity ↔
      entity = cls.plainToInstance exposeDefaultValues plain ∧
        ∀ property ∈ cls.properties,
          property.accepts (entity.get property.name) = true := by
  simp only [transform]
  cases errors :
      cls.validate stopAtFirstError
        (cls.plainToInstance exposeDefaultValues plain) with
  | nil =>
      simp only [Except.ok.injEq]
      constructor
      · rintro rfl
        exact ⟨rfl, validate_eq_nil_iff.mp errors⟩
      · rintro ⟨rfl, -⟩
        rfl
  | cons error rest =>
      simp only [reduceCtorEq, false_iff]
      rintro ⟨rfl, accepted⟩
      rw [validate_eq_nil_iff.mpr accepted] at errors
      cases errors

/-- Nothing but the exposed names of the plain object matters. -/
theorem transform_congr
    {other : String → PropertyValue}
    (same :
      ∀ name ∈ cls.properties.map ExposedProperty.name,
        plain name = other name) :
    cls.transform exposeDefaultValues stopAtFirstError plain =
      cls.transform exposeDefaultValues stopAtFirstError other := by
  have sameInstance :
      cls.plainToInstance exposeDefaultValues plain =
        cls.plainToInstance exposeDefaultValues other := by
    apply List.map_congr_left
    intro property member
    rw [same property.name (List.mem_map_of_mem member)]
  unfold transform
  rw [sameInstance]

/-- What is written out of an accepted instance is accepted as the same. -/
theorem transform_again
    {again : String → PropertyValue}
    (accepted :
      cls.transform exposeDefaultValues stopAtFirstError plain = .ok entity)
    (sameValues :
      ∀ property ∈ cls.properties,
        property.valueOf exposeDefaultValues (again property.name) =
          entity.get property.name) :
    cls.transform exposeDefaultValues stopAtFirstError again =
      .ok entity := by
  obtain ⟨rfl, allAccepted⟩ := transform_eq_ok_iff.mp accepted
  have sameInstance :
      cls.plainToInstance exposeDefaultValues again =
        cls.plainToInstance exposeDefaultValues plain := by
    apply List.map_congr_left
    intro property member
    rw [sameValues property member, get_plainToInstance member]
  rw [transform_eq_ok_iff, sameInstance]
  exact ⟨rfl, allAccepted⟩

end ExposedClass

end NestBackend
