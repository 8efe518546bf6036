import NestBackend.Paging
import NestBackend.ShrinkingPages
import NestBackend.UserController

namespace NestBackend

open JavaScript

/-!
# The list of users

`getListUser` shows a page of the users that have not been removed.  A client
asks for one page after the other, while other requests change profiles and
remove users.
-/

/-! ## The query -/

namespace GetUserListQueryDTO

/-- `email`. -/
def emailProperty : ExposedProperty where
  name := "email"
  default := .undefined
  convert := id
  optional := true
  checks := [.isString]

/-- The class. -/
def exposed : ExposedClass where
  properties := emailProperty :: PagingRequestDTO.exposed
  distinct := by decide

end GetUserListQueryDTO

/-! ## The database -/

/--
The table of users as the database goes through it: the identifiers in the
order of the primary key, and in the order of any other property of `User`.
-/
structure UserDirectory where
  ids : List String
  distinct : ids.Nodup
  /-- A table is too small for more rows than a double counts. -/
  countable : ids.length < 2 ^ 53
  /-- Ascending by a property; nothing where `User` has no such property. -/
  sorted? : String → UserRows → Option (List String)
  byId : ∀ rows, sorted? "id" rows = some ids
  permuted :
    ∀ {property : String} {rows : UserRows} {sorted : List String},
      sorted? property rows = some sorted → sorted.Perm ids
  /-- What `OFFSET` and `LIMIT` make of a number, if they take it. -/
  rounded? : Rat → Option Nat
  rounded_natCast : ∀ count : Nat, count < 2 ^ 63 → rounded? count = some count

namespace UserRepository

/-- The row of an identifier, if it is not deleted and has the email. -/
def matching?
    (email : Option String)
    (rows : UserRows)
    (id : String) : Option UserColumns :=
  (sqlFindOne id rows).filter fun columns => email.all (· == columns.email)

end UserRepository

namespace UserService

/-- The text of a condition on the email; without one there is none. -/
def emailCondition : PropertyValue → Option String
  | .json (.str text) => some text
  | _ => none

end UserService

/-- A request of the list, and whether its queries fail. -/
structure ListRequest where
  query : JsonObject
  queryError : Option OtherError

namespace UserController

end UserController

/-! ## What is accepted -/

/-- The number that a query gives under a name, or the default. -/
def givenNumber
    (query : JsonObject)
    (name : String)
    (default : Nat) : Numeric :=
  match query name with
  | none => .finite default
  | some .null => .notANumber
  | some (.arr _) => .notANumber
  | some value => value.toNumber.toDouble

/-- A query for a page of so many, in the order of the primary key. -/
structure Asks
    (page size : Nat)
    (descending : Bool)
    (email : Option String)
    (query : JsonObject) : Prop where
  page : givenNumber query "page" 1 = .finite page
  pageSize : givenNumber query "pageSize" 15 = .finite size
  order :
    query "order" = some (.str (if descending then "DESC" else "ASC")) ∨
      query "order" = none ∧ descending = false
  orderBy : query "orderBy" = some (.str "id") ∨ query "orderBy" = none
  email : query "email" = email.map .str

/-- A number that a query gives is converted to it. -/
theorem value_of_givenNumber
    (property : ExposedProperty)
    {query : JsonObject}
    {default count : Nat}
    (isDefault : property.default = .json (.int default))
    (converts : property.convert = PropertyValue.asNumber)
    (small : default ≤ 2 ^ 53)
    (given : givenNumber query property.name default = .finite count) :
    (property.valueOf true
        (PropertyValue.ofProperty (query property.name))).number? =
      some (.finite count) := by
  unfold givenNumber at given
  cases found : query property.name with
  | none =>
      rw [found] at given
      have isNumber :
          (PropertyValue.json (.int default)).number? =
            some (.finite default) :=
        congrArg some (Numeric.toDouble_natCast small)
      simp only [PropertyValue.ofProperty, ExposedProperty.valueOf,
        isDefault, ↓reduceIte, isNumber]
      exact congrArg some given
  | some value =>
      rw [found] at given
      cases value with
      | null => cases given
      | arr elements => cases given
      | _ =>
          simp only [PropertyValue.ofProperty, ExposedProperty.valueOf,
            converts, PropertyValue.asNumber]
          exact congrArg some given

section Accepted

variable
  {page size : Nat}
  {descending : Bool}
  {email : Option String}
  {query : JsonObject}

/-- A query for a page is accepted. -/
theorem Asks.accepted
    (asks : Asks page size descending email query)
    (fromOne : 1 ≤ page)
    (someItems : 1 ≤ size)
    (atMost : size ≤ 50) :
    ∃ entity,
      ValidationPipe.transform GetUserListQueryDTO.exposed query =
          .ok entity ∧
        (entity.get "page").number? = some (.finite page) ∧
        (entity.get "pageSize").number? = some (.finite size) ∧
        UserController.textOf entity "order" =
          (if descending then "DESC" else "ASC") ∧
        UserController.textOf entity "orderBy" = "id" ∧
        UserService.emailCondition (entity.get "email") = email := by
  let plain := fun name => PropertyValue.ofProperty (query name)
  let entity := GetUserListQueryDTO.exposed.plainToInstance true plain
  have value :
      ∀ property ∈ GetUserListQueryDTO.exposed.properties,
        entity.get property.name =
          property.valueOf true (plain property.name) :=
    fun property member => ExposedClass.get_plainToInstance member
  have members :
      GetUserListQueryDTO.exposed.properties =
        [GetUserListQueryDTO.emailProperty, PagingRequestDTO.pageProperty,
          PagingRequestDTO.pageSizeProperty, PagingRequestDTO.orderProperty,
          PagingRequestDTO.orderByProperty] := rfl
  simp only [members, List.forall_mem_cons, List.not_mem_nil,
    false_imp_iff, implies_true, and_true] at value
  obtain ⟨isEmail, isPage, isSize, isOrder, isOrderBy⟩ := value
  have pageNumber :=
    value_of_givenNumber PagingRequestDTO.pageProperty rfl rfl (by norm_num)
      asks.page
  have sizeNumber :=
    value_of_givenNumber PagingRequestDTO.pageSizeProperty rfl rfl
      (by norm_num) asks.pageSize
  have emailValue :
      entity.get "email" =
        PropertyValue.ofProperty (email.map Json.str) := by
    refine isEmail.trans ?_
    simp only [plain, GetUserListQueryDTO.emailProperty, asks.email]
    cases email <;> rfl
  have orderValue :
      entity.get "order" =
        .json (.str (if descending then "DESC" else "ASC")) := by
    refine isOrder.trans ?_
    rcases asks.order with given | ⟨absent, rfl⟩
    · simp only [plain, PagingRequestDTO.orderProperty, given]
      rfl
    · simp only [plain, PagingRequestDTO.orderProperty, absent]
      rfl
  have orderByValue : entity.get "orderBy" = .json (.str "id") := by
    refine isOrderBy.trans ?_
    rcases asks.orderBy with given | absent
    · simp only [plain, PagingRequestDTO.orderByProperty, given]
      rfl
    · simp only [plain, PagingRequestDTO.orderByProperty, absent]
      rfl
  refine ⟨entity, ExposedClass.transform_eq_ok_iff.mpr ⟨rfl, ?_⟩, ?_, ?_, ?_,
    ?_, ?_⟩
  · rw [members]
    simp only [List.forall_mem_cons, List.not_mem_nil, false_imp_iff,
      implies_true, and_true]
    refine ⟨?_, ?_, ?_, ?_, ?_⟩
    · change
        GetUserListQueryDTO.emailProperty.accepts (entity.get "email") = true
      rw [emailValue]
      cases email <;> rfl
    · rw [isPage]
      exact PagingRequestDTO.pageProperty_accepts pageNumber fromOne
    · rw [isSize]
      exact PagingRequestDTO.pageSizeProperty_accepts sizeNumber someItems
        atMost
    · change PagingRequestDTO.orderProperty.accepts (entity.get "order") = true
      rw [orderValue]
      cases descending <;> rfl
    · change
        PagingRequestDTO.orderByProperty.accepts (entity.get "orderBy") = true
      rw [orderByValue]
      rfl
  · exact isPage ▸ pageNumber
  · exact isSize ▸ sizeNumber
  · unfold UserController.textOf
    rw [orderValue]
  · unfold UserController.textOf
    rw [orderByValue]
  · rw [emailValue]
    cases email <;> rfl

end Accepted

/-! ## One page -/

namespace UserDirectory

/-- The identifiers as a query asks for them. -/
def ordered (directory : UserDirectory) (descending : Bool) : List String :=
  if descending then directory.ids.reverse else directory.ids

/-- The users that a query finds, in their order. -/
def listed
    (directory : UserDirectory)
    (descending : Bool)
    (email : Option String)
    (rows : UserRows) : List String :=
  (directory.ordered descending).filter fun id =>
    (UserRepository.matching? email rows id).isSome

end UserDirectory

section Writes

variable
  {directory : UserDirectory}
  {descending : Bool}
  {email : Option String}
  {rows : UserRows}
  (writes : List UserService.Write)

end Writes

/-! ## Page after page -/

/-- The table at each of the requests. -/
def stages (rows : UserRows) :
    List (List Incoming × ListRequest) → List UserRows
  | [] => []
  | (between, _) :: rest =>
      let next :=
        (between.filterMap Incoming.write?).foldl UserService.Write.apply rows
      next :: stages next rest

section Walk

variable
  {directory : UserDirectory}
  {size page : Nat}
  {descending : Bool}
  {email : Option String}
  {rows : UserRows}
  {steps : List (List Incoming × ListRequest)}

end Walk

end NestBackend
