import Mathlib.Data.List.Nodup
import Mathlib.Data.List.Perm.Subperm
import NestBackend.Redis
import NestBackend.UserService

namespace NestBackend

/-!
# Conditions of `CommonAbstractSQLService`

Reading and writing functions take the same options, spread the `where` of them
into an object, and hand it to different builders.  Those that read leave out
the rows that have been soft-deleted, and the properties that are null or
undefined; those that write do neither.
-/

/-- What a `where` object asks of a property. -/
inductive WhereValue (Operand : Type) where
  | nullish
  | operand (operand : Operand)
  | object (properties : List (String × WhereValue Operand))

/-- Null or undefined. -/
def WhereValue.isNullish {Operand : Type} : WhereValue Operand → Bool
  | .nullish => true
  | _ => false

/-- `FindOptionsWhere`. -/
abbrev WhereObject (Operand : Type) := List (String × WhereValue Operand)

/-- `where` of the options: an object, or an array of alternatives. -/
inductive FindWhere (Operand : Type) where
  | absent
  | object (properties : WhereObject Operand)
  | alternatives (objects : List (WhereObject Operand))

/-- `{ ...findCondition.where }`: an array is spread by its indexes. -/
def FindWhere.spread
    {Operand : Type} : FindWhere Operand → WhereObject Operand
  | .absent => []
  | .object properties => properties
  | .alternatives objects =>
      objects.zipIdx.map fun entry => (toString entry.2, .object entry.1)

/-- A row of an entity that extends `BaseEntity`. -/
structure SqlRow (Columns : Type) where
  id : String
  columns : Columns
  deletedAt : Option Nat
  deriving DecidableEq, Repr

/-- The rows of a table, each with an identifier of its own. -/
structure SqlTable (Columns : Type) where
  rows : List (SqlRow Columns)
  distinct : (rows.map SqlRow.id).Nodup

/-- What a statement does to a row that it selects. -/
structure SqlChange (Columns : Type) where
  apply : SqlRow Columns → SqlRow Columns
  sameId : ∀ row, (apply row).id = row.id

/-- `FindManyOptions`, as far as it decides which rows are found. -/
structure FindManyOptions (Columns Operand : Type) where
  condition : FindWhere Operand
  withDeleted : Bool
  order : List (SqlRow Columns) → List (SqlRow Columns)
  ordered : ∀ rows, (order rows).Perm rows
  skip : Option Nat
  take : Option Nat

/--
An entity: which rows a `where` object finds in a query for reading, and which
it selects in one for writing.  Reading skips what is null or undefined; writing
compares with it, which no row meets.  A property that the entity does not have
is rejected where it is looked at, and none is named by a number.
-/
structure SqlEntity (Columns Operand : Type) where
  properties : List String
  finds? : WhereObject Operand → Option (SqlRow Columns → Bool)
  selects? : WhereObject Operand → Option (SqlRow Columns → Bool)
  skips :
    ∀ condition : WhereObject Operand,
      finds? condition =
        finds? (condition.filter fun entry => !entry.2.isNullish)
  unequal :
    ∀ {condition : WhereObject Operand} {name : String}
      {selects : SqlRow Columns → Bool},
      (name, .nullish) ∈ condition →
        selects? condition = some selects → ∀ row, selects row = false
  rejectsFind :
    ∀ {condition : WhereObject Operand} {name : String}
      {value : WhereValue Operand},
      (name, value) ∈ condition →
        value.isNullish = false →
          name ∉ properties → finds? condition = none
  rejects :
    ∀ {condition : WhereObject Operand} {name : String}
      {value : WhereValue Operand},
      (name, value) ∈ condition →
        name ∉ properties → selects? condition = none
  unnumbered : ∀ index : Nat, toString index ∉ properties

/-- A statement that has been executed, with the rows that it has modified. -/
structure SqlWriting (Columns : Type) where
  table : SqlTable Columns
  modified : List (SqlRow Columns)

/-- `updateResult.affected`. -/
def SqlWriting.affected
    {Columns : Type}
    (writing : SqlWriting Columns) : Nat :=
  writing.modified.length

variable {Columns Operand : Type}

namespace SqlTable

/-- Change the rows that are selected. -/
def change
    (table : SqlTable Columns)
    (selects : SqlRow Columns → Bool)
    (change : SqlChange Columns) : SqlTable Columns where
  rows :=
    table.rows.map fun row => if selects row then change.apply row else row
  distinct := by
    have sameIds :
        SqlRow.id ∘
            (fun row => if selects row then change.apply row else row) =
          SqlRow.id := by
      funext row
      simp only [Function.comp_apply]
      split
      next => exact change.sameId row
      next => rfl
    rw [List.map_map, sameIds]
    exact table.distinct

end SqlTable

namespace SqlChange

/-- A soft deletion sets the time of the deletion. -/
def softDelete (now : Nat) : SqlChange Columns where
  apply := fun row => { row with deletedAt := some now }
  sameId := fun _ => rfl

end SqlChange

namespace FindManyOptions

/-- The rows that a query for reading is about. -/
def shows
    (options : FindManyOptions Columns Operand)
    (row : SqlRow Columns) : Bool :=
  options.withDeleted || row.deletedAt.isNone

/-- Take so many; none and 0 mean all. -/
def taken
    (options : FindManyOptions Columns Operand)
    (rows : List (SqlRow Columns)) : List (SqlRow Columns) :=
  if options.take.getD 0 = 0 then
    rows
  else
    rows.take (options.take.getD 0)

/-- The rows that a query returns: in order, from `skip` on, up to `take`. -/
def window
    (options : FindManyOptions Columns Operand)
    (rows : List (SqlRow Columns)) : List (SqlRow Columns) :=
  options.taken ((options.order rows).drop (options.skip.getD 0))

/-- The window is as large as so many rows. -/
def Covers
    (options : FindManyOptions Columns Operand)
    (count : Nat) : Prop :=
  count = 0 ∨
    options.skip.getD 0 = 0 ∧
      (options.take.getD 0 = 0 ∨ count ≤ options.take.getD 0)

end FindManyOptions

namespace SqlEntity

/-- The rows that the condition finds, deleted or not. -/
def found?
    (entity : SqlEntity Columns Operand)
    (options : FindManyOptions Columns Operand) :
    Option (SqlRow Columns → Bool) :=
  entity.finds? options.condition.spread

/-- The rows that the condition selects, deleted or not. -/
def selected?
    (entity : SqlEntity Columns Operand)
    (options : FindManyOptions Columns Operand) :
    Option (SqlRow Columns → Bool) :=
  entity.selects? options.condition.spread

/-- A statement that writes to the rows that the condition selects. -/
def writes
    (entity : SqlEntity Columns Operand)
    (options : FindManyOptions Columns Operand)
    (change : SqlChange Columns)
    (table : SqlTable Columns) : Option (SqlWriting Columns) :=
  (entity.selected? options).map fun selects =>
    { table := table.change selects change
      modified := table.rows.filter selects }

/-- `sqlUpdate`, unless the condition is rejected. -/
def sqlUpdate
    (entity : SqlEntity Columns Operand)
    (options : FindManyOptions Columns Operand)
    (dataUpdate : SqlChange Columns)
    (table : SqlTable Columns) : Option (SqlWriting Columns) :=
  entity.writes options dataUpdate table

/-- `sqlSoftDelete`, unless the condition is rejected. -/
def sqlSoftDelete
    (entity : SqlEntity Columns Operand)
    (options : FindManyOptions Columns Operand)
    (now : Nat)
    (table : SqlTable Columns) : Option (SqlWriting Columns) :=
  entity.writes options (SqlChange.softDelete now) table

/--
The condition is accepted.  The rows that it selects are those that it finds and
that are shown; they would not be selected once they are deleted, and there are
no more of them than the window has room for.
-/
def SelectsShown
    (entity : SqlEntity Columns Operand)
    (options : FindManyOptions Columns Operand)
    (now : Nat)
    (table : SqlTable Columns) : Prop :=
  ∃ finds selects,
    entity.found? options = some finds ∧
      entity.selected? options = some selects ∧
      (∀ row ∈ table.rows,
        selects row = (finds row && options.shows row)) ∧
      (∀ row ∈ table.rows,
        selects row = true →
          selects ((SqlChange.softDelete now).apply row) = false) ∧
      options.Covers (table.rows.countP selects)

end SqlEntity

/-! ## The window -/

namespace FindManyOptions

variable
  (options : FindManyOptions Columns Operand)
  (rows : List (SqlRow Columns))

end FindManyOptions

namespace SqlEntity

variable
  {entity : SqlEntity Columns Operand}
  {options : FindManyOptions Columns Operand}
  {table : SqlTable Columns}
  {finds selects : SqlRow Columns → Bool}

/-! ## What is modified -/

/-- An array of alternatives names properties that are numbers. -/
theorem selected?_alternatives
    {objects : List (WhereObject Operand)}
    (alternatives : options.condition = .alternatives objects)
    (nonempty : objects ≠ []) :
    entity.found? options = none ∧ entity.selected? options = none := by
  obtain ⟨first, rest, rfl⟩ := List.exists_cons_of_ne_nil nonempty
  have numbered :
      (toString 0, WhereValue.object first) ∈ options.condition.spread := by
    simp [alternatives, FindWhere.spread, List.zipIdx_cons]
  exact
    ⟨entity.rejectsFind numbered rfl (entity.unnumbered 0),
      entity.rejects numbered (entity.unnumbered 0)⟩

/--
A condition with a null or undefined property selects nothing, so nothing that
the others find may be shown.
-/
theorem selectsShown_iff_of_nullish
    {name : String}
    {now : Nat}
    (nullish : (name, .nullish) ∈ options.condition.spread)
    (found : entity.found? options = some finds)
    (accepted : entity.selected? options = some selects) :
    entity.SelectsShown options now table ↔
      ∀ row ∈ table.rows, finds row = true → options.shows row = false := by
  have unequal := entity.unequal nullish accepted
  constructor
  · rintro ⟨other, otherSelects, isOther, isSelects, agrees, -⟩
    intro row member isFound
    obtain rfl := Option.some.inj (found.symm.trans isOther)
    obtain rfl := Option.some.inj (accepted.symm.trans isSelects)
    simpa [unequal row, isFound] using agrees row member
  · intro hidden
    refine ⟨finds, selects, found, accepted, ?_, ?_, .inl ?_⟩
    · intro row member
      rw [unequal row]
      cases isFound : finds row with
      | true => simp [hidden row member isFound]
      | false => rfl
    · intro row _ selected
      rw [unequal row] at selected
      cases selected
    · exact List.countP_eq_zero.mpr fun row _ => by simp [unequal row]

/-- Where both kinds of builders agree, all that is selected has to be shown. -/
theorem selectsShown_iff_of_same
    {now : Nat}
    (found : entity.found? options = some selects)
    (accepted : entity.selected? options = some selects) :
    entity.SelectsShown options now table ↔
      (∀ row ∈ table.rows,
        selects row = true →
          options.shows row = true ∧
            selects ((SqlChange.softDelete now).apply row) = false) ∧
        options.Covers (table.rows.countP selects) := by
  constructor
  · rintro ⟨finds, other, isFinds, isOther, agrees, deselected, covers⟩
    obtain rfl := Option.some.inj (found.symm.trans isFinds)
    obtain rfl := Option.some.inj (accepted.symm.trans isOther)
    refine ⟨fun row member selected => ⟨?_, ?_⟩, covers⟩
    · simpa [selected] using agrees row member
    · exact deselected row member selected
  · rintro ⟨agrees, covers⟩
    refine
      ⟨selects, selects, found, accepted, ?_,
        fun row member selected => (agrees row member selected).2, covers⟩
    intro row member
    cases selected : selects row with
    | true => simp [(agrees row member selected).1]
    | false => rfl

end SqlEntity

/-! ## Users -/

namespace UserRepository

/-- The properties of `User`. -/
def properties : List String :=
  ["id", "email", "password", "createdAt", "createdUser", "lastModifiedAt",
    "lastModifiedUser", "deletedAt"]

/-- Whether a row has what is asked of a property. -/
def asked (row : SqlRow UserColumns) :
    String × WhereValue String → Bool
  | ("id", .operand id) => row.id == id
  | ("email", .operand email) => row.columns.email == email
  | ("password", .operand password) => row.columns.password == password
  | _ => false

/-- The rows that have all that is asked, of properties of `User` only. -/
def askedOf?
    (condition : WhereObject String) :
    Option (SqlRow UserColumns → Bool) :=
  if condition.all (fun entry => entry.1 ∈ properties) then
    some fun row => condition.all (asked row)
  else
    none

/-- A property that `User` does not have is rejected. -/
theorem askedOf?_unknown
    {condition : WhereObject String}
    {name : String}
    {value : WhereValue String}
    (member : (name, value) ∈ condition)
    (unknown : name ∉ properties) :
    askedOf? condition = none := by
  refine if_neg fun known => unknown ?_
  simpa using List.all_eq_true.mp known (name, value) member

/-- `User`, for conditions that ask for values of its own columns. -/
def user : SqlEntity UserColumns String where
  properties := properties
  finds? := fun condition =>
    askedOf? (condition.filter fun entry => !entry.2.isNullish)
  selects? := askedOf?
  skips := fun condition => by simp
  unequal := by
    intro condition name selects member selected row
    unfold askedOf? at selected
    split at selected
    next =>
      obtain rfl := Option.some.inj selected
      refine List.all_eq_false.mpr ⟨_, member, ?_⟩
      unfold asked
      split <;> simp_all
    next => cases selected
  rejectsFind := by
    intro condition name value member some unknown
    exact
      askedOf?_unknown (List.mem_filter.mpr ⟨member, by simp [some]⟩) unknown
  rejects := askedOf?_unknown
  unnumbered := by
    intro index member
    have number : Redis.integer? (toString index) = some (index : Int) :=
      Redis.integer?_toString index
    have noNumber : ∀ name ∈ properties, Redis.integer? name = none := by
      decide
    rw [noNumber _ member] at number
    cases number

/-- The options that ask for an identifier. -/
def byId (id : String) : FindManyOptions UserColumns String where
  condition := .object [("id", .operand id)]
  withDeleted := false
  order := fun rows => rows
  ordered := fun _ => List.Perm.refl _
  skip := none
  take := none

/-- The rows of a table by identifier. -/
def rowsById (table : SqlTable UserColumns) : UserRows := fun id =>
  (table.rows.find? fun row => row.id == id).map fun row =>
    ⟨row.columns, row.deletedAt.isSome⟩

/-- How a change of a row reads by identifier. -/
def Reads (change : SqlChange UserColumns) (onRow : UserRow → UserRow) : Prop :=
  ∀ row,
    (⟨(change.apply row).columns, (change.apply row).deletedAt.isSome⟩ :
        UserRow) =
      onRow ⟨row.columns, row.deletedAt.isSome⟩

/-- A statement on one identifier changes the row of this identifier. -/
theorem rowsById_change
    {onRow : UserRow → UserRow}
    {change : SqlChange UserColumns}
    (reads : Reads change onRow)
    (id : String)
    (table : SqlTable UserColumns)
    (other : String) :
    rowsById (table.change (fun row => row.id == id) change) other =
      if other = id then
        (rowsById table id).map onRow
      else
        rowsById table other := by
  have sameId :
      ∀ row : SqlRow UserColumns,
        (if (row.id == id) = true then change.apply row else row).id =
          row.id := by
    intro row
    split
    next => exact change.sameId row
    next => rfl
  simp only [rowsById, SqlTable.change, List.find?_map, Option.map_map,
    Function.comp_def, sameId]
  split
  next same =>
    subst same
    cases found : table.rows.find? fun row => row.id == other with
    | none => rfl
    | some row =>
        have isRow := List.find?_some found
        rw [beq_iff_eq] at isRow
        simp [isRow, reads row]
  next different =>
    cases found : table.rows.find? fun row => row.id == other with
    | none => rfl
    | some row =>
        have isOther := List.find?_some found
        rw [beq_iff_eq] at isOther
        simp [isOther, different]

/-- There is one row of an identifier, or none. -/
theorem length_filter_id
    (id : String)
    (table : SqlTable UserColumns) :
    (table.rows.filter fun row => row.id == id).length =
      if (rowsById table id).isSome then 1 else 0 := by
  have counted :
      (table.rows.filter fun row => row.id == id).length =
        (table.rows.map SqlRow.id).count id := by
    rw [List.count, List.countP_map, List.countP_eq_length_filter]
    rfl
  rw [counted]
  split
  next present =>
    apply List.count_eq_one_of_mem table.distinct
    rw [rowsById, Option.isSome_map, List.find?_isSome] at present
    obtain ⟨row, member, isRow⟩ := present
    exact List.mem_map.mpr ⟨row, member, by simpa using isRow⟩
  next absent =>
    apply List.count_eq_zero_of_not_mem
    intro member
    obtain ⟨row, isMember, rfl⟩ := List.mem_map.mp member
    apply absent
    rw [rowsById, Option.isSome_map, List.find?_isSome]
    exact ⟨row, isMember, by simp⟩

/-- A statement on one identifier, in terms of the rows by identifier. -/
theorem writes_byId
    {onRow : UserRow → UserRow}
    {change : SqlChange UserColumns}
    (reads : Reads change onRow)
    (id : String)
    (table : SqlTable UserColumns) :
    (user.writes (byId id) change table).map
        (fun writing => (rowsById writing.table, writing.affected)) =
      some
        (match rowsById table id with
        | none => (rowsById table, 0)
        | some row =>
            (Function.update (rowsById table) id (some (onRow row)), 1)) := by
  have selected :
      user.selected? (byId id) = some fun row => row.id == id := by
    simp [SqlEntity.selected?, user, askedOf?, byId, FindWhere.spread,
      properties, asked]
  simp only [SqlEntity.writes, selected, Option.map_some,
    SqlWriting.affected, length_filter_id]
  have changed :
      rowsById (table.change (fun row => row.id == id) change) =
        fun other =>
          if other = id then
            (rowsById table id).map onRow
          else
            rowsById table other :=
    funext (rowsById_change reads id table)
  rw [changed]
  cases found : rowsById table id with
  | none =>
      have same :
          (fun other =>
            if other = id then
              Option.map onRow none
            else
              rowsById table other) =
            rowsById table := by
        funext other
        split_ifs with isId
        · rw [isId, found]
          rfl
        · rfl
      rw [same]
      rfl
  | some row =>
      have same :
          (fun other =>
            if other = id then
              Option.map onRow (some row)
            else
              rowsById table other) =
            Function.update (rowsById table) id (some (onRow row)) := by
        funext other
        simp [Function.update_apply]
      rw [same]
      rfl

/-- What a body leaves of a row. -/
def withBody (body : UpdateProfileBodyDTO) (row : UserRow) : UserRow :=
  { row with
    columns :=
      { row.columns with
        password := body.password.getD row.columns.password } }

/-- The change that a body asks for. -/
def ofBody (body : UpdateProfileBodyDTO) : SqlChange UserColumns where
  apply := fun row =>
    { row with
      columns :=
        { row.columns with
          password := body.password.getD row.columns.password } }
  sameId := fun _ => rfl

/-- `sqlUpdate` on one identifier is the one of `UserService`. -/
theorem sqlUpdate_byId
    (id : String)
    (body : UpdateProfileBodyDTO)
    (table : SqlTable UserColumns) :
    (user.sqlUpdate (byId id) (ofBody body) table).map
        (fun writing => (rowsById writing.table, writing.affected)) =
      some (sqlUpdate id body (rowsById table)) := by
  have reads : Reads (ofBody body) (withBody body) := fun _ => rfl
  exact writes_byId reads id table

/-- `sqlSoftDelete` on one identifier is the one of `UserService`. -/
theorem sqlSoftDelete_byId
    (id : String)
    (now : Nat)
    (table : SqlTable UserColumns) :
    (user.sqlSoftDelete (byId id) now table).map
        (fun writing => (rowsById writing.table, writing.affected)) =
      some (sqlSoftDelete id (rowsById table)) := by
  have reads :
      Reads (.softDelete now) (fun row => { row with deleted := true }) :=
    fun _ => rfl
  exact writes_byId reads id table

end UserRepository

end NestBackend
