import NestBackend.JsonText

namespace NestBackend

namespace JavaScript

/-!
# Values that can be written

A value can be written when it is the value of some text: its numbers have the
text of a number, and its objects have finitely many properties.  Whatever a
program reads from JSON texts can be written again, and so can what it puts
together from such values by spreading, by setting a property and by listing.
-/

/-- The value of some text. -/
def Json.Writable (json : Json) : Prop :=
  ∃ tree : JsonTree, tree.Writable ∧ tree.value = json

/-- The object that is written from the own properties. -/
def Properties.Writable (object : Properties) : Prop :=
  (Json.obj object.stringify).Writable

namespace Json

theorem writable_null : Json.null.Writable :=
  ⟨.null, trivial, rfl⟩

theorem writable_bool (value : Bool) : (Json.bool value).Writable :=
  ⟨.bool value, trivial, rfl⟩

theorem writable_str (text : String) : (Json.str text).Writable :=
  ⟨.str text, trivial, rfl⟩

theorem writable_int (value : Int) : (Json.int value).Writable :=
  ⟨.num value (toString value), JsonTree.numberText_int value, rfl⟩

/-- An array can be written when its elements can. -/
theorem writable_arr
    {elements : List Json} :
    (Json.arr elements).Writable ↔
      ∀ element ∈ elements, element.Writable := by
  constructor
  · rintro ⟨tree, writable, same⟩
    cases tree with
    | arr trees =>
        unfold JsonTree.Writable at writable
        unfold JsonTree.value at same
        obtain rfl := Json.arr.inj same
        clear same
        induction trees with
        | nil =>
            intro element member
            cases member
        | cons tree others inductionHypothesis =>
            unfold JsonTree.AllWritable at writable
            intro element member
            unfold JsonTree.values at member
            rcases List.mem_cons.mp member with rfl | later
            · exact ⟨tree, writable.1, rfl⟩
            · exact inductionHypothesis writable.2 element later
    | null => cases same
    | bool value => cases same
    | num value text => cases same
    | str text => cases same
    | obj members => cases same
  · intro writable
    have written :
        ∃ trees,
          JsonTree.AllWritable trees ∧ JsonTree.values trees = elements := by
      induction elements with
      | nil => exact ⟨[], trivial, rfl⟩
      | cons element others inductionHypothesis =>
          obtain ⟨trees, areWritable, same⟩ :=
            inductionHypothesis
              (fun other member =>
                writable other (List.mem_cons_of_mem element member))
          obtain ⟨tree, isWritable, sameElement⟩ :=
            writable element List.mem_cons_self
          refine ⟨tree :: trees, ⟨isWritable, areWritable⟩, ?_⟩
          unfold JsonTree.values
          rw [sameElement, same]
    obtain ⟨trees, areWritable, rfl⟩ := written
    exact ⟨.arr trees, areWritable, rfl⟩

/-- A property that is found is one of the members. -/
theorem mem_of_lookup
    {members : List (String × JsonTree)}
    (writable : JsonTree.MembersWritable members)
    {name : String}
    {value : Json}
    (found : JsonTree.lookup members name = some value) :
    name ∈ members.map Prod.fst ∧ value.Writable := by
  induction members with
  | nil => cases found
  | cons first others inductionHypothesis =>
      obtain ⟨own, tree⟩ := first
      unfold JsonTree.MembersWritable at writable
      unfold JsonTree.lookup at found
      rcases Option.or_eq_some_iff.mp found with later | ⟨-, here⟩
      · obtain ⟨listed, isWritable⟩ :=
          inductionHypothesis writable.2 later
        exact ⟨List.mem_cons_of_mem own listed, isWritable⟩
      · split at here
        · rename_i same
          obtain rfl := Option.some.inj here
          exact ⟨by rw [same]; exact List.mem_cons_self,
            ⟨tree, writable.1, rfl⟩⟩
        · cases here

/-- Members for the properties under some names. -/
theorem exists_members
    {object : JsonObject}
    (writable :
      ∀ name value, object name = some value → value.Writable)
    (names : List String) :
    ∃ members : List (String × JsonTree),
      (members.map Prod.fst).Nodup ∧
        JsonTree.MembersWritable members ∧
        (∀ name ∈ members.map Prod.fst, name ∈ names) ∧
        ∀ query,
          JsonTree.lookup members query =
            if query ∈ names then object query else none := by
  induction names with
  | nil =>
      refine ⟨[], List.nodup_nil, trivial, ?_, fun query => rfl⟩
      intro name member
      cases member
  | cons name others inductionHypothesis =>
      obtain ⟨members, nodup, areWritable, within, found⟩ :=
        inductionHypothesis
      have later : ∀ query ∈ members.map Prod.fst, query ∈ name :: others :=
        fun query member =>
          List.mem_cons_of_mem name (within query member)
      by_cases listed : name ∈ others
      · refine ⟨members, nodup, areWritable, later, ?_⟩
        intro query
        rw [found query]
        have sameNames : query ∈ name :: others ↔ query ∈ others := by
          rw [List.mem_cons]
          exact or_iff_right_of_imp (fun same => same ▸ listed)
        simp only [sameNames]
      cases value : object name with
      | none =>
          refine ⟨members, nodup, areWritable, later, ?_⟩
          intro query
          rw [found query]
          by_cases same : query = name
          · subst same
            simp [listed, value]
          · simp [same]
      | some json =>
          obtain ⟨tree, isWritable, rfl⟩ := writable name json value
          refine ⟨(name, tree) :: members, ?_, ⟨isWritable, areWritable⟩,
            ?_, ?_⟩
          · rw [List.map_cons, List.nodup_cons]
            exact ⟨fun member => listed (within name member), nodup⟩
          · intro query member
            rcases List.mem_cons.mp member with rfl | inMembers
            · exact List.mem_cons_self
            · exact later query inMembers
          · intro query
            unfold JsonTree.lookup
            rw [found query]
            by_cases same : query = name
            · subst same
              simp [listed, value]
            · simp [same]

/-- An object can be written when finitely many properties can. -/
theorem writable_obj
    {object : JsonObject} :
    (Json.obj object).Writable ↔
      (∃ names : List String,
        ∀ name, (object name).isSome = true → name ∈ names) ∧
        ∀ name value, object name = some value → value.Writable := by
  constructor
  · rintro ⟨tree, writable, same⟩
    cases tree with
    | obj members =>
        unfold JsonTree.Writable at writable
        unfold JsonTree.value at same
        obtain rfl := Json.obj.inj same
        constructor
        · refine ⟨members.map Prod.fst, ?_⟩
          intro name isSome
          obtain ⟨value, found⟩ := Option.isSome_iff_exists.mp isSome
          exact (mem_of_lookup writable.2 found).1
        · intro name value found
          exact (mem_of_lookup writable.2 found).2
    | null => cases same
    | bool value => cases same
    | num value text => cases same
    | str text => cases same
    | arr trees => cases same
  · rintro ⟨⟨names, finite⟩, writable⟩
    obtain ⟨members, nodup, areWritable, -, found⟩ :=
      exists_members writable names
    refine ⟨.obj members, ⟨nodup, areWritable⟩, ?_⟩
    unfold JsonTree.value
    congr 1
    funext query
    rw [found query]
    split
    · rfl
    · rename_i notListed
      cases value : object query with
      | none => rfl
      | some json =>
          exact absurd (finite query (by rw [value]; rfl)) notListed

end Json

namespace Properties

variable {object under upper : Properties}

/-- The same, by what the properties are and not by what is written. -/
theorem writable_iff :
    object.Writable ↔
      (∃ names : List String,
        ∀ name, (object.get name).isSome = true → name ∈ names) ∧
        ∀ name value, object.get name = some value → value.Writable :=
  Json.writable_obj

/-- Own properties under finitely many names, with values to be written. -/
theorem writable_of_names
    (names : List String)
    (finite : ∀ name, name ∉ names → object name = none)
    (writable :
      ∀ name value, object name = some (some value) → value.Writable) :
    object.Writable := by
  refine writable_iff.mpr ⟨⟨names, ?_⟩, ?_⟩
  · intro name isSome
    by_contra notListed
    rw [get, finite name notListed] at isSome
    cases isSome
  · intro name value found
    exact writable name value (Option.join_eq_some_iff.mp found)

theorem writable_empty : empty.Writable :=
  writable_of_names [] (fun _ _ => rfl) (fun _ _ found => by cases found)

/-- A property that can be written is set. -/
theorem Writable.set
    (writable : object.Writable)
    {name : String}
    {value : Option Json}
    (isWritable : ∀ json, value = some json → json.Writable) :
    (object.set name value).Writable := by
  obtain ⟨⟨names, finite⟩, written⟩ := writable_iff.mp writable
  refine writable_iff.mpr ⟨⟨name :: names, ?_⟩, ?_⟩
  · intro query isSome
    by_cases same : query = name
    · rw [same]
      exact List.mem_cons_self
    · rw [get, set_other same] at isSome
      exact List.mem_cons_of_mem name (finite query isSome)
  · intro query json found
    by_cases same : query = name
    · rw [same, get, set_same] at found
      exact isWritable json found
    · rw [get, set_other same] at found
      exact written query json found

/-- Objects that can be written are spread over one another. -/
theorem Writable.spread
    (underWritable : under.Writable)
    (upperWritable : upper.Writable) :
    (under.spread upper).Writable := by
  obtain ⟨⟨names, finite⟩, written⟩ := writable_iff.mp underWritable
  obtain ⟨⟨otherNames, otherFinite⟩, otherWritten⟩ :=
    writable_iff.mp upperWritable
  -- a property is that of the upper object, defined or not, or the lower one
  have either :
      ∀ name,
        (under.spread upper).get name = upper.get name ∨
          (under.spread upper).get name = under.get name := by
    intro name
    unfold get Properties.spread
    cases upper name with
    | none => exact .inr rfl
    | some value => exact .inl rfl
  refine writable_iff.mpr ⟨⟨otherNames ++ names, ?_⟩, ?_⟩
  · intro name isSome
    rcases either name with same | same
    · rw [same] at isSome
      exact List.mem_append_left _ (otherFinite name isSome)
    · rw [same] at isSome
      exact List.mem_append_right _ (finite name isSome)
  · intro name value found
    rcases either name with same | same
    · rw [same] at found
      exact otherWritten name value found
    · rw [same] at found
      exact written name value found

/-- The elements of a list, under their positions. -/
theorem writable_indexed
    {elements : List Json}
    (writable : ∀ element ∈ elements, element.Writable) :
    (indexed elements).Writable := by
  refine writable_of_names
    ((List.range elements.length).map (fun index => toString index)) ?_ ?_
  · intro name notListed
    unfold indexed
    rw [Option.map_eq_none_iff, List.find?_eq_none]
    intro index inside same
    apply notListed
    rw [← beq_iff_eq.mp same]
    exact List.mem_map_of_mem inside
  · intro name value found
    unfold indexed at found
    obtain ⟨index, -, isElement⟩ := Option.map_eq_some_iff.mp found
    exact writable value (List.mem_of_getElem? isElement)

/-- What spreading a value copies. -/
theorem writable_ofJson
    {value : Option Json}
    (writable : ∀ json, value = some json → json.Writable) :
    (ofJson value).Writable := by
  unfold ofJson
  split
  · rename_i properties
    unfold Properties.Writable
    rw [stringify_properties]
    exact writable _ rfl
  · rename_i elements
    exact writable_indexed (Json.writable_arr.mp (writable _ rfl))
  · apply writable_indexed
    intro element member
    obtain ⟨char, -, rfl⟩ := List.mem_map.mp member
    exact Json.writable_str _
  · exact writable_empty

end Properties

/-- A property of an object that can be written. -/
theorem Json.Writable.property
    {json value : Json}
    (writable : json.Writable)
    {name : String}
    (found : json.property name = some value) :
    value.Writable := by
  cases json with
  | obj object => exact (Json.writable_obj.mp writable).2 name value found
  | null => cases found
  | bool other => cases found
  | num other text => cases found
  | str text => cases found
  | arr elements => cases found

end JavaScript

end NestBackend
