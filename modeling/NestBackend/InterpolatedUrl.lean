import NestBackend.FormUrlEncoded

namespace NestBackend

open FormUrlEncoded

/-!
# The URL of a request

`DTO.interpolatedUrl` puts the parameters into the template and writes the
query behind it.  Nothing is encoded on the way, and the position of an entry,
not of a defined one, decides what separates it.
-/

namespace JavaScript

/-- What stands before and after the first occurrence of `pattern`. -/
def splitFirst? (pattern : List Char) :
    List Char → Option (List Char × List Char)
  | [] => if pattern = [] then some ([], []) else none
  | head :: rest =>
      if pattern.isPrefixOf (head :: rest) then
        some ([], (head :: rest).drop pattern.length)
      else
        (splitFirst? pattern rest).map fun found =>
          (head :: found.1, found.2)

/--
`GetSubstitution` for a string pattern, which captures nothing: a dollar sign
with a dollar sign, an ampersand, a grave accent or an apostrophe behind it
stands for itself, the match, what comes before it, or after it.
-/
def getSubstitution (before matched after : List Char) :
    List Char → List Char
  | [] => []
  | '$' :: mark :: rest =>
      if mark = '$' then
        '$' :: getSubstitution before matched after rest
      else if mark = '&' then
        matched ++ getSubstitution before matched after rest
      else if mark = Char.ofNat 0x60 then
        before ++ getSubstitution before matched after rest
      else if mark = Char.ofNat 0x27 then
        after ++ getSubstitution before matched after rest
      else
        '$' :: getSubstitution before matched after (mark :: rest)
  | char :: rest => char :: getSubstitution before matched after rest

/-- `text.replace(pattern, replacement)` for a string pattern. -/
def replace (text pattern replacement : String) : String :=
  match splitFirst? pattern.toList text.toList with
  | none => text
  | some (before, after) =>
      String.ofList
        (before ++
          getSubstitution before pattern.toList after
            replacement.toList ++
          after)

example : replace "a/:id/b" ":id" "$$1[$&]" = "a/$1[:id]/b" := by
  decide +kernel

end JavaScript

/--
A value of a parameter or of a query.  A number is the text that
`Number::toString` gives it.
-/
inductive DTOValue where
  | string (value : String)
  | number (text : String)
  | boolean (value : Bool)
  deriving DecidableEq, Repr

/-- `String(value)`. -/
def DTOValue.text : DTOValue → String
  | .string value => value
  | .number text => text
  | .boolean value => toString value

/-- The own properties of an object, in the order of `Object.keys`. -/
abbrev DTOEntries := List (String × Option DTOValue)

/-- `DTO`, as far as its URL goes; `none` stands for a falsy object. -/
structure DTO where
  url : String
  paramsDTO : Option DTOEntries
  queryDTO : Option DTOEntries

namespace DTO

/-- The first half of `interpolatedUrl`: the parameters, one by one. -/
def interpolatedPath (dto : DTO) : String :=
  (dto.paramsDTO.getD []).foldl
    (fun url param =>
      JavaScript.replace url (":" ++ param.1)
        ((param.2.map DTOValue.text).getD ""))
    dto.url

/-- The second half of `interpolatedUrl`, from the entry at `index` on. -/
def appendQuery (index : Nat) (url : String) : DTOEntries → String
  | [] => url
  | (key, value) :: rest =>
      match value with
      | some value =>
          appendQuery (index + 1)
            (url ++
              ((if index = 0 then "?" else "&") ++ key ++ "=" ++
                value.text))
            rest
      | none => appendQuery (index + 1) url rest

/-- `interpolatedUrl`. -/
def interpolatedUrl (dto : DTO) : String :=
  appendQuery 0 dto.interpolatedPath (dto.queryDTO.getD [])

/-- The defined entries of a query with the texts of their values. -/
def definedFields (entries : DTOEntries) : List (String × String) :=
  entries.filterMap fun entry =>
    entry.2.map fun value => (entry.1, value.text)

/-- The characters of a field. -/
def fieldChars (field : String × String) : List Char × List Char :=
  (field.1.toList, field.2.toList)

/-- The part of a URL before the first question mark. -/
def beforeQuery (url : String) : List Char :=
  url.toList.takeWhile (fun char => char != '?')

/-- The part of a URL after the first question mark, if there is one. -/
def afterQuery (url : String) : List Char :=
  (url.toList.dropWhile (fun char => char != '?')).drop 1

/--
The URL is read back: its path is the interpolated one, and its query decodes
to the defined entries.
-/
structure Decodes (dto : DTO) : Prop where
  path : beforeQuery dto.interpolatedUrl = dto.interpolatedPath.toList
  fields :
    parse (afterQuery dto.interpolatedUrl) =
      (definedFields (dto.queryDTO.getD [])).map fieldChars

/-- The first entry is there and is not undefined. -/
def FirstDefined (entries : DTOEntries) : Prop :=
  ∃ key value rest, entries = (key, some value) :: rest

/--
Nothing has to be encoded and no separator goes wrong: no parameter brought a
question mark, and unless the query is empty its first entry is defined and
every defined entry is plain.
-/
structure NeedsNoEncoding (dto : DTO) : Prop where
  path : '?' ∉ dto.interpolatedPath.toList
  query :
    definedFields (dto.queryDTO.getD []) = [] ∨
      FirstDefined (dto.queryDTO.getD []) ∧
        ∀ field ∈ definedFields (dto.queryDTO.getD []),
          PlainField (fieldChars field)

/-- After the first entry every defined one is written after an ampersand. -/
theorem appendQuery_of_pos
    {index : Nat}
    (positive : 0 < index)
    (url : String)
    (entries : DTOEntries) :
    (appendQuery index url entries).toList =
      url.toList ++
        ((definedFields entries).map fieldChars).flatMap
          (fun field => '&' :: writeField field) := by
  induction entries generalizing index url with
  | nil => simp [appendQuery, definedFields]
  | cons entry rest inductionHypothesis =>
      obtain ⟨key, value⟩ := entry
      have notFirst : index ≠ 0 := Nat.ne_of_gt positive
      cases value with
      | none =>
          rw [appendQuery]
          simp only [inductionHypothesis (Nat.succ_pos index)]
          rfl
      | some value =>
          rw [appendQuery]
          simp only [inductionHypothesis (Nat.succ_pos index), notFirst,
            ↓reduceIte]
          simp [definedFields, fieldChars, writeField]

/-- A defined first entry puts the question mark where it belongs. -/
theorem appendQuery_firstDefined
    {entries : DTOEntries}
    (first : FirstDefined entries)
    (url : String) :
    (appendQuery 0 url entries).toList =
      url.toList ++
        '?' :: writeFields ((definedFields entries).map fieldChars) := by
  obtain ⟨key, value, rest, rfl⟩ := first
  rw [appendQuery]
  simp only [appendQuery_of_pos Nat.one_pos, ↓reduceIte]
  simp [definedFields, fieldChars, writeFields_cons, writeField]

/-- Without one, all entries are written after ampersands. -/
theorem appendQuery_not_firstDefined
    {entries : DTOEntries}
    (notFirst : ¬ FirstDefined entries)
    (url : String) :
    (appendQuery 0 url entries).toList =
      url.toList ++
        ((definedFields entries).map fieldChars).flatMap
          (fun field => '&' :: writeField field) := by
  cases entries with
  | nil => simp [appendQuery, definedFields]
  | cons entry rest =>
      obtain ⟨key, value⟩ := entry
      cases value with
      | some value => exact (notFirst ⟨key, value, rest, rfl⟩).elim
      | none =>
          rw [appendQuery]
          simp only [appendQuery_of_pos Nat.one_pos]
          rfl

/-- The query is written behind the path. -/
theorem appendQuery_append
    (url : String)
    (entries : DTOEntries) :
    ∃ tail, (appendQuery 0 url entries).toList = url.toList ++ tail := by
  by_cases first : FirstDefined entries
  · exact ⟨_, appendQuery_firstDefined first url⟩
  · exact ⟨_, appendQuery_not_firstDefined first url⟩

/-- A text without a question mark stands before the query as a whole. -/
theorem ne_of_noMark
    {text : List Char}
    (noMark : '?' ∉ text) :
    ∀ char ∈ text, (char != '?') = true := by
  intro char member
  have different : char ≠ '?' := by
    rintro rfl
    exact noMark member
  simpa using different

/-- A path with a question mark is cut short there. -/
theorem takeWhile_ne_of_mark
    {path : List Char}
    (mark : '?' ∈ path)
    (tail : List Char) :
    (path ++ tail).takeWhile (fun char => char != '?') ≠ path := by
  obtain ⟨before, after, rfl, noMark⟩ := List.eq_append_cons_of_mem mark
  rw [List.append_assoc, List.cons_append,
    List.takeWhile_append_of_pos (ne_of_noMark noMark)]
  simp

/-- Where the first entry is defined, its query is read by the parser. -/
theorem decodes_of_firstDefined
    {dto : DTO}
    (noMark : '?' ∉ dto.interpolatedPath.toList)
    (first : FirstDefined (dto.queryDTO.getD [])) :
    dto.Decodes ↔
      ∀ field ∈ definedFields (dto.queryDTO.getD []),
        PlainField (fieldChars field) := by
  have url := appendQuery_firstDefined first dto.interpolatedPath
  have before :
      beforeQuery dto.interpolatedUrl = dto.interpolatedPath.toList := by
    rw [beforeQuery, interpolatedUrl, url,
      List.takeWhile_append_of_pos (ne_of_noMark noMark)]
    simp
  have after :
      afterQuery dto.interpolatedUrl =
        writeFields
          ((definedFields (dto.queryDTO.getD [])).map fieldChars) := by
    rw [afterQuery, interpolatedUrl, url,
      List.dropWhile_append_of_pos (ne_of_noMark noMark)]
    simp
  constructor
  · rintro ⟨-, fields⟩
    rw [after] at fields
    exact List.forall_mem_map.mp (parse_writeFields_iff.mp fields)
  · intro plain
    refine ⟨before, ?_⟩
    rw [after]
    exact parse_writeFields_iff.mpr (List.forall_mem_map.mpr plain)

/-- Where it is not, only an empty query leaves the path alone. -/
theorem decodes_of_not_firstDefined
    {dto : DTO}
    (noMark : '?' ∉ dto.interpolatedPath.toList)
    (notFirst : ¬ FirstDefined (dto.queryDTO.getD [])) :
    dto.Decodes ↔ definedFields (dto.queryDTO.getD []) = [] := by
  have url := appendQuery_not_firstDefined notFirst dto.interpolatedPath
  constructor
  · rintro ⟨path, -⟩
    rw [beforeQuery, interpolatedUrl, url,
      List.takeWhile_append_of_pos (ne_of_noMark noMark)] at path
    cases fields : definedFields (dto.queryDTO.getD []) with
    | nil => rfl
    | cons field others => simp [fields] at path
  · intro none
    rw [none, List.map_nil, List.flatMap_nil, List.append_nil] at url
    refine ⟨?_, ?_⟩
    · rw [beforeQuery, interpolatedUrl, url]
      exact List.takeWhile_eq_self_iff.mpr (ne_of_noMark noMark)
    · rw [afterQuery, interpolatedUrl, url, none,
        List.dropWhile_eq_nil_iff.mpr (ne_of_noMark noMark)]
      rfl

/--
A URL decodes to what was put into it exactly when nothing has to be encoded
and the first entry of the query is defined, or none.
-/
theorem decodes_iff
    (dto : DTO) :
    dto.Decodes ↔ dto.NeedsNoEncoding := by
  by_cases mark : '?' ∈ dto.interpolatedPath.toList
  · constructor
    · rintro ⟨path, -⟩
      obtain ⟨tail, url⟩ :=
        appendQuery_append dto.interpolatedPath (dto.queryDTO.getD [])
      rw [beforeQuery, interpolatedUrl, url] at path
      exact (takeWhile_ne_of_mark mark tail path).elim
    · rintro ⟨noMark, -⟩
      exact absurd mark noMark
  by_cases first : FirstDefined (dto.queryDTO.getD [])
  · rw [decodes_of_firstDefined mark first]
    constructor
    · intro plain
      exact ⟨mark, .inr ⟨first, plain⟩⟩
    · rintro ⟨-, none | ⟨-, plain⟩⟩
      · rw [none]
        simp
      · exact plain
  · rw [decodes_of_not_firstDefined mark first]
    constructor
    · intro none
      exact ⟨mark, .inl none⟩
    · rintro ⟨-, none | ⟨isFirst, -⟩⟩
      · exact none
      · exact absurd isFirst first

/-- A request of the second page of a search, all over. -/
def search (first : Option DTOValue) (text : String) : DTO where
  url := "users/:id/orders"
  paramsDTO := some [("id", some (.number "7"))]
  queryDTO :=
    some
      [("page", first), ("text", some (.string text)),
        ("all", some (.boolean true))]

example :
    (search (some (.number "2")) "a b").interpolatedUrl =
      "users/7/orders?page=2&text=a b&all=true" := by
  decide +kernel

/--
With an undefined first entry there is no question mark at all, and an
ampersand in a value breaks it up.
-/
theorem search_not_decoded :
    ¬ (search none "a b").Decodes ∧
      ¬ (search (some (.number "2")) "a&b").Decodes := by
  constructor
  · rintro ⟨path, -⟩
    revert path
    decide +kernel
  · rintro ⟨-, fields⟩
    revert fields
    decide +kernel

end DTO

end NestBackend
