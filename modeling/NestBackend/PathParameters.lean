import Mathlib.Data.List.Basic
import NestBackend.InterpolatedUrl

namespace NestBackend

/-!
# Parameters of a path

`DTO.interpolatedUrl` replaces one key after the other, each at the first place
where it occurs in what the ones before it have left.  A template says what is
meant: every segment that is a parameter has its value.
-/

namespace JavaScript

/-- `replace`, by its characters. -/
def replaceChars
    (pattern replacement text : List Char) : List Char :=
  match splitFirst? pattern text with
  | none => text
  | some (before, after) =>
      before ++ getSubstitution before pattern after replacement ++ after

/-- The characters after a dollar sign that mean something else. -/
def substitutes (mark : Char) : Bool :=
  mark = '$' || mark = '&' || mark = Char.ofNat 0x60 || mark = Char.ofNat 0x27

/-- A replacement stands for itself: no dollar sign means anything. -/
def verbatim : List Char → Bool
  | [] => true
  | [_] => true
  | char :: mark :: rest =>
      !(char = '$' && substitutes mark) && verbatim (mark :: rest)

end JavaScript

/-- A part of a template between two slashes. -/
inductive PathSegment where
  | literal (text : String)
  | param (name : String)
  deriving DecidableEq, Repr

namespace PathSegment

/-- The characters of a segment in the template. -/
def chars : PathSegment → List Char
  | .literal text => text.toList
  | .param name => ':' :: name.toList

/-- The name of a parameter. -/
def name? : PathSegment → Option String
  | .literal _ => none
  | .param name => some name

/-- A segment as a template has it: what begins with a colon is a parameter. -/
def wellFormed : PathSegment → Bool
  | .literal text =>
      !text.toList.contains '/' && text.toList.head? != some ':'
  | .param name => !name.toList.contains '/'

/-- A segment after one key has been replaced. -/
def fill (field : String × String) (segment : PathSegment) : PathSegment :=
  if segment = .param field.1 then .literal field.2 else segment

/-- A segment with the value of its parameter. -/
def substitute
    (fields : List (String × String)) : PathSegment → PathSegment
  | .literal text => .literal text
  | .param name =>
      match fields.lookup name with
      | some value => .literal value
      | none => .param name

/-- Segments with slashes between them. -/
def joined : List PathSegment → List Char
  | [] => []
  | first :: rest =>
      first.chars ++ rest.flatMap (fun segment => '/' :: segment.chars)

/-- The names of the parameters. -/
def names (segments : List PathSegment) : List String :=
  segments.filterMap name?

end PathSegment

/-- A template: segments, of which some are parameters with different names. -/
structure UrlTemplate where
  segments : List PathSegment
  distinct : (PathSegment.names segments).Nodup
  wellFormed : ∀ segment ∈ segments, segment.wellFormed = true

namespace UrlTemplate

/-- `url`. -/
def url (template : UrlTemplate) : String :=
  String.ofList (PathSegment.joined template.segments)

/-- The template with the values of its parameters. -/
def path
    (template : UrlTemplate)
    (fields : List (String × String)) : String :=
  String.ofList
    (PathSegment.joined
      (template.segments.map (PathSegment.substitute fields)))

end UrlTemplate

/-- The keys of `paramsDTO` with the texts that they are replaced by. -/
def paramFields (params : DTOEntries) : List (String × String) :=
  params.map fun param => (param.1, (param.2.map DTOValue.text).getD "")

/-- Every parameter has a value, and no key is there twice. -/
structure UrlTemplate.Given
    (template : UrlTemplate)
    (params : DTOEntries) : Prop where
  keys : (params.map Prod.fst).Nodup
  values :
    ∀ name ∈ PathSegment.names template.segments,
      ∃ value, (name, some value) ∈ params

/-- The path of `interpolatedUrl` is the template with its values. -/
def UrlTemplate.Substitutes
    (template : UrlTemplate)
    (params : DTOEntries) : Prop :=
  ∀ queryDTO,
    (DTO.mk template.url (some params) queryDTO).interpolatedPath =
      template.path (paramFields params)

namespace PathSegment

/--
A key can be replaced: no segment before its own contains it, and its value
stands for itself.  A key that is no parameter occurs nowhere.
-/
def ClearOf
    (segments : List PathSegment)
    (field : String × String) : Prop :=
  if .param field.1 ∈ segments then
    (∀ segment ∈
        segments.takeWhile (fun segment => segment ≠ .param field.1),
      ¬ (':' :: field.1.toList) <:+: segment.chars) ∧
      JavaScript.verbatim field.2.toList = true
  else
    ¬ (':' :: field.1.toList) <:+: joined segments

/-- All keys can be replaced one after the other. -/
def Clear : List PathSegment → List (String × String) → Prop
  | _, [] => True
  | segments, field :: rest =>
      ClearOf segments field ∧ Clear (segments.map (fill field)) rest

instance
    (segments : List PathSegment)
    (field : String × String) :
    Decidable (ClearOf segments field) :=
  inferInstanceAs (Decidable (ite _ _ _))

instance decidableClear :
    (segments : List PathSegment) →
      (fields : List (String × String)) →
        Decidable (Clear segments fields)
  | _, [] => inferInstanceAs (Decidable True)
  | segments, field :: rest =>
      have := decidableClear (segments.map (fill field)) rest
      inferInstanceAs (Decidable (_ ∧ _))

/-- Every value is one character that is found nowhere else. -/
structure Fresh
    (text : List Char)
    (fields : List (String × String)) : Prop where
  single : ∀ field ∈ fields, ∃ char, field.2.toList = [char]
  apart : fields.Pairwise (fun first second => first.2 ≠ second.2)
  unused :
    ∀ field ∈ fields,
      ∀ char ∈ field.2.toList,
        char ∉ text ∧ ∀ other ∈ fields, char ∉ ':' :: other.1.toList

end PathSegment

namespace JavaScript

variable {pattern replacement text before after : List Char}

/-! ## The first occurrence -/

/-- `replace` is what its characters say. -/
theorem toList_replace (text pattern replacement : String) :
    (replace text pattern replacement).toList =
      replaceChars pattern.toList replacement.toList text.toList := by
  unfold replace replaceChars
  cases splitFirst? pattern.toList text.toList with
  | none => rfl
  | some found => simp

/-- What is found is the pattern, and nothing before it is. -/
theorem splitFirst?_eq_some
    (found : splitFirst? pattern text = some (before, after)) :
    text = before ++ pattern ++ after ∧
      ∀ front back,
        text = front ++ pattern ++ back → before.length ≤ front.length := by
  induction text generalizing before with
  | nil =>
      unfold splitFirst? at found
      split at found
      next empty =>
        simp only [Option.some.injEq, Prod.mk.injEq] at found
        obtain ⟨rfl, rfl⟩ := found
        exact ⟨by simp [empty], fun _ _ _ => Nat.zero_le _⟩
      next => cases found
  | cons head rest inductionHypothesis =>
      unfold splitFirst? at found
      split at found
      next leading =>
        simp only [Option.some.injEq, Prod.mk.injEq] at found
        obtain ⟨rfl, rfl⟩ := found
        refine ⟨?_, fun _ _ _ => Nat.zero_le _⟩
        exact
          (List.prefix_iff_eq_append.mp
            (List.isPrefixOf_iff_prefix.mp leading)).symm
      next notLeading =>
        obtain ⟨⟨tail, rest⟩, foundLater, same⟩ :=
          Option.map_eq_some_iff.mp found
        simp only [Prod.mk.injEq] at same
        obtain ⟨rfl, rfl⟩ := same
        obtain ⟨shape, first⟩ := inductionHypothesis foundLater
        refine ⟨by rw [shape]; simp, ?_⟩
        intro front back split
        cases front with
        | nil =>
            refine absurd (List.isPrefixOf_iff_prefix.mpr ?_) notLeading
            exact ⟨back, split.symm⟩
        | cons char front =>
            have tailSplit := (List.cons.inj split).2
            simpa using first front back tailSplit

/-- Where nothing is found, the pattern is no part of the text. -/
theorem splitFirst?_eq_none :
    splitFirst? pattern text = none ↔ ¬ pattern <:+: text := by
  induction text with
  | nil =>
      unfold splitFirst?
      simp [List.infix_nil]
  | cons head rest inductionHypothesis =>
      unfold splitFirst?
      rw [List.infix_cons_iff, ← List.isPrefixOf_iff_prefix]
      split
      next leading => simp [leading]
      next notLeading =>
        rw [Option.map_eq_none_iff, inductionHypothesis]
        simp [notLeading]

/-- An occurrence with none before it is found. -/
theorem splitFirst?_of_first
    (first :
      ∀ front back,
        before ++ pattern ++ after = front ++ pattern ++ back →
          before.length ≤ front.length) :
    splitFirst? pattern (before ++ pattern ++ after) =
      some (before, after) := by
  cases found : splitFirst? pattern (before ++ pattern ++ after) with
  | none =>
      exact absurd ⟨before, after, rfl⟩ (splitFirst?_eq_none.mp found)
  | some parts =>
      obtain ⟨front, back⟩ := parts
      obtain ⟨shape, earliest⟩ := splitFirst?_eq_some found
      have sameLength : before.length = front.length :=
        Nat.le_antisymm (first front back shape) (earliest before after rfl)
      rw [List.append_assoc, List.append_assoc] at shape
      obtain ⟨rfl, tails⟩ := List.append_inj shape sameLength
      rw [List.append_cancel_left tails]

/-- What stands for itself is put in as it is. -/
theorem getSubstitution_verbatim
    (plain : verbatim replacement = true) :
    getSubstitution before pattern after replacement = replacement := by
  fun_induction getSubstitution before pattern after replacement with
  | case1 => rfl
  | case2 rest => cases plain
  | case3 rest => cases plain
  | case4 rest => cases plain
  | case5 rest => cases plain
  | case6 mark rest _ _ _ _ inductionHypothesis =>
      rw [inductionHypothesis (Bool.and_eq_true_iff.mp plain).2]
  | case7 char rest _ inductionHypothesis =>
      have restPlain : verbatim rest = true := by
        cases rest with
        | nil => rfl
        | cons mark rest => exact (Bool.and_eq_true_iff.mp plain).2
      rw [inductionHypothesis restPlain]

/-- A pattern without a separator lies on one side of it. -/
theorem infix_append_cons
    {separator : Char}
    {left right : List Char}
    (plain : separator ∉ pattern)
    (occurs : pattern <:+: left ++ separator :: right) :
    pattern <:+: left ∨ pattern <:+: right := by
  obtain ⟨front, back, shape⟩ := occurs
  rcases List.append_eq_append_iff.mp shape with
    ⟨middle, inLeft, -⟩ | ⟨middle, split, tail⟩
  · exact .inl ⟨front, middle, inLeft.symm⟩
  cases middle with
  | nil => exact .inl ⟨front, [], by simpa using split⟩
  | cons char middle =>
      obtain ⟨rfl, rightShape⟩ := List.cons.inj tail
      rcases List.append_eq_append_iff.mp split with
        ⟨inside, -, patternShape⟩ | ⟨beyond, -, patternShape⟩
      · exact absurd (by simp [patternShape]) plain
      · cases beyond with
        | nil =>
            rw [List.nil_append] at patternShape
            exact absurd (by simp [← patternShape]) plain
        | cons char beyond =>
            have middleShape := (List.cons.inj patternShape).2
            refine .inr ⟨beyond, back, ?_⟩
            simp [rightShape, middleShape]

end JavaScript

namespace PathSegment

open JavaScript

/-! ## Segments -/

/-- The segments before one, each with the slash behind it. -/
def leading (segments : List PathSegment) : List Char :=
  segments.flatMap fun segment => segment.chars ++ ['/']

/-- The segments after one, each with the slash before it. -/
def trailing (segments : List PathSegment) : List Char :=
  segments.flatMap fun segment => '/' :: segment.chars

/-- A segment between others. -/
theorem joined_append_cons
    (before after : List PathSegment)
    (segment : PathSegment) :
    joined (before ++ segment :: after) =
      leading before ++ segment.chars ++ trailing after := by
  have shift :
      ∀ (segments : List PathSegment) (tail : List Char),
        trailing segments ++ '/' :: tail = '/' :: (leading segments ++ tail) := by
    intro segments tail
    induction segments with
    | nil => rfl
    | cons first rest inductionHypothesis =>
        simp only [trailing, leading, List.flatMap_cons] at *
        simp [inductionHypothesis]
  cases before with
  | nil => simp [joined, leading, trailing]
  | cons first before =>
      have rest := shift before (segment.chars ++ trailing after)
      simp only [trailing, leading] at rest
      simp [joined, leading, trailing, rest]

/-- A key without a slash is found in one of the segments before. -/
theorem infix_leading
    {pattern : List Char}
    {segments : List PathSegment}
    (noSlash : '/' ∉ pattern)
    (nonempty : pattern ≠ [])
    (occurs : pattern <:+: leading segments) :
    ∃ segment ∈ segments, pattern <:+: segment.chars := by
  induction segments with
  | nil => exact absurd (List.infix_nil.mp occurs) nonempty
  | cons first rest inductionHypothesis =>
      rw [leading, List.flatMap_cons, List.append_assoc,
        List.singleton_append] at occurs
      rcases infix_append_cons noSlash occurs with inFirst | inRest
      · exact ⟨first, List.mem_cons_self, inFirst⟩
      · obtain ⟨segment, member, inSegment⟩ := inductionHypothesis inRest
        exact ⟨segment, List.mem_cons_of_mem _ member, inSegment⟩

/-- What the segments before end with has their last slash. -/
theorem slash_mem_of_suffix
    {segments : List PathSegment}
    {front tail : List Char}
    (shape : leading segments = front ++ tail)
    (nonempty : tail ≠ []) :
    '/' ∈ tail := by
  have last : (leading segments).getLast? = some '/' := by
    have some : segments ≠ [] := by
      rintro rfl
      have empty := List.append_eq_nil_iff.mp shape.symm
      exact nonempty empty.2
    rw [← List.dropLast_concat_getLast some]
    simp [leading]
  rw [shape, List.getLast?_append, List.getLast?_eq_some_getLast nonempty]
    at last
  exact List.mem_of_getLast? ((List.getLast?_eq_some_getLast nonempty).trans last)

/-- A segment before is a part of the text. -/
theorem chars_infix_leading
    {segments : List PathSegment}
    {segment : PathSegment}
    (member : segment ∈ segments) :
    segment.chars <:+: leading segments := by
  obtain ⟨before, after, rfl⟩ := List.append_of_mem member
  refine ⟨leading before, '/' :: leading after, ?_⟩
  simp [leading]

/-- A parameter between segments that are not it. -/
structure Around
    (segments before after : List PathSegment)
    (name : String) : Prop where
  shape : segments = before ++ .param name :: after
  upTo :
    segments.takeWhile (fun segment => segment ≠ .param name) = before
  absentBefore : .param name ∉ before
  absentAfter : .param name ∉ after

/-- A parameter stands in one place. -/
theorem exists_around
    {segments : List PathSegment}
    {name : String}
    (distinct : (names segments).Nodup)
    (member : .param name ∈ segments) :
    ∃ before after, Around segments before after name := by
  obtain ⟨before, after, rfl, absent⟩ := List.eq_append_cons_of_mem member
  refine ⟨before, after, rfl, ?_, absent, ?_⟩
  · rw [List.takeWhile_append_of_pos]
    · simp
    · intro segment isBefore
      simpa using ne_of_mem_of_not_mem isBefore absent
  · intro again
    have later : name ∈ names after :=
      List.mem_filterMap.mpr ⟨.param name, again, rfl⟩
    have twice : names (before ++ .param name :: after) =
        names before ++ name :: names after := by
      simp [names, name?]
    rw [twice] at distinct
    exact
      (List.nodup_cons.mp (List.nodup_append.mp distinct).2.1).1 later

/-- Segments that are not a parameter keep their text. -/
theorem map_fill_of_notMem
    {segments : List PathSegment}
    {field : String × String}
    (absent : .param field.1 ∉ segments) :
    segments.map (fill field) = segments := by
  rw [List.map_congr_left (g := id), List.map_id]
  intro segment member
  exact if_neg (ne_of_mem_of_not_mem member absent)

/-- A segment with its value. -/
theorem Around.joined_fill
    {segments before after : List PathSegment}
    {field : String × String}
    (around : Around segments before after field.1) :
    joined (segments.map (fill field)) =
      leading before ++ field.2.toList ++ trailing after := by
  have filled : fill field (.param field.1) = .literal field.2 := if_pos rfl
  rw [around.shape, List.map_append, List.map_cons,
    map_fill_of_notMem around.absentBefore,
    map_fill_of_notMem around.absentAfter, filled, joined_append_cons]
  rfl

/-- A segment with its key. -/
theorem Around.joined_eq
    {segments before after : List PathSegment}
    {name : String}
    (around : Around segments before after name) :
    joined segments =
      leading before ++ (':' :: name.toList) ++ trailing after := by
  rw [around.shape, joined_append_cons]
  rfl

/-- What holds of the segments, filled or not. -/
structure Proper (segments : List PathSegment) : Prop where
  distinct : (names segments).Nodup
  noSlash : ∀ name ∈ names segments, '/' ∉ name.toList

/-- The names that are left. -/
theorem names_fill
    (segments : List PathSegment)
    (field : String × String) :
    names (segments.map (fill field)) =
      (names segments).filter (fun name => name ≠ field.1) := by
  induction segments with
  | nil => rfl
  | cons segment rest inductionHypothesis =>
      simp only [names] at inductionHypothesis ⊢
      rw [List.map_cons, List.filterMap_cons, List.filterMap_cons,
        inductionHypothesis]
      cases segment with
      | literal text => simp [fill, name?]
      | param name =>
          by_cases same : name = field.1 <;> simp [fill, name?, same]

/-- Filled segments stay proper. -/
theorem Proper.fill
    {segments : List PathSegment}
    (proper : Proper segments)
    (field : String × String) :
    Proper (segments.map (fill field)) where
  distinct := by
    rw [names_fill]
    exact proper.distinct.filter _
  noSlash := by
    intro name member
    rw [names_fill] at member
    exact proper.noSlash name (List.mem_filter.mp member).1

/-- A parameter whose key occurs nowhere before is found where it stands. -/
theorem Around.splitFirst?_eq
    {segments before after : List PathSegment}
    {name : String}
    (around : Around segments before after name)
    (noSlash : '/' ∉ name.toList)
    (clear :
      ∀ segment ∈ before, ¬ (':' :: name.toList) <:+: segment.chars) :
    splitFirst? (':' :: name.toList) (joined segments) =
      some (leading before, trailing after) := by
  rw [around.joined_eq]
  apply splitFirst?_of_first
  intro front back shape
  by_contra earlier
  have plain : '/' ∉ ':' :: name.toList := by
    simpa using noSlash
  rw [List.append_assoc, List.append_assoc] at shape
  rcases List.append_eq_append_iff.mp shape with
    ⟨middle, frontShape, -⟩ | ⟨middle, beforeShape, patternShape⟩
  · simp [frontShape] at earlier
  have some : middle ≠ [] := by
    rintro rfl
    simp [beforeShape] at earlier
  -- the occurrence ends before the parameter, or reaches over the slash
  rcases List.append_eq_append_iff.mp patternShape with
    ⟨rest, middleShape, -⟩ | ⟨rest, keyShape, -⟩
  · have occurs : (':' :: name.toList) <:+: leading before :=
      ⟨front, rest, by simp [beforeShape, middleShape]⟩
    obtain ⟨segment, member, inSegment⟩ :=
      infix_leading plain (List.cons_ne_nil _ _) occurs
    exact clear segment member inSegment
  · apply plain
    rw [keyShape]
    exact List.mem_append_left _ (slash_mem_of_suffix beforeShape some)

/-! ## What is clear is substituted -/

/-- A key that is clear is replaced where it should be. -/
theorem ClearOf.replaceChars_eq
    {segments : List PathSegment}
    {field : String × String}
    (proper : Proper segments)
    (clear : ClearOf segments field) :
    replaceChars (':' :: field.1.toList) field.2.toList (joined segments) =
      joined (segments.map (fill field)) := by
  unfold ClearOf at clear
  split at clear
  next member =>
    obtain ⟨before, after, around⟩ := exists_around proper.distinct member
    rw [around.upTo] at clear
    have noSlash : '/' ∉ field.1.toList :=
      proper.noSlash _ (List.mem_filterMap.mpr ⟨_, member, rfl⟩)
    simp only [replaceChars, around.splitFirst?_eq noSlash clear.1,
      around.joined_fill, getSubstitution_verbatim clear.2]
  next absent =>
    rw [replaceChars, splitFirst?_eq_none.mpr clear,
      map_fill_of_notMem absent]

/-- The keys that are replaced, one after the other. -/
def replaceAll
    (text : List Char)
    (fields : List (String × String)) : List Char :=
  fields.foldl
    (fun text field =>
      replaceChars (':' :: field.1.toList) field.2.toList text)
    text

/-- The segments that are filled, one after the other. -/
def fillAll
    (segments : List PathSegment)
    (fields : List (String × String)) : List PathSegment :=
  fields.foldl (fun segments field => segments.map (fill field)) segments

/-- Filled one by one or all at once, a parameter has its own value. -/
theorem fillAll_eq
    (segments : List PathSegment)
    (fields : List (String × String)) :
    fillAll segments fields = segments.map (substitute fields) := by
  induction fields generalizing segments with
  | nil =>
      have same : substitute [] = id := by
        funext segment
        cases segment <;> rfl
      simp [fillAll, same]
  | cons field rest inductionHypothesis =>
      have one :
          substitute rest ∘ fill field = substitute (field :: rest) := by
        funext segment
        obtain ⟨key, value⟩ := field
        cases segment with
        | literal text => rfl
        | param name =>
            by_cases same : name = key
            · simp [fill, substitute, same]
            · have different : (name == key) = false := by simpa using same
              simp [fill, substitute, same, List.lookup_cons, different]
      rw [← one, ← List.map_map]
      exact inductionHypothesis (segments.map (fill field))

/-- Where all keys are clear, what is replaced is what is filled. -/
theorem Clear.replaceAll_eq
    {segments : List PathSegment}
    {fields : List (String × String)}
    (proper : Proper segments)
    (clear : Clear segments fields) :
    replaceAll (joined segments) fields = joined (fillAll segments fields) := by
  induction fields generalizing segments with
  | nil => rfl
  | cons field rest inductionHypothesis =>
      obtain ⟨clearOf, clearRest⟩ := clear
      have filled := clearOf.replaceChars_eq proper
      have later := inductionHypothesis (proper.fill field) clearRest
      rw [← filled] at later
      exact later

/-! ## What has been put in is taken out again -/

/-- Put a key back for its value. -/
def restore (field : String × String) (text : List Char) : List Char :=
  text.flatMap fun char =>
    if field.2.toList = [char] then ':' :: field.1.toList else [char]

/-- Put all keys back, the last one first. -/
def restoreAll : List (String × String) → List Char → List Char
  | [], text => text
  | field :: rest, text => restore field (restoreAll rest text)

@[simp] theorem restore_append
    (field : String × String)
    (first second : List Char) :
    restore field (first ++ second) =
      restore field first ++ restore field second :=
  List.flatMap_append

/-- Without the value nothing is put back. -/
theorem restore_of_notMem
    {field : String × String}
    {char : Char}
    {text : List Char}
    (single : field.2.toList = [char])
    (absent : char ∉ text) :
    restore field text = text := by
  induction text with
  | nil => rfl
  | cons head rest inductionHypothesis =>
      obtain ⟨different, absentRest⟩ := 
        not_or.mp (mt List.mem_cons.mpr absent)
      have later := inductionHypothesis absentRest
      simp only [restore, single] at later ⊢
      rw [List.flatMap_cons, later]
      simp [different]

/-- For the value, the key is put back. -/
theorem restore_value
    {field : String × String}
    {char : Char}
    (single : field.2.toList = [char]) :
    restore field field.2.toList = ':' :: field.1.toList := by
  rw [restore, single]
  simp

/-- One character stands for itself. -/
theorem verbatim_of_single
    {value : List Char}
    {char : Char}
    (single : value = [char]) :
    verbatim value = true := by
  rw [single]
  rfl

/-- What has been replaced is put back. -/
theorem restore_replaceChars
    {field : String × String}
    {char : Char}
    {text : List Char}
    (single : field.2.toList = [char])
    (absent : char ∉ text) :
    restore field
        (replaceChars (':' :: field.1.toList) field.2.toList text) =
      text := by
  unfold replaceChars
  cases found : splitFirst? (':' :: field.1.toList) text with
  | none => exact restore_of_notMem single absent
  | some parts =>
      obtain ⟨before, after⟩ := parts
      obtain ⟨shape, -⟩ := splitFirst?_eq_some found
      rw [shape] at absent
      simp only [List.mem_append, not_or] at absent
      simp only [getSubstitution_verbatim (verbatim_of_single single),
        restore_append, restore_value single,
        restore_of_notMem single absent.1.1,
        restore_of_notMem single absent.2]
      exact shape.symm

/-- What has been filled is put back. -/
theorem restore_joined
    {field : String × String}
    {char : Char}
    {segments : List PathSegment}
    (single : field.2.toList = [char])
    (proper : Proper segments)
    (absent : char ∉ joined segments) :
    restore field (joined (segments.map (fill field))) = joined segments := by
  by_cases member : .param field.1 ∈ segments
  · obtain ⟨before, after, around⟩ := exists_around proper.distinct member
    rw [around.joined_eq] at absent ⊢
    simp only [List.mem_append, not_or] at absent
    rw [around.joined_fill, restore_append, restore_append,
      restore_value single, restore_of_notMem single absent.1.1,
      restore_of_notMem single absent.2]
  · rw [map_fill_of_notMem member]
    exact restore_of_notMem single absent

/-- What a replacement leaves was there, or is the value. -/
theorem mem_replaceChars
    {field : String × String}
    {char : Char}
    {text : List Char}
    (single : ∃ char, field.2.toList = [char])
    (member :
      char ∈ replaceChars (':' :: field.1.toList) field.2.toList text) :
    char ∈ text ∨ char ∈ field.2.toList := by
  obtain ⟨value, isSingle⟩ := single
  unfold replaceChars at member
  cases found : splitFirst? (':' :: field.1.toList) text with
  | none => simp [found] at member; exact .inl member
  | some parts =>
      obtain ⟨before, after⟩ := parts
      obtain ⟨rfl, -⟩ := splitFirst?_eq_some found
      simp only [found,
        getSubstitution_verbatim (verbatim_of_single isSingle),
        List.mem_append] at member
      rcases member with (inBefore | isValue) | inAfter
      · exact .inl (by simp [inBefore])
      · exact .inr isValue
      · exact .inl (by simp [inAfter])

/-- What is joined was there, or is the value. -/
theorem mem_joined_fill
    {field : String × String}
    {char : Char}
    {segments : List PathSegment}
    (proper : Proper segments)
    (member : char ∈ joined (segments.map (fill field))) :
    char ∈ joined segments ∨ char ∈ field.2.toList := by
  by_cases isParam : .param field.1 ∈ segments
  · obtain ⟨before, after, around⟩ := exists_around proper.distinct isParam
    rw [around.joined_fill] at member
    rw [around.joined_eq]
    simp only [List.mem_append] at member ⊢
    rcases member with (inBefore | isValue) | inAfter
    · exact .inl (.inl (.inl inBefore))
    · exact .inr isValue
    · exact .inl (.inr inAfter)
  · rw [map_fill_of_notMem isParam] at member
    exact .inl member

/-- The other values are still fresh once one has been put in. -/
theorem Fresh.rest
    {text later : List Char}
    {field : String × String}
    {rest : List (String × String)}
    (fresh : Fresh text (field :: rest))
    (from_ : ∀ char ∈ later, char ∈ text ∨ char ∈ field.2.toList) :
    Fresh later rest where
  single := fun other member =>
    fresh.single other (List.mem_cons_of_mem _ member)
  apart := (List.pairwise_cons.mp fresh.apart).2
  unused := by
    intro other member char isValue
    obtain ⟨absent, noKey⟩ :=
      fresh.unused other (List.mem_cons_of_mem _ member) char isValue
    refine ⟨?_, fun third inRest => noKey third (List.mem_cons_of_mem _ inRest)⟩
    intro isLater
    rcases from_ char isLater with isText | isFirst
    · exact absent isText
    · -- both values would be the same character
      obtain ⟨first, firstSingle⟩ := fresh.single field List.mem_cons_self
      obtain ⟨second, secondSingle⟩ :=
        fresh.single other (List.mem_cons_of_mem _ member)
      rw [firstSingle, List.mem_singleton] at isFirst
      rw [secondSingle, List.mem_singleton] at isValue
      apply (List.pairwise_cons.mp fresh.apart).1 other member
      rw [← String.toList_inj, firstSingle, secondSingle, ← isFirst, isValue]

/-- All that has been replaced is put back. -/
theorem restoreAll_replaceAll
    {text : List Char}
    {fields : List (String × String)}
    (fresh : Fresh text fields) :
    restoreAll fields (replaceAll text fields) = text := by
  induction fields generalizing text with
  | nil => rfl
  | cons field rest inductionHypothesis =>
      have single := fresh.single field List.mem_cons_self
      have later :=
        inductionHypothesis
          (fresh.rest fun char member => mem_replaceChars single member)
      obtain ⟨char, isSingle⟩ := single
      have absent :=
        (fresh.unused field List.mem_cons_self char (by simp [isSingle])).1
      calc
        restoreAll (field :: rest) (replaceAll text (field :: rest)) =
            restore field
              (replaceChars (':' :: field.1.toList) field.2.toList text) :=
          congrArg (restore field) later
        _ = text := restore_replaceChars isSingle absent

/-- All that has been filled is put back. -/
theorem restoreAll_fillAll
    {segments : List PathSegment}
    {fields : List (String × String)}
    (proper : Proper segments)
    (fresh : Fresh (joined segments) fields) :
    restoreAll fields (joined (fillAll segments fields)) =
      joined segments := by
  induction fields generalizing segments with
  | nil => rfl
  | cons field rest inductionHypothesis =>
      have later :=
        inductionHypothesis (proper.fill field)
          (fresh.rest fun char member => mem_joined_fill proper member)
      obtain ⟨char, isSingle⟩ := fresh.single field List.mem_cons_self
      have absent :=
        (fresh.unused field List.mem_cons_self char (by simp [isSingle])).1
      calc
        restoreAll (field :: rest) (joined (fillAll segments (field :: rest))) =
            restore field (joined (segments.map (fill field))) :=
          congrArg (restore field) later
        _ = joined segments := restore_joined isSingle proper absent

/-! ## What is substituted is clear -/

/-- A parameter that is found where it stands occurs nowhere before. -/
theorem Around.clear_of_splitFirst?
    {segments before after : List PathSegment}
    {name : String}
    (around : Around segments before after name)
    (found :
      splitFirst? (':' :: name.toList) (joined segments) =
        some (leading before, trailing after)) :
    ∀ segment ∈ before, ¬ (':' :: name.toList) <:+: segment.chars := by
  intro segment isBefore inSegment
  obtain ⟨front, back, occurs⟩ :=
    inSegment.trans (chars_infix_leading isBefore)
  obtain ⟨-, earliest⟩ := splitFirst?_eq_some found
  have early :=
    earliest front (back ++ (':' :: name.toList) ++ trailing after)
      (by rw [around.joined_eq, ← occurs]; simp)
  have lengths := congrArg List.length occurs
  simp only [List.length_append, List.length_cons] at lengths
  omega

/-- A fresh value that stands where it should has replaced its parameter. -/
theorem Around.splitFirst?_of_filled
    {segments before after : List PathSegment}
    {field : String × String}
    {char : Char}
    (around : Around segments before after field.1)
    (single : field.2.toList = [char])
    (absent : char ∉ joined segments)
    (filled :
      replaceChars (':' :: field.1.toList) field.2.toList (joined segments) =
        joined (segments.map (fill field))) :
    splitFirst? (':' :: field.1.toList) (joined segments) =
      some (leading before, trailing after) := by
  cases found : splitFirst? (':' :: field.1.toList) (joined segments) with
  | none =>
      refine absurd ?_ (splitFirst?_eq_none.mp found)
      exact ⟨leading before, trailing after, around.joined_eq.symm⟩
  | some parts =>
      obtain ⟨first, last⟩ := parts
      obtain ⟨shape, -⟩ := splitFirst?_eq_some found
      rw [shape] at absent
      simp only [List.mem_append, not_or] at absent
      simp only [replaceChars, found, around.joined_fill,
        getSubstitution_verbatim (verbatim_of_single single)] at filled
      -- the value is in one place only, so both sides split there
      rw [single, List.append_assoc, List.append_assoc,
        List.singleton_append, List.singleton_append] at filled
      obtain ⟨rfl, -, rfl⟩ :=
        (List.append_cons_inj_of_notMem absent.1.1 absent.2).mp filled
      rfl

/-- A key that has been replaced by a fresh value where it should be is clear. -/
theorem clearOf_of_filled
    {segments : List PathSegment}
    {field : String × String}
    {char : Char}
    (proper : Proper segments)
    (single : field.2.toList = [char])
    (absent : char ∉ joined segments)
    (filled :
      replaceChars (':' :: field.1.toList) field.2.toList (joined segments) =
        joined (segments.map (fill field))) :
    ClearOf segments field := by
  have plain := verbatim_of_single single
  unfold ClearOf
  split
  next member =>
    obtain ⟨before, after, around⟩ := exists_around proper.distinct member
    rw [around.upTo]
    have found := around.splitFirst?_of_filled single absent filled
    exact ⟨around.clear_of_splitFirst? found, plain⟩
  next notParam =>
    rw [← splitFirst?_eq_none]
    cases found : splitFirst? (':' :: field.1.toList) (joined segments) with
    | none => rfl
    | some parts =>
        obtain ⟨first, last⟩ := parts
        simp only [replaceChars, found, getSubstitution_verbatim plain,
          map_fill_of_notMem notParam] at filled
        rw [single] at filled
        exact absurd (by simp [← filled]) absent

/-- Where fresh values end up where they should, all keys are clear. -/
theorem clear_of_replaceAll
    {segments : List PathSegment}
    {fields : List (String × String)}
    (proper : Proper segments)
    (fresh : Fresh (joined segments) fields)
    (replaced :
      replaceAll (joined segments) fields =
        joined (fillAll segments fields)) :
    Clear segments fields := by
  induction fields generalizing segments with
  | nil => trivial
  | cons field rest inductionHypothesis =>
      have single := fresh.single field List.mem_cons_self
      have freshReplaced :=
        fresh.rest fun char member => mem_replaceChars single member
      have freshFilled :=
        fresh.rest fun char member => mem_joined_fill proper member
      -- the values that come later are put back on both sides
      have filled :
          replaceChars (':' :: field.1.toList) field.2.toList
              (joined segments) =
            joined (segments.map (fill field)) := by
        calc
          replaceChars (':' :: field.1.toList) field.2.toList
                (joined segments) =
              restoreAll rest (replaceAll (joined segments) (field :: rest)) :=
            (restoreAll_replaceAll freshReplaced).symm
          _ = restoreAll rest (joined (fillAll segments (field :: rest))) :=
            congrArg (restoreAll rest) replaced
          _ = joined (segments.map (fill field)) :=
            restoreAll_fillAll (proper.fill field) freshFilled
      obtain ⟨char, isSingle⟩ := single
      have absent :=
        (fresh.unused field List.mem_cons_self char (by simp [isSingle])).1
      refine
        ⟨clearOf_of_filled proper isSingle absent filled,
          inductionHypothesis (proper.fill field) freshFilled ?_⟩
      rw [← filled]
      exact replaced

end PathSegment

namespace UrlTemplate

open PathSegment

/-- The segments of a template are proper. -/
theorem proper (template : UrlTemplate) : Proper template.segments where
  distinct := template.distinct
  noSlash := by
    intro name member
    obtain ⟨segment, isSegment, named⟩ := List.mem_filterMap.mp member
    have wellFormed := template.wellFormed segment isSegment
    cases segment with
    | literal text => cases named
    | param other =>
        obtain rfl := Option.some.inj named
        simpa [PathSegment.wellFormed] using wellFormed

/-- `interpolatedUrl` replaces all keys in the joined segments. -/
theorem toList_interpolatedPath
    (template : UrlTemplate)
    (params : DTOEntries)
    (queryDTO : Option DTOEntries) :
    (DTO.mk template.url (some params) queryDTO).interpolatedPath.toList =
      replaceAll (joined template.segments) (paramFields params) := by
  have replaced :
      ∀ text : String,
        (params.foldl
            (fun url param =>
              JavaScript.replace url (":" ++ param.1)
                ((param.2.map DTOValue.text).getD ""))
            text).toList =
          replaceAll text.toList (paramFields params) := by
    intro text
    induction params generalizing text with
    | nil => rfl
    | cons param rest inductionHypothesis =>
        rw [List.foldl_cons, inductionHypothesis, JavaScript.toList_replace,
          String.toList_append]
        rfl
  have url := replaced template.url
  rw [UrlTemplate.url, String.toList_ofList] at url
  exact url

/-- The path is right exactly if the keys replace what is to be filled. -/
theorem substitutes_iff
    {template : UrlTemplate}
    {params : DTOEntries} :
    template.Substitutes params ↔
      replaceAll (joined template.segments) (paramFields params) =
        joined (fillAll template.segments (paramFields params)) := by
  rw [fillAll_eq]
  constructor
  · intro substitutes
    have path := congrArg String.toList (substitutes none)
    rwa [toList_interpolatedPath, UrlTemplate.path, String.toList_ofList]
      at path
  · intro replaced queryDTO
    rw [← String.toList_inj, toList_interpolatedPath, UrlTemplate.path,
      String.toList_ofList, replaced]

/--
The path is the template with its values if every key, when its turn comes, is
found in its own segment first and has a value that stands for itself, and a key
that is no parameter is not found; and only then, if each value is a character
that is found nowhere else.
-/
theorem substitutes_of_clear
    (template : UrlTemplate)
    (params : DTOEntries) :
    (Clear template.segments (paramFields params) →
        template.Substitutes params) ∧
      (Fresh (joined template.segments) (paramFields params) →
        template.Substitutes params →
          Clear template.segments (paramFields params)) := by
  constructor
  · intro clear
    exact substitutes_iff.mpr (clear.replaceAll_eq template.proper)
  · intro fresh substitutes
    exact
      clear_of_replaceAll template.proper fresh
        (substitutes_iff.mp substitutes)

/-- The path of an order of a user. -/
def orderOfUser : UrlTemplate where
  segments := [.literal "users", .param "id", .literal "orders", .param "idx"]
  distinct := by decide
  wellFormed := by decide

/-- A value that looks like a key that has been replaced before does no harm. -/
theorem orderOfUser_substitutes :
    orderOfUser.Substitutes
      [("id", some (.number "7")), ("idx", some (.string ":id"))] :=
  (substitutes_of_clear orderOfUser
    [("id", some (.number "7")), ("idx", some (.string ":id"))]).1 (by decide)

/-- The path of a user of an order, the other way round. -/
def userOfOrder : UrlTemplate where
  segments := [.literal "orders", .param "idx", .literal "users", .param "id"]
  distinct := by decide
  wellFormed := by decide

-- A value that is its own key is replaced by itself wherever it is found.
example :
    ¬ Clear userOfOrder.segments [("id", ":id"), ("idx", "3")] ∧
      replaceAll (joined userOfOrder.segments)
          [("id", ":id"), ("idx", "3")] =
        joined
          (fillAll userOfOrder.segments [("id", ":id"), ("idx", "3")]) := by
  decide +kernel

/-- A key that begins a longer one is replaced there. -/
theorem shorter_key_replaced_in_longer :
    ¬ ∀ (template : UrlTemplate) (params : DTOEntries),
        template.Given params → template.Substitutes params := by
  intro always
  have given :
      userOfOrder.Given
        [("id", some (.number "7")), ("idx", some (.number "3"))] := by
    refine ⟨by decide, ?_⟩
    intro name member
    have named : "idx" = name ∨ "id" = name := by
      simpa [userOfOrder, names, name?] using member
    rcases named with rfl | rfl
    · exact ⟨.number "3", by decide⟩
    · exact ⟨.number "7", by decide⟩
  have path := always _ _ given none
  revert path
  decide +kernel

end UrlTemplate

end NestBackend
