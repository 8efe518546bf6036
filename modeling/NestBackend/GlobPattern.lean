import Mathlib.Data.List.Infix

namespace NestBackend

/-!
# Glob patterns

The pattern language of key scans: `*` matches any text, `?` one character,
`[...]` one character of a class (with `^` for the complement and `a-z` for a
range), and a backslash takes the next character literally.

A pattern is first read into items, so that matching recurses on a list whose
elements each consume text independently.
-/

namespace Glob

/-- The members of a character class. -/
inductive ClassMember where
  | single (char : Char)
  | range (first last : Char)
  deriving DecidableEq, Repr

namespace ClassMember

/-- Membership; the endpoints of a range may stand in either order. -/
def accepts (char : Char) : ClassMember → Bool
  | .single member => member == char
  | .range first last =>
      (first ≤ char && char ≤ last) || (last ≤ char && char ≤ first)

end ClassMember

/-- One item of a pattern. -/
inductive Item where
  | anyText
  | anyChar
  | literal (char : Char)
  | charClass (complement : Bool) (members : List ClassMember)
  deriving DecidableEq, Repr

/--
Read a pattern.  The state is `none` outside a class and the class read so far
inside one.  A class that is never closed ends with the pattern, and a final
backslash stands for itself.
-/
def items : Option (Bool × List ClassMember) → List Char → List Item
  | none, [] => []
  | some (complement, members), [] => [.charClass complement members]
  | none, '*' :: rest => .anyText :: items none rest
  | none, '?' :: rest => .anyChar :: items none rest
  | none, '[' :: '^' :: rest => items (some (true, [])) rest
  | none, '[' :: rest => items (some (false, [])) rest
  | none, '\\' :: char :: rest => .literal char :: items none rest
  | none, char :: rest => .literal char :: items none rest
  | some (complement, members), '\\' :: char :: rest =>
      items (some (complement, .single char :: members)) rest
  | some (complement, members), ']' :: rest =>
      .charClass complement members :: items none rest
  | some (complement, members), first :: '-' :: last :: rest =>
      items (some (complement, .range first last :: members)) rest
  | some (complement, members), char :: rest =>
      items (some (complement, .single char :: members)) rest

/-- Match items against the whole of a text. -/
def matchItems : List Item → List Char → Bool
  | [], text => text.isEmpty
  | .anyText :: rest, text => text.tails.any (matchItems rest)
  | .anyChar :: rest, text =>
      match text with
      | [] => false
      | _ :: tail => matchItems rest tail
  | .literal char :: rest, text =>
      match text with
      | [] => false
      | head :: tail => head == char && matchItems rest tail
  | .charClass complement members :: rest, text =>
      match text with
      | [] => false
      | head :: tail =>
          (members.any (ClassMember.accepts head) != complement) &&
            matchItems rest tail

/-- Whether `text` matches `pattern`. -/
def accepts (pattern text : String) : Bool :=
  matchItems (items none pattern.toList) text.toList

/-- The characters that do not stand for themselves outside a class. -/
def special (char : Char) : Bool :=
  char == '*' || char == '?' || char == '[' || char == '\\'

/-- A text none of whose characters is special. -/
def Plain (text : List Char) : Prop :=
  ∀ char ∈ text, special char = false

instance (text : List Char) : Decidable (Plain text) :=
  List.decidableBAll (fun char => special char = false) text

namespace Plain

theorem append
    {first second : List Char}
    (firstPlain : Plain first)
    (secondPlain : Plain second) :
    Plain (first ++ second) := by
  intro char member
  rcases List.mem_append.mp member with inFirst | inSecond
  · exact firstPlain char inFirst
  · exact secondPlain char inSecond

end Plain

/-- An ordinary character is a literal item. -/
theorem items_cons_of_not_special
    {char : Char}
    (ordinary : special char = false)
    (rest : List Char) :
    items none (char :: rest) = .literal char :: items none rest := by
  simp only [special, Bool.or_eq_false_iff, beq_eq_false_iff_ne] at ordinary
  obtain ⟨⟨⟨notStar, notMark⟩, notOpen⟩, notBackslash⟩ := ordinary
  rw [items.eq_def]
  split <;> simp_all

/-- A plain text reads as its own literals. -/
theorem items_append_of_plain
    {text : List Char}
    (plain : Plain text)
    (rest : List Char) :
    items none (text ++ rest) =
      text.map Item.literal ++ items none rest := by
  induction text with
  | nil =>
      rfl
  | cons char tail inductionHypothesis =>
      have tailPlain : Plain tail :=
        fun later member => plain later (List.mem_cons_of_mem char member)
      rw [List.cons_append,
        items_cons_of_not_special (plain char (List.mem_cons_self ..)),
        inductionHypothesis tailPlain]
      rfl

/-- A run of literals matches exactly the texts that begin with it. -/
theorem matchItems_literals
    (leading : List Char)
    (rest : List Item)
    (text : List Char) :
    matchItems (leading.map Item.literal ++ rest) text = true ↔
      ∃ tail, text = leading ++ tail ∧ matchItems rest tail = true := by
  induction leading generalizing text with
  | nil =>
      simp
  | cons char later inductionHypothesis =>
      cases text with
      | nil =>
          simp [matchItems]
      | cons head tail =>
          simp only [List.map_cons, List.cons_append, matchItems,
            Bool.and_eq_true, beq_iff_eq, inductionHypothesis,
            List.cons.injEq]
          constructor
          · rintro ⟨sameHead, remaining, tailShape, matched⟩
            exact ⟨remaining, ⟨sameHead, tailShape⟩, matched⟩
          · rintro ⟨remaining, ⟨sameHead, tailShape⟩, matched⟩
            exact ⟨sameHead, remaining, tailShape, matched⟩

/-- A final star matches every remainder. -/
theorem matchItems_anyText_last
    (text : List Char) :
    matchItems [.anyText] text = true := by
  simp only [matchItems, List.any_eq_true, List.mem_tails]
  exact ⟨[], List.nil_suffix, rfl⟩

/-- A plain stem matches itself, and the rest of the pattern the rest. -/
theorem accepts_plain_append
    {stem : String}
    (plain : Plain stem.toList)
    (pattern text : String) :
    accepts (stem ++ pattern) text = true ↔
      ∃ tail, text = stem ++ tail ∧ accepts pattern tail = true := by
  unfold accepts
  rw [String.toList_append, items_append_of_plain plain,
    matchItems_literals]
  constructor
  · rintro ⟨tail, textShape, matched⟩
    refine ⟨String.ofList tail, ?_, ?_⟩
    · apply String.toList_injective
      rw [String.toList_append, String.toList_ofList, textShape]
    · rw [String.toList_ofList]
      exact matched
  · rintro ⟨tail, rfl, matched⟩
    exact ⟨tail.toList, String.toList_append, matched⟩

/-- A plain stem followed by `*` matches exactly the texts it is a prefix of. -/
theorem accepts_plain_star
    {stem : String}
    (plain : Plain stem.toList)
    (text : String) :
    accepts (stem ++ "*") text = true ↔
      ∃ tail, text = stem ++ tail := by
  rw [accepts_plain_append plain]
  constructor
  · rintro ⟨tail, textShape, -⟩
    exact ⟨tail, textShape⟩
  · rintro ⟨tail, textShape⟩
    exact ⟨tail, textShape, matchItems_anyText_last tail.toList⟩

example : accepts "user:[^a-c]\\*:?*" "user:d*:xyz" = true := by
  decide

end Glob

end NestBackend
