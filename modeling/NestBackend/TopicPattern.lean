import Mathlib.Data.List.Infix

namespace NestBackend

/-!
# Topic patterns

The binding keys of a topic exchange: keys and patterns are words between dots,
where a pattern may have `*` for one word and `#` for any number of words.  A
wildcard is a word of its own; within a word the characters stand for
themselves.
-/

namespace TopicPattern

/-- The words of a key or a pattern. -/
def words (text : String) : List (List Char) :=
  text.toList.splitOn '.'

/-- Match the words of a pattern against all the words of a key. -/
def matchWords : List (List Char) → List (List Char) → Bool
  | [], key => key.isEmpty
  | word :: pattern, key =>
      if word = ['#'] then
        key.tails.any (matchWords pattern)
      else
        match key with
        | [] => false
        | head :: rest =>
            (word == ['*'] || word == head) && matchWords pattern rest

/-- Whether a key matches a pattern. -/
def accepts (pattern key : String) : Bool :=
  matchWords (words pattern) (words key)

/-- Every key matches `#`. -/
theorem accepts_hash (key : String) : accepts "#" key = true := by
  have hash : words "#" = [['#']] := by decide
  simp only [accepts, hash, matchWords, ↓reduceIte, List.any_eq_true]
  exact ⟨[], (List.mem_tails _ _).mpr List.nil_suffix, rfl⟩

/-- Words match themselves, wildcards or not. -/
theorem matchWords_self
    (pattern : List (List Char)) :
    matchWords pattern pattern = true := by
  induction pattern with
  | nil => rfl
  | cons word rest inductionHypothesis =>
      simp only [matchWords]
      split
      next hash =>
        rw [List.any_eq_true]
        have isTail : rest ∈ (word :: rest).tails :=
          (List.mem_tails _ _).mpr (List.suffix_cons _ _)
        exact ⟨rest, isTail, inductionHypothesis⟩
      next => simp [inductionHypothesis]

/-- A pattern matches itself. -/
theorem accepts_self (pattern : String) : accepts pattern pattern = true :=
  matchWords_self _

/-- A character that is no wildcard is in the key at least as often. -/
theorem count_le_of_matchWords
    {pattern key : List (List Char)}
    {char : Char}
    (noHash : char ≠ '#')
    (noStar : char ≠ '*')
    (matched : matchWords pattern key = true) :
    pattern.flatten.count char ≤ key.flatten.count char := by
  induction pattern generalizing key with
  | nil => simp
  | cons word rest inductionHypothesis =>
      simp only [matchWords] at matched
      split at matched
      next hash =>
        obtain ⟨tail, isTail, matchedTail⟩ := List.any_eq_true.mp matched
        obtain ⟨skipped, rfl⟩ := (List.mem_tails _ _).mp isTail
        rw [List.flatten_append, List.count_append]
        have ofRest := inductionHypothesis matchedTail
        subst hash
        simp only [List.flatten_cons, List.count_append,
          List.count_singleton, beq_iff_eq, Ne.symm noHash, ↓reduceIte]
        omega
      next =>
        cases key with
        | nil => cases matched
        | cons head others =>
            obtain ⟨matchedWord, matchedRest⟩ :=
              Bool.and_eq_true_iff.mp matched
            have ofRest := inductionHypothesis matchedRest
            have ofWord : word.count char ≤ head.count char := by
              rcases Bool.or_eq_true_iff.mp matchedWord with star | same
              · rw [beq_iff_eq.mp star]
                simp [Ne.symm noStar]
              · rw [beq_iff_eq.mp same]
            simp only [List.flatten_cons, List.count_append]
            omega

/-- Splitting into words loses the dots only. -/
theorem count_words
    {char : Char}
    (noDot : char ≠ '.')
    (text : String) :
    (words text).flatten.count char = text.toList.count char := by
  unfold words
  induction text.toList with
  | nil => rfl
  | cons head rest inductionHypothesis =>
      rw [List.splitOn_cons_eq_if_modifyHead]
      split
      next dot =>
        have other : head ≠ char := by
          rw [beq_iff_eq.mp dot]
          exact noDot.symm
        simpa [other] using inductionHypothesis
      next =>
        have flat :
            ((rest.splitOn '.').modifyHead (List.cons head)).flatten =
              head :: (rest.splitOn '.').flatten := by
          cases split : rest.splitOn '.' with
          | nil => exact absurd split (List.splitOn_ne_nil _ _)
          | cons word others => rfl
        rw [flat, List.count_cons, List.count_cons, inductionHypothesis]

/-- A character that is never special is in the key at least as often. -/
theorem count_le_of_accepts
    {pattern key : String}
    {char : Char}
    (ordinary : char ≠ '#' ∧ char ≠ '*' ∧ char ≠ '.')
    (matched : accepts pattern key = true) :
    pattern.toList.count char ≤ key.toList.count char := by
  obtain ⟨noHash, noStar, noDot⟩ := ordinary
  rw [← count_words noDot, ← count_words noDot]
  exact count_le_of_matchWords noHash noStar matched

end TopicPattern

end NestBackend
