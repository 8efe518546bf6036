import Mathlib.Data.List.Basic

namespace NestBackend

/-!
# A count that lapses

A counter that is given the same lifetime again whenever it counts something
stands at the number of events in the chain that reaches up to now, in which
every event is less than a lifetime after the one before it.  Instants are
listed with the latest first.
-/

/-- How many events the chain has that has not lapsed by `now`. -/
def lapsingCount (lifetime : Nat) : Nat → List Nat → Nat
  | _, [] => 0
  | now, instant :: earlier =>
      if now < instant + lifetime then
        lapsingCount lifetime instant earlier + 1
      else
        0

namespace lapsingCount

variable
  {lifetime now : Nat}
  {instants : List Nat}

/-- A count that has not lapsed later had not lapsed earlier. -/
theorem antitone
    {before : Nat}
    (order : before ≤ now) :
    lapsingCount lifetime now instants ≤
      lapsingCount lifetime before instants := by
  cases instants with
  | nil => exact Nat.le_refl 0
  | cons instant earlier =>
      simp only [lapsingCount]
      by_cases live : now < instant + lifetime
      · exact Nat.le_of_eq
          (by rw [if_pos live, if_pos (Nat.lt_of_le_of_lt order live)])
      · rw [if_neg live]
        exact Nat.zero_le _

/-- Counting fewer of the events gives no more. -/
theorem sublist
    {fewer : List Nat}
    (part : List.Sublist fewer instants)
    (ordered : instants.Pairwise (fun later earlier => earlier ≤ later))
    (past : ∀ instant ∈ instants, instant ≤ now) :
    lapsingCount lifetime now fewer ≤
      lapsingCount lifetime now instants := by
  induction part generalizing now with
  | slnil => exact Nat.le_refl 0
  | @cons fewer earlier instant part inductionHypothesis =>
      obtain ⟨before, orderedRest⟩ := List.pairwise_cons.mp ordered
      have ofRest := inductionHypothesis orderedRest before
      simp only [lapsingCount]
      by_cases live : now < instant + lifetime
      · rw [if_pos live]
        have order : instant ≤ now := past instant List.mem_cons_self
        exact Nat.le_succ_of_le (Nat.le_trans (antitone order) ofRest)
      · rw [if_neg live]
        cases fewer with
        | nil => exact Nat.le_refl 0
        | cons other others =>
            have otherBefore : other ≤ instant :=
              before other (part.subset List.mem_cons_self)
            have lapsed : ¬ now < other + lifetime := by omega
            exact Nat.le_of_eq (by rw [lapsingCount, if_neg lapsed])
  | @cons_cons fewer earlier instant part inductionHypothesis =>
      obtain ⟨before, orderedRest⟩ := List.pairwise_cons.mp ordered
      have ofRest := inductionHypothesis orderedRest before
      simp only [lapsingCount]
      split
      · exact Nat.succ_le_succ ofRest
      · exact Nat.le_refl 0

end lapsingCount

end NestBackend
