import Mathlib.Logic.Function.Basic

namespace NestBackend

/-!
# Maps of records

A record maps fields to values.  An overlay says of some fields what they are
from now on, which may be that they are absent; the other fields stay.  A map of
records is edited one key at a time, so that what it holds under a key is
decided by the edits of that key alone, and of those by the ones since the key
was last cleared.
-/

/-- The fields of a record that are present. -/
abbrev Record (Field Value : Type) := Field → Option Value

/-- What becomes of a field: nothing, absence, or a value. -/
abbrev Overlay (Field Value : Type) := Field → Option (Option Value)

namespace Overlay

variable {Field Value : Type}

/-- A field has the value of the overlay, if that has one for it. -/
def apply
    (overlay : Overlay Field Value)
    (record : Record Field Value) : Record Field Value :=
  fun field =>
    match overlay field with
    | some latest => latest
    | none => record field

end Overlay

/-- What can be done with the record under a key. -/
inductive RecordEdit (Field Value : Type) where
  /-- Overlay the record, or the empty one if there is none. -/
  | merge (overlay : Overlay Field Value)
  | clear
  /-- Change the record, if there is one. -/
  | revise (revision : Record Field Value → Record Field Value)

namespace RecordEdit

variable {Field Value : Type}

/-- What is under the key afterwards. -/
def perform :
    RecordEdit Field Value →
      Option (Record Field Value) → Option (Record Field Value)
  | .merge overlay, held =>
      some (overlay.apply (held.getD (fun _ => none)))
  | .clear, _ => none
  | .revise revision, held => held.map revision

/-- What is under the key after some edits. -/
def performAll
    (edits : List (RecordEdit Field Value))
    (held : Option (Record Field Value)) : Option (Record Field Value) :=
  edits.foldl (fun held edit => edit.perform held) held

/-- The edit leaves nothing of what was there. -/
def clears : RecordEdit Field Value → Bool
  | .clear => true
  | _ => false

/-- The edits after the last that clears. -/
def sinceClear :
    List (RecordEdit Field Value) → List (RecordEdit Field Value)
  | [] => []
  | edit :: rest =>
      if rest.any clears then
        sinceClear rest
      else if edit.clears then
        rest
      else
        edit :: rest

/-- What was there before matters only if nothing has cleared it. -/
theorem performAll_sinceClear
    (edits : List (RecordEdit Field Value))
    (held : Option (Record Field Value)) :
    performAll edits held =
      performAll (sinceClear edits)
        (if edits.any clears then none else held) := by
  induction edits generalizing held with
  | nil => rfl
  | cons edit rest inductionHypothesis =>
      have first :
          performAll (edit :: rest) held =
            performAll rest (edit.perform held) :=
        rfl
      rw [first, List.any_cons, sinceClear]
      cases later : rest.any clears with
      | true =>
          rw [inductionHypothesis, later, Bool.or_true]
          rfl
      | false =>
          rw [Bool.or_false]
          cases edit with
          | clear => rfl
          | merge overlay => rfl
          | revise revision => rfl

end RecordEdit

/-- The records under the keys. -/
abbrev RecordMap (Key Field Value : Type) := Key → Option (Record Field Value)

namespace RecordMap

variable {Key Field Value : Type} [DecidableEq Key]

/-- Edit the record under one key. -/
def edit
    (records : RecordMap Key Field Value)
    (change : Key × RecordEdit Field Value) : RecordMap Key Field Value :=
  Function.update records change.1 (change.2.perform (records change.1))

/-- One edit, as one key sees it. -/
theorem edit_apply
    (records : RecordMap Key Field Value)
    (change : Key × RecordEdit Field Value)
    (key : Key) :
    records.edit change key =
      if key = change.1 then
        change.2.perform (records key)
      else
        records key := by
  unfold edit
  rw [Function.update_apply]
  split
  next same => rw [same]
  next => rfl

/-- The edits of one key. -/
def editsOf
    (key : Key)
    (changes : List (Key × RecordEdit Field Value)) :
    List (RecordEdit Field Value) :=
  (changes.filter (fun change => change.1 = key)).map Prod.snd

/-- The edits of one key, before and after. -/
theorem editsOf_append
    (key : Key)
    (before after : List (Key × RecordEdit Field Value)) :
    editsOf key (before ++ after) =
      editsOf key before ++ editsOf key after := by
  simp [editsOf]

/-- Every key has what its own edits make of it. -/
theorem foldl_edit
    (records : RecordMap Key Field Value)
    (changes : List (Key × RecordEdit Field Value))
    (key : Key) :
    changes.foldl edit records key =
      RecordEdit.performAll (editsOf key changes) (records key) := by
  induction changes generalizing records with
  | nil => rfl
  | cons change rest inductionHypothesis =>
      rw [List.foldl_cons, inductionHypothesis]
      by_cases same : change.1 = key
      · subst same
        simp [edit, editsOf, RecordEdit.performAll]
      · have other : key ≠ change.1 := fun isKey => same isKey.symm
        simp [edit, editsOf, same, other]

end RecordMap

end NestBackend
