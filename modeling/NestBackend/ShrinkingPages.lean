import Mathlib.Data.List.Nodup
import Mathlib.Data.List.Perm.Subperm

namespace NestBackend

/-!
# Pages of a list that shrinks

A reader asks for one page after the other, each time of the list as it is by
then.  While items only disappear, those behind move forward: the reader sees
no item twice and all of them in order, and misses at most as many of those
that stay as have disappeared meanwhile.
-/

namespace ShrinkingPages

variable {Item : Type}

/-- The items of one page; pages are counted from 0. -/
def window (size page : Nat) (items : List Item) : List Item :=
  (items.drop (page * size)).take size

/-- What a reader sees of the lists, the first of them at the given page. -/
def walk (size page : Nat) : List (List Item) → List Item
  | [] => []
  | items :: rest => window size page items ++ walk size (page + 1) rest

variable
  {size page : Nat}
  {items : List Item}
  {rest : List (List Item)}

variable [DecidableEq Item]

/-- The items that stay to the end, and that the reader has not seen. -/
def missed (size page : Nat) (items : List Item) (rest : List (List Item)) :
    List Item :=
  (items.drop (page * size)).filter fun item =>
    item ∈ rest.getLastD items ∧ item ∉ walk size page (items :: rest)

end ShrinkingPages

end NestBackend
