import Mathlib.Data.List.AList

namespace NestBackend

/-!
# A keyed store whose entries expire

A finite map from keys to entries.  An entry remembers when it was written and
how long it lives, in milliseconds; from its expiry instant on it reads as
absent.  Nothing here depends on what keys and values are.
-/

/-- A stored value with the instant of its last write and its lifetime. -/
structure Entry (Value : Type) where
  value : Value
  writtenAt : Nat
  lifetime : Nat
  deriving DecidableEq, Repr

namespace Entry

/-- The first instant at which the entry is gone. -/
def expiresAt (entry : Entry Value) : Nat :=
  entry.writtenAt + entry.lifetime

/-- The entry has not expired. -/
def LiveAt (entry : Entry Value) (now : Nat) : Prop :=
  now < entry.expiresAt

instance (entry : Entry Value) (now : Nat) :
    Decidable (entry.LiveAt now) :=
  inferInstanceAs (Decidable (now < entry.expiresAt))

/-- An entry that is still live was live at every earlier instant. -/
theorem LiveAt.earlier
    {entry : Entry Value}
    {earlier later : Nat}
    (live : entry.LiveAt later)
    (order : earlier ≤ later) :
    entry.LiveAt earlier :=
  Nat.lt_of_le_of_lt order live

end Entry

/-- Entries by key, each key at most once. -/
abbrev ExpiringStore (Key Value : Type) :=
  AList fun _ : Key => Entry Value

namespace ExpiringStore

variable {Key Value : Type} [DecidableEq Key]

/-- The value under a key, if its entry is live. -/
def read
    (store : ExpiringStore Key Value)
    (now : Nat)
    (key : Key) : Option Value :=
  ((store.lookup key).filter (fun entry => entry.LiveAt now)).map
    Entry.value

/-- Write a value that lives for `lifetime` milliseconds from `now` on. -/
def write
    (store : ExpiringStore Key Value)
    (now : Nat)
    (key : Key)
    (lifetime : Nat)
    (value : Value) : ExpiringStore Key Value :=
  store.insert key ⟨value, now, lifetime⟩

/-- Delete a key. -/
def remove
    (store : ExpiringStore Key Value)
    (key : Key) : ExpiringStore Key Value :=
  store.erase key

/-- The keys of the live entries that a scan accepts, each once. -/
def scan
    (store : ExpiringStore Key Value)
    (now : Nat)
    (accepts : Key → Bool) : List Key :=
  store.keys.filter
    (fun key => (store.read now key).isSome && accepts key)

/-- Reading succeeds exactly on a live entry, with its value. -/
theorem read_eq_some
    {store : ExpiringStore Key Value}
    {now : Nat}
    {key : Key}
    {value : Value} :
    store.read now key = some value ↔
      ∃ entry,
        store.lookup key = some entry ∧
          entry.LiveAt now ∧ entry.value = value := by
  simp only [read, Option.map_eq_some_iff, Option.filter_eq_some_iff,
    decide_eq_true_eq]
  constructor
  · rintro ⟨entry, ⟨found, live⟩, valueShape⟩
    exact ⟨entry, found, live, valueShape⟩
  · rintro ⟨entry, found, live, valueShape⟩
    exact ⟨entry, ⟨found, live⟩, valueShape⟩

/-- An absent key reads as nothing. -/
theorem read_of_lookup_none
    {store : ExpiringStore Key Value}
    {key : Key}
    (absent : store.lookup key = none)
    (now : Nat) :
    store.read now key = none := by
  simp [read, absent]

/-- Stores with the same entry under a key read the same there. -/
theorem read_congr
    {first second : ExpiringStore Key Value}
    {key : Key}
    (same : first.lookup key = second.lookup key)
    (now : Nat) :
    first.read now key = second.read now key := by
  simp [read, same]

@[simp] theorem lookup_write_same
    (store : ExpiringStore Key Value)
    (now : Nat)
    (key : Key)
    (lifetime : Nat)
    (value : Value) :
    (store.write now key lifetime value).lookup key =
      some ⟨value, now, lifetime⟩ :=
  AList.lookup_insert store

theorem lookup_write_other
    (store : ExpiringStore Key Value)
    {key query : Key}
    (different : query ≠ key)
    (now lifetime : Nat)
    (value : Value) :
    (store.write now key lifetime value).lookup query =
      store.lookup query :=
  AList.lookup_insert_ne different

@[simp] theorem lookup_remove_same
    (store : ExpiringStore Key Value)
    (key : Key) :
    (store.remove key).lookup key = none :=
  AList.lookup_erase key store

theorem lookup_remove_other
    (store : ExpiringStore Key Value)
    {key query : Key}
    (different : query ≠ key) :
    (store.remove key).lookup query = store.lookup query :=
  AList.lookup_erase_ne different

/-- A written value is read back until it expires. -/
theorem read_write_same
    (store : ExpiringStore Key Value)
    (now later : Nat)
    (key : Key)
    (lifetime : Nat)
    (value : Value) :
    (store.write now key lifetime value).read later key =
      if later < now + lifetime then some value else none := by
  by_cases live : later < now + lifetime <;>
    simp [read, Entry.LiveAt, Entry.expiresAt, live]

/-- A scan lists exactly the accepted keys that read as something. -/
theorem mem_scan
    {store : ExpiringStore Key Value}
    {now : Nat}
    {accepts : Key → Bool}
    {key : Key} :
    key ∈ store.scan now accepts ↔
      (store.read now key).isSome = true ∧ accepts key = true := by
  simp only [scan, List.mem_filter, Bool.and_eq_true,
    and_iff_right_iff_imp]
  rintro ⟨readable, -⟩
  obtain ⟨value, found⟩ := Option.isSome_iff_exists.mp readable
  obtain ⟨entry, lookup, -⟩ := read_eq_some.mp found
  rw [← AList.mem_keys, ← AList.lookup_isSome, lookup]
  rfl

/-- A scan lists no key twice. -/
theorem scan_nodup
    (store : ExpiringStore Key Value)
    (now : Nat)
    (accepts : Key → Bool) :
    (store.scan now accepts).Nodup :=
  store.keys_nodup.filter _

end ExpiringStore

end NestBackend
