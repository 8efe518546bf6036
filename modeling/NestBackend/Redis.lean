import NestBackend.SharedStore

namespace NestBackend

/-!
# Redis

The commands that the services send, as the server documents them.  A command
on one key is a function of the slot of that key and of the instant at which it
arrives, in milliseconds.  A key that has expired counts as absent, a set or a
hash that has become empty is gone, and a command that is refused changes
nothing.  Counters are unbounded integers here; the 64 bits that the server
gives them are more deliveries or hits than there can be.
-/

/-- What is kept under a key. -/
inductive RedisValue where
  | string (text : String)
  | set (members : List String)
  | hash (fields : List (String × String))
  deriving DecidableEq, Repr

/-- A value with the instant at which it expires, if it does. -/
structure RedisEntry where
  value : RedisValue
  expiresAt : Option Nat
  deriving DecidableEq, Repr

/-- Why the server refuses a command. -/
inductive RedisError where
  | wrongType
  | notAnInteger
  | invalidExpireTime
  | wrongNumberOfArguments
  deriving DecidableEq, Repr

namespace Redis

/-- What lies under a key, expired or not. -/
abbrev Slot := Option RedisEntry

/-- A command on the slot of one key, at an instant. -/
abbrev Command (Output : Type) :=
  Nat → Slot → Slot × Except RedisError Output

/-- The entry of a slot, unless it has expired. -/
def live (now : Nat) (slot : Slot) : Option RedisEntry :=
  slot.filter (fun entry => entry.expiresAt.all (fun instant => now < instant))

@[simp] theorem live_none (now : Nat) : live now none = none :=
  rfl

@[simp] theorem live_lasting (now : Nat) (value : RedisValue) :
    live now (some ⟨value, none⟩) = some ⟨value, none⟩ :=
  rfl

/-- What is live was live before. -/
theorem live_earlier
    {now later : Nat}
    {slot : Slot}
    {entry : RedisEntry}
    (after : now ≤ later)
    (found : live later slot = some entry) :
    live now slot = some entry := by
  obtain ⟨same, lasts⟩ := Option.filter_eq_some_iff.mp found
  refine Option.filter_eq_some_iff.mpr ⟨same, ?_⟩
  cases expires : entry.expiresAt with
  | none => rfl
  | some instant =>
      rw [expires] at lasts
      simp only [Option.all_some, decide_eq_true_eq] at lasts ⊢
      omega

/-- What is gone stays away. -/
theorem live_later
    {now later : Nat}
    {slot : Slot}
    (after : now ≤ later)
    (gone : live now slot = none) :
    live later slot = none := by
  cases found : live later slot with
  | none => rfl
  | some entry => simpa [gone] using live_earlier after found

/-- What is there and is gone later has expired. -/
theorem expired_of_live
    {now later : Nat}
    {slot : Slot}
    {entry : RedisEntry}
    (found : live now slot = some entry)
    (gone : live later slot = none) :
    ∃ instant, entry.expiresAt = some instant ∧ instant ≤ later := by
  obtain ⟨rfl, -⟩ := Option.filter_eq_some_iff.mp found
  cases expires : entry.expiresAt with
  | none => simp [live, expires] at gone
  | some instant =>
      refine ⟨instant, rfl, ?_⟩
      simpa [live, expires] using gone

/-- A key lapses at its instant. -/
theorem live_expiresAt
    {now instant : Nat}
    {slot : Slot}
    {entry : RedisEntry}
    (found : live now slot = some entry)
    (expires : entry.expiresAt = some instant) :
    now < instant ∧ live instant slot = none := by
  obtain ⟨rfl, lasts⟩ := Option.filter_eq_some_iff.mp found
  rw [expires] at lasts
  exact ⟨by simpa using lasts, by simp [live, expires]⟩

/-- Keep the value under a key, or nothing when it is empty. -/
def keep (value : RedisValue) (expiresAt : Option Nat) : Slot :=
  match value with
  | .set [] => none
  | .hash [] => none
  | _ => some ⟨value, expiresAt⟩

/-- A client that computes on the reply. -/
def Command.map
    (compute : Output → Result)
    (command : Command Output) : Command Result := fun now slot =>
  ((command now slot).1, (command now slot).2.map compute)

/-- The text of an integer as the server writes it, and no other text. -/
def integer? (text : String) : Option Int :=
  let number : Int :=
    match text.toList with
    | '-' :: digits => -(Nat.ofDigitChars 10 digits 0 : Int)
    | digits => (Nat.ofDigitChars 10 digits 0 : Int)
  if toString number = text then some number else none

/-- A counter that was written is read back. -/
theorem integer?_toString (number : Nat) :
    integer? (toString (number : Int)) = some (number : Int) := by
  have digits :
      (toString (number : Int)).toList = Nat.toDigits 10 number :=
    Nat.toList_repr
  have noSign :
      ∀ rest, Nat.toDigits 10 number ≠ '-' :: rest := by
    intro rest starts
    have member : '-' ∈ Nat.toDigits 10 number := by
      rw [starts]
      exact List.mem_cons_self
    have isDigit :=
      Nat.isDigit_of_mem_toDigits (by decide) (by decide) member
    exact absurd isDigit (by decide)
  have read : Nat.ofDigitChars 10 (Nat.toDigits 10 number) 0 = number :=
    Nat.ofDigitChars_ten_toDigits
  unfold integer?
  rw [digits]
  split
  next starts => exact absurd starts (noSign _)
  next => simp [read]

/-! ## Strings -/

def get : Command (Option String) := fun now slot =>
  match live now slot with
  | none => (slot, .ok none)
  | some ⟨.string text, _⟩ => (slot, .ok (some text))
  | some _ => (slot, .error .wrongType)

def set (value : String) : Command String := fun _ _ =>
  (some ⟨.string value, none⟩, .ok "OK")

def setex (seconds : Int) (value : String) : Command String :=
  fun now slot =>
    if seconds ≤ 0 then
      (slot, .error .invalidExpireTime)
    else
      (some ⟨.string value, some (now + 1000 * seconds.toNat)⟩, .ok "OK")

def setnx (value : String) : Command Int := fun now slot =>
  match live now slot with
  | none => (some ⟨.string value, none⟩, .ok 1)
  | some _ => (slot, .ok 0)

def incr : Command Int := fun now slot =>
  match live now slot with
  | none => (some ⟨.string "1", none⟩, .ok 1)
  | some ⟨.string text, expiresAt⟩ =>
      match integer? text with
      | some number =>
          (some ⟨.string (toString (number + 1)), expiresAt⟩,
            .ok (number + 1))
      | none => (slot, .error .notAnInteger)
  | some _ => (slot, .error .wrongType)

/-! ## Keys -/

def del : Command Int := fun now slot =>
  (none, .ok (if (live now slot).isSome then 1 else 0))

def expire (seconds : Int) : Command Int := fun now slot =>
  match live now slot with
  | none => (slot, .ok 0)
  | some entry =>
      if seconds ≤ 0 then
        (none, .ok 1)
      else
        (some { entry with expiresAt := some (now + 1000 * seconds.toNat) },
          .ok 1)

/-- `EXISTS` counts a key as often as it is named. -/
def existing
    (keys : List String)
    (now : Nat) : StoreEffect String Slot (Except RedisError Int) :=
  fun store =>
    if keys = [] then
      (store, .error .wrongNumberOfArguments)
    else
      (store,
        .ok (keys.filter (fun key => (live now (store key)).isSome)).length)

/-! ## Sets -/

def sadd (members : List String) : Command Int := fun now slot =>
  if members = [] then
    (slot, .error .wrongNumberOfArguments)
  else
    match live now slot with
    | none =>
        let added := members.foldl (fun kept member => kept.insert member) []
        (keep (.set added) none, .ok added.length)
    | some ⟨.set present, expiresAt⟩ =>
        let together :=
          members.foldl (fun kept member => kept.insert member) present
        (keep (.set together) expiresAt,
          .ok (together.length - present.length))
    | some _ => (slot, .error .wrongType)

def srem (members : List String) : Command Int := fun now slot =>
  if members = [] then
    (slot, .error .wrongNumberOfArguments)
  else
    match live now slot with
    | none => (slot, .ok 0)
    | some ⟨.set present, expiresAt⟩ =>
        let left := present.filter (fun member => member ∉ members)
        (keep (.set left) expiresAt, .ok (present.length - left.length))
    | some _ => (slot, .error .wrongType)

def smembers : Command (List String) := fun now slot =>
  match live now slot with
  | none => (slot, .ok [])
  | some ⟨.set present, _⟩ => (slot, .ok present)
  | some _ => (slot, .error .wrongType)

/-- The members of a set that is there. -/
theorem smembers_of_live
    {now : Nat}
    {slot : Slot}
    {members : List String}
    {expiresAt : Option Nat}
    (found : live now slot = some ⟨.set members, expiresAt⟩) :
    (smembers now slot).2 = .ok members := by
  simp [smembers, found]

/-- Where nothing is, there are no members. -/
theorem smembers_of_absent
    {now : Nat}
    {slot : Slot}
    (absent : live now slot = none) :
    (smembers now slot).2 = .ok [] := by
  simp [smembers, absent]

/-- What `SMEMBERS` finds is a live set, or nothing. -/
theorem smembers_ok
    {now : Nat}
    {slot : Slot}
    {members : List String}
    (found : (smembers now slot).2 = .ok members) :
    live now slot = none ∧ members = [] ∨
      ∃ expiresAt,
        live now slot = some ⟨.set members, expiresAt⟩ := by
  unfold smembers at found
  split at found
  next gone =>
    obtain rfl := Except.ok.inj found
    exact .inl ⟨gone, rfl⟩
  next present expiresAt live =>
    obtain rfl := Except.ok.inj found
    exact .inr ⟨expiresAt, live⟩
  next => cases found

/-! ## Hashes -/

/-- The value of a field. -/
def fieldValue
    (fields : List (String × String))
    (name : String) : Option String :=
  (fields.find? (fun field => field.1 = name)).map Prod.snd

/-- Give a field a value; a new field comes last. -/
def setField
    (fields : List (String × String))
    (name value : String) : List (String × String) :=
  if fields.any (fun field => field.1 = name) then
    fields.map (fun field => if field.1 = name then (name, value) else field)
  else
    fields ++ [(name, value)]

def hset (given : List (String × String)) : Command Int := fun now slot =>
  let update present :=
    given.foldl (fun kept field => setField kept field.1 field.2) present
  if given = [] then
    (slot, .error .wrongNumberOfArguments)
  else
    match live now slot with
    | none => (keep (.hash (update [])) none, .ok (update []).length)
    | some ⟨.hash present, expiresAt⟩ =>
        (keep (.hash (update present)) expiresAt,
          .ok ((update present).length - present.length))
    | some _ => (slot, .error .wrongType)

def hget (name : String) : Command (Option String) := fun now slot =>
  match live now slot with
  | none => (slot, .ok none)
  | some ⟨.hash present, _⟩ => (slot, .ok (fieldValue present name))
  | some _ => (slot, .error .wrongType)

def hgetall : Command (List (String × String)) := fun now slot =>
  match live now slot with
  | none => (slot, .ok [])
  | some ⟨.hash present, _⟩ => (slot, .ok present)
  | some _ => (slot, .error .wrongType)

def hincrby (name : String) (increment : Int) : Command Int :=
  fun now slot =>
    match live now slot with
    | none =>
        (some ⟨.hash [(name, toString increment)], none⟩, .ok increment)
    | some ⟨.hash present, expiresAt⟩ =>
        match integer? ((fieldValue present name).getD "0") with
        | some number =>
            (some ⟨.hash (setField present name (toString (number + increment))),
                expiresAt⟩,
              .ok (number + increment))
        | none => (slot, .error .notAnInteger)
    | some _ => (slot, .error .wrongType)

def hdel (names : List String) : Command Int := fun now slot =>
  if names = [] then
    (slot, .error .wrongNumberOfArguments)
  else
    match live now slot with
    | none => (slot, .ok 0)
    | some ⟨.hash present, expiresAt⟩ =>
        let left := present.filter (fun field => field.1 ∉ names)
        (keep (.hash left) expiresAt, .ok (present.length - left.length))
    | some _ => (slot, .error .wrongType)

/-- Send a command on one key. -/
def send
    (key : String)
    (command : Command Output)
    (now : Nat) : StoreEffect String Slot (Except RedisError Output) :=
  StoreEffect.atKey key (command now)

end Redis

end NestBackend
