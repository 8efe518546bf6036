import Mathlib.Logic.Function.Basic

namespace NestBackend

/-!
# A store that several clients share

A store has one slot for every key.  An operation is a function of the whole
store; it is confined to a key when it reads and writes nothing but the slot of
that key, and it ignores a key when that slot is neither read nor written.
Clients address the slots by names of their own, which each of them places at
keys of the store.  As long as the places of different clients are apart, each
client works as if it were alone on a store of its own.
-/

/-- What an operation makes of a store, and its reply. -/
abbrev StoreEffect (Key Slot Reply : Type) :=
  (Key → Slot) → (Key → Slot) × Reply

namespace StoreEffect

variable {Key Slot Reply : Type}

/-- Only the slot of `key` is read and written. -/
structure Confined
    (effect : StoreEffect Key Slot Reply)
    (key : Key) : Prop where
  others :
    ∀ store other, other ≠ key → (effect store).1 other = store other
  slot :
    ∀ store another,
      store key = another key →
        (effect store).1 key = (effect another).1 key
  reply :
    ∀ store another,
      store key = another key → (effect store).2 = (effect another).2

variable [DecidableEq Key]

/-- The slot of `key` is neither read nor written. -/
structure Ignores
    (effect : StoreEffect Key Slot Reply)
    (key : Key) : Prop where
  unchanged : ∀ store, (effect store).1 key = store key
  others :
    ∀ store slot other,
      other ≠ key →
        (effect (Function.update store key slot)).1 other =
          (effect store).1 other
  reply :
    ∀ store slot,
      (effect (Function.update store key slot)).2 = (effect store).2

/-- An operation that is confined to one key ignores the others. -/
theorem Confined.ignores
    {effect : StoreEffect Key Slot Reply}
    {key other : Key}
    (confined : effect.Confined key)
    (different : other ≠ key) :
    effect.Ignores other := by
  have sameSlot :
      ∀ (store : Key → Slot) slot,
        Function.update store other slot key = store key := by
    intro store slot
    exact Function.update_of_ne (Ne.symm different) slot store
  refine ⟨?_, ?_, ?_⟩
  · intro store
    exact confined.others store other different
  · intro store slot third notOther
    by_cases isKey : third = key
    · subst isKey
      exact confined.slot _ _ (sameSlot store slot)
    · rw [confined.others _ _ isKey, confined.others _ _ isKey]
      exact Function.update_of_ne notOther slot store
  · intro store slot
    exact confined.reply _ _ (sameSlot store slot)

/-- The operation that acts on the slot of one key. -/
def atKey
    (key : Key)
    (act : Slot → Slot × Reply) : StoreEffect Key Slot Reply := fun store =>
  (Function.update store key (act (store key)).1, (act (store key)).2)

@[simp] theorem atKey_same
    (key : Key)
    (act : Slot → Slot × Reply)
    (store : Key → Slot) :
    (atKey key act store).1 key = (act (store key)).1 := by
  simp [atKey]

theorem atKey_other
    {key other : Key}
    (different : other ≠ key)
    (act : Slot → Slot × Reply)
    (store : Key → Slot) :
    (atKey key act store).1 other = store other := by
  simp [atKey, different]

@[simp] theorem atKey_reply
    (key : Key)
    (act : Slot → Slot × Reply)
    (store : Key → Slot) :
    (atKey key act store).2 = (act (store key)).2 :=
  rfl

/-- Acting on one slot is confined to its key. -/
theorem atKey_confined
    (key : Key)
    (act : Slot → Slot × Reply) :
    (atKey key act).Confined key := by
  refine ⟨?_, ?_, ?_⟩
  · intro store other different
    exact atKey_other different act store
  · intro store another same
    rw [atKey_same, atKey_same, same]
  · intro store another same
    rw [atKey_reply, atKey_reply, same]

/-- An action that ignores its own key does nothing and learns nothing. -/
theorem Ignores.act
    {key : Key}
    {act : Slot → Slot × Reply}
    (ignores : (atKey key act).Ignores key)
    (first second : Slot) :
    (act first).1 = first ∧ (act first).2 = (act second).2 := by
  constructor
  · have unchanged := ignores.unchanged (fun _ => first)
    rwa [atKey_same] at unchanged
  · have reply := ignores.reply (fun _ => second) first
    rwa [atKey_reply, atKey_reply, Function.update_self] at reply

/-- Operations one after another, and the replies with who got them. -/
def runAll {Client : Type} :
    List (Client × StoreEffect Key Slot Reply) →
      (Key → Slot) → (Key → Slot) × List (Client × Reply)
  | [], store => (store, [])
  | (client, effect) :: rest, store =>
      let (next, reply) := effect store
      let (final, replies) := runAll rest next
      (final, (client, reply) :: replies)

end StoreEffect

/-! ## Clients with names of their own -/

/-- A client acts on what it has under one of its names. -/
structure Turn (Client Name Slot Reply : Type) where
  client : Client
  name : Name
  act : Slot → Slot × Reply

/-- The slots of one client, by its own names. -/
def ownView
    {Client Name Key Slot : Type}
    (place : Client → Name → Key)
    (client : Client)
    (store : Key → Slot) : Name → Slot := fun name =>
  store (place client name)

/-- The replies to one client. -/
def repliesTo
    {Client Reply : Type}
    [DecidableEq Client]
    (client : Client)
    (replies : List (Client × Reply)) : List Reply :=
  (replies.filter (fun reply => reply.1 = client)).map Prod.snd

namespace Turn

variable {Client Name Key Slot Reply : Type}

/-- The operation of a turn, when names lie where `place` says. -/
def effect
    [DecidableEq Key]
    (place : Client → Name → Key)
    (turn : Turn Client Name Slot Reply) : StoreEffect Key Slot Reply :=
  StoreEffect.atKey (place turn.client turn.name) turn.act

/-- The operations of some turns, with whose they are. -/
def effects
    [DecidableEq Key]
    (place : Client → Name → Key)
    (turns : List (Turn Client Name Slot Reply)) :
    List (Client × StoreEffect Key Slot Reply) :=
  turns.map (fun turn => (turn.client, turn.effect place))

variable [DecidableEq Client] [DecidableEq Name] [DecidableEq Key]

/-- The client alone, on a store that is addressed by its names. -/
def runAlone
    (client : Client)
    (turns : List (Turn Client Name Slot Reply))
    (slots : Name → Slot) : (Name → Slot) × List Reply :=
  let own := turns.filter (fun turn => turn.client = client)
  let (final, replies) :=
    StoreEffect.runAll (effects (fun _ name => name) own) slots
  (final, replies.map Prod.snd)

omit [DecidableEq Client] in
/-- A client's own turn, seen through its names. -/
theorem ownView_effect
    {place : Client → Name → Key}
    {turn : Turn Client Name Slot Reply}
    (injective : Function.Injective (place turn.client))
    (store : Key → Slot) :
    ownView place turn.client (turn.effect place store).1 =
      (turn.effect (fun _ name => name)
        (ownView place turn.client store)).1 := by
  apply funext
  intro name
  by_cases same : name = turn.name
  · subst same
    simp [ownView, effect]
  · have different :
        place turn.client name ≠ place turn.client turn.name :=
      fun equal => same (injective equal)
    simp only [ownView, effect]
    rw [StoreEffect.atKey_other different, StoreEffect.atKey_other same]
    rfl

/--
When the turns of the others ignore the places of a client, it gets the replies
and the slots that it would get alone.
-/
theorem runAll_alone
    {place : Client → Name → Key}
    {client : Client}
    (injective : Function.Injective (place client))
    (turns : List (Turn Client Name Slot Reply))
    (apart :
      ∀ turn ∈ turns,
        turn.client ≠ client →
          ∀ name, (turn.effect place).Ignores (place client name))
    (store : Key → Slot) :
    runAlone client turns (ownView place client store) =
      (ownView place client
          (StoreEffect.runAll (effects place turns) store).1,
        repliesTo client
          (StoreEffect.runAll (effects place turns) store).2) := by
  induction turns generalizing store with
  | nil => rfl
  | cons turn rest inductionHypothesis =>
      have ofRest :=
        inductionHypothesis
          (fun turn member => apart turn (List.mem_cons_of_mem _ member))
          (turn.effect place store).1
      by_cases own : turn.client = client
      · subst own
        rw [ownView_effect injective] at ofRest
        simp only [runAlone, effects, Prod.mk.injEq] at ofRest ⊢
        simp only [List.filter_cons, decide_true, ↓reduceIte,
          List.map_cons, StoreEffect.runAll, repliesTo] at ofRest ⊢
        refine ⟨ofRest.1, ?_⟩
        rw [ofRest.2]
        rfl
      · have unchanged :
            ownView place client (turn.effect place store).1 =
              ownView place client store := by
          apply funext
          intro name
          exact
            (apart turn (List.mem_cons_self ..) own name).unchanged store
        rw [unchanged] at ofRest
        simpa [runAlone, effects, StoreEffect.runAll, repliesTo, own]
          using ofRest

end Turn

end NestBackend
