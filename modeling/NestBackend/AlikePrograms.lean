import Mathlib.Data.List.Perm.Basic
import NestBackend.StoreProgram

namespace NestBackend

/-!
# Programs that go on alike

The keys that a scan finds come in no particular order.  Two programs go on
alike when they send the same commands as long as they get the same replies,
where a scan may tell them of the same keys in two orders, and when they detach
the same chains in whatever order.  A program that goes on like itself does not
depend on the order of its scans.

On the way the programs keep to a territory of keys, rely on the values that
they read being good, and write only good values.
-/

namespace StoreProgram

variable
  {Key Value Failure Result Next : Type}
  {mine : Key → Prop}
  {good : Value → Prop}

/-- The programs go on alike, and `agree` holds of their outcomes. -/
inductive Alike
    (mine : Key → Prop)
    (good : Value → Prop)
    (agree : Except Failure Result → Except Failure Result → Prop) :
    StoreProgram Key Value Failure Result →
      StoreProgram Key Value Failure Result → Prop where
  | done
      {first second : Except Failure Result}
      (agreed : agree first second) :
      Alike mine good agree (.done first) (.done second)
  | clock
      {next other : Nat → StoreProgram Key Value Failure Result}
      (later : ∀ now, Alike mine good agree (next now) (other now)) :
      Alike mine good agree (.clock next) (.clock other)
  | get
      {key : Key}
      {next other :
        Reply (Option Value) → StoreProgram Key Value Failure Result}
      (isMine : mine key)
      (later :
        ∀ reply,
          (∀ value, reply = .ok (some value) → good value) →
          Alike mine good agree (next reply) (other reply)) :
      Alike mine good agree (.get key next) (.get key other)
  | setex
      {key : Key}
      {seconds : Option Int}
      {value : Value}
      {next other : Reply Bool → StoreProgram Key Value Failure Result}
      (isMine : mine key)
      (isGood : good value)
      (later : ∀ reply, Alike mine good agree (next reply) (other reply)) :
      Alike mine good agree
        (.setex key seconds value next) (.setex key seconds value other)
  | del
      {key : Key}
      {next other : Reply Nat → StoreProgram Key Value Failure Result}
      (isMine : mine key)
      (later : ∀ reply, Alike mine good agree (next reply) (other reply)) :
      Alike mine good agree (.del key next) (.del key other)
  | keys
      {accepts : Key → Bool}
      {next other :
        Reply (List Key) → StoreProgram Key Value Failure Result}
      (areMine : ∀ key, accepts key = true → mine key)
      (listed :
        ∀ keys reordered,
          keys.Perm reordered →
          (∀ key ∈ keys, accepts key = true) →
          Alike mine good agree (next (.ok keys)) (other (.ok reordered)))
      (failed :
        ∀ error,
          Alike mine good agree
            (next (.error error)) (other (.error error))) :
      Alike mine good agree (.keys accepts next) (.keys accepts other)
  | detach
      {chains reordered : List (List Key)}
      {next other : StoreProgram Key Value Failure Result}
      (sameChains : chains.Perm reordered)
      (areMine : ∀ chain ∈ chains, ∀ key ∈ chain, mine key)
      (later : Alike mine good agree next other) :
      Alike mine good agree
        (.detach chains next) (.detach reordered other)

namespace Alike

variable
  {agree : Except Failure Result → Except Failure Result → Prop}
  {agreeNext : Except Failure Next → Except Failure Next → Prop}
  {first second : StoreProgram Key Value Failure Result}

/-- Sequencing: what follows has to go on alike from results that agree. -/
theorem bind
    {rest other : Result → StoreProgram Key Value Failure Next}
    (alike :
      Alike mine good
        (fun outcome otherOutcome =>
          Alike mine good agreeNext
            (.done outcome >>= rest) (.done otherOutcome >>= other))
        first second) :
    Alike mine good agreeNext (first >>= rest) (second >>= other) := by
  induction alike with
  | done agreed => exact agreed
  | clock later inductionHypothesis => exact .clock inductionHypothesis
  | get isMine later inductionHypothesis =>
      exact .get isMine inductionHypothesis
  | setex isMine isGood later inductionHypothesis =>
      exact .setex isMine isGood inductionHypothesis
  | del isMine later inductionHypothesis =>
      exact .del isMine inductionHypothesis
  | keys areMine listed failed listedHypothesis failedHypothesis =>
      exact .keys areMine listedHypothesis failedHypothesis
  | detach sameChains areMine later inductionHypothesis =>
      exact .detach sameChains areMine inductionHypothesis

/-- Outcomes that agree in one sense may agree in a weaker one. -/
theorem mono
    {agree' : Except Failure Result → Except Failure Result → Prop}
    (alike : Alike mine good agree first second)
    (weaker :
      ∀ {outcome other}, agree outcome other → agree' outcome other) :
    Alike mine good agree' first second := by
  induction alike with
  | done agreed => exact .done (weaker agreed)
  | clock later inductionHypothesis => exact .clock inductionHypothesis
  | get isMine later inductionHypothesis =>
      exact .get isMine inductionHypothesis
  | setex isMine isGood later inductionHypothesis =>
      exact .setex isMine isGood inductionHypothesis
  | del isMine later inductionHypothesis =>
      exact .del isMine inductionHypothesis
  | keys areMine listed failed listedHypothesis failedHypothesis =>
      exact .keys areMine listedHypothesis failedHypothesis
  | detach sameChains areMine later inductionHypothesis =>
      exact .detach sameChains areMine inductionHypothesis

/-- What follows goes on alike from equal results. -/
theorem bind_eq
    {rest : Result → StoreProgram Key Value Failure Next}
    (alike : Alike mine good Eq first second)
    (later : ∀ result, Alike mine good Eq (rest result) (rest result)) :
    Alike mine good Eq (first >>= rest) (second >>= rest) := by
  apply bind
  apply alike.mono
  rintro outcome _ rfl
  cases outcome with
  | ok result => exact later result
  | error failure => exact .done rfl

/-- Programs that go on alike are as far from a command as one another. -/
theorem commands_eq
    (alike : Alike mine good agree first second)
    (now : Nat) :
    first.commands now = second.commands now := by
  induction alike with
  | clock later inductionHypothesis => exact inductionHypothesis now
  | _ => rfl

/-- They settle together, on outcomes that agree. -/
theorem done_iff
    (alike : Alike mine good Eq first second)
    (outcome : Except Failure Result) :
    first = .done outcome ↔ second = .done outcome := by
  cases alike with
  | done agreed => rw [agreed]
  | _ => constructor <;> intro same <;> cases same

end Alike

/-- The program goes on like itself: the order of its scans does not matter. -/
abbrev Steady
    (mine : Key → Prop)
    (good : Value → Prop)
    (program : StoreProgram Key Value Failure Result) : Prop :=
  Alike mine good Eq program program

end StoreProgram

end NestBackend
