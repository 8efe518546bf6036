import NestBackend.AmqpSubscription
import NestBackend.EventRun

namespace NestBackend

/-!
# The credit of a subscription

Every receiver is given `concurrentLimit` credits when it is opened, and `start`
gives the latest one as many again.  What a receiver has been given stays with
it, as credit or as deliveries whose credit is still out.
-/

section Lists

variable
  {Item : Type}
  {keeps : Item → Bool}
  {change : Item → Item}

/-- Counting does not see a change that does not matter. -/
theorem countP_modify_same
    (items : List Item)
    (index : Nat)
    (same :
      ∀ item, items[index]? = some item → keeps (change item) = keeps item) :
    (items.modify index change).countP keeps = items.countP keeps := by
  induction items generalizing index with
  | nil => rw [List.modify_nil]
  | cons head rest inductionHypothesis =>
      cases index with
      | zero =>
          have sameHead := same head rfl
          simp [List.countP_cons, sameHead]
      | succ index =>
          have sameRest := inductionHypothesis index same
          simp [List.countP_cons, sameRest]

/-- One change costs one at most. -/
theorem countP_le_modify
    (items : List Item)
    (index : Nat) :
    items.countP keeps ≤ (items.modify index change).countP keeps + 1 := by
  induction items generalizing index with
  | nil => exact Nat.zero_le _
  | cons head rest inductionHypothesis =>
      cases index with
      | zero =>
          simp only [List.modify_zero_cons, List.countP_cons]
          split <;> split <;> omega
      | succ index =>
          have ofRest := inductionHypothesis index
          simp only [List.modify_succ_cons, List.countP_cons]
          omega

end Lists

namespace Subscription

/-- Deliveries whose credit is out, and the credit of the latest receiver. -/
def outstanding (subscription : Subscription) : Nat :=
  subscription.deliveries.countP Delivery.unreturned +
    subscription.credit subscription.latest

/--
No receiver has credit before `start` is called; afterwards the limit holds.
-/
structure CreditBounded
    (concurrentLimit : Nat)
    (subscription : Subscription) : Prop where
  beforeStart :
    subscription.started = false →
      ∀ receiver, subscription.credit receiver = 0
  afterStart :
    subscription.started = true →
      subscription.outstanding ≤ concurrentLimit

/-- A state that a run comes through. -/
def Visits
    (concurrentLimit : Nat)
    (maxRedeliverCount : Int)
    (start : Subscription)
    (events : List SubscriptionEvent)
    (subscription : Subscription) : Prop :=
  ∃ before rest,
    events = before ++ rest ∧
      start.run? concurrentLimit maxRedeliverCount before =
        some subscription

/-- A delivery of the latest receiver whose credit is out. -/
def outOfLatest (latest : Nat) (delivery : Delivery) : Bool :=
  delivery.receiver = latest && delivery.unreturned

/-- The latest receiver still accounts for the credits it was opened with. -/
def AccountsFor
    (credits : Nat)
    (subscription : Subscription) : Prop :=
  credits ≤
    subscription.deliveries.countP (outOfLatest subscription.latest) +
      subscription.credit subscription.latest

/-- What the latest receiver accounts for is outstanding. -/
theorem AccountsFor.le_outstanding
    {credits : Nat}
    {subscription : Subscription}
    (accounts : subscription.AccountsFor credits) :
    credits ≤ subscription.outstanding := by
  have fewer :
      subscription.deliveries.countP (outOfLatest subscription.latest) ≤
        subscription.deliveries.countP Delivery.unreturned := by
    apply List.countP_mono_left
    intro delivery _ isOut
    simp only [outOfLatest, Bool.and_eq_true] at isOut
    exact isOut.2
  unfold AccountsFor at accounts
  unfold outstanding
  omega

section Steps

variable
  {concurrentLimit : Nat}
  {maxRedeliverCount : Int}
  {subscription next : Subscription}

/-- What does not touch receivers and credits does not matter. -/
theorem AccountsFor.change
    {credits : Nat}
    (accounts : subscription.AccountsFor credits)
    (index : Nat)
    {change : Delivery → Delivery}
    (same :
      ∀ delivery,
        (change delivery).receiver = delivery.receiver ∧
          (change delivery).credits = delivery.credits) :
    (subscription.record index change).AccountsFor credits := by
  unfold AccountsFor Subscription.record
  simp only
  rw [countP_modify_same]
  · exact accounts
  · intro delivery _
    simp [outOfLatest, Delivery.unreturned, same delivery]

/-- A credit on account of a delivery replaces it at least. -/
theorem AccountsFor.perform
    {credits : Nat}
    (accounts : subscription.AccountsFor credits)
    (index : Nat)
    (call : DeliveryCall) :
    (subscription.perform index call).AccountsFor credits := by
  have toLatest :
      (subscription.giveCredit index subscription.latest).AccountsFor
        credits := by
    have drop :
        subscription.deliveries.countP (outOfLatest subscription.latest) ≤
          (subscription.deliveries.modify index
              (.credited subscription.latest)).countP
            (outOfLatest subscription.latest) + 1 :=
      countP_le_modify _ index
    unfold AccountsFor at accounts ⊢
    simp only [giveCredit, Subscription.record, Function.update_self]
    omega
  cases call with
  | accept => exact accounts.change index (fun _ => ⟨rfl, rfl⟩)
  | release => exact accounts.change index (fun _ => ⟨rfl, rfl⟩)
  | reject => exact accounts.change index (fun _ => ⟨rfl, rfl⟩)
  | addCredit target =>
      cases target with
      | latest => exact toLatest
      | delivering =>
          simp only [Subscription.perform]
          cases found : subscription.deliveries[index]? with
          | none => exact accounts
          | some delivery =>
              by_cases isLatest :
                delivery.receiver = subscription.latest
              · simp only [isLatest]
                exact toLatest
              · unfold AccountsFor at accounts ⊢
                simp only [giveCredit, Subscription.record]
                rw [countP_modify_same,
                  Function.update_of_ne (Ne.symm isLatest)]
                · exact accounts
                · intro other same
                  rw [found] at same
                  rw [← Option.some.inj same]
                  simp [outOfLatest, Delivery.credited, isLatest]

/-- Several things are done about a delivery. -/
theorem AccountsFor.performAll
    {credits : Nat}
    (accounts : subscription.AccountsFor credits)
    (index : Nat)
    (calls : List DeliveryCall) :
    (subscription.performAll index calls).AccountsFor credits := by
  unfold Subscription.performAll
  induction calls generalizing subscription with
  | nil => exact accounts
  | cons call rest inductionHypothesis =>
      exact inductionHypothesis (accounts.perform index call)

/-- A function of a message event is called. -/
theorem AccountsFor.call
    {credits : Nat}
    (accounts : subscription.AccountsFor credits)
    (index : Nat)
    (delivery : Delivery)
    (function : EventCall) :
    (subscription.call index delivery function).AccountsFor credits := by
  cases function with
  | accept => exact accounts.perform index .accept
  | addCredit =>
      refine AccountsFor.change ?_ index (fun _ => ⟨rfl, rfl⟩)
      split
      · exact accounts.perform index (.addCredit .latest)
      · exact accounts
  | release => exact accounts.change index (fun _ => ⟨rfl, rfl⟩)
  | reject => exact accounts.performAll index _

/-- The latest receiver accounts for a limit, whoever it is. -/
theorem AccountsFor.createReceiver
    (accounts : subscription.AccountsFor concurrentLimit) :
    (subscription.createReceiver concurrentLimit).AccountsFor
      concurrentLimit := by
  unfold Subscription.createReceiver
  split
  · unfold AccountsFor
    simp only [Function.update_self]
    omega
  · exact accounts

/-- What one event leaves of what the latest receiver accounts for. -/
theorem AccountsFor.step
    (accounts : subscription.AccountsFor concurrentLimit)
    {event : SubscriptionEvent}
    (stepped :
      subscription.step concurrentLimit maxRedeliverCount event =
        some next) :
    next.AccountsFor concurrentLimit := by
  cases step_cases stepped with
  | hear => exact accounts
  | start =>
      unfold AccountsFor at accounts ⊢
      simp only [Function.update_self]
      omega
  | deliver =>
      unfold AccountsFor at accounts ⊢
      simp only [Function.update_self, List.countP_append,
        List.countP_singleton, outOfLatest, Delivery.unreturned, arrived]
        at accounts ⊢
      simp only [List.isEmpty_nil, Bool.and_true, decide_true,
        ↓reduceIte]
      omega
  | close => exact accounts
  | receiverClose => exact accounts.createReceiver
  | connectionOpen => exact accounts.createReceiver
  | @process now index =>
      apply AccountsFor.performAll
      exact accounts.change index (fun _ => ⟨rfl, rfl⟩)
  | @call index delivery function => exact accounts.call index delivery function
  | @releaseTimer index =>
      apply AccountsFor.performAll
      exact accounts.change index (fun _ => ⟨rfl, rfl⟩)

/-- A subscription that has been given nothing has nothing going on. -/
structure Idle (subscription : Subscription) : Prop where
  noCredit : ∀ receiver, subscription.credit receiver = 0
  noDelivery : subscription.deliveries = []

/-- A new receiver without credits changes nothing about that. -/
theorem Idle.createReceiver
    (idle : subscription.Idle) :
    (subscription.createReceiver 0).Idle := by
  refine ⟨?_, (createReceiver_deliveries _ _).trans idle.noDelivery⟩
  intro receiver
  unfold Subscription.createReceiver
  split
  · by_cases isNew : receiver = subscription.latest + 1
    · rw [isNew]
      exact Function.update_self _ _ _
    · exact
        (Function.update_of_ne isNew _ _).trans (idle.noCredit receiver)
  · exact idle.noCredit receiver

/-- Nothing comes of nothing. -/
theorem Idle.step
    (idle : subscription.Idle)
    {event : SubscriptionEvent}
    (stepped : subscription.step 0 maxRedeliverCount event = some next) :
    next.Idle := by
  have nobody : ∀ index : Nat, subscription.deliveries[index]? = none := by
    intro index
    rw [idle.noDelivery]
    rfl
  cases step_cases stepped with
  | hear => exact ⟨idle.noCredit, idle.noDelivery⟩
  | start =>
      refine ⟨?_, idle.noDelivery⟩
      intro receiver
      simp only [Nat.add_zero, Function.update_eq_self]
      exact idle.noCredit receiver
  | deliver credited =>
      rw [idle.noCredit] at credited
      exact absurd credited (Nat.lt_irrefl 0)
  | close => exact ⟨idle.noCredit, idle.noDelivery⟩
  | receiverClose => exact idle.createReceiver
  | connectionOpen => exact idle.createReceiver
  | process found =>
      rw [nobody] at found
      cases found
  | call found =>
      rw [nobody] at found
      cases found
  | releaseTimer found =>
      rw [nobody] at found
      cases found

/-- A run of the subscription is a run of events. -/
theorem run?_eq
    (start : Subscription)
    (events : List SubscriptionEvent) :
    start.run? concurrentLimit maxRedeliverCount events =
      EventRun.run? (step concurrentLimit maxRedeliverCount) start
        events := by
  induction events generalizing start with
  | nil => rfl
  | cons event rest inductionHypothesis =>
      simp only [run?, inductionHypothesis]
      rfl

/-- A run in two parts. -/
theorem run?_append
    (start : Subscription)
    (before rest : List SubscriptionEvent) :
    start.run? concurrentLimit maxRedeliverCount (before ++ rest) =
      (start.run? concurrentLimit maxRedeliverCount before).bind
        (fun middle =>
          middle.run? concurrentLimit maxRedeliverCount rest) := by
  simp only [run?_eq]
  exact EventRun.run?_append before rest

/-- The latest receiver accounts for a limit at every time. -/
theorem accountsFor_of_run
    {redis : String → Redis.Slot}
    {events : List SubscriptionEvent}
    (ran :
      (opened concurrentLimit redis).run? concurrentLimit
          maxRedeliverCount events =
        some subscription) :
    subscription.AccountsFor concurrentLimit := by
  rw [run?_eq] at ran
  refine EventRun.keeps ?_ ran ?_
  · intro _ _ _ _ kept stepped
    exact kept.step stepped
  · simp [AccountsFor, opened]

/-- Without credits there is never anything outstanding. -/
theorem idle_of_run
    {redis : String → Redis.Slot}
    {events : List SubscriptionEvent}
    (ran :
      (opened 0 redis).run? 0 maxRedeliverCount events =
        some subscription) :
    subscription.Idle := by
  rw [run?_eq] at ran
  refine EventRun.keeps ?_ ran ?_
  · intro _ _ _ _ kept stepped
    exact kept.step stepped
  · refine ⟨?_, rfl⟩
    intro receiver
    simp [opened]

end Steps

/--
The limit holds in all states of a run, and nothing is given before `start`,
exactly when the limit is zero; and where `start` is called, the state after it
alone decides.
-/
theorem creditBounded_iff
    (concurrentLimit : Nat)
    (maxRedeliverCount : Int)
    (redis : String → Redis.Slot)
    (events : List SubscriptionEvent) :
    ((∀ subscription,
        (opened concurrentLimit redis).Visits concurrentLimit
            maxRedeliverCount events subscription →
          subscription.CreditBounded concurrentLimit) ↔
        concurrentLimit = 0) ∧
      ∀ before rest started,
        events = before ++ .start :: rest →
          (opened concurrentLimit redis).run? concurrentLimit
              maxRedeliverCount (before ++ [.start]) = some started →
          (started.outstanding ≤ concurrentLimit ↔
            concurrentLimit = 0) := by
  have bounded :
      ∀ subscription : Subscription,
        subscription.Idle → subscription.CreditBounded 0 := by
    intro subscription idle
    refine ⟨fun _ => idle.noCredit, fun _ => ?_⟩
    simp [outstanding, idle.noDelivery, idle.noCredit]
  constructor
  · constructor
    · intro always
      have atFirst := always _ ⟨[], events, rfl, rfl⟩
      have none := atFirst.beforeStart rfl 0
      simpa [opened] using none
    · rintro rfl subscription ⟨before, rest, -, ran⟩
      exact bounded subscription (idle_of_run ran)
  · intro before rest started split ran
    constructor
    · intro within
      rw [run?_append] at ran
      obtain ⟨prior, ranBefore, starts⟩ := Option.bind_eq_some_iff.mp ran
      have accounts : prior.AccountsFor concurrentLimit :=
        accountsFor_of_run ranBefore
      -- `start` adds to what is accounted for as much as there must be.
      have doubled : started.AccountsFor (2 * concurrentLimit) := by
        obtain rfl := Option.some.inj starts
        unfold AccountsFor at accounts ⊢
        simp only [Function.update_self]
        omega
      have outstanding := doubled.le_outstanding
      omega
    · rintro rfl
      have idle := idle_of_run ran
      simp [outstanding, idle.noDelivery, idle.noCredit]

/-- Ten credits before `start`, and twenty after it. -/
theorem start_doubles_ten_credits :
    (opened 10 (fun _ => none)).started = false ∧
      (opened 10 (fun _ => none)).credit 0 = 10 ∧
      ((opened 10 (fun _ => none)).run? 10 5 [.hear, .start]).map
          outstanding =
        some 20 ∧
      ¬ ∀ subscription,
          (opened 10 (fun _ => none)).Visits 10 5 [.hear, .start]
              subscription →
            subscription.CreditBounded 10 := by
  refine ⟨rfl, rfl, rfl, ?_⟩
  intro always
  have atFirst := always _ ⟨[], [.hear, .start], rfl, rfl⟩
  exact absurd (atFirst.beforeStart rfl 0) (by decide)

end Subscription

end NestBackend
