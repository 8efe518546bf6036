import NestBackend.RedeliveryBudget

namespace NestBackend

/-!
# The bound on the deliveries of one message

How often a message is passed on that has a counter for itself.  The check
looks at the deliveries before the previous one, so that a message is passed on
once more often than the limit says.
-/

namespace DeliveryRun

variable
  {Message : Type}
  [DecidableEq Message]
  (content : Message → AmqpMessage)
  (maxRedeliverCount : Nat)

/-- How often a message has been delivered. -/
def attempts
    (message : Message)
    (arrivals : List (Arrival Message)) : Nat :=
  (ownArrivals message arrivals).length

/-- How often a message has been passed on to the consumer. -/
def timesHandedOver
    (keys : String → Redis.Slot)
    (message : Message)
    (arrivals : List (Arrival Message)) : Nat :=
  (handOvers content maxRedeliverCount keys
    (fun other => other = message) arrivals).length

/--
No other message has the id of this one, and whenever this one arrives its
counter has not expired.
-/
structure HasOwnCounter
    (run : DeliveryRun Message)
    (message : Message) : Prop where
  unique :
    ∀ arrival ∈ run.arrivals,
      arrival.message ≠ message →
        (content arrival.message).idText ≠ (content message).idText
  unexpired :
    ∀ before arrival earlier,
      run.arrivals = before ++ arrival :: earlier →
        arrival.message = message →
          ∀ entry,
            keysAfter content maxRedeliverCount run.keys earlier
                (AmqpCacheService.keyDeliveryCount
                  (content message).idText) =
              some entry →
              ∀ expiry,
                entry.expiresAt = some expiry → arrival.instant < expiry

/--
The message is passed on at most once more than it may be redelivered, and
every attempt after that many is rejected and its credit returned.
-/
structure Bounded
    (run : DeliveryRun Message)
    (message : Message) : Prop where
  handedOver :
    timesHandedOver content maxRedeliverCount run.keys message
        run.arrivals ≤
      1 + maxRedeliverCount
  rejected :
    ∀ before arrival earlier,
      run.arrivals = before ++ arrival :: earlier →
        arrival.message = message →
        1 + maxRedeliverCount ≤ attempts message earlier →
          ∃ target,
            (disposal content maxRedeliverCount run.keys arrival
                earlier).calls =
              [.reject, .addCredit target]

variable
  {content}
  {maxRedeliverCount}
  {run : DeliveryRun Message}
  {arrival : Arrival Message}
  {earlier : List (Arrival Message)}
  {message : Message}

/-- The part of a run before its last delivery. -/
theorem HasOwnCounter.ofEarlier
    (own : run.HasOwnCounter content maxRedeliverCount message)
    (shape : run.arrivals = arrival :: earlier) :
    (run.earlierRun shape).HasOwnCounter content maxRedeliverCount
      message := by
  refine ⟨?_, ?_⟩
  · intro other member
    apply own.unique other
    rw [shape]
    exact List.mem_cons_of_mem _ member
  · intro before other rest split
    apply own.unexpired (arrival :: before) other rest
    rw [shape]
    exact congrArg (List.cons arrival) split

/-- The counter of the id counts the deliveries of the message alone. -/
theorem HasOwnCounter.handOvers_eq
    (own : run.HasOwnCounter content maxRedeliverCount message) :
    handOvers content maxRedeliverCount run.keys
        (countedAs content (content message).idText) run.arrivals =
      handOvers content maxRedeliverCount run.keys
        (fun other => other = message) run.arrivals := by
  apply handOvers_congr
  intro arrival member
  by_cases same : arrival.message = message
  · simp [countedAs, same]
  · simp [countedAs, same, own.unique arrival member same]

/-- Within twelve hours no counter expires. -/
theorem HasOwnCounter.ofShortRun
    (unique :
      ∀ arrival ∈ run.arrivals,
        arrival.message ≠ message →
          (content arrival.message).idText ≠ (content message).idText)
    (short :
      ∀ early ∈ run.arrivals, ∀ late ∈ run.arrivals,
        late.instant < early.instant + AmqpCacheService.lifetime) :
    run.HasOwnCounter content maxRedeliverCount message := by
  refine ⟨unique, ?_⟩
  intro before arrival earlier split arrives entry found expiry expires
  rw [keysAfter_counter run.uncounted] at found
  have someArrival :
      ∀ instant,
        instant ∈
            handOvers content maxRedeliverCount run.keys
              (countedAs content (content message).idText) earlier →
          instant ∈ earlier.map Arrival.instant :=
    fun instant member =>
      (handOvers_sublist_arrivals _ _).subset member
  revert found someArrival
  cases handOvers content maxRedeliverCount run.keys
      (countedAs content (content message).idText) earlier with
  | nil =>
      intro found
      cases found
  | cons instant rest =>
      intro found someArrival
      obtain ⟨other, member, sameInstant⟩ :=
        List.mem_map.mp (someArrival instant List.mem_cons_self)
      have entryShape := Option.some.inj found
      rw [← entryShape] at expires
      rw [← Option.some.inj expires, ← sameInstant]
      apply short
      · rw [split]
        exact
          List.mem_append_right _ (List.mem_cons_of_mem _ member)
      · rw [split]
        exact List.mem_append_right _ List.mem_cons_self

/-- When a message arrives, its last hand-over has not lapsed. -/
theorem HasOwnCounter.unlapsed
    (own : run.HasOwnCounter content maxRedeliverCount message)
    (shape : run.arrivals = arrival :: earlier)
    (arrives : arrival.message = message)
    {instant : Nat}
    {rest : List Nat}
    (handed :
      handOvers content maxRedeliverCount run.keys
          (fun other => other = message) earlier =
        instant :: rest) :
    arrival.instant < instant + AmqpCacheService.lifetime := by
  have counter :
      keysAfter content maxRedeliverCount run.keys earlier
          (AmqpCacheService.keyDeliveryCount (content message).idText) =
        Redis.counter AmqpCacheService.lifetime
          (handOvers content maxRedeliverCount run.keys
            (countedAs content (content message).idText) earlier) :=
    keysAfter_counter run.uncounted earlier (content message).idText
  have ofEarlier :
      handOvers content maxRedeliverCount run.keys
          (countedAs content (content message).idText) earlier =
        handOvers content maxRedeliverCount run.keys
          (fun other => other = message) earlier :=
    (own.ofEarlier shape).handOvers_eq
  rw [ofEarlier, handed] at counter
  exact own.unexpired [] arrival earlier shape arrives _ counter _ rfl

/-- The counter stands at the number of hand-overs. -/
theorem HasOwnCounter.count_eq
    (own : run.HasOwnCounter content maxRedeliverCount message)
    {now : Nat}
    (unlapsed :
      ∀ instant rest,
        handOvers content maxRedeliverCount run.keys
            (fun other => other = message) run.arrivals =
          instant :: rest →
          now < instant + AmqpCacheService.lifetime) :
    AmqpCacheService.count now
        (handOvers content maxRedeliverCount run.keys
          (fun other => other = message) run.arrivals) =
      timesHandedOver content maxRedeliverCount run.keys message
        run.arrivals := by
  obtain ⟨keys, uncounted, arrivals, ordered⟩ := run
  induction arrivals generalizing now with
  | nil => rfl
  | cons arrival earlier inductionHypothesis =>
      have ofEarlier :
          ∀ now,
            (∀ instant rest,
              handOvers content maxRedeliverCount keys
                  (fun other => other = message) earlier =
                instant :: rest →
                now < instant + AmqpCacheService.lifetime) →
              AmqpCacheService.count now
                  (handOvers content maxRedeliverCount keys
                    (fun other => other = message) earlier) =
                timesHandedOver content maxRedeliverCount keys message
                  earlier :=
        fun now =>
          inductionHypothesis (List.pairwise_cons.mp ordered).2
            (own.ofEarlier rfl)
      simp only [timesHandedOver, handOvers] at ofEarlier unlapsed ⊢
      split at unlapsed
      next handed =>
        have atArrival :=
          ofEarlier arrival.instant
            (fun instant rest shape =>
              own.unlapsed rfl (of_decide_eq_true handed.1) shape)
        have live := unlapsed _ _ rfl
        rw [if_pos handed]
        simp only [AmqpCacheService.count, lapsingCount, live, ↓reduceIte,
          List.length_cons] at atArrival ⊢
        rw [atArrival]
      next notHanded =>
        rw [if_neg notHanded]
        exact ofEarlier now unlapsed

/-- A message is new exactly when it has not been delivered. -/
theorem firstAcquirer_iff :
    firstAcquirer message earlier = true ↔ attempts message earlier = 0 := by
  simp [firstAcquirer, attempts, ownArrivals]

/-- How a readable message is disposed of, by how often it was passed on. -/
theorem HasOwnCounter.disposal_cases
    (own : run.HasOwnCounter content maxRedeliverCount message)
    (readable : (content message).readable = true)
    (shape : run.arrivals = arrival :: earlier)
    (arrives : arrival.message = message) :
    (attempts message earlier = 0 ∨
          timesHandedOver content maxRedeliverCount run.keys message
              earlier ≤
            maxRedeliverCount + 1) ∧
        disposal content maxRedeliverCount run.keys arrival earlier =
          .emitted ∨
      (attempts message earlier ≠ 0 ∧
          maxRedeliverCount + 1 <
            timesHandedOver content maxRedeliverCount run.keys message
              earlier) ∧
        disposal content maxRedeliverCount run.keys arrival earlier =
          .exceeded := by
  have counted :
      handOvers content maxRedeliverCount run.keys
          (countedAs content (content message).idText) earlier =
        handOvers content maxRedeliverCount run.keys
          (fun other => other = message) earlier :=
    (own.ofEarlier shape).handOvers_eq
  have stands :
      AmqpCacheService.count arrival.instant
          (handOvers content maxRedeliverCount run.keys
            (fun other => other = message) earlier) =
        timesHandedOver content maxRedeliverCount run.keys message earlier :=
    (own.ofEarlier shape).count_eq
      (fun instant rest handed => own.unlapsed shape arrives handed)
  have room :
      AmqpCacheService.Within maxRedeliverCount
          (timesHandedOver content maxRedeliverCount run.keys message
            earlier) ↔
        timesHandedOver content maxRedeliverCount run.keys message earlier ≤
          maxRedeliverCount + 1 := by
    unfold AmqpCacheService.Within
    omega
  rw [disposal_eq run.uncounted, arrives, if_pos readable, counted, stands]
  simp only [firstAcquirer_iff, room]
  by_cases passed :
    attempts message earlier = 0 ∨
      timesHandedOver content maxRedeliverCount run.keys message earlier ≤
        maxRedeliverCount + 1
  · rw [if_pos passed]
    exact Or.inl ⟨passed, rfl⟩
  · rw [if_neg passed]
    obtain ⟨notNew, notWithin⟩ := not_or.mp passed
    exact Or.inr ⟨⟨notNew, Nat.lt_of_not_le notWithin⟩, rfl⟩

/--
A readable message is passed on at every attempt up to two more than it may be
redelivered.
-/
theorem HasOwnCounter.timesHandedOver_eq
    (own : run.HasOwnCounter content maxRedeliverCount message)
    (readable : (content message).readable = true) :
    timesHandedOver content maxRedeliverCount run.keys message
        run.arrivals =
      min (attempts message run.arrivals) (maxRedeliverCount + 2) := by
  obtain ⟨keys, uncounted, arrivals, ordered⟩ := run
  induction arrivals with
  | nil => simp [timesHandedOver, handOvers, attempts, ownArrivals]
  | cons arrival earlier inductionHypothesis =>
      have ofEarlier :
          timesHandedOver content maxRedeliverCount keys message earlier =
            min (attempts message earlier) (maxRedeliverCount + 2) :=
        inductionHypothesis (List.pairwise_cons.mp ordered).2
          (own.ofEarlier rfl)
      by_cases arrives : arrival.message = message
      · have oneMore :
            attempts message (arrival :: earlier) =
              attempts message earlier + 1 := by
          simp [attempts, ownArrivals, arrives]
        rcases own.disposal_cases readable rfl arrives with
          ⟨room, emitted⟩ | ⟨⟨notNew, spent⟩, exceeded⟩
        · have handed :
              timesHandedOver content maxRedeliverCount keys message
                  (arrival :: earlier) =
                timesHandedOver content maxRedeliverCount keys message
                    earlier + 1 := by
            simp only at emitted
            simp [timesHandedOver, handOvers, arrives, emitted]
          simp only at room
          simp only [oneMore, handed]
          omega
        · have handed :
              timesHandedOver content maxRedeliverCount keys message
                  (arrival :: earlier) =
                timesHandedOver content maxRedeliverCount keys message
                  earlier := by
            simp only at exceeded
            simp [timesHandedOver, handOvers, exceeded]
          simp only at spent
          simp only [oneMore, handed]
          omega
      · have sameAttempts :
            attempts message (arrival :: earlier) =
              attempts message earlier := by
          simp [attempts, ownArrivals, arrives]
        have sameTimes :
            timesHandedOver content maxRedeliverCount keys message
                (arrival :: earlier) =
              timesHandedOver content maxRedeliverCount keys message
                earlier := by
          simp [timesHandedOver, handOvers, arrives]
        simp only [sameAttempts, sameTimes]
        exact ofEarlier

/-- A message that cannot be read is never passed on. -/
theorem disposal_unreadable
    (unreadable : (content message).readable = false)
    (arrives : arrival.message = message) :
    disposal content maxRedeliverCount run.keys arrival earlier =
      .failed := by
  rw [disposal_eq run.uncounted, arrives, unreadable]
  rfl

/-- Earlier in the run there were fewer attempts. -/
theorem attempts_before
    {before : List (Arrival Message)}
    (split : run.arrivals = before ++ arrival :: earlier)
    (arrives : arrival.message = message) :
    attempts message earlier < attempts message run.arrivals := by
  rw [split]
  simp only [attempts, ownArrivals, List.filter_append, List.filter_cons,
    arrives, decide_true, ↓reduceIte, List.length_append, List.length_cons]
  omega

/--
The deliveries of a message are bounded as the limit says exactly when the
message cannot be read, or is not attempted more often than that.
-/
theorem bounded_iff
    (content : Message → AmqpMessage)
    (maxRedeliverCount : Nat)
    (run : DeliveryRun Message)
    (message : Message)
    (own : run.HasOwnCounter content maxRedeliverCount message) :
    run.Bounded content maxRedeliverCount message ↔
      ((content message).readable = true →
        attempts message run.arrivals ≤ 1 + maxRedeliverCount) := by
  constructor
  · intro bounded readable
    have handedOver := bounded.handedOver
    rw [own.timesHandedOver_eq readable] at handedOver
    omega
  · intro notMore
    cases readable : (content message).readable with
    | true =>
        have fewAttempts := notMore readable
        refine ⟨?_, ?_⟩
        · rw [own.timesHandedOver_eq readable]
          omega
        · intro before arrival earlier split arrives many
          have fewer := attempts_before split arrives
          omega
    | false =>
        have never :
            ∀ arrivals,
              timesHandedOver content maxRedeliverCount run.keys message
                  arrivals = 0 := by
          intro arrivals
          induction arrivals with
          | nil => rfl
          | cons arrival earlier inductionHypothesis =>
              by_cases arrives : arrival.message = message
              · have failed :
                    disposal content maxRedeliverCount run.keys arrival
                        earlier = .failed :=
                  disposal_unreadable readable arrives
                simpa [timesHandedOver, handOvers, failed]
                  using inductionHypothesis
              · simpa [timesHandedOver, handOvers, arrives]
                  using inductionHypothesis
        refine ⟨?_, ?_⟩
        · rw [never]
          exact Nat.zero_le _
        · intro before arrival earlier split arrives many
          rw [disposal_unreadable readable arrives]
          exact ⟨.latest, rfl⟩

/-- A message with an id of its own. -/
def identifiedMessage (_only : Unit) : AmqpMessage :=
  { AmqpService.outgoing (emptyMessage 0) with message_id := some "m-1" }

/-- A message is attempted seven times. -/
def sevenAttempts : DeliveryRun Unit where
  keys := fun _ => none
  uncounted := uncounted_of_empty
  arrivals :=
    [⟨(), 6⟩, ⟨(), 5⟩, ⟨(), 4⟩, ⟨(), 3⟩, ⟨(), 2⟩, ⟨(), 1⟩, ⟨(), 0⟩]
  ordered := by decide

/-- It has a counter of its own all the time. -/
theorem sevenAttempts_own :
    sevenAttempts.HasOwnCounter identifiedMessage 5 () := by
  apply HasOwnCounter.ofShortRun
  · intro arrival member different
    exact absurd rfl different
  · decide +kernel

/-- The limit of five redeliveries at seven attempts. -/
theorem bounded_iff_sevenAttempts :
    sevenAttempts.Bounded identifiedMessage 5 () ↔
      ((identifiedMessage ()).readable = true →
        attempts () sevenAttempts.arrivals ≤ 1 + 5) :=
  bounded_iff identifiedMessage 5 sevenAttempts () sevenAttempts_own

/-- All seven attempts are passed on although five redeliveries are allowed. -/
theorem seventh_attempt_handed_over :
    sevenAttempts.HasOwnCounter identifiedMessage 5 () ∧
      timesHandedOver identifiedMessage 5 sevenAttempts.keys ()
          sevenAttempts.arrivals = 7 ∧
      ¬ sevenAttempts.Bounded identifiedMessage 5 () := by
  have seven :
      timesHandedOver identifiedMessage 5 sevenAttempts.keys ()
          sevenAttempts.arrivals = 7 := by
    decide +kernel
  refine ⟨sevenAttempts_own, seven, ?_⟩
  intro bounded
  have handedOver := bounded.handedOver
  rw [seven] at handedOver
  exact absurd handedOver (by decide)

end DeliveryRun

end NestBackend
