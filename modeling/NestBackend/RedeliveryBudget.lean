import NestBackend.AmqpReceiving

namespace NestBackend

/-!
# The budget of redeliveries

A message is given up when it is redelivered too often.  What counts is the
counter of its id; `sendMessage` gives no id, so that all its messages share the
counter of the text `undefined`.
-/

namespace DeliveryRun

variable
  {Message : Type}
  [DecidableEq Message]
  (content : Message → AmqpMessage)
  (maxRedeliverCount : Int)

/-- The deliveries of one message. -/
def ownArrivals
    (message : Message)
    (arrivals : List (Arrival Message)) : List (Arrival Message) :=
  arrivals.filter (fun arrival => arrival.message = message)

/--
How many messages have been passed on before an arrival, each less than twelve
hours before the next and the last less than twelve hours before the arrival.
-/
def sharedCount
    (keys : String → Redis.Slot)
    (arrival : Arrival Message)
    (earlier : List (Arrival Message)) : Nat :=
  AmqpCacheService.count arrival.instant
    (handOvers content maxRedeliverCount keys (fun _ => true) earlier)

/-- The same for the deliveries of the arriving message alone. -/
def ownCount
    (keys : String → Redis.Slot)
    (arrival : Arrival Message)
    (earlier : List (Arrival Message)) : Nat :=
  AmqpCacheService.count arrival.instant
    (handOvers content maxRedeliverCount keys
      (fun message => message = arrival.message) earlier)

/--
Every message is disposed of as it would be if only its own deliveries had
taken place before.
-/
def Independent (run : DeliveryRun Message) : Prop :=
  ∀ before arrival earlier,
    run.arrivals = before ++ arrival :: earlier →
      disposal content maxRedeliverCount run.keys arrival earlier =
        disposal content maxRedeliverCount run.keys arrival
          (ownArrivals arrival.message earlier)

/--
Whenever a readable message is redelivered and the messages passed on before
are more than the budget allows, the deliveries of that message alone are.
-/
def SpentAlone (run : DeliveryRun Message) : Prop :=
  ∀ before arrival earlier,
    run.arrivals = before ++ arrival :: earlier →
      firstAcquirer arrival.message earlier = false →
      (content arrival.message).readable = true →
      ¬ AmqpCacheService.Within maxRedeliverCount
          (sharedCount content maxRedeliverCount run.keys arrival earlier) →
        ¬ AmqpCacheService.Within maxRedeliverCount
            (ownCount content maxRedeliverCount run.keys arrival earlier)

/-- The run without its last delivery. -/
def earlierRun
    {arrival : Arrival Message}
    {earlier : List (Arrival Message)}
    (run : DeliveryRun Message)
    (shape : run.arrivals = arrival :: earlier) : DeliveryRun Message where
  keys := run.keys
  uncounted := run.uncounted
  arrivals := earlier
  ordered := by
    have ordered := run.ordered
    rw [shape] at ordered
    exact (List.pairwise_cons.mp ordered).2

variable
  {content}
  {maxRedeliverCount}
  {run : DeliveryRun Message}
  {arrival : Arrival Message}
  {earlier : List (Arrival Message)}

/-- Independence of a run is independence of its parts. -/
theorem Independent.ofEarlier
    (independent : run.Independent content maxRedeliverCount)
    (shape : run.arrivals = arrival :: earlier) :
    (run.earlierRun shape).Independent content maxRedeliverCount := by
  intro before other rest split
  apply independent (arrival :: before) other rest
  rw [shape]
  exact congrArg (List.cons arrival) split

/-- What is spent alone in a run is spent alone in its parts. -/
theorem SpentAlone.ofEarlier
    (alone : run.SpentAlone content maxRedeliverCount)
    (shape : run.arrivals = arrival :: earlier) :
    (run.earlierRun shape).SpentAlone content maxRedeliverCount := by
  intro before other rest split
  apply alone (arrival :: before) other rest
  rw [shape]
  exact congrArg (List.cons arrival) split

/--
In an independent run the deliveries of a message alone pass it on at the same
instants.
-/
theorem Independent.handOvers_own
    (independent : run.Independent content maxRedeliverCount)
    (message : Message) :
    handOvers content maxRedeliverCount run.keys (fun _ => true)
        (ownArrivals message run.arrivals) =
      handOvers content maxRedeliverCount run.keys
        (fun other => other = message) run.arrivals := by
  obtain ⟨keys, uncounted, arrivals, ordered⟩ := run
  induction arrivals with
  | nil => rfl
  | cons arrival earlier inductionHypothesis =>
      have ofEarlier :=
        inductionHypothesis (List.pairwise_cons.mp ordered).2
          (independent.ofEarlier rfl)
      simp only at ofEarlier
      by_cases own : arrival.message = message
      · have here := independent [] arrival earlier rfl
        simp only at here
        rw [own] at here
        simp only [ownArrivals, List.filter_cons, own, decide_true,
          ↓reduceIte, handOvers, true_and]
        simp only [ownArrivals] at ofEarlier here
        rw [here, ofEarlier]
      · simp only [ownArrivals, List.filter_cons, own, decide_false,
          Bool.false_eq_true, ↓reduceIte, handOvers, false_and]
        simpa only [ownArrivals] using ofEarlier

/-- The hand-overs of a message alone count no more than all of them. -/
theorem ownCount_le_sharedCount
    (shape : run.arrivals = arrival :: earlier) :
    ownCount content maxRedeliverCount run.keys arrival earlier ≤
      sharedCount content maxRedeliverCount run.keys arrival earlier := by
  have ordered := run.ordered
  rw [shape] at ordered
  obtain ⟨past, orderedRest⟩ := List.pairwise_cons.mp ordered
  have ofArrivals :
      (handOvers content maxRedeliverCount run.keys (fun _ => true)
          earlier).Sublist (earlier.map Arrival.instant) :=
    handOvers_sublist_arrivals _ _
  apply lapsingCount.sublist
  · exact handOvers_sublist (fun _ _ => rfl) earlier
  · exact (List.pairwise_map.mpr orderedRest).sublist ofArrivals
  · intro instant member
    obtain ⟨other, otherMember, rfl⟩ :=
      List.mem_map.mp (ofArrivals.subset member)
    exact past other otherMember

/-! ## Messages without an id -/

/-- What `sendMessage` makes of the requests. -/
def published (sent : Message → SendMessage) : Message → AmqpMessage :=
  fun message => AmqpService.outgoing (sent message)

variable {sent : Message → SendMessage}

omit [DecidableEq Message] in
/-- All messages that are sent have one counter. -/
theorem countedAs_published (message : Message) :
    countedAs (published sent) (published sent message).idText =
      fun _ => true :=
  rfl

/-- How a message that was sent is disposed of. -/
theorem disposal_published (run : DeliveryRun Message) :
    disposal (published sent) maxRedeliverCount run.keys arrival earlier =
      if (published sent arrival.message).readable then
        if
            firstAcquirer arrival.message earlier = true ∨
              AmqpCacheService.Within maxRedeliverCount
                (sharedCount (published sent) maxRedeliverCount run.keys
                  arrival earlier) then
          .emitted
        else
          .exceeded
      else
        .failed :=
  disposal_eq run.uncounted arrival earlier

/-- How it is disposed of after an independent run of its own deliveries. -/
theorem disposal_own
    (shape : run.arrivals = arrival :: earlier)
    (independent :
      (run.earlierRun shape).Independent (published sent)
        maxRedeliverCount) :
    disposal (published sent) maxRedeliverCount run.keys arrival
        (ownArrivals arrival.message earlier) =
      if (published sent arrival.message).readable then
        if
            firstAcquirer arrival.message earlier = true ∨
              AmqpCacheService.Within maxRedeliverCount
                (ownCount (published sent) maxRedeliverCount run.keys arrival
                  earlier) then
          .emitted
        else
          .exceeded
      else
        .failed := by
  have own :
      handOvers (published sent) maxRedeliverCount run.keys (fun _ => true)
          (ownArrivals arrival.message earlier) =
        handOvers (published sent) maxRedeliverCount run.keys
          (fun other => other = arrival.message) earlier :=
    independent.handOvers_own arrival.message
  have sameFirst :
      firstAcquirer arrival.message (ownArrivals arrival.message earlier) =
        firstAcquirer arrival.message earlier :=
    firstAcquirer_filter arrival.message earlier
  rw [disposal_eq run.uncounted, sameFirst, countedAs_published, own]
  rfl

/--
After an independent run, a message is disposed of as its own deliveries
decide, unless it is redelivered and others have spent the budget.
-/
theorem disposal_own_iff
    (shape : run.arrivals = arrival :: earlier)
    (independent :
      (run.earlierRun shape).Independent (published sent)
        maxRedeliverCount) :
    disposal (published sent) maxRedeliverCount run.keys arrival earlier =
        disposal (published sent) maxRedeliverCount run.keys arrival
          (ownArrivals arrival.message earlier) ↔
      (firstAcquirer arrival.message earlier = false →
        (published sent arrival.message).readable = true →
        ¬ AmqpCacheService.Within maxRedeliverCount
            (sharedCount (published sent) maxRedeliverCount run.keys arrival
              earlier) →
          ¬ AmqpCacheService.Within maxRedeliverCount
              (ownCount (published sent) maxRedeliverCount run.keys arrival
                earlier)) := by
  have smaller :
      AmqpCacheService.Within maxRedeliverCount
          (sharedCount (published sent) maxRedeliverCount run.keys arrival
            earlier) →
        AmqpCacheService.Within maxRedeliverCount
          (ownCount (published sent) maxRedeliverCount run.keys arrival
            earlier) :=
    fun within => within.smaller (ownCount_le_sharedCount shape)
  rw [disposal_published, disposal_own shape independent]
  cases firstAcquirer arrival.message earlier with
  | true => simp
  | false =>
      cases (published sent arrival.message).readable with
      | false => simp
      | true =>
          by_cases shared :
            AmqpCacheService.Within maxRedeliverCount
              (sharedCount (published sent) maxRedeliverCount run.keys
                arrival earlier)
          · simp [shared, smaller shared]
          · by_cases alone :
              AmqpCacheService.Within maxRedeliverCount
                (ownCount (published sent) maxRedeliverCount run.keys
                  arrival earlier)
            · simp [shared, alone]
            · simp [shared, alone]

/--
The messages that are sent have budgets of their own exactly as long as none is
redelivered when others have spent the budget that all of them share.
-/
theorem independent_iff
    (sent : Message → SendMessage)
    (maxRedeliverCount : Int)
    (run : DeliveryRun Message) :
    run.Independent (published sent) maxRedeliverCount ↔
      run.SpentAlone (published sent) maxRedeliverCount := by
  obtain ⟨keys, uncounted, arrivals, ordered⟩ := run
  induction arrivals with
  | nil =>
      constructor
      · intro independent before arrival earlier split
        simp at split
      · intro alone before arrival earlier split
        simp at split
  | cons arrival earlier inductionHypothesis =>
      have ofEarlier :=
        inductionHypothesis (List.pairwise_cons.mp ordered).2
      constructor
      · intro independent
        have earlierAlone := ofEarlier.mp (independent.ofEarlier rfl)
        have last :=
          (disposal_own_iff rfl (independent.ofEarlier rfl)).mp
            (independent [] arrival earlier rfl)
        intro before other rest split
        rcases List.cons_eq_append_iff.mp split with
          ⟨rfl, shape⟩ | ⟨before, rfl, shape⟩
        · obtain ⟨rfl, rfl⟩ := List.cons.inj shape.symm
          exact last
        · exact earlierAlone before other rest shape
      · intro alone
        have earlierIndependent := ofEarlier.mpr (alone.ofEarlier rfl)
        have last :=
          (disposal_own_iff rfl earlierIndependent).mpr
            (alone [] arrival earlier rfl)
        intro before other rest split
        rcases List.cons_eq_append_iff.mp split with
          ⟨rfl, shape⟩ | ⟨before, rfl, shape⟩
        · obtain ⟨rfl, rfl⟩ := List.cons.inj shape.symm
          exact last
        · exact earlierIndependent before other rest shape

/-- A request to send an empty object. -/
def emptyMessage (_number : Nat) : SendMessage where
  address := "test"
  message := some (.obj (fun _ => none))
  traceId := "trace"
  durable := false
  replyTo := none
  receiverId := none

/-- Seven messages are delivered, and then the last of them once more. -/
def sevenMessages : DeliveryRun Nat where
  keys := fun _ => none
  uncounted := uncounted_of_empty
  arrivals :=
    [⟨6, 7⟩, ⟨6, 6⟩, ⟨5, 5⟩, ⟨4, 4⟩, ⟨3, 3⟩, ⟨2, 2⟩, ⟨1, 1⟩, ⟨0, 0⟩]
  ordered := by decide

/-- The first redelivery of a message exceeds a budget of five. -/
theorem redelivery_exceeds_shared_budget :
    disposal (published emptyMessage) 5 (fun _ => none) ⟨6, 7⟩
        sevenMessages.arrivals.tail =
      .exceeded ∧
    disposal (published emptyMessage) 5 (fun _ => none) ⟨6, 7⟩
        (ownArrivals 6 sevenMessages.arrivals.tail) =
      .emitted ∧
    ¬ sevenMessages.Independent (published emptyMessage) 5 := by
  have exceeded :
      disposal (published emptyMessage) 5 (fun _ => none) ⟨6, 7⟩
          sevenMessages.arrivals.tail =
        .exceeded := by
    decide +kernel
  have emitted :
      disposal (published emptyMessage) 5 (fun _ => none) ⟨6, 7⟩
          (ownArrivals 6 sevenMessages.arrivals.tail) =
        .emitted := by
    decide +kernel
  refine ⟨exceeded, emitted, ?_⟩
  intro independent
  have same := independent [] _ _ rfl
  exact absurd (exceeded.symm.trans (same.trans emitted)) (by decide)

end DeliveryRun

end NestBackend
