import NestBackend.WorkflowMessages

namespace NestBackend

open JavaScript

/-!
# A message is handled once

As long as no receiver closes, the broker takes a message back only when the
consumer loop has released it, and the loop releases first what its handler has
thrown at.  So the handler of a message resolves at most once, and at most one
handler begins where messages are accepted eagerly.
-/

namespace Workflow

/-- The handler of the delivery has failed, or will never be called. -/
def Spent
    (eagerAcceptMessage : Bool)
    (workflow : Workflow)
    (index : Nat) : Prop :=
  ¬ Handled eagerAcceptMessage (workflow.loops index) ∧
    ((∃ handling rest, workflow.loops index = .calling handling rest) ∨
      ∃ delivery,
        workflow.subscription.deliveries[index]? = some delivery ∧
          GivenUp delivery)

/-- While no receiver has closed. -/
structure Once
    (eagerAcceptMessage : Bool)
    (workflow : Workflow) : Prop where
  isOpen : workflow.subscription.closed = false
  begun :
    ∀ index,
      workflow.loops index ≠ .fresh →
        ∃ delivery,
          workflow.subscription.deliveries[index]? = some delivery ∧
            delivery.emitted = true
  standing :
    ∀ index number,
      workflow.origins[index]? = some number →
        workflow.custody number = .unsettled index ∨
          (workflow.custody number = .accepted ∧
            Handled eagerAcceptMessage (workflow.loops index)) ∨
          Spent eagerAcceptMessage workflow index
  single :
    ∀ first second number : Nat,
      workflow.origins[first]? = some number →
        workflow.origins[second]? = some number →
          Handled eagerAcceptMessage (workflow.loops first) →
            Handled eagerAcceptMessage (workflow.loops second) →
              first = second

/-- What is given up is not passed on. -/
theorem GivenUp.not_emitted
    {delivery : Delivery}
    (givenUp : GivenUp delivery) :
    delivery.emitted = false := by
  obtain ⟨disposal, stage, rejects, -⟩ := givenUp
  cases disposal with
  | emitted => simp [Disposal.calls] at rejects
  | _ => simp [Delivery.emitted, stage]

section Events

variable
  {concurrentLimit : Nat}
  {maxRedeliverCount : Int}
  {eagerAcceptMessage : Bool}
  {workflow next : Workflow}
  {event : SubscriptionEvent}

/-- What is released first has not been handled. -/
theorem Kept.released
    (kept : Kept eagerAcceptMessage workflow)
    {number index : Nat}
    {delivery : Delivery}
    (carried : workflow.Carries number index delivery)
    (unsettled : delivery.settlements = [])
    (running : 0 < delivery.timers) :
    Spent eagerAcceptMessage workflow index := by
  obtain ⟨found, origin, isMessage⟩ := carried
  obtain ⟨made, tracked, loopAt⟩ := kept.loops index
  have bound := (kept.origins index number delivery origin found).1
  have left : delivery.LeftToConsumer := by
    intro disposal stage
    rcases kept.disposed delivery (List.mem_of_getElem? found) disposal
        stage with
      emitted | ⟨-, noMessage⟩ | settled
    · exact emitted
    · rw [noMessage, eq_comm, List.getElem?_eq_none_iff] at isMessage
      omega
    · exact absurd unsettled settled
  obtain ⟨settled, -, accepted, -⟩ := tracked.accounted delivery found left
  have notAccepted : .accept ∉ made := by
    intro isMade
    have isAccepted := accepted.mpr isMade
    rw [unsettled] at isAccepted
    cases isAccepted
  have someMade : made ≠ [] := by
    rintro rfl
    rw [unsettled] at settled
    simp only [List.length_nil, List.countP_nil] at settled
    omega
  cases phase : workflow.loops index with
  | fresh =>
      rw [phase] at loopAt
      exact absurd loopAt someMade
  | handling =>
      rw [phase] at loopAt
      obtain rfl : made = _ := loopAt
      cases eagerAcceptMessage with
      | true => exact absurd (List.mem_singleton.mpr rfl) notAccepted
      | false => exact absurd rfl someMade
  | calling handling rest =>
      refine ⟨?_, .inl ⟨handling, rest, phase⟩⟩
      rw [phase] at loopAt ⊢
      obtain ⟨msg, -, complete⟩ := loopAt
      obtain ⟨first, others, rfl⟩ := List.exists_cons_of_ne_nil someMade
      intro handled
      have begins :
          (Consumer.calls eagerAcceptMessage msg handling).head? =
            some .accept := by
        rw [Consumer.calls_eq]
        cases eager : eagerAcceptMessage with
        | true => rfl
        | false =>
            rcases handled with isEager | resolved
            · rw [eager] at isEager
              cases isEager
            · obtain ⟨replyData, outcome⟩ :=
                Option.isSome_iff_exists.mp resolved
              rw [outcome]
              rfl
      rw [← complete] at begins
      obtain rfl := Option.some.inj begins
      exact notAccepted List.mem_cons_self

/-- A delivery whose handler comes further is the one in custody. -/
theorem Once.single_after
    (once : Once eagerAcceptMessage workflow)
    {loops : Nat → LoopPhase}
    (newly :
      ∀ index number,
        workflow.origins[index]? = some number →
          Handled eagerAcceptMessage (loops index) →
            Handled eagerAcceptMessage (workflow.loops index) ∨
              workflow.custody number = .unsettled index)
    {first second number : Nat}
    (firstOrigin : workflow.origins[first]? = some number)
    (secondOrigin : workflow.origins[second]? = some number)
    (firstHandled : Handled eagerAcceptMessage (loops first))
    (secondHandled : Handled eagerAcceptMessage (loops second)) :
    first = second := by
  have inCustody :
      ∀ {one other : Nat},
        workflow.origins[one]? = some number →
          Handled eagerAcceptMessage (workflow.loops one) →
            workflow.custody number = .unsettled other → one = other := by
    intro one other origin handled unsettled
    rcases once.standing one number origin with
      same | ⟨accepted, -⟩ | spent
    · exact Custody.unsettled.inj (same.symm.trans unsettled)
    · rw [accepted] at unsettled
      cases unsettled
    · exact absurd handled spent.1
  rcases newly first number firstOrigin firstHandled with
      wasFirst | isFirst <;>
    rcases newly second number secondOrigin secondHandled with
      wasSecond | isSecond
  · exact once.single first second number firstOrigin secondOrigin
      wasFirst wasSecond
  · exact inCustody firstOrigin wasFirst isSecond
  · exact (inCustody secondOrigin wasSecond isFirst).symm
  · exact Custody.unsettled.inj (isFirst.symm.trans isSecond)

/-- A delivery that can begin is in custody. -/
theorem Once.fresh_unsettled
    (once : Once eagerAcceptMessage workflow)
    {number index : Nat}
    {delivery : Delivery}
    (origin : workflow.origins[index]? = some number)
    (found : workflow.subscription.deliveries[index]? = some delivery)
    (emitted : delivery.emitted = true)
    (handled : ¬ Handled eagerAcceptMessage (workflow.loops index))
    (notCalling :
      ∀ handling rest, workflow.loops index ≠ .calling handling rest) :
    workflow.custody number = .unsettled index := by
  rcases once.standing index number origin with
    unsettled | ⟨-, isHandled⟩ | ⟨-, ⟨handling, rest, phase⟩ | given⟩
  · exact unsettled
  · exact absurd isHandled handled
  · exact absurd phase (notCalling handling rest)
  · obtain ⟨other, otherFound, givenUp⟩ := given
    obtain rfl := Option.some.inj (found.symm.trans otherFound)
    rw [givenUp.not_emitted] at emitted
    cases emitted

/-- A loop that has not begun has handled nothing. -/
theorem Handled.not_fresh
    {phase : LoopPhase}
    (handled : Handled eagerAcceptMessage phase) :
    phase ≠ .fresh := by
  rintro rfl
  exact handled

/-- Where loops begin with what is passed on, the rest is not handled. -/
theorem not_handled_of_not_emitted
    {phase : LoopPhase}
    {index : Nat}
    {delivery : Delivery}
    (begun :
      phase ≠ .fresh →
        ∃ delivery,
          workflow.subscription.deliveries[index]? = some delivery ∧
            delivery.emitted = true)
    (found : workflow.subscription.deliveries[index]? = some delivery)
    (notEmitted : delivery.emitted = false) :
    ¬ Handled eagerAcceptMessage phase := by
  intro handled
  obtain ⟨other, otherFound, emitted⟩ := begun handled.not_fresh
  obtain rfl := Option.some.inj (found.symm.trans otherFound)
  rw [notEmitted] at emitted
  cases emitted

/-- What an event leaves of a delivery that was given up is given up. -/
theorem GivenUp.evolves
    {latest index : Nat}
    {delivery after : Delivery}
    (givenUp : GivenUp delivery)
    (evolved : Subscription.Evolves latest index delivery event after) :
    GivenUp after := by
  obtain ⟨disposal, stage, rejects, why⟩ := givenUp
  refine ⟨disposal, ?_, rejects, ?_⟩
  · rw [evolved.stage (by rw [stage]; simp), stage]
  · rw [evolved.message.1, evolved.message.2]
    exact why

/-- What is spent remains so, whatever happens to the subscription. -/
theorem Spent.happen
    {index : Nat}
    {subscription : Subscription}
    {custody : Nat → Custody}
    {loops : Nat → LoopPhase}
    (spent : Spent eagerAcceptMessage workflow index)
    (stepped :
      workflow.subscription.step concurrentLimit maxRedeliverCount event =
        some subscription)
    (begun :
      loops index ≠ .fresh →
        ∃ delivery,
          workflow.subscription.deliveries[index]? = some delivery ∧
            delivery.emitted = true)
    (stillCalling :
      ∀ handling rest,
        workflow.loops index = .calling handling rest →
          ∃ others, loops index = .calling handling others) :
    Spent eagerAcceptMessage
      { workflow with
        subscription := subscription
        custody := custody
        loops := loops } index := by
  obtain ⟨notHandled, ⟨handling, rest, phase⟩ | given⟩ := spent
  · obtain ⟨others, after⟩ := stillCalling handling rest phase
    refine ⟨?_, .inl ⟨handling, others, after⟩⟩
    rw [phase] at notHandled
    change ¬ Handled eagerAcceptMessage (loops index)
    rw [after]
    exact notHandled
  · obtain ⟨delivery, found, givenUp⟩ := given
    obtain ⟨after, afterFound, evolved⟩ :=
      Subscription.step_evolves stepped found
    exact
      ⟨not_handled_of_not_emitted begun found givenUp.not_emitted,
        .inr ⟨after, afterFound, givenUp.evolves evolved⟩⟩

/-- What is spent remains so when more is delivered. -/
theorem Spent.deliver
    {index : Nat}
    {subscription : Subscription}
    {origins : List Nat}
    {custody : Nat → Custody}
    {delivery : Delivery}
    (spent : Spent eagerAcceptMessage workflow index)
    (appended :
      subscription.deliveries =
        workflow.subscription.deliveries ++ [delivery]) :
    Spent eagerAcceptMessage
      { workflow with
        subscription := subscription
        origins := origins
        custody := custody } index := by
  obtain ⟨notHandled, calling | ⟨taken, found, givenUp⟩⟩ := spent
  · exact ⟨notHandled, .inl calling⟩
  · refine ⟨notHandled, .inr ⟨taken, ?_, givenUp⟩⟩
    have bound := (List.getElem?_eq_some_iff.mp found).1
    rw [appended, List.getElem?_append_left bound, found]

/-- Something happens to the subscription, but no receiver closes. -/
theorem Once.happen
    (once : Once eagerAcceptMessage workflow)
    (kept : Kept eagerAcceptMessage workflow)
    (happened :
      workflow.happen concurrentLimit maxRedeliverCount event = some next)
    (notClose : event ≠ .close)
    {loops : Nat → LoopPhase}
    (begun :
      ∀ index,
        loops index ≠ .fresh →
          ∃ delivery,
            workflow.subscription.deliveries[index]? = some delivery ∧
              delivery.emitted = true)
    (allowed :
      ∀ index function,
        event = .call index function →
          function ≠ .reject ∧
            (function = .accept →
              Handled eagerAcceptMessage (loops index)))
    (stillHandled :
      ∀ index,
        Handled eagerAcceptMessage (workflow.loops index) →
          Handled eagerAcceptMessage (loops index))
    (stillCalling :
      ∀ index handling rest,
        workflow.loops index = .calling handling rest →
          ∃ others, loops index = .calling handling others)
    (newly :
      ∀ index number,
        workflow.origins[index]? = some number →
          Handled eagerAcceptMessage (loops index) →
            Handled eagerAcceptMessage (workflow.loops index) ∨
              workflow.custody number = .unsettled index) :
    Once eagerAcceptMessage { next with loops := loops } := by
  obtain ⟨subscription, stepped, rfl⟩ := happen_cases happened
  have isOpen : subscription.closed = false :=
    Subscription.step_open stepped notClose once.isOpen
  refine ⟨isOpen, ?_, ?_, ?_⟩
  · intro index notFresh
    obtain ⟨delivery, found, emitted⟩ := begun index notFresh
    obtain ⟨after, afterFound, evolved⟩ :=
      Subscription.step_evolves stepped found
    exact ⟨after, afterFound, evolved.emitted emitted⟩
  · intro index number origin
    have stillSpent :
        Spent eagerAcceptMessage workflow index →
          Spent eagerAcceptMessage
            { workflow with
              subscription := subscription
              custody :=
                fun number => observe subscription (workflow.custody number)
              loops := loops } index :=
      fun spent => spent.happen stepped (begun index) (stillCalling index)
    rcases once.standing index number origin with
      unsettled | ⟨accepted, handled⟩ | spent
    · have explained := kept.custody number
      rw [unsettled] at explained
      obtain ⟨delivery, carried, nothing⟩ := explained
      obtain ⟨after, afterFound, evolved⟩ :=
        Subscription.step_evolves stepped carried.1
      simp only [unsettled, observe_unsettled afterFound]
      rcases evolved.first_settlement nothing with
        none | ⟨released, running⟩ | ⟨accepted, isCall⟩ |
          ⟨rejected, givenUp | isCall⟩
      · rw [none]
        simp only [List.getLast?_nil, isOpen]
        exact .inl rfl
      · exact .inr (.inr
          (stillSpent (kept.released carried nothing running)))
      · rw [accepted]
        exact .inr (.inl
          ⟨rfl, (allowed index .accept isCall).2 rfl⟩)
      · refine .inr (.inr ⟨?_, .inr ⟨after, afterFound, givenUp⟩⟩)
        cases emitted : delivery.emitted with
        | false =>
            exact not_handled_of_not_emitted (begun index) carried.1 emitted
        | true =>
            have emittedAfter := evolved.emitted emitted
            rw [givenUp.not_emitted] at emittedAfter
            cases emittedAfter
      · exact absurd rfl (allowed index .reject isCall).1
    · refine .inr (.inl ⟨?_, stillHandled index handled⟩)
      simp only [accepted]
      rfl
    · exact .inr (.inr (stillSpent spent))
  · intro first second number
    exact once.single_after newly

/-- A loop calls a function of its event. -/
theorem Once.call
    (once : Once eagerAcceptMessage workflow)
    (kept : Kept eagerAcceptMessage workflow)
    {index : Nat}
    {function : EventCall}
    {phase : LoopPhase}
    {delivery : Delivery}
    (called :
      (workflow.happen concurrentLimit maxRedeliverCount
        (.call index function)).map (Workflow.enter index phase) =
          some next)
    (found : workflow.subscription.deliveries[index]? = some delivery)
    (emitted : delivery.emitted = true)
    (notReject : function ≠ .reject)
    (accepts : function = .accept → Handled eagerAcceptMessage phase)
    (stillHandled :
      Handled eagerAcceptMessage (workflow.loops index) →
        Handled eagerAcceptMessage phase)
    (stillCalling :
      ∀ handling rest,
        workflow.loops index = .calling handling rest →
          (∃ others, phase = .calling handling others) ∧
            (Handled eagerAcceptMessage phase →
              Handled eagerAcceptMessage (workflow.loops index))) :
    Once eagerAcceptMessage next := by
  obtain ⟨middle, happened, rfl⟩ := Option.map_eq_some_iff.mp called
  have sameLoops : middle.loops = workflow.loops := by
    obtain ⟨subscription, -, rfl⟩ := happen_cases happened
    rfl
  unfold Workflow.enter
  rw [sameLoops]
  refine once.happen kept happened (by simp) ?_ ?_ ?_ ?_ ?_
  · intro other notFresh
    by_cases isIndex : other = index
    · subst isIndex
      exact ⟨delivery, found, emitted⟩
    · exact once.begun other (by simpa [isIndex] using notFresh)
  · intro other made isCall
    obtain ⟨rfl, rfl⟩ := SubscriptionEvent.call.inj isCall
    exact ⟨notReject, by simpa using accepts⟩
  · intro other handled
    by_cases isIndex : other = index
    · subst isIndex
      simpa using stillHandled handled
    · simpa [isIndex] using handled
  · intro other handling rest calling
    by_cases isIndex : other = index
    · subst isIndex
      simpa using (stillCalling handling rest calling).1
    · exact ⟨rest, by simpa [isIndex] using calling⟩
  · intro other number origin handled
    by_cases isIndex : other = index
    · subst isIndex
      rw [Function.update_self] at handled
      by_cases was : Handled eagerAcceptMessage (workflow.loops other)
      · exact .inl was
      · refine .inr (once.fresh_unsettled origin found emitted was ?_)
        intro handling rest calling
        exact was ((stillCalling handling rest calling).2 handled)
    · exact .inl (by simpa [isIndex] using handled)

/-- A loop that has not come to its calls goes on. -/
theorem Once.enter
    (once : Once eagerAcceptMessage workflow)
    {index : Nat}
    {phase : LoopPhase}
    {delivery : Delivery}
    (found : workflow.subscription.deliveries[index]? = some delivery)
    (emitted : delivery.emitted = true)
    (notCalling :
      ∀ handling rest, workflow.loops index ≠ .calling handling rest)
    (stillHandled :
      Handled eagerAcceptMessage (workflow.loops index) →
        Handled eagerAcceptMessage phase) :
    Once eagerAcceptMessage (workflow.enter index phase) := by
  refine ⟨once.isOpen, ?_, ?_, ?_⟩
  · intro other notFresh
    by_cases isIndex : other = index
    · subst isIndex
      exact ⟨delivery, found, emitted⟩
    · exact once.begun other
        (by simpa [Workflow.enter, isIndex] using notFresh)
  · intro other number origin
    by_cases isIndex : other = index
    · subst isIndex
      by_cases was : Handled eagerAcceptMessage (workflow.loops other)
      · rcases once.standing other number origin with
          unsettled | ⟨accepted, handled⟩ | spent
        · exact .inl unsettled
        · refine .inr (.inl ⟨accepted, ?_⟩)
          simpa [Workflow.enter] using stillHandled handled
        · exact absurd was spent.1
      · exact .inl
          (once.fresh_unsettled origin found emitted was notCalling)
    · simpa [Spent, Workflow.enter, isIndex]
        using once.standing other number origin
  · intro first second number
    refine once.single_after ?_
    intro other number origin handled
    by_cases isIndex : other = index
    · subst isIndex
      by_cases was : Handled eagerAcceptMessage (workflow.loops other)
      · exact .inl was
      · exact .inr
          (once.fresh_unsettled origin found emitted was notCalling)
    · exact .inl (by simpa [Workflow.enter, isIndex] using handled)

/-- A message is delivered. -/
theorem Once.deliver
    (once : Once eagerAcceptMessage workflow)
    (kept : Kept eagerAcceptMessage workflow)
    {number : Nat}
    {redelivered : Bool}
    {delivery : Delivery}
    {subscription : Subscription}
    (isReady : workflow.custody number = .ready redelivered)
    (isOpen : subscription.closed = false)
    (appended :
      subscription.deliveries =
        workflow.subscription.deliveries ++ [delivery]) :
    Once eagerAcceptMessage
      { workflow with
        subscription := subscription
        origins := workflow.origins ++ [number]
        custody :=
          Function.update workflow.custody number
            (.unsettled workflow.subscription.deliveries.length) } := by
  have older :
      ∀ {index other : Nat},
        (workflow.origins ++ [number])[index]? = some other →
          workflow.origins[index]? = some other ∨
            index = workflow.subscription.deliveries.length ∧
              other = number := by
    intro index other origin
    have bound := (List.getElem?_eq_some_iff.mp origin).1
    rw [List.length_append, List.length_singleton, kept.lengths] at bound
    rcases Nat.lt_or_eq_of_le (Nat.le_of_lt_succ bound) with inside | rfl
    · rw [List.getElem?_append_left (kept.lengths ▸ inside)] at origin
      exact .inl origin
    · rw [← kept.lengths, List.getElem?_concat_length] at origin
      exact .inr ⟨rfl, (Option.some.inj origin).symm⟩
  have stillThere :
      ∀ {index : Nat} {taken : Delivery},
        workflow.subscription.deliveries[index]? = some taken →
          subscription.deliveries[index]? = some taken := by
    intro index taken found
    have bound := (List.getElem?_eq_some_iff.mp found).1
    rw [appended, List.getElem?_append_left bound, found]
  have newest :
      ¬ Handled eagerAcceptMessage
        (workflow.loops workflow.subscription.deliveries.length) := by
    intro handled
    obtain ⟨taken, found, -⟩ := once.begun _ handled.not_fresh
    have bound := (List.getElem?_eq_some_iff.mp found).1
    omega
  have spentOf :
      ∀ {index : Nat},
        workflow.origins[index]? = some number →
          Spent eagerAcceptMessage workflow index := by
    intro index origin
    rcases once.standing index number origin with
      unsettled | ⟨accepted, -⟩ | spent
    · rw [isReady] at unsettled
      cases unsettled
    · rw [isReady] at accepted
      cases accepted
    · exact spent
  refine ⟨isOpen, ?_, ?_, ?_⟩
  · intro index notFresh
    obtain ⟨taken, found, emitted⟩ := once.begun index notFresh
    exact ⟨taken, stillThere found, emitted⟩
  · intro index other origin
    rcases older origin with old | ⟨rfl, rfl⟩
    · by_cases isNumber : other = number
      · subst isNumber
        exact .inr (.inr ((spentOf old).deliver appended))
      · simp only [ne_eq, isNumber, not_false_eq_true,
          Function.update_of_ne]
        rcases once.standing index other old with
          unsettled | accepted | spent
        · exact .inl unsettled
        · exact .inr (.inl accepted)
        · exact .inr (.inr (spent.deliver appended))
    · exact .inl (Function.update_self ..)
  · intro first second other firstOrigin secondOrigin firstHandled
      secondHandled
    rcases older firstOrigin with oldFirst | ⟨rfl, -⟩
    · rcases older secondOrigin with oldSecond | ⟨rfl, -⟩
      · exact once.single first second other oldFirst oldSecond
          firstHandled secondHandled
      · exact absurd secondHandled newest
    · exact absurd firstHandled newest

/-- Every event keeps it, as long as no receiver closes. -/
theorem Once.step
    (once : Once eagerAcceptMessage workflow)
    (kept : Kept eagerAcceptMessage workflow)
    {event : WorkflowEvent}
    (stepped :
      workflow.step concurrentLimit maxRedeliverCount eagerAcceptMessage
        event = some next)
    (notClose : event ≠ .other .close) :
    Once eagerAcceptMessage next := by
  cases event with
  | publish message =>
      obtain rfl := Option.some.inj stepped
      exact ⟨once.isOpen, once.begun, once.standing, once.single⟩
  | deliver number =>
      simp only [Workflow.step] at stepped
      split at stepped
      next message redelivered _ isReady =>
        obtain ⟨subscription, delivered, rfl⟩ :=
          Option.map_eq_some_iff.mp stepped
        have appended :
            subscription.deliveries =
              workflow.subscription.deliveries ++
                [workflow.subscription.arrived (some message)
                  (!redelivered)] := by
          cases Subscription.step_cases delivered with
          | deliver => rfl
        exact once.deliver kept isReady
          (Subscription.step_open delivered (by simp) once.isOpen) appended
      next => cases stepped
  | begin index =>
      simp only [Workflow.step] at stepped
      split at stepped
      next delivery phase found =>
        split at stepped
        next emitted =>
          have notCalling :
              ∀ handling rest,
                workflow.loops index ≠ .calling handling rest := by
            intro handling rest calling
            rw [phase] at calling
            cases calling
          cases eagerAcceptMessage with
          | true =>
              refine once.call kept stepped found emitted (by simp)
                (fun _ => rfl) (fun _ => rfl) ?_
              intro handling rest calling
              exact absurd calling (notCalling handling rest)
          | false =>
              obtain rfl := Option.some.inj stepped
              refine once.enter found emitted notCalling ?_
              rw [phase]
              exact False.elim
        next => cases stepped
      next => cases stepped
  | resolve index handling =>
      simp only [Workflow.step] at stepped
      split at stepped
      next msg phase isMessage =>
        obtain rfl := Option.some.inj stepped
        obtain ⟨delivery, found, emitted⟩ :=
          once.begun index (by rw [phase]; simp)
        refine once.enter found emitted ?_ ?_
        · intro other rest calling
          rw [phase] at calling
          cases calling
        · rw [phase]
          exact Or.inl
      next => cases stepped
  | proceed index =>
      simp only [Workflow.step] at stepped
      split at stepped
      next handling function rest phase =>
        obtain ⟨made, -, loopAt⟩ := kept.loops index
        rw [phase] at loopAt
        obtain ⟨notReject, accepts⟩ := call_of_loopAt loopAt
        obtain ⟨delivery, found, emitted⟩ :=
          once.begun index (by rw [phase]; simp)
        refine once.call kept stepped found emitted notReject accepts ?_ ?_
        · rw [phase]
          exact id
        · intro other others calling
          obtain ⟨rfl, -⟩ := LoopPhase.calling.inj (phase.symm.trans calling)
          rw [phase]
          exact ⟨⟨rest, rfl⟩, id⟩
      next => cases stepped
  | other event =>
      simp only [Workflow.step] at stepped
      split at stepped
      next isOther =>
        have unchanged : { next with loops := workflow.loops } = next := by
          obtain ⟨subscription, -, rfl⟩ := happen_cases stepped
          rfl
        rw [← unchanged]
        refine once.happen kept stepped ?_ once.begun ?_ (fun _ => id) ?_ ?_
        · rintro rfl
          exact notClose rfl
        · rintro index function rfl
          cases isOther
        · exact fun index handling rest calling => ⟨rest, calling⟩
        · exact fun index number _ => Or.inl
      next => cases stepped

/-- It holds of a workflow that has just been opened. -/
theorem opened_once
    (concurrentLimit : Nat)
    (redis : String → Redis.Slot)
    (eagerAcceptMessage : Bool) :
    Once eagerAcceptMessage (opened concurrentLimit redis) := by
  refine ⟨rfl, ?_, ?_, ?_⟩
  · exact fun index notFresh => absurd rfl notFresh
  · intro index number origin
    simp [opened] at origin
  · intro first second number origin
    simp [opened] at origin

/-- A workflow of which no receiver has closed. -/
def Undisturbed
    (eagerAcceptMessage : Bool)
    (workflow : Workflow) : Prop :=
  Kept eagerAcceptMessage workflow ∧ Once eagerAcceptMessage workflow

/-- A run in which no receiver closes. -/
theorem run_undisturbed
    {redis : String → Redis.Slot}
    {events : List WorkflowEvent}
    (ran :
      (opened concurrentLimit redis).run? concurrentLimit
        maxRedeliverCount eagerAcceptMessage events = some workflow)
    (stayOpen : .other .close ∉ events) :
    Undisturbed eagerAcceptMessage workflow := by
  refine EventRun.keeps ?_ ran
    ⟨opened_kept concurrentLimit redis eagerAcceptMessage,
      opened_once concurrentLimit redis eagerAcceptMessage⟩
  rintro state after event member ⟨kept, once⟩ stepped
  refine ⟨kept.step stepped, once.step kept stepped ?_⟩
  rintro rfl
  exact stayOpen member

/--
As long as no receiver closes, at most one delivery of a message gets its
handler through, or begun where messages are accepted eagerly.  The broker lets
the message go for that delivery, and an accepted message has had one.
-/
theorem handled_once
    {redis : String → Redis.Slot}
    {events : List WorkflowEvent}
    (ran :
      (opened concurrentLimit redis).run? concurrentLimit
        maxRedeliverCount eagerAcceptMessage events = some workflow)
    (stayOpen : .other .close ∉ events)
    (number : Nat) :
    (workflow.custody number = .accepted →
        ∃ index,
          workflow.origins[index]? = some number ∧
            Handled eagerAcceptMessage (workflow.loops index)) ∧
      ∀ index,
        workflow.origins[index]? = some number →
          Handled eagerAcceptMessage (workflow.loops index) →
            (workflow.custody number = .accepted ∨
                workflow.custody number = .unsettled index) ∧
              ∀ other,
                workflow.origins[other]? = some number →
                  Handled eagerAcceptMessage (workflow.loops other) →
                    other = index := by
  obtain ⟨kept, once⟩ := run_undisturbed ran stayOpen
  refine ⟨?_, ?_⟩
  · intro accepted
    have explained := kept.custody number
    rw [accepted] at explained
    obtain ⟨index, delivery, carried, handled⟩ := explained
    exact ⟨index, carried.2.1, handled⟩
  · intro index origin handled
    refine ⟨?_, ?_⟩
    · rcases once.standing index number origin with
        unsettled | ⟨accepted, -⟩ | spent
      · exact .inr unsettled
      · exact .inl accepted
      · exact absurd handled spent.1
    · intro other otherOrigin otherHandled
      exact once.single other index number otherOrigin origin otherHandled
        handled

/-- A message is delivered twice, as its handler throws at first. -/
def retriedEvents : List WorkflowEvent :=
  [.publish Subscription.questionMessage, .other .hear, .deliver 0,
    .other (.process 0), .begin 0, .resolve 0 ⟨none, true⟩, .proceed 0,
    .other (.releaseTimer 0), .deliver 0, .other (.process 0), .begin 1,
    .resolve 1 ⟨some (.str "answer"), true⟩, .proceed 1, .proceed 1]

/-- Of the two deliveries of a message, the second is handled. -/
theorem handled_once_retried :
    ∃ workflow,
      (opened 1 (fun _ => none)).run? 1 5 false retriedEvents =
          some workflow ∧
        workflow.origins = [0, 0] ∧
          ∀ other,
            workflow.origins[other]? = some 0 →
              Handled false (workflow.loops other) → other = 1 := by
  refine ⟨_, rfl, rfl, ?_⟩
  have ran :
      (opened 1 (fun _ => none)).run? 1 5 false retriedEvents = some _ :=
    rfl
  have stayOpen : .other .close ∉ retriedEvents := by
    simp [retriedEvents]
  exact ((handled_once ran stayOpen 0).2 1 rfl (.inr rfl)).2

end Events

end Workflow

end NestBackend
