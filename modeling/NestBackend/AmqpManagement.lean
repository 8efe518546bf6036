import NestBackend.EventRun

namespace NestBackend

/-!
# The connection of `AmqpManagementService`

`onModuleInit` connects once.  A connection gets its listener for `close` after
its channel has been created, and the listener connects again until that has
succeeded, waiting three seconds after every failure.  `onModuleDestroy` closes
whatever connection the service holds, and changes nothing else.

Connections are numbered as they are opened.
-/

/-- A connection that amqplib has opened. -/
structure AmqpConnection where
  live : Bool
  /-- How many listeners of `handleDisconnect` it has. -/
  closeListeners : Nat
  deriving DecidableEq, Repr

/-- Who has called `connect` of the service. -/
inductive ConnectCaller where
  | onModuleInit
  /-- A listener of `handleDisconnect`, in its loop. -/
  | handleDisconnect
  deriving DecidableEq, Repr

/-- What a call is waiting for. -/
inductive ConnectStage where
  /-- `connect` of amqplib. -/
  | connecting
  /-- `createChannel` of a connection. -/
  | creatingChannel (connection : Nat)
  /-- `delay(3000)`. -/
  | delaying
  deriving DecidableEq, Repr

/-- A call that has not come to its end. -/
structure ConnectCall where
  caller : ConnectCaller
  stage : ConnectStage
  deriving DecidableEq, Repr

/-- The state of the service, with what amqplib has opened for it. -/
structure AmqpManagement where
  connections : List AmqpConnection
  /-- `this.connection`. -/
  connection : Option Nat
  /-- The connection of `this.channel`. -/
  channel : Option Nat
  calls : List ConnectCall
  /-- `onModuleDestroy` has been called. -/
  destroyed : Bool
  /-- The connection that `onModuleDestroy` waits for. -/
  closing : Option Nat
  /-- How many connections there were when `onModuleDestroy` was done. -/
  completed : Option Nat
  deriving DecidableEq, Repr

/-- What can happen next. -/
inductive ManagementEvent where
  | connected (call : Nat)
  | connectFailed (call : Nat)
  | channelCreated (call : Nat)
  | channelFailed (call : Nat)
  /-- The three seconds are over. -/
  | delayed (call : Nat)
  /-- The broker closes a connection. -/
  | brokerClose (connection : Nat)
  | onModuleDestroy
  /-- The connection that `onModuleDestroy` waits for is closed. -/
  | closed
  deriving DecidableEq, Repr

namespace AmqpManagement

/-- `onModuleInit` is called. -/
def start : AmqpManagement where
  connections := []
  connection := none
  channel := none
  calls := [⟨.onModuleInit, .connecting⟩]
  destroyed := false
  closing := none
  completed := none

/-- A connection is live. -/
def live (connection : Nat) (state : AmqpManagement) : Bool :=
  state.connections[connection]?.any AmqpConnection.live

/-- The listeners of a connection for `close`. -/
def closeListeners (connection : Nat) (state : AmqpManagement) : Nat :=
  (state.connections[connection]?.map AmqpConnection.closeListeners).getD 0

/-- A call goes on to something else. -/
def proceed
    (call : Nat)
    (stage : ConnectStage)
    (state : AmqpManagement) : AmqpManagement :=
  { state with
    calls :=
      state.calls.modify call (fun waiting =>
        { waiting with stage := stage }) }

/-- A call has come to its end. -/
def finish (call : Nat) (state : AmqpManagement) : AmqpManagement :=
  { state with calls := state.calls.eraseIdx call }

/-- `connect` throws: the loop waits and tries again. -/
def fail
    (call : Nat)
    (caller : ConnectCaller)
    (state : AmqpManagement) : AmqpManagement :=
  match caller with
  | .onModuleInit => state.finish call
  | .handleDisconnect => state.proceed call .delaying

/-- `handleNewConnection` up to `createChannel`. -/
def handleNewConnection
    (call : Nat)
    (state : AmqpManagement) : AmqpManagement :=
  let opened := state.connections.length
  { state.proceed call (.creatingChannel opened) with
    connections := state.connections ++ [⟨true, 0⟩]
    connection := some opened }

/-- `handleDisconnect`, on the connection that the service holds then. -/
def handleDisconnect (state : AmqpManagement) : AmqpManagement :=
  match state.connection with
  | none => state
  | some held =>
      { state with
        connections :=
          state.connections.modify held (fun connection =>
            { connection with
              closeListeners := connection.closeListeners + 1 }) }

/-- The rest of `connect`, once there is a channel. -/
def keepChannel
    (call connection : Nat)
    (state : AmqpManagement) : AmqpManagement :=
  ({ state with channel := some connection }).handleDisconnect.finish call

/-- A connection is closed, and its listeners are called. -/
def close (connection : Nat) (state : AmqpManagement) : AmqpManagement :=
  { state with
    connections :=
      state.connections.modify connection (fun closed =>
        { closed with live := false })
    calls :=
      state.calls ++
        List.replicate (state.closeListeners connection)
          ⟨.handleDisconnect, .connecting⟩ }

/-- `onModuleDestroy` returns or throws. -/
def complete (state : AmqpManagement) : AmqpManagement :=
  { state with
    closing := none
    completed := some state.connections.length }

/-- `onModuleDestroy`: closing a connection that is closed throws. -/
def onModuleDestroy (state : AmqpManagement) : AmqpManagement :=
  let called := { state with destroyed := true }
  match state.connection with
  | none => called.complete
  | some held =>
      if state.live held then
        { called with closing := some held }
      else
        called.complete

/-- What an event makes of the state, if it can happen. -/
def step (state : AmqpManagement) :
    ManagementEvent → Option AmqpManagement
  | .connected call =>
      match state.calls[call]? with
      | some ⟨_, .connecting⟩ => some (state.handleNewConnection call)
      | _ => none
  | .connectFailed call =>
      match state.calls[call]? with
      | some ⟨caller, .connecting⟩ => some (state.fail call caller)
      | _ => none
  | .channelCreated call =>
      match state.calls[call]? with
      | some ⟨_, .creatingChannel connection⟩ =>
          if state.live connection then
            some (state.keepChannel call connection)
          else
            none
      | _ => none
  | .channelFailed call =>
      match state.calls[call]? with
      | some ⟨caller, .creatingChannel _⟩ => some (state.fail call caller)
      | _ => none
  | .delayed call =>
      match state.calls[call]? with
      | some ⟨_, .delaying⟩ => some (state.proceed call .connecting)
      | _ => none
  | .brokerClose connection =>
      if state.live connection then some (state.close connection) else none
  | .onModuleDestroy =>
      if state.destroyed then none else some state.onModuleDestroy
  | .closed =>
      match state.closing with
      | some connection =>
          if state.live connection then
            some (state.close connection).complete
          else
            none
      | none => none

/--
At most one connection is live, and none has been opened since
`onModuleDestroy` was done.
-/
structure Kept (state : AmqpManagement) : Prop where
  one :
    ∀ first second,
      state.live first = true → state.live second = true → first = second
  done :
    ∀ count,
      state.completed = some count → state.connections.length = count

end AmqpManagement

/-- The call leads to another connection if nothing fails. -/
def ConnectCall.Reconnects : ConnectCall → Prop
  | ⟨.onModuleInit, .creatingChannel _⟩ => False
  | _ => True

namespace AmqpManagement

/--
A channel of a reconnect is not created, and its connection stays open; or
`onModuleDestroy` is done while a call goes on that connects, or where the
connection that it closes has a listener that connects.
-/
def Hazard (state : AmqpManagement) : ManagementEvent → Prop
  | .channelFailed call =>
      ∃ connection,
        state.calls[call]? =
            some ⟨.handleDisconnect, .creatingChannel connection⟩ ∧
          state.live connection = true
  | .onModuleDestroy =>
      (∀ held, state.connection = some held → state.live held = false) ∧
        ∃ call ∈ state.calls, call.Reconnects
  | .closed =>
      (∃ call ∈ state.calls, call.Reconnects) ∨
        ∃ connection,
          state.closing = some connection ∧
            state.closeListeners connection ≠ 0
  | _ => False

/-- A run without hazards. -/
abbrev Careful : AmqpManagement → List ManagementEvent → Prop :=
  EventRun.Avoids step Hazard

variable
  {state next : AmqpManagement}

/-! ## What an event can do -/

/-- The cases in which something happens. -/
inductive StepCase (state : AmqpManagement) :
    ManagementEvent → AmqpManagement → Prop
  | connected
      {call : Nat}
      {caller : ConnectCaller}
      (waits : state.calls[call]? = some ⟨caller, .connecting⟩) :
      StepCase state (.connected call) (state.handleNewConnection call)
  | connectFailed
      {call : Nat}
      {caller : ConnectCaller}
      (waits : state.calls[call]? = some ⟨caller, .connecting⟩) :
      StepCase state (.connectFailed call) (state.fail call caller)
  | channelCreated
      {call connection : Nat}
      {caller : ConnectCaller}
      (waits :
        state.calls[call]? = some ⟨caller, .creatingChannel connection⟩)
      (live : state.live connection = true) :
      StepCase state (.channelCreated call)
        (state.keepChannel call connection)
  | channelFailed
      {call connection : Nat}
      {caller : ConnectCaller}
      (waits :
        state.calls[call]? = some ⟨caller, .creatingChannel connection⟩) :
      StepCase state (.channelFailed call) (state.fail call caller)
  | delayed
      {call : Nat}
      {caller : ConnectCaller}
      (waits : state.calls[call]? = some ⟨caller, .delaying⟩) :
      StepCase state (.delayed call) (state.proceed call .connecting)
  | brokerClose
      {connection : Nat}
      (live : state.live connection = true) :
      StepCase state (.brokerClose connection) (state.close connection)
  | refusedToClose
      (running : state.destroyed = false)
      (closed :
        ∀ held, state.connection = some held → state.live held = false) :
      StepCase state .onModuleDestroy
        ({ state with destroyed := true }).complete
  | closes
      {held : Nat}
      (running : state.destroyed = false)
      (holds : state.connection = some held)
      (live : state.live held = true) :
      StepCase state .onModuleDestroy
        { state with destroyed := true, closing := some held }
  | closed
      {connection : Nat}
      (closing : state.closing = some connection)
      (live : state.live connection = true) :
      StepCase state .closed (state.close connection).complete

/-- What happens is one of the cases. -/
theorem step_cases
    {event : ManagementEvent}
    (stepped : state.step event = some next) :
    StepCase state event next := by
  cases event with
  | connected call =>
      simp only [step] at stepped
      split at stepped
      next caller waits =>
        obtain rfl := Option.some.inj stepped
        exact .connected waits
      next => cases stepped
  | connectFailed call =>
      simp only [step] at stepped
      split at stepped
      next caller waits =>
        obtain rfl := Option.some.inj stepped
        exact .connectFailed waits
      next => cases stepped
  | channelCreated call =>
      simp only [step] at stepped
      split at stepped
      next caller connection waits =>
        split at stepped
        next live =>
          obtain rfl := Option.some.inj stepped
          exact .channelCreated waits live
        next => cases stepped
      next => cases stepped
  | channelFailed call =>
      simp only [step] at stepped
      split at stepped
      next caller connection waits =>
        obtain rfl := Option.some.inj stepped
        exact .channelFailed waits
      next => cases stepped
  | delayed call =>
      simp only [step] at stepped
      split at stepped
      next caller waits =>
        obtain rfl := Option.some.inj stepped
        exact .delayed waits
      next => cases stepped
  | brokerClose connection =>
      simp only [step] at stepped
      split at stepped
      next live =>
        obtain rfl := Option.some.inj stepped
        exact .brokerClose live
      next => cases stepped
  | onModuleDestroy =>
      simp only [step] at stepped
      split at stepped
      next => cases stepped
      next running =>
        obtain rfl := Option.some.inj stepped
        have running : state.destroyed = false := by simpa using running
        unfold onModuleDestroy
        split
        next none =>
          refine .refusedToClose running ?_
          intro held holds
          rw [none] at holds
          cases holds
        next held holds =>
          by_cases live : state.live held = true
          · rw [if_pos live]
            exact .closes running holds live
          · rw [if_neg live]
            refine .refusedToClose running ?_
            intro other isOther
            obtain rfl := Option.some.inj (holds.symm.trans isOther)
            exact Bool.eq_false_iff.mpr live
  | closed =>
      simp only [step] at stepped
      split at stepped
      next connection closing =>
        split at stepped
        next live =>
          obtain rfl := Option.some.inj stepped
          exact .closed closing live
        next => cases stepped
      next => cases stepped

/-! ## What is live, and what is listened to -/

/-- A live connection has been opened. -/
theorem lt_of_live
    {connection : Nat}
    (live : state.live connection = true) :
    connection < state.connections.length := by
  by_contra beyond
  rw [AmqpManagement.live, List.getElem?_eq_none (Nat.le_of_not_lt beyond)]
    at live
  cases live

/-- Only a connection is closed that `close` is asked to close. -/
@[simp] theorem live_close
    {connection other : Nat} :
    (state.close connection).live other =
      (decide (connection ≠ other) && state.live other) := by
  unfold close live
  rw [List.getElem?_modify]
  by_cases same : connection = other
  · cases state.connections[other]? <;> simp [same]
  · simp [same]

/-- The new connection is live, and has no listener. -/
theorem live_handleNewConnection
    {call other : Nat} :
    (state.handleNewConnection call).live other =
      (state.live other || decide (other = state.connections.length)) := by
  unfold handleNewConnection live
  by_cases below : other < state.connections.length
  · simp [List.getElem?_append_left below, Nat.ne_of_lt below]
  · by_cases same : other = state.connections.length
    · simp [same]
    · have beyond : state.connections.length < other := by omega
      have noneBefore : state.connections[other]? = none :=
        List.getElem?_eq_none (Nat.le_of_lt beyond)
      have noneAfter :
          (state.connections ++ [⟨true, 0⟩])[other]? = none := by
        apply List.getElem?_eq_none
        simp only [List.length_append, List.length_singleton]
        omega
      simp [noneBefore, noneAfter, same]

/-- A listener changes nothing about the connection. -/
@[simp] theorem live_handleDisconnect
    {other : Nat} :
    state.handleDisconnect.live other = state.live other := by
  unfold handleDisconnect live
  cases held : state.connection with
  | none => rfl
  | some connection =>
      simp only [List.getElem?_modify]
      cases state.connections[other]? <;> simp
      split <;> rfl

/-- A new connection has no listener. -/
@[simp] theorem closeListeners_handleNewConnection
    {call other : Nat} :
    (state.handleNewConnection call).closeListeners other =
      state.closeListeners other := by
  unfold handleNewConnection closeListeners
  by_cases below : other < state.connections.length
  · simp [List.getElem?_append_left below]
  · have noneBefore : state.connections[other]? = none :=
      List.getElem?_eq_none (Nat.le_of_not_lt below)
    by_cases same : other = state.connections.length
    · simp [same]
    · have noneAfter :
          (state.connections ++ [⟨true, 0⟩])[other]? = none := by
        apply List.getElem?_eq_none
        simp only [List.length_append, List.length_singleton]
        omega
      simp [noneBefore, noneAfter]

/-- A connection gets one listener at a time. -/
theorem closeListeners_handleDisconnect_le
    {other : Nat} :
    state.handleDisconnect.closeListeners other ≤
      state.closeListeners other + 1 := by
  unfold handleDisconnect closeListeners
  cases held : state.connection with
  | none => simp
  | some connection =>
      simp only [List.getElem?_modify]
      cases state.connections[other]? <;> simp
      split <;> simp

/-! ## Without hazards -/

/-- What every state of a run without hazards satisfies. -/
structure Tidy (state : AmqpManagement) : Prop where
  /-- Nobody connects while somebody else does. -/
  alone : state.calls.length ≤ 1
  /-- Only the connection that the service holds is live. -/
  latest :
    ∀ connection,
      state.live connection = true → state.connection = some connection
  /-- While a connection is live, nobody opens another. -/
  creating :
    ∀ call ∈ state.calls,
      ∀ connection,
        state.live connection = true →
          call.stage = .creatingChannel connection
  /-- A live connection is listened to once, when its channel is there. -/
  listened :
    ∀ connection,
      state.live connection = true →
        state.closeListeners connection + state.calls.length ≤ 1
  /-- Once `onModuleDestroy` is done, nothing is live, and nobody connects. -/
  done :
    ∀ count,
      state.completed = some count →
        state.connections.length = count ∧
          (∀ connection, state.live connection = false) ∧
          ∀ call ∈ state.calls, ¬ call.Reconnects
  /-- It is done only after it has been called. -/
  uncalled :
    state.destroyed = false →
      state.completed = none ∧ state.closing = none

/-- At first somebody connects. -/
theorem start_tidy : start.Tidy where
  alone := Nat.le_refl _
  latest := by simp [start, live]
  creating := by simp [start, live]
  listened := by simp [start, live]
  done := by simp [start]
  uncalled := by simp [start]

namespace Tidy

/-- The call that goes on is the only one. -/
theorem calls_eq
    {index : Nat}
    {call : ConnectCall}
    (tidy : state.Tidy)
    (waits : state.calls[index]? = some call) :
    state.calls = [call] ∧ index = 0 := by
  have alone := tidy.alone
  obtain ⟨below, isCall⟩ := List.getElem?_eq_some_iff.mp waits
  have zero : index = 0 := by omega
  subst zero
  have one : state.calls.length = 1 := by omega
  obtain ⟨only, isOnly⟩ := List.length_eq_one_iff.mp one
  rw [isOnly] at waits ⊢
  exact ⟨congrArg (fun call => [call]) (Option.some.inj waits), rfl⟩

/-- Nothing is live while somebody waits for something else. -/
theorem not_live
    {call : ConnectCall}
    (tidy : state.Tidy)
    (goesOn : call ∈ state.calls)
    (other : ∀ connection, call.stage ≠ .creatingChannel connection)
    (connection : Nat) :
    state.live connection = false := by
  cases live : state.live connection with
  | false => rfl
  | true =>
      exact (other connection (tidy.creating call goesOn _ live)).elim

/-- If the held connection is not live, nothing is. -/
theorem dead_of_closed
    (tidy : state.Tidy)
    (closed :
      ∀ held, state.connection = some held → state.live held = false)
    (connection : Nat) :
    state.live connection = false := by
  cases live : state.live connection with
  | false => rfl
  | true =>
      have dead := closed connection (tidy.latest connection live)
      exact absurd (live.symm.trans dead) (by decide)

/-- `onModuleDestroy` is not done while somebody connects. -/
theorem not_done
    {call : ConnectCall}
    (tidy : state.Tidy)
    (goesOn : call ∈ state.calls)
    (reconnects : call.Reconnects) :
    state.completed = none := by
  by_contra done
  obtain ⟨count, isDone⟩ := Option.ne_none_iff_exists'.mp done
  exact (tidy.done count isDone).2.2 call goesOn reconnects

/-- `onModuleDestroy` is not done while something is live. -/
theorem not_done_of_live
    {connection : Nat}
    (tidy : state.Tidy)
    (live : state.live connection = true) :
    state.completed = none := by
  by_contra done
  obtain ⟨count, isDone⟩ := Option.ne_none_iff_exists'.mp done
  rw [(tidy.done count isDone).2.1 connection] at live
  cases live

/-- What is live is the same connection. -/
theorem live_unique
    {first second : Nat}
    (tidy : state.Tidy)
    (firstLive : state.live first = true)
    (secondLive : state.live second = true) :
    first = second :=
  Option.some.inj
    ((tidy.latest first firstLive).symm.trans (tidy.latest second secondLive))

/-- Once the live connection is closed, nothing is live. -/
theorem live_close
    {connection : Nat}
    (tidy : state.Tidy)
    (live : state.live connection = true)
    (other : Nat) :
    (state.close connection).live other = false := by
  rw [AmqpManagement.live_close, Bool.and_eq_false_iff,
    decide_eq_false_iff_not, not_not]
  cases otherLive : state.live other with
  | false => exact .inr rfl
  | true => exact .inl (tidy.live_unique live otherLive)

/-- The closing of a connection starts at most one call. -/
theorem length_close
    {connection : Nat}
    (tidy : state.Tidy)
    (live : state.live connection = true) :
    (state.close connection).calls.length ≤ 1 := by
  have listened := tidy.listened connection live
  simp only [close, List.length_append, List.length_replicate]
  omega

/-- What has to be seen to where nothing is live. -/
theorem of_dead
    (alone : state.calls.length ≤ 1)
    (dead : ∀ connection, state.live connection = false)
    (unfinished : state.completed = none)
    (uncalled : state.destroyed = false → state.closing = none) :
    state.Tidy where
  alone := alone
  latest := by simp [dead]
  creating := by simp [dead]
  listened := by simp [dead]
  done := by simp [unfinished]
  uncalled running := ⟨unfinished, uncalled running⟩

/-- The end of a call changes nothing for the worse. -/
theorem finish
    {call : ConnectCall}
    (tidy : state.Tidy)
    (only : state.calls = [call]) :
    (state.finish 0).Tidy := by
  have calls : (state.finish 0).calls = [] := by
    simp [AmqpManagement.finish, only]
  constructor
  · simp [calls]
  · exact tidy.latest
  · simp [calls]
  · intro connection live
    have listened := tidy.listened connection live
    rw [calls, List.length_nil]
    exact Nat.le_trans (Nat.add_le_add_left (Nat.zero_le _) _) listened
  · intro count isDone
    obtain ⟨length, dead, -⟩ := tidy.done count isDone
    exact ⟨length, dead, by simp [calls]⟩
  · exact tidy.uncalled

/-- A call goes on where nothing is live. -/
theorem proceed
    {call : ConnectCall}
    {stage : ConnectStage}
    (tidy : state.Tidy)
    (only : state.calls = [call])
    (dead : ∀ connection, state.live connection = false)
    (reconnects : call.Reconnects) :
    (state.proceed 0 stage).Tidy := by
  refine of_dead ?_ dead ?_ (fun running => (tidy.uncalled running).2)
  · simp [AmqpManagement.proceed, only]
  · exact tidy.not_done (by simp [only]) reconnects

/-- A new connection is opened where nothing is live. -/
theorem handleNewConnection
    {call : ConnectCall}
    (tidy : state.Tidy)
    (only : state.calls = [call])
    (dead : ∀ connection, state.live connection = false)
    (reconnects : call.Reconnects) :
    (state.handleNewConnection 0).Tidy := by
  have unfinished : state.completed = none :=
    tidy.not_done (by simp [only]) reconnects
  have calls :
      (state.handleNewConnection 0).calls =
        [{ call with
            stage := .creatingChannel state.connections.length }] := by
    simp [AmqpManagement.handleNewConnection, AmqpManagement.proceed, only]
  have live :
      ∀ connection,
        (state.handleNewConnection 0).live connection = true ↔
          connection = state.connections.length := by
    simp [live_handleNewConnection, dead]
  have unlistened : state.closeListeners state.connections.length = 0 := by
    simp [closeListeners]
  constructor
  · simp [calls]
  · intro connection isLive
    rw [(live connection).mp isLive]
    rfl
  · simp [calls, live]
  · simp [calls, live, unlistened]
  · intro count isDone
    exact absurd (isDone.symm.trans unfinished) (by simp)
  · exact tidy.uncalled

/-- The listener is there when the call ends. -/
theorem keepChannel
    {caller : ConnectCaller}
    {connection : Nat}
    (tidy : state.Tidy)
    (only : state.calls = [⟨caller, .creatingChannel connection⟩])
    (live : state.live connection = true) :
    (state.keepChannel 0 connection).Tidy := by
  have holds := tidy.latest connection live
  have unfinished := tidy.not_done_of_live live
  have unlistened : state.closeListeners connection = 0 := by
    have listened := tidy.listened connection live
    rw [only, List.length_singleton] at listened
    omega
  have sameLive :
      ∀ other,
        (state.keepChannel 0 connection).live other = state.live other :=
    fun other => live_handleDisconnect
  have listeners :
      (state.keepChannel 0 connection).closeListeners connection ≤
        state.closeListeners connection + 1 :=
    closeListeners_handleDisconnect_le
  have noCalls : (state.keepChannel 0 connection).calls = [] := by
    simp [AmqpManagement.keepChannel, AmqpManagement.finish,
      handleDisconnect, holds, only]
  constructor
  · simp [noCalls]
  · intro other otherLive
    rw [sameLive] at otherLive
    obtain rfl := tidy.live_unique live otherLive
    simp [AmqpManagement.keepChannel, AmqpManagement.finish,
      handleDisconnect, holds]
  · simp [noCalls]
  · intro other otherLive
    rw [sameLive] at otherLive
    obtain rfl := tidy.live_unique live otherLive
    rw [noCalls, List.length_nil]
    omega
  · simp [AmqpManagement.keepChannel, AmqpManagement.finish,
      handleDisconnect, holds, unfinished]
  · simpa [AmqpManagement.keepChannel, AmqpManagement.finish,
      handleDisconnect, holds] using tidy.uncalled

/-- A closed connection leaves nothing that is live. -/
theorem close
    {connection : Nat}
    (tidy : state.Tidy)
    (live : state.live connection = true) :
    (state.close connection).Tidy :=
  of_dead (tidy.length_close live) (tidy.live_close live)
    (tidy.not_done_of_live live)
    (fun running => (tidy.uncalled running).2)

/-- `onModuleDestroy` is called. -/
theorem call
    (tidy : state.Tidy)
    (closing : Option Nat) :
    ({ state with destroyed := true, closing := closing }).Tidy where
  alone := tidy.alone
  latest := tidy.latest
  creating := tidy.creating
  listened := tidy.listened
  done := tidy.done
  uncalled running := by cases running

/-- `onModuleDestroy` is done where nothing is live and nobody connects. -/
theorem complete
    (tidy : state.Tidy)
    (dead : ∀ connection, state.live connection = false)
    (called : state.destroyed = true)
    (idle : ∀ call ∈ state.calls, ¬ call.Reconnects) :
    state.complete.Tidy where
  alone := tidy.alone
  latest := tidy.latest
  creating := tidy.creating
  listened := tidy.listened
  done := by
    rintro count isDone
    exact ⟨Option.some.inj isDone, dead, idle⟩
  uncalled running := by
    rw [show state.destroyed = false from running] at called
    cases called

/-- Every event that is no hazard keeps it so. -/
theorem step
    {event : ManagementEvent}
    (tidy : state.Tidy)
    (harmless : ¬ state.Hazard event)
    (stepped : state.step event = some next) :
    next.Tidy := by
  cases step_cases stepped with
  | @connected call caller waits =>
      obtain ⟨only, rfl⟩ := tidy.calls_eq waits
      refine tidy.handleNewConnection only ?_ ?_
      · exact tidy.not_live (List.mem_of_getElem? waits) (by simp)
      · cases caller <;> trivial
  | @connectFailed call caller waits =>
      obtain ⟨only, rfl⟩ := tidy.calls_eq waits
      cases caller with
      | onModuleInit => exact tidy.finish only
      | handleDisconnect =>
          refine tidy.proceed only ?_ trivial
          exact tidy.not_live (List.mem_of_getElem? waits) (by simp)
  | channelCreated waits live =>
      obtain ⟨only, rfl⟩ := tidy.calls_eq waits
      exact tidy.keepChannel only live
  | @channelFailed call connection caller waits =>
      obtain ⟨only, rfl⟩ := tidy.calls_eq waits
      cases caller with
      | onModuleInit => exact tidy.finish only
      | handleDisconnect =>
          refine tidy.proceed only ?_ trivial
          intro other
          cases live : state.live other with
          | false => rfl
          | true =>
              have stage :=
                tidy.creating _ (List.mem_of_getElem? waits) other live
              obtain rfl := ConnectStage.creatingChannel.inj stage
              exact (harmless ⟨_, waits, live⟩).elim
  | @delayed call caller waits =>
      obtain ⟨only, rfl⟩ := tidy.calls_eq waits
      refine tidy.proceed only ?_ ?_
      · exact tidy.not_live (List.mem_of_getElem? waits) (by simp)
      · cases caller <;> trivial
  | brokerClose live => exact tidy.close live
  | refusedToClose running closed =>
      have dead := tidy.dead_of_closed closed
      refine (tidy.call state.closing).complete dead rfl ?_
      intro call goesOn reconnects
      exact harmless ⟨closed, call, goesOn, reconnects⟩
  | @closes held running holds live => exact tidy.call (some held)
  | @closed connection closing live =>
      have called : state.destroyed = true := by
        by_contra uncalled
        have running := Bool.eq_false_iff.mpr uncalled
        rw [(tidy.uncalled running).2] at closing
        cases closing
      obtain ⟨idle, unlistened⟩ := not_or.mp harmless
      refine (tidy.close live).complete (tidy.live_close live) called ?_
      intro call goesOn reconnects
      rcases List.mem_append.mp goesOn with before | started
      · exact idle ⟨call, before, reconnects⟩
      · have some := (List.mem_replicate.mp started).1
        exact unlistened ⟨connection, closing, some⟩

/-- Such a state is as the service should be. -/
theorem kept (tidy : state.Tidy) : state.Kept where
  one _ _ := tidy.live_unique
  done count isDone := (tidy.done count isDone).1

end Tidy

/-! ## After a hazard -/

/-- Another connection can be opened without a further hazard. -/
def OpensAnother (state : AmqpManagement) : Prop :=
  ∃ later final,
    EventRun.run? step state later = some final ∧ Careful state later ∧
      final.completed = state.completed ∧
      final.connections.length = state.connections.length + 1 ∧
      ∀ connection,
        final.live connection = true ↔
          state.live connection = true ∨
            connection = state.connections.length

/-- It can be opened later, too. -/
theorem OpensAnother.after
    {event : ManagementEvent}
    (opens : next.OpensAnother)
    (stepped : state.step event = some next)
    (harmless : ¬ state.Hazard event)
    (sameConnections : next.connections = state.connections)
    (sameCompleted : next.completed = state.completed) :
    state.OpensAnother := by
  obtain ⟨later, final, ran, careful, completed, length, live⟩ := opens
  have sameLive :
      ∀ connection, next.live connection = state.live connection := by
    intro connection
    simp only [AmqpManagement.live, sameConnections]
  simp only [sameLive, sameConnections] at length live
  refine
    ⟨event :: later, final, EventRun.run?_cons.mpr ⟨next, stepped, ran⟩,
      ⟨harmless, ?_⟩, completed.trans sameCompleted, length, live⟩
  intro other otherStepped
  obtain rfl := Option.some.inj (stepped.symm.trans otherStepped)
  exact careful

/-- Whoever waits for amqplib opens a connection. -/
theorem opensAnother_of_connecting
    {caller : ConnectCaller}
    (waits : state.calls[0]? = some ⟨caller, .connecting⟩) :
    state.OpensAnother := by
  have stepped :
      state.step (.connected 0) = some (state.handleNewConnection 0) := by
    simp [step, waits]
  refine
    ⟨[.connected 0], _, EventRun.run?_cons.mpr ⟨_, stepped, rfl⟩,
      ⟨id, fun _ _ => trivial⟩, rfl, ?_, ?_⟩
  · simp [handleNewConnection]
  · simp [live_handleNewConnection]

/-- A call that goes on is still there. -/
theorem waits_proceed
    {call : Nat}
    {caller : ConnectCaller}
    {before stage : ConnectStage}
    (waits : state.calls[call]? = some ⟨caller, before⟩) :
    (state.proceed call stage).calls[call]? = some ⟨caller, stage⟩ := by
  simp [proceed, waits]

/-- Whoever waits for three seconds opens a connection after that. -/
theorem opensAnother_of_delaying
    {caller : ConnectCaller}
    (waits : state.calls[0]? = some ⟨caller, .delaying⟩) :
    state.OpensAnother := by
  have stepped :
      state.step (.delayed 0) = some (state.proceed 0 .connecting) := by
    simp [step, waits]
  refine OpensAnother.after ?_ stepped id rfl rfl
  exact opensAnother_of_connecting (waits_proceed waits)

/-- Whoever reconnects opens a connection in the end. -/
theorem opensAnother_of_reconnects
    {call : ConnectCall}
    (waits : state.calls[0]? = some call)
    (reconnects : call.Reconnects)
    (dead : ∀ connection, state.live connection = false) :
    state.OpensAnother := by
  obtain ⟨caller, stage⟩ := call
  cases stage with
  | connecting => exact opensAnother_of_connecting waits
  | delaying => exact opensAnother_of_delaying waits
  | creatingChannel connection =>
      cases caller with
      | onModuleInit => exact reconnects.elim
      | handleDisconnect =>
          have stepped :
              state.step (.channelFailed 0) =
                some (state.proceed 0 .delaying) := by
            simp [step, waits, fail]
          have harmless : ¬ state.Hazard (.channelFailed 0) := by
            rintro ⟨other, -, live⟩
            rw [dead other] at live
            cases live
          refine OpensAnother.after ?_ stepped harmless rfl rfl
          exact opensAnother_of_delaying (waits_proceed waits)

/-- Where `onModuleDestroy` is done, another connection is one too many. -/
theorem OpensAnother.breaks_of_done
    (opens : state.OpensAnother)
    (done : state.completed = some state.connections.length) :
    ∃ later final,
      EventRun.run? step state later = some final ∧ Careful state later ∧
        ¬ final.Kept := by
  obtain ⟨later, final, ran, careful, completed, length, -⟩ := opens
  refine ⟨later, final, ran, careful, ?_⟩
  intro kept
  have same := kept.done _ (completed.trans done)
  omega

/-- Beside a live connection, another is one too many. -/
theorem OpensAnother.breaks_of_live
    {connection : Nat}
    (opens : state.OpensAnother)
    (live : state.live connection = true) :
    ∃ later final,
      EventRun.run? step state later = some final ∧ Careful state later ∧
        ¬ final.Kept := by
  obtain ⟨later, final, ran, careful, -, -, finalLive⟩ := opens
  refine ⟨later, final, ran, careful, ?_⟩
  intro kept
  have same :=
    kept.one connection state.connections.length
      ((finalLive _).mpr (.inl live)) ((finalLive _).mpr (.inr rfl))
  exact absurd same (Nat.ne_of_lt (lt_of_live live))

/-- A single call is the first. -/
theorem waits_of_mem
    {call : ConnectCall}
    (alone : state.calls.length ≤ 1)
    (goesOn : call ∈ state.calls) :
    state.calls[0]? = some call := by
  obtain ⟨index, below, isCall⟩ := List.mem_iff_getElem.mp goesOn
  have zero : index = 0 := by omega
  subst zero
  rw [List.getElem?_eq_getElem below, isCall]

/-- `onModuleDestroy` must not be done while somebody reconnects. -/
theorem Tidy.breaks_of_complete
    {call : ConnectCall}
    (tidy : state.Tidy)
    (dead : ∀ connection, state.live connection = false)
    (goesOn : call ∈ state.calls)
    (reconnects : call.Reconnects) :
    ∃ later final,
      EventRun.run? AmqpManagement.step state.complete later = some final ∧
        Careful state.complete later ∧ ¬ final.Kept := by
  have waits : state.complete.calls[0]? = some call :=
    waits_of_mem tidy.alone goesOn
  exact
    (opensAnother_of_reconnects waits reconnects dead).breaks_of_done rfl

/-- After a hazard, it can go wrong without another one. -/
theorem Tidy.breaks_of_hazard
    {event : ManagementEvent}
    (tidy : state.Tidy)
    (hazard : state.Hazard event)
    (stepped : state.step event = some next) :
    ∃ later final,
      EventRun.run? AmqpManagement.step next later = some final ∧
        Careful next later ∧ ¬ final.Kept := by
  cases step_cases stepped with
  | connected waits => exact hazard.elim
  | connectFailed waits => exact hazard.elim
  | channelCreated waits live => exact hazard.elim
  | delayed waits => exact hazard.elim
  | brokerClose live => exact hazard.elim
  | closes running holds live =>
      obtain ⟨closed, -⟩ := hazard
      exact absurd (live.symm.trans (closed _ holds)) (by decide)
  | @channelFailed call connection caller waits =>
      obtain ⟨other, otherWaits, live⟩ := hazard
      obtain ⟨only, rfl⟩ := tidy.calls_eq waits
      have sameCall := Option.some.inj (waits.symm.trans otherWaits)
      obtain ⟨rfl, -⟩ := ConnectCall.mk.inj sameCall
      exact
        (opensAnother_of_delaying (waits_proceed waits)).breaks_of_live live
  | refusedToClose running closed =>
      obtain ⟨-, call, goesOn, reconnects⟩ := hazard
      have dead := tidy.dead_of_closed closed
      exact
        (tidy.call state.closing).breaks_of_complete dead goesOn reconnects
  | @closed connection closing live =>
      have dead := tidy.live_close live
      rcases hazard with
        ⟨call, goesOn, reconnects⟩ | ⟨other, isOther, listened⟩
      · exact
          (tidy.close live).breaks_of_complete dead
            (List.mem_append_left _ goesOn) reconnects
      · obtain rfl := Option.some.inj (closing.symm.trans isOther)
        have started :
            ⟨.handleDisconnect, .connecting⟩ ∈
              (state.close connection).calls :=
          List.mem_append_right _ (List.mem_replicate.mpr ⟨listened, rfl⟩)
        exact (tidy.close live).breaks_of_complete dead started trivial

/-! ## Every run -/

/-- A run without hazards stays as the service should be. -/
theorem tidy_run
    {events : List ManagementEvent}
    (ran : EventRun.run? step state events = some next)
    (careful : Careful state events)
    (tidy : state.Tidy) :
    next.Tidy :=
  EventRun.keeps_of_avoids Tidy.step ran careful tidy

/--
In a run without hazards at most one connection is live, and none is opened
after `onModuleDestroy` is done; and a further event is no hazard exactly if
that stays so, whatever else happens that is no hazard.
-/
theorem kept_iff_careful
    {events : List ManagementEvent}
    (ran : EventRun.run? step start events = some state)
    (careful : Careful start events) :
    state.Kept ∧
      ∀ event next,
        state.step event = some next →
          (¬ state.Hazard event ↔
            ∀ later final,
              EventRun.run? step next later = some final →
                Careful next later →
                final.Kept) := by
  have tidy := tidy_run ran careful start_tidy
  refine ⟨tidy.kept, ?_⟩
  intro event next stepped
  constructor
  · intro harmless later final ranLater carefulLater
    exact
      (tidy_run ranLater carefulLater (tidy.step harmless stepped)).kept
  · intro kept hazard
    obtain ⟨later, final, ranLater, carefulLater, broken⟩ :=
      tidy.breaks_of_hazard hazard stepped
    exact broken (kept later final ranLater carefulLater)

/-- The service connects, and the broker closes the connection. -/
def brokenOff : List ManagementEvent :=
  [.connected 0, .channelCreated 0, .brokerClose 0]

/-- The service is as it should be when it is about to connect again. -/
theorem kept_iff_careful_brokenOff :
    ∃ state,
      EventRun.run? step start brokenOff = some state ∧ state.Kept := by
  have careful : Careful start brokenOff := by
    simp [brokenOff, EventRun.Avoids, Hazard]
  refine ⟨_, rfl, ?_⟩
  have ran : EventRun.run? step start brokenOff = some _ := rfl
  exact (kept_iff_careful ran careful).1

/--
The close of `onModuleDestroy` is answered with another connection; and after a
channel of a reconnect was not created, two connections are live.
-/
theorem reconnects_after_destroy :
    (∃ state,
      EventRun.run? step start
          [.connected 0, .channelCreated 0, .onModuleDestroy, .closed,
            .connected 0] =
        some state ∧
      ¬ state.Kept) ∧
      ∃ state,
        EventRun.run? step start
            [.connected 0, .channelCreated 0, .brokerClose 0, .connected 0,
              .channelFailed 0, .delayed 0, .connected 0] =
          some state ∧
        ¬ state.Kept := by
  constructor
  · refine ⟨_, rfl, ?_⟩
    intro kept
    exact absurd (kept.done 1 rfl) (by decide)
  · refine ⟨_, rfl, ?_⟩
    intro kept
    exact absurd (kept.one 1 2 rfl rfl) (by decide)

end AmqpManagement

end NestBackend
