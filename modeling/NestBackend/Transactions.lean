import Mathlib.Data.List.Basic

namespace NestBackend

/-!
# Transactions on one connection

A connection works on a session while a transaction is open; a transaction
inside another one is a savepoint, so the open sessions form a stack.  What a
session does with the statements it is sent is left open, also what it does with
one that fails.
-/

/-- How a session starts from the stored data, and what it commits. -/
structure SessionKind (Db Session : Type) where
  start : Db → Session
  publish : Session → Db

/--
The stored data, the open sessions with the innermost first, and how many
transactions and savepoints have been begun.
-/
structure Connection (Db Session : Type) where
  committed : Db
  sessions : List Session
  begun : Nat

/-- What runs on a connection and fails or returns. -/
abbrev ConnectionAction (Db Session Failure Result : Type) :=
  Connection Db Session →
    Except Failure Result × Connection Db Session

namespace Connection

variable
  {Db Session Failure Result : Type}
  (kind : SessionKind Db Session)

/-- Begin a transaction, or set a savepoint inside the one that is open. -/
def start (connection : Connection Db Session) : Connection Db Session :=
  { connection with
    sessions :=
      (connection.sessions.head?.getD (kind.start connection.committed)) ::
        connection.sessions
    begun := connection.begun + 1 }

/-- Commit the transaction, or release the savepoint. -/
def commit (connection : Connection Db Session) : Connection Db Session :=
  match connection.sessions with
  | [] => connection
  | [session] =>
      { connection with
        committed := kind.publish session
        sessions := [] }
  | inner :: _ :: rest => { connection with sessions := inner :: rest }

/-- Roll back the transaction, or to the savepoint. -/
def rollback (connection : Connection Db Session) : Connection Db Session :=
  { connection with sessions := connection.sessions.tail }

/-- Run between begin and commit, and roll back if it fails. -/
def transaction
    (action : ConnectionAction Db Session Failure Result) :
    ConnectionAction Db Session Failure Result := fun connection =>
  match action (connection.start kind) with
  | (.ok result, after) => (.ok result, after.commit kind)
  | (.error failure, after) => (.error failure, after.rollback)

/-- Send a statement; outside a transaction it is committed by itself. -/
def statement
    (effect : Session → Except Failure Result × Session) :
    ConnectionAction Db Session Failure Result := fun connection =>
  match connection.sessions with
  | [] =>
      ((effect (kind.start connection.committed)).1,
        { connection with
          committed :=
            kind.publish (effect (kind.start connection.committed)).2 })
  | session :: rest =>
      ((effect session).1,
        { connection with sessions := (effect session).2 :: rest })

/-- The innermost session, when there is one, after something was done to it. -/
def inSession
    (connection : Connection Db Session)
    (session : Session) : Connection Db Session :=
  { connection with sessions := session :: connection.sessions.tail }

/-- The action only works on the innermost session, in this way. -/
def WorksInSession
    (action : ConnectionAction Db Session Failure Result)
    (effect : Session → Except Failure Result × Session) : Prop :=
  ∀ {connection : Connection Db Session} {session : Session}
    {rest : List Session},
    connection.sessions = session :: rest →
      action connection =
        ((effect session).1, connection.inSession (effect session).2)

/-- What is stored after a transaction: what its session commits, or as before. -/
def settle
    (committed : Db)
    (outcome : Except Failure Result)
    (session : Session) : Db :=
  match outcome with
  | .ok _ => kind.publish session
  | .error _ => committed

/-- A statement works in the session. -/
theorem worksInSession_statement
    (effect : Session → Except Failure Result × Session) :
    WorksInSession (statement kind effect) effect := by
  intro connection session rest sessions
  simp only [statement, inSession, sessions, List.tail_cons]

/--
A transaction around what works in the session: the data is what the session
commits, or what it was, and one transaction was begun.
-/
theorem transaction_outermost
    {action : ConnectionAction Db Session Failure Result}
    {effect : Session → Except Failure Result × Session}
    (works : WorksInSession action effect)
    {connection : Connection Db Session}
    (outermost : connection.sessions = []) :
    transaction kind action connection =
      ((effect (kind.start connection.committed)).1,
        { committed :=
            settle kind connection.committed
              (effect (kind.start connection.committed)).1
              (effect (kind.start connection.committed)).2
          sessions := []
          begun := connection.begun + 1 }) := by
  have started :
      (connection.start kind).sessions =
        [kind.start connection.committed] := by
    simp [start, outermost]
  unfold transaction
  rw [works started]
  cases outcome : (effect (kind.start connection.committed)).1 with
  | ok result => simp [commit, inSession, start, outermost, settle]
  | error failure => simp [rollback, inSession, start, outermost, settle]

end Connection

end NestBackend
