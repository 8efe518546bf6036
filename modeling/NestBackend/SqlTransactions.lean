import NestBackend.Transactions

namespace NestBackend

/-!
# Repository writes in one transaction

`AbstractSQLService.mergeTransaction` and the four writing functions of
`CommonAbstractSQLService`.  A write that is made inside another one's callback
joins its transaction, at whatever depth.
-/

/-- What the services ask of the database, with the text of an identifier. -/
structure SqlDriver
    (Db Session Entity Condition Change Id Failure : Type) extends
    SessionKind Db Session where
  save : Entity → Session → Except Failure Id × Session
  update :
    Condition → Change → Session → Except Failure (Option Nat) × Session
  upsert :
    Entity → List String → Session → Except Failure (List Id) × Session
  softDelete :
    Condition → Session → Except Failure (Option Nat) × Session
  idText : Id → String
  typeError : Failure

/-- The root manager, or the one that a transaction hands to its callback. -/
inductive EntityManager where
  | root
  | ofQueryRunner
  deriving DecidableEq, Repr

/-- What the writing functions return, and what else a callback may return. -/
inductive SqlResult (Id Value : Type) where
  | inserted (id : Id)
  | upserted (id : String)
  | affected (count : Nat)
  | returned (value : Value)

/-- A call of a writing function. -/
inductive SqlWrite (Entity Condition Change : Type) where
  | sqlInsert (dataCreate : Entity)
  | sqlUpdate (condition : Condition) (dataUpdate : Change)
  | sqlUpsert (dataCreate : Entity) (conflictOptions : List String)
  | sqlSoftDelete (condition : Condition)

section Services

variable
  {Db Session Entity Condition Change Id Value Failure Result Reply : Type}

namespace EntityManager

/-- `manager.queryRunner?.isTransactionActive`. -/
def isTransactionActive
    (manager : EntityManager)
    (connection : Connection Db Session) : Bool :=
  match manager with
  | .root => false
  | .ofQueryRunner => !connection.sessions.isEmpty

/--
`manager.transaction`.  The root manager takes a connection of its own, so that
a transaction that is open elsewhere stays as it is.
-/
def transaction
    (manager : EntityManager)
    (kind : SessionKind Db Session)
    (runInTransaction :
      EntityManager → ConnectionAction Db Session Failure Result) :
    ConnectionAction Db Session Failure Result := fun connection =>
  match manager with
  | .root =>
      let settled :=
        Connection.transaction kind (runInTransaction .ofQueryRunner)
          { connection with sessions := [] }
      (settled.1, { settled.2 with sessions := connection.sessions })
  | .ofQueryRunner =>
      Connection.transaction kind (runInTransaction .ofQueryRunner)
        connection

/-- A statement of a repository of the manager. -/
def statement
    (manager : EntityManager)
    (kind : SessionKind Db Session)
    (effect : Session → Except Failure Result × Session) :
    ConnectionAction Db Session Failure Result := fun connection =>
  match manager with
  | .root =>
      let settled :=
        Connection.statement kind effect { connection with sessions := [] }
      (settled.1, { settled.2 with sessions := connection.sessions })
  | .ofQueryRunner => Connection.statement kind effect connection

end EntityManager

/-- `mergeTransaction`. -/
def AbstractSQLService.mergeTransaction
    (kind : SessionKind Db Session)
    (manager : EntityManager)
    (runInTransaction :
      EntityManager → ConnectionAction Db Session Failure Result) :
    ConnectionAction Db Session Failure Result := fun connection =>
  if manager.isTransactionActive connection then
    runInTransaction manager connection
  else
    manager.transaction kind runInTransaction connection

/-- In an open transaction the callback runs in it. -/
theorem AbstractSQLService.mergeTransaction_active
    (kind : SessionKind Db Session)
    {runInTransaction :
      EntityManager → ConnectionAction Db Session Failure Result}
    {connection : Connection Db Session}
    {session : Session}
    {rest : List Session}
    (sessions : connection.sessions = session :: rest) :
    mergeTransaction kind .ofQueryRunner runInTransaction connection =
      runInTransaction .ofQueryRunner connection := by
  have active :
      EntityManager.ofQueryRunner.isTransactionActive connection = true := by
    simp [EntityManager.isTransactionActive, sessions]
  rw [mergeTransaction, if_pos active]

/-- From the root manager it runs in a transaction of its own. -/
theorem AbstractSQLService.mergeTransaction_root
    (kind : SessionKind Db Session)
    {runInTransaction :
      EntityManager → ConnectionAction Db Session Failure Result}
    {effect : Session → Except Failure Result × Session}
    (works :
      Connection.WorksInSession (runInTransaction .ofQueryRunner) effect)
    (connection : Connection Db Session) :
    mergeTransaction kind .root runInTransaction connection =
      ((effect (kind.start connection.committed)).1,
        { committed :=
            Connection.settle kind connection.committed
              (effect (kind.start connection.committed)).1
              (effect (kind.start connection.committed)).2
          sessions := connection.sessions
          begun := connection.begun + 1 }) := by
  have fresh :
      ({ connection with sessions := [] } :
          Connection Db Session).sessions =
        [] :=
    rfl
  have settled := Connection.transaction_outermost kind works fresh
  simp only [mergeTransaction, EntityManager.isTransactionActive,
    Bool.false_eq_true, ↓reduceIte, EntityManager.transaction, settled]

namespace CommonAbstractSQLService

/-- One statement, and what is made of its reply. -/
def replying
    (effect : Session → Except Failure Reply × Session)
    (onReply : Reply → Except Failure Result)
    (session : Session) : Except Failure Result × Session :=
  ((effect session).1.bind onReply, (effect session).2)

/-- The shape of the four functions: one statement in a merged transaction. -/
def mergedStatement
    (kind : SessionKind Db Session)
    (rootManager : EntityManager)
    (effect : Session → Except Failure Reply × Session)
    (onReply : Reply → Except Failure Result) :
    ConnectionAction Db Session Failure Result :=
  AbstractSQLService.mergeTransaction kind rootManager fun manager =>
    manager.statement kind (replying effect onReply)

variable
  (driver : SqlDriver Db Session Entity Condition Change Id Failure)
  (rootManager : EntityManager)

/-- The identifier of a saved entity. -/
def savedId (id : Id) : Except Failure (SqlResult Id Value) :=
  .ok (.inserted id)

/-- `updateResult.affected ?? 0`. -/
def affectedOrZero
    (affected : Option Nat) : Except Failure (SqlResult Id Value) :=
  .ok (.affected (affected.getD 0))

/-- `String(insertResult.identifiers[0].id)`. -/
def firstIdentifier
    (identifiers : List Id) : Except Failure (SqlResult Id Value) :=
  match identifiers.head? with
  | some id => .ok (.upserted (driver.idText id))
  | none => .error driver.typeError

/-- `sqlInsert`. -/
def sqlInsert
    (dataCreate : Entity) :
    ConnectionAction Db Session Failure (SqlResult Id Value) :=
  mergedStatement driver.toSessionKind rootManager (driver.save dataCreate)
    savedId

/-- `sqlUpdate`. -/
def sqlUpdate
    (condition : Condition)
    (dataUpdate : Change) :
    ConnectionAction Db Session Failure (SqlResult Id Value) :=
  mergedStatement driver.toSessionKind rootManager
    (driver.update condition dataUpdate) affectedOrZero

/-- `sqlUpsert`. -/
def sqlUpsert
    (dataCreate : Entity)
    (conflictOptions : List String) :
    ConnectionAction Db Session Failure (SqlResult Id Value) :=
  mergedStatement driver.toSessionKind rootManager
    (driver.upsert dataCreate conflictOptions) (firstIdentifier driver)

/-- `sqlSoftDelete`. -/
def sqlSoftDelete
    (condition : Condition) :
    ConnectionAction Db Session Failure (SqlResult Id Value) :=
  mergedStatement driver.toSessionKind rootManager
    (driver.softDelete condition) affectedOrZero

/-- Make a call. -/
def write :
    SqlWrite Entity Condition Change →
      ConnectionAction Db Session Failure (SqlResult Id Value)
  | .sqlInsert dataCreate => sqlInsert driver rootManager dataCreate
  | .sqlUpdate condition dataUpdate =>
      sqlUpdate driver rootManager condition dataUpdate
  | .sqlUpsert dataCreate conflictOptions =>
      sqlUpsert driver rootManager dataCreate conflictOptions
  | .sqlSoftDelete condition => sqlSoftDelete driver rootManager condition

/-- The session after the statement of a call. -/
def sessionAfter :
    SqlWrite Entity Condition Change → Session → Session
  | .sqlInsert dataCreate, session => (driver.save dataCreate session).2
  | .sqlUpdate condition dataUpdate, session =>
      (driver.update condition dataUpdate session).2
  | .sqlUpsert dataCreate conflictOptions, session =>
      (driver.upsert dataCreate conflictOptions session).2
  | .sqlSoftDelete condition, session =>
      (driver.softDelete condition session).2

/-- What a call does to the session it runs in, and its outcome. -/
def effect :
    SqlWrite Entity Condition Change →
      Session → Except Failure (SqlResult Id Value) × Session
  | .sqlInsert dataCreate => replying (driver.save dataCreate) savedId
  | .sqlUpdate condition dataUpdate =>
      replying (driver.update condition dataUpdate) affectedOrZero
  | .sqlUpsert dataCreate conflictOptions =>
      replying (driver.upsert dataCreate conflictOptions)
        (firstIdentifier driver)
  | .sqlSoftDelete condition =>
      replying (driver.softDelete condition) affectedOrZero

/-- The session after some writes, one after the other. -/
def afterWrites :
    Session → List (SqlWrite Entity Condition Change) → Session
  | session, [] => session
  | session, call :: rest => afterWrites (sessionAfter driver call session) rest

variable {driver rootManager}

/-- What the call does to the session is what its statement does. -/
theorem effect_session
    (call : SqlWrite Entity Condition Change)
    (session : Session) :
    (effect driver call session :
          Except Failure (SqlResult Id Value) × Session).2 =
      sessionAfter driver call session := by
  cases call with
  | sqlInsert dataCreate => rfl
  | sqlUpdate condition dataUpdate => rfl
  | sqlUpsert dataCreate conflictOptions => rfl
  | sqlSoftDelete condition => rfl

/-- Writes in two parts. -/
theorem afterWrites_append
    (session : Session)
    (first later : List (SqlWrite Entity Condition Change)) :
    afterWrites driver session (first ++ later) =
      afterWrites driver (afterWrites driver session first) later := by
  induction first generalizing session with
  | nil => rfl
  | cons call rest inductionHypothesis => exact inductionHypothesis _

/-- Every call is one statement in a merged transaction. -/
theorem write_eq
    (call : SqlWrite Entity Condition Change) :
    (write driver rootManager call :
        ConnectionAction Db Session Failure (SqlResult Id Value)) =
      AbstractSQLService.mergeTransaction driver.toSessionKind rootManager
        fun manager =>
          manager.statement driver.toSessionKind (effect driver call) := by
  cases call with
  | sqlInsert dataCreate => rfl
  | sqlUpdate condition dataUpdate => rfl
  | sqlUpsert dataCreate conflictOptions => rfl
  | sqlSoftDelete condition => rfl

end CommonAbstractSQLService

/-! ## Trees of calls -/

/--
What a callback does with the manager it was handed: a call, or a merged
transaction of its own, and then what it makes of the outcome.  It may pass a
failure on or do something about it.
-/
inductive SqlCallback
    (Entity Condition Change Id Value Failure : Type) where
  | done (outcome : Except Failure (SqlResult Id Value))
  | write
      (call : SqlWrite Entity Condition Change)
      (next : Except Failure (SqlResult Id Value) →
        SqlCallback Entity Condition Change Id Value Failure)
  | mergeTransaction
      (callback : SqlCallback Entity Condition Change Id Value Failure)
      (next : Except Failure (SqlResult Id Value) →
        SqlCallback Entity Condition Change Id Value Failure)

/-- The outermost call. -/
inductive SqlTree
    (Entity Condition Change Id Value Failure : Type) where
  | write (call : SqlWrite Entity Condition Change)
  | mergeTransaction
      (callback : SqlCallback Entity Condition Change Id Value Failure)

section Trees

open CommonAbstractSQLService

variable
  (driver : SqlDriver Db Session Entity Condition Change Id Failure)

namespace SqlCallback

/-- Run a callback with the manager it was handed. -/
def run :
    SqlCallback Entity Condition Change Id Value Failure →
      EntityManager →
        ConnectionAction Db Session Failure (SqlResult Id Value)
  | .done outcome, _, connection => (outcome, connection)
  | .write call next, manager, connection =>
      let settled :=
        CommonAbstractSQLService.write driver manager call connection
      (next settled.1).run manager settled.2
  | .mergeTransaction callback next, manager, connection =>
      let settled :=
        AbstractSQLService.mergeTransaction driver.toSessionKind manager
          (fun inner => callback.run inner) connection
      (next settled.1).run manager settled.2

/--
What a callback comes to and the writes it makes, one after the other, when
nothing but the writes touches the session: the transactions left out.
-/
def perform :
    SqlCallback Entity Condition Change Id Value Failure →
      Session →
        Except Failure (SqlResult Id Value) ×
          List (SqlWrite Entity Condition Change)
  | .done outcome, _ => (outcome, [])
  | .write call next, session =>
      let rest :=
        (next (effect driver call session).1).perform
          (sessionAfter driver call session)
      (rest.1, call :: rest.2)
  | .mergeTransaction callback next, session =>
      let inner := callback.perform session
      let rest :=
        (next inner.1).perform
          (afterWrites driver session inner.2)
      (rest.1, inner.2 ++ rest.2)

/-- A callback works in the session of the transaction it was handed. -/
theorem worksInSession_run
    (callback :
      SqlCallback Entity Condition Change Id Value Failure) :
    Connection.WorksInSession (callback.run driver .ofQueryRunner)
      (fun session =>
        ((callback.perform driver session).1,
          afterWrites driver session
            (callback.perform driver session).2)) := by
  induction callback with
  | done outcome =>
      intro connection session rest sessions
      simp only [run, perform, afterWrites, Connection.inSession, sessions,
        List.tail_cons]
      rw [← sessions]
  | write call next inductionHypothesis =>
      intro connection session rest sessions
      have settled :=
        Connection.worksInSession_statement driver.toSessionKind
          (effect driver call :
            Session → Except Failure (SqlResult Id Value) × Session)
          sessions
      simp only [run, perform, write_eq,
        AbstractSQLService.mergeTransaction_active _ sessions,
        EntityManager.statement, settled]
      rw [inductionHypothesis _ rfl]
      simp only [effect_session, afterWrites, Connection.inSession,
        List.tail_cons]
  | mergeTransaction callback next innerHypothesis nextHypothesis =>
      intro connection session rest sessions
      simp only [run, perform,
        AbstractSQLService.mergeTransaction_active _ sessions,
        innerHypothesis sessions]
      rw [nextHypothesis _ rfl]
      simp only [afterWrites_append, Connection.inSession, List.tail_cons]

end SqlCallback

namespace SqlTree

/-- Make the outermost call with a manager. -/
def run
    (tree : SqlTree Entity Condition Change Id Value Failure)
    (manager : EntityManager) :
    ConnectionAction Db Session Failure (SqlResult Id Value) :=
  match tree with
  | .write call => CommonAbstractSQLService.write driver manager call
  | .mergeTransaction callback =>
      AbstractSQLService.mergeTransaction driver.toSessionKind manager
        (fun inner => callback.run driver inner)

/-- What the tree comes to and the writes it makes, without transactions. -/
def perform
    (tree : SqlTree Entity Condition Change Id Value Failure)
    (session : Session) :
    Except Failure (SqlResult Id Value) ×
      List (SqlWrite Entity Condition Change) :=
  match tree with
  | .write call => ((effect driver call session).1, [call])
  | .mergeTransaction callback => callback.perform driver session

/--
A tree of calls begins one transaction.  If its outermost callback returns, the
transaction is committed with all the writes of the tree in their order; if it
throws, wherever that came from, the database is as it was.
-/
theorem run_root
    (tree : SqlTree Entity Condition Change Id Value Failure)
    (connection : Connection Db Session) :
    tree.run driver .root connection =
      ((tree.perform driver (driver.start connection.committed)).1,
        { committed :=
            Connection.settle driver.toSessionKind connection.committed
              (tree.perform driver (driver.start connection.committed)).1
              (afterWrites driver (driver.start connection.committed)
                (tree.perform driver
                  (driver.start connection.committed)).2)
          sessions := connection.sessions
          begun := connection.begun + 1 }) := by
  cases tree with
  | write call =>
      have works :
          Connection.WorksInSession
            (fun connection =>
              EntityManager.ofQueryRunner.statement driver.toSessionKind
                (effect driver call :
                  Session →
                    Except Failure (SqlResult Id Value) × Session)
                connection)
            (effect driver call) :=
        Connection.worksInSession_statement driver.toSessionKind _
      have sameSession :
          sessionAfter driver call (driver.start connection.committed) =
            (effect driver call (driver.start connection.committed) :
              Except Failure (SqlResult Id Value) × Session).2 :=
        (effect_session call _).symm
      simp only [run, perform, write_eq, afterWrites, sameSession]
      exact
        AbstractSQLService.mergeTransaction_root driver.toSessionKind works
          connection
  | mergeTransaction callback =>
      exact
        AbstractSQLService.mergeTransaction_root driver.toSessionKind
          (callback.worksInSession_run driver) connection

end SqlTree

end Trees

end Services

end NestBackend
