import NestBackend.LoginRevocation
import NestBackend.ProgramErasure

namespace NestBackend

open JavaScript

/-!
# Users do not notice each other

The two entries of a bound identifier belong to the user whose key it begins
with.  Whatever the calls of other users are, and however their commands and
the deletions that they start come in between, a user gets the answers and is
left with the entries that there would be without them.

Logins look for other tokens with a pattern, so this needs keys that stand for
themselves in a pattern and identifiers that do not occur in them.  Digests and
drawn identifiers are such.
-/

/-- The key of the user that a bound identifier belongs to. -/
def userOf (boundId : String) : String :=
  String.ofList (boundId.toList.takeWhile (fun char => char != ':'))

/-- The entry under a Redis key belongs to the user. -/
def OfUser (user key : String) : Prop :=
  ∃ service boundId, key = boundKey service boundId ∧ userOf boundId = user

/-- Whose entries those of a bound identifier are. -/
theorem ofUser_boundKey
    {user boundId : String}
    {service : SessionService} :
    OfUser user (boundKey service boundId) ↔ userOf boundId = user := by
  constructor
  · rintro ⟨other, otherId, same, owned⟩
    have sameService : service = other := by
      cases service <;> cases other
      · rfl
      · exact (SessionService.storageKey_token_ne_session _ _ _ _ same).elim
      · exact
          (SessionService.storageKey_token_ne_session _ _ _ _
            same.symm).elim
      · rfl
    subst sameService
    rw [SessionService.storageKey_injective same]
    exact owned
  · exact fun owned => ⟨service, boundId, rfl, owned⟩

/-- What follows the first colon does not matter. -/
theorem userOf_append (key first second : String) :
    userOf (key ++ ":" ++ first) = userOf (key ++ ":" ++ second) := by
  have colon : ":".toList = [':'] := rfl
  have untilColon :
      ∀ rest : String,
        (key ++ ":" ++ rest).toList.takeWhile (fun char => char != ':') =
          key.toList.takeWhile (fun char => char != ':') := by
    intro rest
    rw [String.toList_append, String.toList_append, colon,
      List.append_assoc, List.takeWhile_append]
    split
    · rename_i noColon
      have whole :
          key.toList.takeWhile (fun char => char != ':') <+: key.toList :=
        List.takeWhile_prefix _
      rw [whole.eq_of_length noColon]
      simp
    · rfl
  unfold userOf
  rw [untilColon, untilColon]

namespace AuthOperation

/-- The bound identifier that a call is about; a check finds its own. -/
def boundId? : AuthOperation → Option String
  | .authenticate drawnId _ payload _ _ _ _ =>
      some (BaseAuthService.ensureId drawnId payload).sessionBoundId
  | .authenticateWithHardSecret drawnId payload _ _ _ =>
      some (BaseAuthService.ensureId drawnId payload).sessionBoundId
  | .renewToken _ _ content _ _ => some content.val.sessionBoundId
  | .logout content => some content.val.sessionBoundId
  | .mutate key _ _ => some key
  | .check _ _ => none

/-- The payload whose other tokens a call looks for. -/
def scanningPayload? : AuthOperation → Option BaseJwtPayload
  | .authenticate drawnId _ payload _ _ _ _ =>
      some (BaseAuthService.ensureId drawnId payload)
  | .renewToken _ _ content _ _ => some content.val
  | _ => none

/-- Its pattern finds tokens of its own key and no others. -/
def Scannable (operation : AuthOperation) : Prop :=
  ∀ payload,
    operation.scanningPayload? = some payload →
      Glob.Plain payload.key.toList ∧
        ∃ id,
          payload.id = some id ∧ ':' ∉ id.toList ∧
            ¬ id.toList <:+: payload.key.toList

/--
The call is about the entries of this user.  A check is about those that the
token it is given names, whoever signed it.
-/
def Concerns
    (env : CoreEnvironment)
    (jwt : JwtService)
    (user : String)
    (operation : AuthOperation) : Prop :=
  match operation with
  | .check params request =>
      ∀ now presented,
        JwtGuard.present? env jwt params request now = some presented →
          OfUser user (presented.storageKey .token)
  | other => ∃ boundId, other.boundId? = some boundId ∧ userOf boundId = user

end AuthOperation

/-! ## What the services read and change -/

section Confined

variable
  {env : CoreEnvironment}
  {jwt : JwtService}
  {reads changes : String → Prop}

theorem SessionService.addSession_confined
    {service : SessionService}
    {type id : String}
    {expireInSeconds : Option Int}
    {value : Properties}
    {ensures : Except Failure Properties → Prop}
    (ensured : ∀ outcome, ensures outcome)
    (changed : changes (service.storageKey type id)) :
    (service.addSession type id expireInSeconds value).ConfinedTo
      reads changes ensures := by
  rw [addSession_eq]
  intro now
  refine ⟨changed, ?_⟩
  intro reply
  match reply with
  | .ok true => exact ensured _
  | .ok false => exact ensured _
  | .error error => exact ensured _

/-- The keys that a scan returns are those that its pattern accepts. -/
theorem SessionService.getKeys_confined
    {service : SessionService}
    {type id : String}
    {ensures : Except Failure (List String) → Prop}
    (scanned :
      ∀ key,
        Glob.accepts (service.storageKey type id) key = true → reads key)
    (listed :
      ∀ keys : List String,
        (∀ key ∈ keys,
          Glob.accepts (service.storageKey type id) key = true) →
        ensures (.ok (keys.map (service.stripKey type))))
    (failed : ∀ failure, ensures (.error failure)) :
    (service.getKeys type id).ConfinedTo reads changes ensures := by
  rw [getKeys_eq]
  refine ⟨scanned, ?_⟩
  intro reply accepted
  match reply with
  | .ok keys => exact listed keys (accepted keys rfl)
  | .error error => exact failed _

theorem AuthSessionService.rewriteSession_confined
    {readType writeType : JwtSession}
    {key : String}
    {change : JsonObject → Except Failure Properties}
    {ensures : Except Failure Properties → Prop}
    (ensured : ∀ outcome, ensures outcome)
    (isRead : reads (SessionService.session.storageKey readType.text key))
    (changed :
      changes (SessionService.session.storageKey writeType.text key)) :
    (rewriteSession readType writeType key change).ConfinedTo
      reads changes ensures := by
  rw [rewriteSession_eq]
  refine ⟨isRead, ?_⟩
  intro reply
  match reply with
  | .error error => exact ensured _
  | .ok none => exact ensured _
  | .ok (some session) =>
      simp only
      cases change session with
      | error failure => exact ensured _
      | ok value =>
          intro now
          exact SessionService.addSession_confined ensured changed

theorem AuthSessionService.Mutator.program_confined
    {mutator : Mutator}
    {key : String}
    {sessionType : JwtSession}
    {ensures : Except Failure Properties → Prop}
    (ensured : ∀ outcome, ensures outcome)
    (isRead :
      reads (SessionService.session.storageKey sessionType.text key))
    (changed :
      changes (SessionService.session.storageKey sessionType.text key)) :
    (mutator.program key sessionType).ConfinedTo reads changes ensures := by
  rcases mutator.program_cases key sessionType with rewrites | refused
  · rw [rewrites]
    exact rewriteSession_confined ensured isRead changed
  · rw [refused]
    exact ensured _

namespace BaseAuthService

variable {drawnId secretGeneration : String} {payload : BaseJwtPayload}

theorem addBoundSession_confined
    {session : Properties}
    {expireTime : Int}
    {sessionLifeTime : Option Int}
    {ensures : Except Failure Properties → Prop}
    (ensured : ∀ outcome, ensures outcome)
    (changed :
      changes
        (SessionService.session.storageKey payload.sessionChannel.text
          payload.sessionBoundId)) :
    (addBoundSession payload session expireTime
      sessionLifeTime).ConfinedTo reads changes ensures := by
  unfold addBoundSession
  split
  · exact ensured _
  · exact SessionService.addSession_confined ensured changed

/--
`createToken` scans for the tokens of its key, starts the deletion of both
entries of those that it finds, and writes a token.
-/
theorem createToken_confined
    {allowMultipleTokens : Bool}
    {expireTime : Int}
    {ensures : Except Failure String → Prop}
    (ensured : ∀ outcome, ensures outcome)
    (scanned :
      ∀ key,
        Glob.accepts
            (SessionService.token.storageKey payload.sessionChannel.text
              (tokenPattern payload)) key =
          true →
        reads key ∧
          ∀ cleared ∈
              clearChain payload.sessionChannel.text
                (SessionService.token.stripKey
                  payload.sessionChannel.text key),
            changes cleared)
    (changed :
      changes
        (SessionService.token.storageKey payload.sessionChannel.text
          payload.sessionBoundId)) :
    (createToken env jwt drawnId secretGeneration payload
      allowMultipleTokens expireTime).ConfinedTo reads changes ensures := by
  unfold createToken
  cases buildTokenPayload payload with
  | error failure => exact ensured _
  | ok content =>
      have stores :
          (storeToken env jwt drawnId secretGeneration payload content
            expireTime).ConfinedTo reads changes ensures := by
        intro instant
        apply StoreProgram.ConfinedTo.bind
        apply SessionService.addSession_confined
        · intro outcome
          cases outcome with
          | ok value => exact ensured _
          | error failure => exact ensured _
        · exact changed
      apply StoreProgram.ConfinedTo.bind
      apply SessionService.getKeys_confined
      · exact fun key accepted => (scanned key accepted).1
      · intro keys accepted
        simp only
        split
        · exact stores
        · refine ⟨?_, stores⟩
          intro chain member cleared inChain
          obtain ⟨boundId, isListed, rfl⟩ := List.mem_map.mp member
          obtain ⟨key, inKeys, rfl⟩ := List.mem_map.mp isListed
          exact (scanned key (accepted key inKeys)).2 cleared inChain
      · exact fun failure => ensured _

/-- `authenticate` does what `createToken` does and writes a session. -/
theorem authenticate_confined
    {session : Properties}
    {expireTime : Int}
    {sessionLifeTime : Option Int}
    {allowMultipleTokens : Bool}
    {ensures : Except Failure String → Prop}
    (ensured : ∀ outcome, ensures outcome)
    (scanned :
      ∀ key,
        Glob.accepts
            (SessionService.token.storageKey payload.sessionChannel.text
              (tokenPattern (ensureId drawnId payload))) key =
          true →
        reads key ∧
          ∀ cleared ∈
              clearChain payload.sessionChannel.text
                (SessionService.token.stripKey
                  payload.sessionChannel.text key),
            changes cleared)
    (changed :
      ∀ service : SessionService,
        changes
          (service.storageKey payload.sessionChannel.text
            (ensureId drawnId payload).sessionBoundId)) :
    (authenticate env jwt drawnId secretGeneration payload session
      expireTime sessionLifeTime allowMultipleTokens).ConfinedTo
      reads changes ensures := by
  unfold authenticate
  apply StoreProgram.ConfinedTo.bind
  apply createToken_confined
  · intro outcome
    cases outcome with
    | error failure => exact ensured _
    | ok token =>
        simp only
        split
        · exact ensured _
        · apply StoreProgram.ConfinedTo.bind
          apply addBoundSession_confined
          · intro later
            cases later with
            | ok value => exact ensured _
            | error failure => exact ensured _
          · simpa using changed .session
  · simpa using scanned
  · simpa using changed .token

/-- `authenticateWithHardSecret` writes two entries. -/
theorem authenticateWithHardSecret_confined
    {session : Properties}
    {expireTime : Int}
    {sessionLifeTime : Option Int}
    {ensures : Except Failure String → Prop}
    (ensured : ∀ outcome, ensures outcome)
    (changed :
      ∀ service : SessionService,
        changes
          (service.storageKey payload.sessionChannel.text
            (ensureId drawnId payload).sessionBoundId)) :
    (authenticateWithHardSecret env jwt drawnId payload session expireTime
      sessionLifeTime).ConfinedTo reads changes ensures := by
  intro now
  simp only
  split
  · exact ensured _
  · apply StoreProgram.ConfinedTo.bind
    apply SessionService.addSession_confined
    · intro outcome
      cases outcome with
      | error failure => exact ensured _
      | ok stored =>
          apply StoreProgram.ConfinedTo.bind
          apply addBoundSession_confined
          · intro later
            cases later with
            | ok value => exact ensured _
            | error failure => exact ensured _
          · simpa using changed .session
    · simpa using changed .token

/-- `renewToken` does what `createToken` does. -/
theorem renewToken_confined
    {allowMultipleTokens : Bool}
    {expireTime : Int}
    {ensures : Except Failure String → Prop}
    (ensured : ∀ outcome, ensures outcome)
    (scanned :
      ∀ key,
        Glob.accepts
            (SessionService.token.storageKey payload.sessionChannel.text
              (tokenPattern payload)) key =
          true →
        reads key ∧
          ∀ cleared ∈
              clearChain payload.sessionChannel.text
                (SessionService.token.stripKey
                  payload.sessionChannel.text key),
            changes cleared)
    (changed :
      changes
        (SessionService.token.storageKey payload.sessionChannel.text
          payload.sessionBoundId)) :
    (renewToken env jwt drawnId secretGeneration payload expireTime
      allowMultipleTokens).ConfinedTo reads changes ensures := by
  unfold renewToken
  split
  · intro now
    simp only
    split
    · exact ensured _
    · exact createToken_confined ensured scanned changed
  · exact ensured _

/-- `logout` deletes two entries. -/
theorem logout_confined
    {ensures : Except Failure Unit → Prop}
    (ensured : ∀ outcome, ensures outcome)
    (changed :
      ∀ service : SessionService,
        changes
          (service.storageKey payload.sessionChannel.text
            payload.sessionBoundId)) :
    (logout payload).ConfinedTo reads changes ensures := by
  rw [logout_eq]
  refine ⟨changed .token, ?_⟩
  intro reply
  match reply with
  | .error error => exact ensured _
  | .ok count =>
      refine ⟨changed .session, ?_⟩
      intro later
      match later with
      | .error error => exact ensured _
      | .ok laterCount => exact ensured _

end BaseAuthService

/-- The guard reads the two entries that the token names. -/
theorem JwtGuard.canActivate_confined
    {params : GuardParams}
    {request : GuardRequest}
    {ensures : Except Failure Admission → Prop}
    (ensured : ∀ outcome, ensures outcome)
    (isRead :
      ∀ now presented,
        present? env jwt params request now = some presented →
          ∀ service, reads (presented.storageKey service)) :
    (canActivate env jwt params request).ConfinedTo
      reads changes ensures := by
  rw [canActivate_eq]
  intro now
  beta_reduce
  cases found : present? env jwt params request now with
  | none => exact ensured _
  | some presented =>
      refine ⟨isRead now presented found .token, ?_⟩
      intro reply
      match reply with
      | .error error => exact ensured _
      | .ok none => exact ensured _
      | .ok (some content) =>
          intro later
          simp only
          split
          · exact ensured _
          · refine ⟨isRead now presented found .session, ?_⟩
            intro sessionReply
            match sessionReply with
            | .error error => exact ensured _
            | .ok none => exact ensured _
            | .ok (some session) =>
                simp only
                split <;> exact ensured _

end Confined

/-! ## What a call has to do with a user -/

/-- What the scan of a login finds belongs to the user that logs in. -/
theorem ofUser_of_scanned
    {payload : BaseJwtPayload}
    {id key : String}
    (plain : Glob.Plain payload.key.toList)
    (sameId : payload.id = some id)
    (noColon : ':' ∉ id.toList)
    (absent : ¬ id.toList <:+: payload.key.toList)
    (accepted :
      Glob.accepts
          (boundKey .token (BaseAuthService.tokenPattern payload)) key =
        true) :
    ∃ other,
      key = boundKey .token other ∧
        userOf other = userOf payload.sessionBoundId := by
  have bound :
      payload.sessionBoundId = payload.key ++ ":" ++ id := by
    simp [BaseJwtPayload.sessionBoundId, sameId]
  have pattern :
      boundKey .token (BaseAuthService.tokenPattern payload) =
        boundKey .token (payload.key ++ ":") ++ "*" := by
    unfold BaseAuthService.tokenPattern
    rw [bound, sameId, Option.getD_some,
      replaceFirst_last noColon absent "*"]
    unfold boundKey
    rw [SessionService.storageKey_eq_append,
      SessionService.storageKey_eq_append _ _ (payload.key ++ ":")]
    simp only [String.append_assoc]
  have stemPlain :
      Glob.Plain (boundKey .token (payload.key ++ ":")).toList := by
    unfold boundKey
    rw [SessionService.storageKey_eq_append, String.toList_append,
      String.toList_append]
    exact Glob.Plain.append (by decide) (plain.append (by decide))
  rw [pattern] at accepted
  obtain ⟨rest, rfl⟩ := (Glob.accepts_plain_star stemPlain key).mp accepted
  refine ⟨payload.key ++ ":" ++ rest, ?_, ?_⟩
  · unfold boundKey
    rw [SessionService.storageKey_eq_append,
      SessionService.storageKey_eq_append _ _ (payload.key ++ ":" ++ rest),
      String.append_assoc]
  · rw [bound]
    exact userOf_append ..

/-- A token that names an entry of the user names both. -/
theorem PresentedToken.ofUser
    {presented : PresentedToken}
    {user : String}
    (owned : OfUser user (presented.storageKey .token))
    (service : SessionService) :
    OfUser user (presented.storageKey service) := by
  obtain ⟨other, boundId, same, isUser⟩ := owned
  cases other with
  | token =>
      exact ⟨service, boundId,
        SessionService.storageKey_transfer same service, isUser⟩
  | session =>
      exact (SessionService.storageKey_token_ne_session _ _ _ _ same).elim

namespace AuthOperation

variable
  {env : CoreEnvironment}
  {jwt : JwtService}
  {operation : AuthOperation}
  {user : String}

/-- What a scan finds and clears is of the user of the payload. -/
theorem scanned_confined
    {reads changes : String → Prop}
    {payload : BaseJwtPayload}
    (scannable : operation.Scannable)
    (scans : operation.scanningPayload? = some payload)
    (bound :
      ∀ service other,
        userOf other = userOf payload.sessionBoundId →
          reads (boundKey service other) ∧ changes (boundKey service other))
    (key : String)
    (accepted :
      Glob.accepts
          (SessionService.token.storageKey payload.sessionChannel.text
            (BaseAuthService.tokenPattern payload)) key =
        true) :
    reads key ∧
      ∀ cleared ∈
          BaseAuthService.clearChain payload.sessionChannel.text
            (SessionService.token.stripKey payload.sessionChannel.text key),
        changes cleared := by
  obtain ⟨plain, id, sameId, noColon, absent⟩ := scannable payload scans
  rw [payload.sessionChannel.eq_token] at accepted ⊢
  obtain ⟨other, rfl, sameUser⟩ :=
    ofUser_of_scanned plain sameId noColon absent accepted
  refine ⟨(bound .token other sameUser).1, ?_⟩
  intro cleared inChain
  unfold boundKey at inChain
  rw [SessionService.stripKey_storageKey] at inChain
  rcases List.mem_cons.mp inChain with rfl | rest
  · exact (bound .token other sameUser).2
  · rw [List.mem_singleton.mp rest]
    exact (bound .session other sameUser).2

/-- A call reads and changes entries of the user it is about. -/
theorem behaviour_confined
    {reads changes : String → Prop}
    (scannable : operation.Scannable)
    (bound :
      ∀ boundId,
        operation.boundId? = some boundId →
          ∀ service other,
            userOf other = userOf boundId →
              reads (boundKey service other) ∧
                changes (boundKey service other))
    (checked :
      ∀ params request,
        operation = .check params request →
          ∀ now presented,
            JwtGuard.present? env jwt params request now =
                some presented →
              ∀ service, reads (presented.storageKey service)) :
    (operation.behaviour env jwt).ConfinedTo reads changes
      (fun _ => True) := by
  cases operation with
  | authenticate drawnId secretGeneration payload session expireTime
      sessionLifeTime allowMultipleTokens =>
      have own := bound _ rfl
      apply StoreProgram.ConfinedTo.bind
      apply BaseAuthService.authenticate_confined
      · intro outcome
        cases outcome <;> trivial
      · have scanned := scanned_confined scannable rfl own
        simpa using scanned
      · intro service
        rw [payload.sessionChannel.eq_token]
        exact (own service _ rfl).2
  | authenticateWithHardSecret drawnId payload session expireTime
      sessionLifeTime =>
      have own := bound _ rfl
      apply StoreProgram.ConfinedTo.bind
      apply BaseAuthService.authenticateWithHardSecret_confined
      · intro outcome
        cases outcome <;> trivial
      · intro service
        rw [payload.sessionChannel.eq_token]
        exact (own service _ rfl).2
  | renewToken drawnId secretGeneration content expireTime
      allowMultipleTokens =>
      have own := bound _ rfl
      apply StoreProgram.ConfinedTo.bind
      apply BaseAuthService.renewToken_confined
      · intro outcome
        cases outcome <;> trivial
      · exact scanned_confined scannable rfl own
      · rw [content.val.sessionChannel.eq_token]
        exact (own .token _ rfl).2
  | logout content =>
      have own := bound _ rfl
      apply StoreProgram.ConfinedTo.bind
      apply BaseAuthService.logout_confined
      · intro outcome
        cases outcome <;> trivial
      · intro service
        rw [content.val.sessionChannel.eq_token]
        exact (own service _ rfl).2
  | mutate key sessionType mutator =>
      have own := bound _ rfl .session key rfl
      obtain rfl := sessionType.eq_token
      apply StoreProgram.ConfinedTo.bind
      apply AuthSessionService.Mutator.program_confined
      · intro outcome
        cases outcome <;> trivial
      · exact own.1
      · exact own.2
  | check params request =>
      apply StoreProgram.ConfinedTo.bind
      apply JwtGuard.canActivate_confined
      · intro outcome
        cases outcome <;> trivial
      · exact checked params request rfl

open Classical in
/-- A call keeps to the entries of the users it is about. -/
theorem behaviour_keepsTo
    (scannable : operation.Scannable) :
    (operation.behaviour env jwt).KeepsTo (OfUser user)
      (decide (operation.Concerns env jwt user)) := by
  by_cases concerns : operation.Concerns env jwt user
  · rw [decide_eq_true concerns]
    refine behaviour_confined scannable ?_ ?_
    · intro boundId named service other sameUser
      have isUser : userOf boundId = user := by
        cases operation with
        | check params request => cases named
        | _ =>
            obtain ⟨own, ownNamed, isUser⟩ := concerns
            rw [← isUser]
            exact congrArg userOf
              (Option.some.inj (named.symm.trans ownNamed))
      have owned : OfUser user (boundKey service other) :=
        ofUser_boundKey.mpr (sameUser.trans isUser)
      exact ⟨owned, owned⟩
    · rintro params request rfl now presented found service
      exact PresentedToken.ofUser (concerns now presented found) service
  · rw [decide_eq_false concerns]
    refine behaviour_confined scannable ?_
      (fun _ _ _ _ _ _ _ => trivial)
    intro boundId named service other sameUser
    refine ⟨trivial, ?_⟩
    rw [ofUser_boundKey, sameUser]
    intro isUser
    cases operation with
    | check params request => cases named
    | _ => exact concerns ⟨boundId, named, isUser⟩

/-- Digests and drawn identifiers are as the scans need them. -/
theorem scannable_of_digest
    (drawn :
      ∀ payload,
        operation.scanningPayload? = some payload →
          IsDigest payload.key ∧
            ∃ id, payload.id = some id ∧ IsUuidV4 id) :
    operation.Scannable := by
  intro payload scans
  obtain ⟨digest, id, sameId, uuid⟩ := drawn payload scans
  exact ⟨digest.plain, id, sameId, uuid.no_colon, uuid.not_infix digest⟩

end AuthOperation

/-! ## Isolation -/

/-- The world with some entries before the first call. -/
def AuthWorld.holding
    (now : Nat)
    (store : ExpiringStore String JsonObject) : AuthWorld where
  now := now
  backend := ⟨store, []⟩
  threads := []

open Classical in
/--
A user is on their own.  The calls that scan have a key without glob characters,
and an identifier that has no colon and does not occur in the key.  For every
schedule of such calls of any users there is one of the calls about this user
alone, the same ones in the same order, in a store that holds nothing but the
entries of this user, in which all of them get as far with the same answers and
which leaves the same entries of this user.
-/
theorem user_isolated
    {env : CoreEnvironment}
    {jwt : JwtService}
    {now : Nat}
    {store : ExpiringStore String JsonObject}
    {actions : List (Action AuthOperation)}
    {after : AuthWorld}
    (user : String)
    (scannable :
      ∀ operation, .invoke operation ∈ actions → operation.Scannable)
    (ran :
      (AuthWorld.holding now store).run? (AuthOperation.behaviour env jwt)
          actions =
        some after) :
    ∃ ownActions ownAfter,
      (AuthWorld.holding now (store.only (OfUser user))).run?
          (AuthOperation.behaviour env jwt) ownActions =
        some ownAfter ∧
        World.calls ownActions =
          (World.calls actions).filter
            (fun operation => operation.Concerns env jwt user) ∧
        ownAfter.now = after.now ∧
        ownAfter.threads =
          after.threads.filter
            (fun thread => thread.operation.Concerns env jwt user) ∧
        ownAfter.backend.store =
          after.backend.store.only (OfUser user) := by
  have mirrors :
      World.Mirrors (OfUser user)
        (fun operation => decide (operation.Concerns env jwt user))
        (AuthWorld.holding now store)
        (AuthWorld.holding now (store.only (OfUser user))) :=
    ⟨rfl, rfl, rfl, rfl⟩
  have parted :
      World.Parted (OfUser user)
        (fun operation => decide (operation.Concerns env jwt user))
        (AuthWorld.holding now store) :=
    ⟨fun _ member => absurd member List.not_mem_nil,
      fun _ member => absurd member List.not_mem_nil⟩
  obtain ⟨ownActions, ownAfter, ownRan, sameCalls, mirrored⟩ :=
    mirrors.run parted
      (fun operation member =>
        AuthOperation.behaviour_keepsTo (scannable operation member))
      ran
  exact ⟨ownActions, ownAfter, ownRan, sameCalls, mirrored.now,
    mirrored.threads, mirrored.store⟩

namespace Sample

/-- The digest of another user's identifier. -/
def bobDigest : String := "gbY32PzSxtpjWeaWMROhFw3nleS3JbhNHgtM/Z7FjOk="

/-- A login of this user. -/
def bobLogin : Login :=
  AuthService.login environment (fun _ => bobDigest)
    "5d0c7a3e-1b2f-4c6d-9e8f-7a6b5c4d3e2f" "random" "bob"

/-- Two users log in at the same time, and one of them had logged in before. -/
def loginsOfTwoUsers : List (Action AuthOperation) :=
  [.invoke aliceLogin.operation, .invoke bobLogin.operation, .advance 0,
    .advance 1, .advance 0, .drain 0, .advance 1, .advance 0, .drain 0,
    .advance 0, .advance 1]

end Sample

open Classical in
/-- Neither login notices the other one. -/
theorem user_isolated_logins :
    ∃ after,
      (AuthWorld.holding 1000 Sample.twoUsersStore).run? Sample.behaviour
          Sample.loginsOfTwoUsers =
        some after ∧
        ∀ user,
          ∃ ownActions ownAfter,
            (AuthWorld.holding 1000
                (Sample.twoUsersStore.only (OfUser user))).run?
                Sample.behaviour ownActions =
              some ownAfter ∧
              ownAfter.backend.store =
                after.backend.store.only (OfUser user) := by
  have runs :
      ((AuthWorld.holding 1000 Sample.twoUsersStore).run? Sample.behaviour
        Sample.loginsOfTwoUsers).isSome =
        true := by
    decide +kernel
  have scannable :
      ∀ operation,
        .invoke operation ∈ Sample.loginsOfTwoUsers →
          operation.Scannable := by
    intro operation member
    apply AuthOperation.scannable_of_digest
    simp [Sample.loginsOfTwoUsers] at member
    rcases member with rfl | rfl
    · intro payload scans
      obtain rfl := Option.some.inj scans
      exact ⟨by decide +kernel, _, rfl, by decide +kernel⟩
    · intro payload scans
      obtain rfl := Option.some.inj scans
      exact ⟨by decide +kernel, _, rfl, by decide +kernel⟩
  obtain ⟨after, ran⟩ := Option.isSome_iff_exists.mp runs
  refine ⟨after, ran, ?_⟩
  intro user
  obtain ⟨ownActions, ownAfter, ownRan, -, -, -, sameStore⟩ :=
    user_isolated user scannable ran
  exact ⟨ownActions, ownAfter, ownRan, sameStore⟩

end NestBackend
