import Mathlib.Data.List.Forall2
import NestBackend.AlikePrograms
import NestBackend.ProgramErasure
import NestBackend.Redis

namespace NestBackend

/-!
# Programs on a Redis server

The programs of a pool, run against a server that other clients use as well.
Values are texts there, an entry lies under its key with the instant of its
expiry, and a scan lists the live keys in any order.  The other clients do what
they like to the keys outside a territory.

A pool of programs that keep to the territory, write only values that have a
text, and go on like themselves whatever the order of a scan, behaves on the
server as it does on an expiring store: each run on one is a run on the other.
-/

/-- How values are written as texts, and read from them. -/
structure TextCodec (Value : Type) where
  writes : Value → String → Prop
  reads? : String → Option Value
  reads?_of_writes :
    ∀ {value text}, writes value text → reads? text = some value

namespace TextCodec

variable {Value : Type} (codec : TextCodec Value)

/-- The value has a text. -/
def Good (value : Value) : Prop :=
  ∃ text, codec.writes value text

/-- A key of the server holds what the store has under it. -/
inductive Holds : Option (Entry Value) → Redis.Slot → Prop where
  | absent : Holds none none
  | entry
      {entry : Entry Value}
      {text : String}
      (written : codec.writes entry.value text) :
      Holds (some entry) (some ⟨.string text, some entry.expiresAt⟩)

end TextCodec

/-- The failure that a refusal is to a program. -/
def StoreError.ofRedis : RedisError → StoreError
  | .invalidExpireTime => .invalidExpire
  | .notAnInteger => .invalidExpire
  | _ => .unavailable

/-- `SETEX` with a number of seconds, or with `NaN`, which is no integer. -/
def Redis.setexNumber : Option Int → String → Redis.Command String
  | some seconds, text => Redis.setex seconds text
  | none, _ => fun _ slot => (slot, .error .notAnInteger)

/-! ## One command -/

/-- The keys of the server, and the chains of detached deletions. -/
structure ServerBackend where
  slots : String → Redis.Slot
  chains : List (List String)

namespace ServerBackend

variable {Value Failure Result : Type}

/-- What a program makes of the reply to `GET`, if it is the text of a value. -/
def getReply?
    (codec : TextCodec Value) :
    Except RedisError (Option String) → Option (Reply (Option Value))
  | .error error => some (.error (.ofRedis error))
  | .ok none => some (.ok none)
  | .ok (some text) =>
      (codec.reads? text).map fun value => .ok (some value)

/-- What a program makes of the reply to `SETEX`. -/
def setexReply : Except RedisError String → Reply Bool
  | .error error => .error (.ofRedis error)
  | .ok reply => .ok (reply == "OK")

/-- What a program makes of the reply to `DEL`. -/
def delReply : Except RedisError Int → Reply Nat
  | .error error => .error (.ofRedis error)
  | .ok count => .ok count.toNat

/-- A listing of the live keys that a pattern accepts, in any order. -/
structure Lists
    (slots : String → Redis.Slot)
    (now : Nat)
    (accepts : String → Bool)
    (keys : List String) : Prop where
  nodup : keys.Nodup
  mem :
    ∀ key,
      key ∈ keys ↔
        (Redis.live now (slots key)).isSome = true ∧ accepts key = true

/-- The keys after a command on one of them. -/
def send
    (server : ServerBackend)
    (key : String)
    (command : Redis.Command Output)
    (now : Nat) : ServerBackend :=
  { server with slots := (Redis.send key command now server.slots).1 }

/-- The reply to a command on one key. -/
def reply
    (server : ServerBackend)
    (key : String)
    (command : Redis.Command Output)
    (now : Nat) : Except RedisError Output :=
  (Redis.send key command now server.slots).2

/--
A program performs its next command on the server: it writes some text of a
value, and a scan answers it in some order.
-/
inductive Performs
    (codec : TextCodec Value)
    (now : Nat)
    (server : ServerBackend) :
    StoreProgram String Value Failure Result →
      ServerBackend → StoreProgram String Value Failure Result → Prop where
  | done (outcome : Except Failure Result) :
      Performs codec now server (.done outcome) server (.done outcome)
  | clock
      {next : Nat → StoreProgram String Value Failure Result}
      {after : ServerBackend}
      {left : StoreProgram String Value Failure Result}
      (later : Performs codec now server (next now) after left) :
      Performs codec now server (.clock next) after left
  | get
      {key : String}
      {next :
        Reply (Option Value) → StoreProgram String Value Failure Result}
      {answer : Reply (Option Value)}
      (read :
        getReply? codec (server.reply key Redis.get now) = some answer) :
      Performs codec now server (.get key next)
        (server.send key Redis.get now) (next answer)
  | setex
      {key text : String}
      {seconds : Option Int}
      {value : Value}
      {next : Reply Bool → StoreProgram String Value Failure Result}
      (written : codec.writes value text) :
      Performs codec now server (.setex key seconds value next)
        (server.send key (Redis.setexNumber seconds text) now)
        (next
          (setexReply
            (server.reply key (Redis.setexNumber seconds text) now)))
  | del
      {key : String}
      {next : Reply Nat → StoreProgram String Value Failure Result} :
      Performs codec now server (.del key next)
        (server.send key Redis.del now)
        (next (delReply (server.reply key Redis.del now)))
  | keys
      {accepts : String → Bool}
      {keys : List String}
      {next :
        Reply (List String) → StoreProgram String Value Failure Result}
      (listed : Lists server.slots now accepts keys) :
      Performs codec now server (.keys accepts next) server
        (next (.ok keys))
  | detach
      {chains : List (List String)}
      {next : StoreProgram String Value Failure Result} :
      Performs codec now server (.detach chains next)
        { server with chains := server.chains ++ chains } next

end ServerBackend

/-! ## The server and the store -/

namespace TextCodec.Holds

variable
  {Value : Type}
  {codec : TextCodec Value}
  {store : ExpiringStore String Value}
  {key : String}
  {slot : Redis.Slot}

/-- What is not live is not read. -/
theorem read_none
    (holds : codec.Holds (store.lookup key) slot)
    {now : Nat}
    (gone : Redis.live now slot = none) :
    store.read now key = none := by
  cases read : store.read now key with
  | none => rfl
  | some value =>
      obtain ⟨entry, found, live, -⟩ := ExpiringStore.read_eq_some.mp read
      rw [found] at holds
      cases holds with
      | entry written =>
          have lasts : now < entry.expiresAt := live
          simp [Redis.live, lasts] at gone

/-- What is live is the text of what is read. -/
theorem read_some
    (holds : codec.Holds (store.lookup key) slot)
    {now : Nat}
    {entry : RedisEntry}
    (found : Redis.live now slot = some entry) :
    ∃ value text,
      store.read now key = some value ∧
        codec.writes value text ∧
        entry.value = .string text := by
  obtain ⟨rfl, lasts⟩ := Option.filter_eq_some_iff.mp found
  cases lookup : store.lookup key with
  | none =>
      rw [lookup] at holds
      cases holds
  | some stored =>
      rw [lookup] at holds
      cases holds with
      | @entry _ text written =>
          refine ⟨stored.value, text, ?_, written, rfl⟩
          refine
            ExpiringStore.read_eq_some.mpr ⟨stored, lookup, ?_, rfl⟩
          exact of_decide_eq_true lasts

/-- Both have a live entry, or neither. -/
theorem live_isSome
    (holds : codec.Holds (store.lookup key) slot)
    (now : Nat) :
    (Redis.live now slot).isSome = (store.read now key).isSome := by
  cases found : Redis.live now slot with
  | none =>
      rw [holds.read_none found]
      rfl
  | some entry =>
      obtain ⟨value, text, read, -⟩ := holds.read_some found
      rw [read]
      rfl

/-- `GET` is answered with the text of what is read, and changes nothing. -/
theorem get
    (holds : codec.Holds (store.lookup key) slot)
    (now : Nat) :
    (Redis.get now slot).1 = slot ∧
      ServerBackend.getReply? codec (Redis.get now slot).2 =
        some (.ok (store.read now key)) := by
  cases found : Redis.live now slot with
  | none =>
      rw [holds.read_none found]
      simp [Redis.get, found, ServerBackend.getReply?]
  | some entry =>
      obtain ⟨value, text, read, written, isText⟩ := holds.read_some found
      obtain ⟨content, expiresAt⟩ := entry
      obtain rfl : content = .string text := isText
      rw [read]
      simp [Redis.get, found, ServerBackend.getReply?,
        codec.reads?_of_writes written]

end TextCodec.Holds

/-- The server holds on the territory what the store holds. -/
structure ServerBackend.Mirrors
    {Value : Type}
    (mine : String → Prop)
    (codec : TextCodec Value)
    (server : ServerBackend)
    (backend : Backend String Value) : Prop where
  slots :
    ∀ key,
      mine key →
        codec.Holds (backend.store.lookup key) (server.slots key)
  chains : server.chains.Perm backend.chains
  areMine : ∀ chain ∈ server.chains, ∀ key ∈ chain, mine key

namespace ServerBackend

variable
  {Value Failure Result : Type}
  {mine : String → Prop}
  {codec : TextCodec Value}
  {now : Nat}
  {server after : ServerBackend}
  {backend : Backend String Value}
  {agree : Except Failure Result → Except Failure Result → Prop}
  {first second left : StoreProgram String Value Failure Result}

/-- A command on one key leaves the others. -/
theorem send_other
    {key query : String}
    (different : query ≠ key)
    (command : Redis.Command Output) :
    (server.send key command now).slots query = server.slots query :=
  StoreEffect.atKey_other different _ _

/-- A command on the territory leaves what is elsewhere. -/
theorem send_foreign
    {key query : String}
    (isMine : mine key)
    (foreign : ¬ mine query)
    (command : Redis.Command Output) :
    (server.send key command now).slots query = server.slots query := by
  apply send_other
  rintro rfl
  exact foreign isMine

/-- A command acts on the slot of its key. -/
theorem send_same
    (key : String)
    (command : Redis.Command Output) :
    (server.send key command now).slots key =
      (command now (server.slots key)).1 :=
  StoreEffect.atKey_same ..

/-- Both change the entry of one key. -/
theorem Mirrors.update
    {key : String}
    {command : Redis.Command Output}
    {store : ExpiringStore String Value}
    (mirrors : server.Mirrors mine codec backend)
    (here :
      codec.Holds (store.lookup key)
        (command now (server.slots key)).1)
    (others :
      ∀ query,
        query ≠ key → store.lookup query = backend.store.lookup query) :
    (server.send key command now).Mirrors mine codec
      { backend with store := store } := by
  refine ⟨?_, mirrors.chains, mirrors.areMine⟩
  intro query isMine
  by_cases same : query = key
  · subst same
    rw [send_same]
    exact here
  · rw [send_other same, others query same]
    exact mirrors.slots query isMine

/-- `SETEX` writes what the store writes, and is refused where that is. -/
theorem Mirrors.setex
    {key text : String}
    {value : Value}
    (mirrors : server.Mirrors mine codec backend)
    (isMine : mine key)
    (written : codec.writes value text)
    (now : Nat)
    (seconds : Option Int) :
    (server.send key (Redis.setexNumber seconds text) now).Mirrors mine
        codec (backend.setex now key seconds value).1 ∧
      setexReply (server.reply key (Redis.setexNumber seconds text) now) =
        (backend.setex now key seconds value).2 := by
  have here := mirrors.slots key isMine
  cases seconds with
  | none =>
      exact ⟨mirrors.update here (fun _ _ => rfl), rfl⟩
  | some count =>
      by_cases positive : 0 < count
      · have notZero : ¬ count ≤ 0 := by omega
        rw [Backend.setex_of_pos backend now key positive value]
        constructor
        · refine mirrors.update ?_ ?_
          · rw [ExpiringStore.lookup_write_same]
            simp only [Redis.setexNumber, Redis.setex, notZero,
              ↓reduceIte]
            rw [Nat.mul_comm]
            exact .entry written
          · intro query different
            exact ExpiringStore.lookup_write_other _ different ..
        · simp [reply, Redis.send, Redis.setexNumber, Redis.setex,
            notZero, setexReply]
      · have refused : count ≤ 0 := by omega
        have unchanged :
            backend.setex now key (some count) value =
              (backend, .error .invalidExpire) := by
          simp [Backend.setex, positive]
        rw [unchanged]
        constructor
        · refine mirrors.update ?_ (fun _ _ => rfl)
          simpa only [Redis.setexNumber, Redis.setex, refused, ↓reduceIte]
            using here
        · simp [reply, Redis.send, Redis.setexNumber, Redis.setex, refused,
            setexReply, StoreError.ofRedis]

/-- `DEL` removes what the store removes, and counts it. -/
theorem Mirrors.del
    {key : String}
    (mirrors : server.Mirrors mine codec backend)
    (isMine : mine key)
    (now : Nat) :
    (server.send key Redis.del now).Mirrors mine codec
        (backend.del now key).1 ∧
      delReply (server.reply key Redis.del now) =
        .ok (backend.del now key).2 := by
  constructor
  · refine mirrors.update ?_ ?_
    · rw [ExpiringStore.lookup_remove_same]
      exact .absent
    · intro query different
      exact ExpiringStore.lookup_remove_other _ different
  · have sameLive := (mirrors.slots key isMine).live_isSome now
    simp only [reply, Redis.send, StoreEffect.atKey_reply, Redis.del,
      delReply, Backend.del, sameLive]
    cases (backend.store.read now key).isSome <;> rfl

/-- A listing has the keys that a scan of the store has. -/
theorem Lists.perm_scan
    {accepts : String → Bool}
    {keys : List String}
    (listed : Lists server.slots now accepts keys)
    (mirrors : server.Mirrors mine codec backend)
    (areMine : ∀ key, accepts key = true → mine key) :
    keys.Perm (backend.store.scan now accepts) := by
  refine
    (List.perm_ext_iff_of_nodup listed.nodup
      (backend.store.scan_nodup now accepts)).mpr ?_
  intro key
  rw [listed.mem key, ExpiringStore.mem_scan]
  apply and_congr_left
  intro accepted
  rw [(mirrors.slots key (areMine key accepted)).live_isSome now]

/-- What the store scans is a listing. -/
theorem Mirrors.lists
    {accepts : String → Bool}
    (mirrors : server.Mirrors mine codec backend)
    (areMine : ∀ key, accepts key = true → mine key) :
    Lists server.slots now accepts (backend.store.scan now accepts) := by
  refine ⟨backend.store.scan_nodup now accepts, ?_⟩
  intro key
  rw [ExpiringStore.mem_scan]
  apply and_congr_left
  intro accepted
  rw [(mirrors.slots key (areMine key accepted)).live_isSome now]

/--
A command on the server is one on the store: what is held, what is left of the
programs and the chains are as before, and no other client notices.
-/
theorem Performs.mirrored
    (performs : Performs codec now server first after left)
    (alike : StoreProgram.Alike mine codec.Good agree first second)
    (mirrors : server.Mirrors mine codec backend) :
    after.Mirrors mine codec (second.step now backend).1 ∧
      StoreProgram.Alike mine codec.Good agree left
        (second.step now backend).2 ∧
      ∀ key, ¬ mine key → after.slots key = server.slots key := by
  induction performs generalizing second with
  | done outcome =>
      cases alike with
      | done agreed => exact ⟨mirrors, .done agreed, fun _ _ => rfl⟩
  | clock later inductionHypothesis =>
      cases alike with
      | clock laterAlike =>
          have mirrored := inductionHypothesis (laterAlike now)
          exact mirrored
  | @get key next answer read =>
      cases alike with
      | @get _ _ other isMine later =>
          obtain ⟨unchanged, replied⟩ :=
            (mirrors.slots key isMine).get now
          have same : answer = .ok (backend.store.read now key) := by
            have both := read.symm.trans replied
            exact Option.some.inj both
          subst same
          refine ⟨?_, later _ ?_, ?_⟩
          · have here := mirrors.slots key isMine
            rw [← unchanged] at here
            exact mirrors.update here (fun _ _ => rfl)
          · intro value found
            have stored := Except.ok.inj found
            cases live : Redis.live now (server.slots key) with
            | none =>
                rw [(mirrors.slots key isMine).read_none live] at stored
                cases stored
            | some entry =>
                obtain ⟨held, text, isRead, written, -⟩ :=
                  (mirrors.slots key isMine).read_some live
                rw [isRead] at stored
                obtain rfl := Option.some.inj stored
                exact ⟨text, written⟩
          · intro query foreign
            exact send_foreign isMine foreign _
  | @setex key text seconds value next written =>
      cases alike with
      | setex isMine isGood later =>
          obtain ⟨mirrored, replied⟩ :=
            mirrors.setex isMine written now seconds
          refine ⟨mirrored, ?_, ?_⟩
          · rw [replied]
            exact later _
          · intro query foreign
            exact send_foreign isMine foreign _
  | @del key next =>
      cases alike with
      | del isMine later =>
          obtain ⟨mirrored, replied⟩ := mirrors.del isMine now
          refine ⟨mirrored, ?_, ?_⟩
          · rw [replied]
            exact later _
          · intro query foreign
            exact send_foreign isMine foreign _
  | keys listed =>
      cases alike with
      | keys areMine listedAlike failed =>
          refine ⟨mirrors, ?_, fun _ _ => rfl⟩
          refine
            listedAlike _ _ (listed.perm_scan mirrors areMine) ?_
          intro key member
          exact ((listed.mem key).mp member).2
  | detach =>
      cases alike with
      | detach sameChains areMine later =>
          refine ⟨⟨mirrors.slots, ?_, ?_⟩, later, fun _ _ => rfl⟩
          · exact mirrors.chains.append sameChains
          · intro chain member
            rcases List.mem_append.mp member with old | new
            · exact mirrors.areMine chain old
            · exact areMine chain new

/-- The server can always go on with a program: what is read is a value. -/
theorem Mirrors.exists_performs
    (mirrors : server.Mirrors mine codec backend)
    (alike : StoreProgram.Alike mine codec.Good agree first second)
    (now : Nat) :
    ∃ after left, Performs codec now server first after left := by
  induction alike with
  | @done outcome other agreed => exact ⟨server, _, .done outcome⟩
  | clock later inductionHypothesis =>
      obtain ⟨after, left, performs⟩ := inductionHypothesis now
      exact ⟨after, left, .clock performs⟩
  | @get key next other isMine later inductionHypothesis =>
      exact ⟨_, _, .get ((mirrors.slots key isMine).get now).2⟩
  | setex isMine isGood later inductionHypothesis =>
      obtain ⟨text, written⟩ := isGood
      exact ⟨_, _, .setex written⟩
  | del isMine later inductionHypothesis => exact ⟨_, _, .del⟩
  | keys areMine listed failed listedHypothesis failedHypothesis =>
      exact ⟨_, _, .keys (mirrors.lists areMine)⟩
  | detach sameChains areMine later inductionHypothesis =>
      exact ⟨_, _, .detach⟩

end ServerBackend

/-! ## Members at corresponding places -/

section Members

variable
  {First Second : Type}
  {related : First → Second → Prop}
  {firsts : List First}
  {seconds : List Second}
  {index : Nat}

/-- What is at a place is related to what is there in the other list. -/
theorem forall₂_getElem?
    (areRelated : List.Forall₂ related firsts seconds)
    {first : First}
    (found : firsts[index]? = some first) :
    ∃ second, seconds[index]? = some second ∧ related first second := by
  induction areRelated generalizing index with
  | nil => cases found
  | cons isRelated others inductionHypothesis =>
      cases index with
      | zero =>
          obtain rfl := Option.some.inj found
          exact ⟨_, rfl, isRelated⟩
      | succ later => exact inductionHypothesis found

/-- Related members put at one place keep the lists related. -/
theorem forall₂_set
    (areRelated : List.Forall₂ related firsts seconds)
    {first : First}
    {second : Second}
    (isRelated : related first second)
    (index : Nat) :
    List.Forall₂ related (firsts.set index first)
      (seconds.set index second) := by
  induction areRelated generalizing index with
  | nil => exact .nil
  | cons here others inductionHypothesis =>
      cases index with
      | zero => exact .cons isRelated others
      | succ later => exact .cons here (inductionHypothesis later)

/-- A member is somewhere in the other order and can be replaced there. -/
theorem exists_set_of_perm
    {items reordered : List First}
    {item : First}
    (same : items.Perm reordered)
    (found : items[index]? = some item) :
    ∃ place,
      reordered[place]? = some item ∧
        ∀ new, (items.set index new).Perm (reordered.set place new) := by
  obtain ⟨place, atPlace⟩ :=
    List.mem_iff_getElem?.mp
      (same.mem_iff.mp (List.mem_of_getElem? found))
  refine ⟨place, atPlace, ?_⟩
  intro new
  have inside := (List.getElem?_eq_some_iff.mp found).1
  have placeInside := (List.getElem?_eq_some_iff.mp atPlace).1
  have others : (items.eraseIdx index).Perm (reordered.eraseIdx place) :=
    List.Perm.eraseIdx_of_getElem?_eq (found.trans atPlace.symm) same
  exact
    (List.set_perm_cons_eraseIdx inside new).trans
      ((others.cons new).trans
        (List.set_perm_cons_eraseIdx placeInside new).symm)

end Members

/-! ## Interleavings -/

/-- The call at this place has settled, with this outcome. -/
def World.HasSettled
    {Operation Value Failure Result : Type}
    (threads : List (Thread Operation String Value Failure Result))
    (index : Nat)
    (outcome : Except Failure Result) : Prop :=
  ∃ thread,
    threads[index]? = some thread ∧ thread.program = .done outcome

/-- The server with every call made so far, in the order of the calls. -/
structure ServerWorld (Operation Value Failure Result : Type) where
  now : Nat
  backend : ServerBackend
  threads : List (Thread Operation String Value Failure Result)

/-- What can happen next; the last is a change that another client makes. -/
inductive ServerAction (Operation : Type) where
  | tick (milliseconds : Nat)
  | invoke (operation : Operation)
  | advance (thread : Nat)
  | drain (chain : Nat)
  | elsewhere (key : String) (slot : Redis.Slot)

namespace ServerAction

variable {Operation : Type}

/-- The calls among some actions. -/
def calls (actions : List (ServerAction Operation)) : List Operation :=
  actions.filterMap fun action =>
    match action with
    | .invoke operation => some operation
    | _ => none

/-- What the other clients make of the keys. -/
def changes
    (actions : List (ServerAction Operation))
    (slots : String → Redis.Slot) : String → Redis.Slot :=
  actions.foldl
    (fun slots action =>
      match action with
      | .elsewhere key slot => Function.update slots key slot
      | _ => slots)
    slots

/-- The calls of the first action and of the others. -/
theorem calls_cons
    (action : ServerAction Operation)
    (rest : List (ServerAction Operation)) :
    calls (action :: rest) = calls [action] ++ calls rest := by
  rw [← List.singleton_append]
  exact List.filterMap_append

/-- What becomes of a key depends on nothing but what was there. -/
theorem changes_congr
    {slots others : String → Redis.Slot}
    {key : String}
    (same : slots key = others key)
    (actions : List (ServerAction Operation)) :
    changes actions slots key = changes actions others key := by
  induction actions generalizing slots others with
  | nil => exact same
  | cons action rest inductionHypothesis =>
      cases action with
      | elsewhere changed slot =>
          refine inductionHypothesis ?_
          by_cases here : key = changed
          · subst here
            simp only [Function.update_self]
          · simp only [Function.update_of_ne here, same]
      | _ => exact inductionHypothesis same

end ServerAction

/-- The calls of the first action of a schedule and of the others. -/
theorem World.calls_cons
    {Operation : Type}
    (action : Action Operation)
    (rest : List (Action Operation)) :
    World.calls (action :: rest) =
      World.calls [action] ++ World.calls rest := by
  rw [← List.singleton_append]
  exact List.filterMap_append

namespace ServerWorld

variable
  {Operation Value Failure Result : Type}
  {mine : String → Prop}
  {codec : TextCodec Value}
  {behaviour : Operation → StoreProgram String Value Failure Result}
  {server after : ServerWorld Operation Value Failure Result}
  {world next : World Operation String Value Failure Result}

/-- One action on the server; the other clients keep off the territory. -/
inductive Steps
    (mine : String → Prop)
    (codec : TextCodec Value)
    (behaviour : Operation → StoreProgram String Value Failure Result)
    (server : ServerWorld Operation Value Failure Result) :
    ServerAction Operation →
      ServerWorld Operation Value Failure Result → Prop where
  | tick (milliseconds : Nat) :
      Steps mine codec behaviour server (.tick milliseconds)
        { server with now := server.now + milliseconds }
  | invoke (operation : Operation) :
      Steps mine codec behaviour server (.invoke operation)
        { server with
          threads :=
            server.threads ++ [⟨operation, behaviour operation, 0⟩] }
  | advance
      {index : Nat}
      {thread : Thread Operation String Value Failure Result}
      {backend : ServerBackend}
      {left : StoreProgram String Value Failure Result}
      (found : server.threads[index]? = some thread)
      (performs :
        server.backend.Performs codec server.now thread.program backend
          left) :
      Steps mine codec behaviour server (.advance index)
        { server with
          backend := backend
          threads :=
            server.threads.set index
              { operation := thread.operation
                program := left
                commands :=
                  thread.commands +
                    if thread.program.commands server.now then 1
                    else 0 } }
  | drain
      {index : Nat}
      {key : String}
      {rest : List String}
      (found : server.backend.chains[index]? = some (key :: rest)) :
      Steps mine codec behaviour server (.drain index)
        { server with
          backend :=
            { server.backend.send key Redis.del server.now with
              chains := server.backend.chains.set index rest } }
  | elsewhere
      {key : String}
      (foreign : ¬ mine key)
      (slot : Redis.Slot) :
      Steps mine codec behaviour server (.elsewhere key slot)
        { server with
          backend :=
            { server.backend with
              slots := Function.update server.backend.slots key slot } }

/-- Actions one after the other. -/
inductive Runs
    (mine : String → Prop)
    (codec : TextCodec Value)
    (behaviour : Operation → StoreProgram String Value Failure Result) :
    ServerWorld Operation Value Failure Result →
      List (ServerAction Operation) →
      ServerWorld Operation Value Failure Result → Prop where
  | nil (server : ServerWorld Operation Value Failure Result) :
      Runs mine codec behaviour server [] server
  | cons
      {server middle after : ServerWorld Operation Value Failure Result}
      {action : ServerAction Operation}
      {rest : List (ServerAction Operation)}
      (stepped : Steps mine codec behaviour server action middle)
      (later : Runs mine codec behaviour middle rest after) :
      Runs mine codec behaviour server (action :: rest) after

/-- Two calls of the same operation that are equally far and go on alike. -/
structure ThreadsAlike
    (mine : String → Prop)
    (codec : TextCodec Value)
    (thread other : Thread Operation String Value Failure Result) :
    Prop where
  operation : thread.operation = other.operation
  commands : thread.commands = other.commands
  program :
    StoreProgram.Alike mine codec.Good Eq thread.program other.program

/-- The server is where the world is. -/
structure Mirrors
    (mine : String → Prop)
    (codec : TextCodec Value)
    (server : ServerWorld Operation Value Failure Result)
    (world : World Operation String Value Failure Result) : Prop where
  now : server.now = world.now
  backend : server.backend.Mirrors mine codec world.backend
  threads :
    List.Forall₂ (ThreadsAlike mine codec) server.threads world.threads

/-- The same calls have settled, with the same outcomes. -/
theorem Mirrors.settled_iff
    (mirrors : server.Mirrors mine codec world)
    (index : Nat)
    (outcome : Except Failure Result) :
    World.HasSettled server.threads index outcome ↔
      World.HasSettled world.threads index outcome := by
  constructor
  · rintro ⟨thread, found, settled⟩
    obtain ⟨other, otherFound, alike⟩ :=
      forall₂_getElem? mirrors.threads found
    exact
      ⟨other, otherFound, (alike.program.done_iff outcome).mp settled⟩
  · rintro ⟨other, otherFound, settled⟩
    obtain ⟨thread, found, alike⟩ :=
      forall₂_getElem? (List.Forall₂.flip mirrors.threads) otherFound
    exact ⟨thread, found, (alike.program.done_iff outcome).mpr settled⟩

/-- The server can go on with any of the calls. -/
theorem Mirrors.exists_advance
    (mirrors : server.Mirrors mine codec world)
    {index : Nat}
    (inside : index < server.threads.length) :
    ∃ after, server.Steps mine codec behaviour (.advance index) after := by
  have found := List.getElem?_eq_getElem inside
  obtain ⟨other, -, alike⟩ := forall₂_getElem? mirrors.threads found
  obtain ⟨backend, left, performs⟩ :=
    mirrors.backend.exists_performs alike.program server.now
  exact ⟨_, .advance found performs⟩

/-- Calls that go on alike have moved on by one command each. -/
theorem Mirrors.advance
    {index : Nat}
    {thread other : Thread Operation String Value Failure Result}
    {backend : ServerBackend}
    {left : StoreProgram String Value Failure Result}
    (mirrors : server.Mirrors mine codec world)
    (alike : ThreadsAlike mine codec thread other)
    (performs :
      server.backend.Performs codec server.now thread.program backend
        left) :
    Mirrors mine codec
        { server with
          backend := backend
          threads :=
            server.threads.set index
              { operation := thread.operation
                program := left
                commands :=
                  thread.commands +
                    if thread.program.commands server.now then 1
                    else 0 } }
        { world with
          backend := (other.program.step world.now world.backend).1
          threads :=
            world.threads.set index
              (other.advance world.now world.backend) } ∧
      ∀ key, ¬ mine key → backend.slots key = server.backend.slots key := by
  rw [mirrors.now] at performs
  obtain ⟨mirrored, goesOn, foreign⟩ :=
    performs.mirrored alike.program mirrors.backend
  refine ⟨⟨mirrors.now, mirrored, ?_⟩, foreign⟩
  apply forall₂_set mirrors.threads
  refine ⟨alike.operation, ?_, goesOn⟩
  rw [mirrors.now, alike.commands, alike.program.commands_eq world.now]
  rfl

/-- The same deletion, from a chain of the same keys on either side. -/
theorem Mirrors.drain
    {index place : Nat}
    {key : String}
    {rest : List String}
    (mirrors : server.Mirrors mine codec world)
    (found : server.backend.chains[index]? = some (key :: rest))
    (reordered :
      (server.backend.chains.set index rest).Perm
        (world.backend.chains.set place rest)) :
    Mirrors mine codec
        { server with
          backend :=
            { server.backend.send key Redis.del server.now with
              chains := server.backend.chains.set index rest } }
        { world with
          backend :=
            { store := world.backend.store.remove key
              chains := world.backend.chains.set place rest } } ∧
      ∀ query,
        ¬ mine query →
          (server.backend.send key Redis.del server.now).slots query =
            server.backend.slots query := by
  have areMine :=
    mirrors.backend.areMine _ (List.mem_of_getElem? found)
  have isMine := areMine key List.mem_cons_self
  have deleted := (mirrors.backend.del isMine server.now).1
  refine ⟨⟨mirrors.now, ⟨deleted.slots, reordered, ?_⟩, mirrors.threads⟩,
    ?_⟩
  · intro chain member
    rcases List.mem_or_eq_of_mem_set member with old | isRest
    · exact mirrors.backend.areMine chain old
    · rw [isRest]
      exact fun other inRest =>
        areMine other (List.mem_cons_of_mem key inRest)
  · intro query foreign
    exact ServerBackend.send_foreign isMine foreign _

/-- What happens on the server happens in the world, or is not seen there. -/
theorem Steps.mirrored
    {action : ServerAction Operation}
    (alike :
      ∀ operation,
        action = .invoke operation →
          StoreProgram.Alike mine codec.Good Eq (behaviour operation)
            (behaviour operation))
    (mirrors : server.Mirrors mine codec world)
    (stepped : server.Steps mine codec behaviour action after) :
    ∃ actions next,
      world.run? behaviour actions = some next ∧
        World.calls actions = ServerAction.calls [action] ∧
        after.Mirrors mine codec next ∧
        ∀ key,
          ¬ mine key →
            after.backend.slots key =
              ServerAction.changes [action] server.backend.slots key := by
  cases stepped with
  | tick milliseconds =>
      refine ⟨[.tick milliseconds], _, rfl, rfl, ?_, fun _ _ => rfl⟩
      refine ⟨?_, mirrors.backend, mirrors.threads⟩
      exact congrArg (· + milliseconds) mirrors.now
  | invoke operation =>
      refine ⟨[.invoke operation], _, rfl, rfl, ?_, fun _ _ => rfl⟩
      refine ⟨mirrors.now, mirrors.backend, ?_⟩
      exact
        List.rel_append mirrors.threads
          (.cons ⟨rfl, rfl, alike operation rfl⟩ .nil)
  | @advance index thread backend left found performs =>
      obtain ⟨other, otherFound, areAlike⟩ :=
        forall₂_getElem? mirrors.threads found
      obtain ⟨mirrored, foreign⟩ := mirrors.advance areAlike performs
      refine ⟨[.advance index], _, ?_, rfl, mirrored, foreign⟩
      rw [World.run?_cons]
      refine ⟨_, ?_, rfl⟩
      simp only [World.step, otherFound]
  | @drain index key rest found =>
      obtain ⟨place, atPlace, reordered⟩ :=
        exists_set_of_perm mirrors.backend.chains found
      obtain ⟨mirrored, foreign⟩ := mirrors.drain found (reordered rest)
      refine ⟨[.drain place], _, ?_, rfl, mirrored, foreign⟩
      rw [World.run?_cons]
      refine ⟨_, ?_, rfl⟩
      simp only [World.step, atPlace]
  | @elsewhere key foreign slot =>
      refine ⟨[], world, rfl, rfl, ?_, fun _ _ => rfl⟩
      refine ⟨mirrors.now,
        ⟨?_, mirrors.backend.chains, mirrors.backend.areMine⟩,
        mirrors.threads⟩
      intro query isMine
      have different : query ≠ key := by
        rintro rfl
        exact foreign isMine
      have kept :
          Function.update server.backend.slots key slot query =
            server.backend.slots query :=
        Function.update_of_ne different _ _
      have holds := mirrors.backend.slots query isMine
      rw [← kept] at holds
      exact holds

/-- What happens in the world can happen on the server. -/
theorem Mirrors.exists_steps
    {action : Action Operation}
    (alike :
      ∀ operation,
        action = .invoke operation →
          StoreProgram.Alike mine codec.Good Eq (behaviour operation)
            (behaviour operation))
    (mirrors : server.Mirrors mine codec world)
    (stepped : world.step behaviour action = some next) :
    ∃ serverAction after,
      server.Steps mine codec behaviour serverAction after ∧
        ServerAction.calls [serverAction] = World.calls [action] ∧
        after.Mirrors mine codec next := by
  cases World.step_cases stepped with
  | tick milliseconds =>
      refine ⟨_, _, .tick milliseconds, rfl, ?_⟩
      refine ⟨?_, mirrors.backend, mirrors.threads⟩
      exact congrArg (· + milliseconds) mirrors.now
  | invoke operation =>
      refine ⟨_, _, .invoke operation, rfl, ?_⟩
      refine ⟨mirrors.now, mirrors.backend, ?_⟩
      exact
        List.rel_append mirrors.threads
          (.cons ⟨rfl, rfl, alike operation rfl⟩ .nil)
  | @advance index other found =>
      obtain ⟨thread, threadFound, areAlike⟩ :=
        forall₂_getElem? (List.Forall₂.flip mirrors.threads) found
      obtain ⟨backend, left, performs⟩ :=
        mirrors.backend.exists_performs areAlike.program server.now
      exact ⟨_, _, .advance threadFound performs, rfl,
        (mirrors.advance areAlike performs).1⟩
  | @drain index key rest found =>
      obtain ⟨place, atPlace, reordered⟩ :=
        exists_set_of_perm mirrors.backend.chains.symm found
      exact ⟨_, _, .drain atPlace, rfl,
        (mirrors.drain atPlace (reordered rest).symm).1⟩

/-- A run on the server is a run of the world. -/
theorem Runs.mirrored
    {actions : List (ServerAction Operation)}
    (alike :
      ∀ operation ∈ ServerAction.calls actions,
        StoreProgram.Alike mine codec.Good Eq (behaviour operation)
          (behaviour operation))
    (mirrors : server.Mirrors mine codec world)
    (ran : Runs mine codec behaviour server actions after) :
    ∃ worldActions next,
      world.run? behaviour worldActions = some next ∧
        World.calls worldActions = ServerAction.calls actions ∧
        after.Mirrors mine codec next ∧
        ∀ key,
          ¬ mine key →
            after.backend.slots key =
              ServerAction.changes actions server.backend.slots key := by
  induction ran generalizing world with
  | nil server => exact ⟨[], world, rfl, rfl, mirrors, fun _ _ => rfl⟩
  | @cons server middle after action rest stepped later
      inductionHypothesis =>
      rw [ServerAction.calls_cons] at alike ⊢
      obtain ⟨first, middleWorld, firstRan, firstCalls, middleMirrors,
          firstForeign⟩ :=
        Steps.mirrored
          (by
            rintro operation rfl
            exact alike operation
              (List.mem_append_left _ List.mem_cons_self))
          mirrors stepped
      obtain ⟨others, next, othersRan, othersCalls, nextMirrors,
          othersForeign⟩ :=
        inductionHypothesis
          (fun operation member =>
            alike operation (List.mem_append_right _ member))
          middleMirrors
      refine ⟨first ++ others, next, ?_, ?_, nextMirrors, ?_⟩
      · exact World.run?_append.mpr ⟨middleWorld, firstRan, othersRan⟩
      · rw [← firstCalls, ← othersCalls]
        exact List.filterMap_append
      · intro key foreign
        rw [othersForeign key foreign]
        exact ServerAction.changes_congr (firstForeign key foreign) rest

/-- A run of the world is a run on the server. -/
theorem Mirrors.exists_runs
    {actions : List (Action Operation)}
    (alike :
      ∀ operation ∈ World.calls actions,
        StoreProgram.Alike mine codec.Good Eq (behaviour operation)
          (behaviour operation))
    (mirrors : server.Mirrors mine codec world)
    (ran : world.run? behaviour actions = some next) :
    ∃ serverActions after,
      Runs mine codec behaviour server serverActions after ∧
        ServerAction.calls serverActions = World.calls actions ∧
        after.Mirrors mine codec next := by
  induction actions generalizing server world with
  | nil =>
      obtain rfl := Option.some.inj ran
      exact ⟨[], server, .nil server, rfl, mirrors⟩
  | cons action rest inductionHypothesis =>
      rw [World.calls_cons] at alike ⊢
      obtain ⟨middleWorld, stepped, restRan⟩ := World.run?_cons.mp ran
      obtain ⟨first, middle, firstStepped, firstCalls, middleMirrors⟩ :=
        mirrors.exists_steps
          (by
            rintro operation rfl
            exact alike operation
              (List.mem_append_left _ List.mem_cons_self))
          stepped
      obtain ⟨others, after, othersRan, othersCalls, afterMirrors⟩ :=
        inductionHypothesis
          (fun operation member =>
            alike operation (List.mem_append_right _ member))
          middleMirrors restRan
      refine ⟨first :: others, after, .cons firstStepped othersRan, ?_,
        afterMirrors⟩
      rw [ServerAction.calls_cons, firstCalls, othersCalls]

end ServerWorld

end NestBackend
