import NestBackend.ReadThrough

namespace NestBackend

/-!
# How old the answers of a cache are

Whatever changes go around a cache, every answer is what the source held at
some earlier point of the run: where it is not the present one, a read of the
same key asked the source there, and did so less than the lifetime of an answer
ago.  These points never go back from one read of a key to the next.
-/

namespace ReadThrough

section Requests

variable
  {Key Name Value Source Change Request : Type}
  [DecidableEq Key]
  [DecidableEq Name]
  (setting : Setting Key Name Value Source Change)
  (event? : Request → Option (Event Key Change))

/--
What a request makes of the requests before the latest fill of a key, with the
instant of that fill.
-/
def nextFilled
    (key : Key)
    (done : List Request)
    (filled : Option (List Request × Nat))
    (request : Request) : Option (List Request × Nat) :=
  match event? request with
  | some (.read other now) =>
      if other = key then
        (filled.filter
          (fun filled => now < filled.2 + setting.lifetime)).or
          (some (done, now))
      else
        filled
  | _ => filled

/-- The requests before the latest fill of a key, request by request. -/
def lastFilled
    (key : Key)
    (done : List Request)
    (filled : Option (List Request × Nat)) :
    List Request → Option (List Request × Nat)
  | [] => filled
  | request :: rest =>
      lastFilled key (done ++ [request])
        (nextFilled setting event? key done filled request) rest

/-- The requests after which the source was as a read of a key shows it. -/
def asOf
    (key : Key)
    (now : Nat)
    (requests : List Request) : List Request :=
  (((lastFilled setting event? key [] none requests).filter
    (fun filled => now < filled.2 + setting.lifetime)).map
      Prod.fst).getD requests

/-- A fill comes from a read among the requests, and explains the cache. -/
structure Filled
    (source : Source)
    (key : Key)
    (done : List Request)
    (filled : Option (List Request × Nat)) : Prop where
  cached :
    (run setting (fresh source : State Name Value Source)
          (done.filterMap event?)).cache (setting.name key) =
      filled.map fun filled =>
        ⟨setting.view key
            (sourceAfter setting source (filled.1.filterMap event?)),
          filled.2⟩
  asked :
    ∀ found,
      filled = some found →
        ∃ request rest,
          done = found.1 ++ request :: rest ∧
            event? request = some (.read key found.2)

variable {setting} {event?}
variable
  {source : Source}
  {key : Key}
  {done : List Request}
  {filled : Option (List Request × Nat)}

omit [DecidableEq Key] in
/-- One request more in a run. -/
theorem run_append_single
    (state : State Name Value Source)
    (done : List Request)
    (request : Request) :
    run setting state ((done ++ [request]).filterMap event?) =
      (event? request).elim
        (run setting state (done.filterMap event?))
        (step setting (run setting state (done.filterMap event?))) := by
  unfold run
  rw [List.filterMap_append, List.foldl_append]
  cases given : event? request with
  | none => simp [given]
  | some event => simp [given]

namespace Filled

omit [DecidableEq Key] in
/-- A fill was made by a read before. -/
theorem asked_append
    (holds : Filled setting event? source key done filled)
    (request : Request)
    {found : List Request × Nat}
    (isFill : filled = some found) :
    ∃ asking rest,
      done ++ [request] = found.1 ++ asking :: rest ∧
        event? asking = some (.read key found.2) := by
  obtain ⟨asking, rest, split, asks⟩ := holds.asked found isFill
  exact ⟨asking, rest ++ [request], by rw [split]; simp, asks⟩

/-- One request keeps it. -/
theorem next
    (holds : Filled setting event? source key done filled)
    (request : Request) :
    Filled setting event? source key (done ++ [request])
      (nextFilled setting event? key done filled request) := by
  have before := holds.cached
  unfold nextFilled
  cases given : event? request with
  | none =>
      refine ⟨?_, fun found => holds.asked_append request⟩
      rw [run_append_single, given]
      exact before
  | some event =>
      cases event with
      | change change =>
          refine ⟨?_, fun found => holds.asked_append request⟩
          rw [run_append_single, given]
          exact before
      | read other now =>
          by_cases same : other = key
          case neg =>
            simp only [same, ↓reduceIte]
            refine ⟨?_, fun found => holds.asked_append request⟩
            rw [run_append_single, given]
            have otherName : setting.name key ≠ setting.name other :=
              fun sameName =>
                same (setting.name_injective sameName).symm
            exact (read_cache_other otherName ..).trans before
          subst same
          simp only [↓reduceIte]
          by_cases young :
              ∃ found,
                filled = some found ∧ now < found.2 + setting.lifetime
          · obtain ⟨found, rfl, isYoung⟩ := young
            rw [Option.filter_some, if_pos (decide_eq_true isYoung),
              Option.some_or]
            refine ⟨?_, fun found => holds.asked_append request⟩
            rw [run_append_single, given]
            simp only [Option.elim_some, step]
            rw [read_young before isYoung]
            exact before
          · have old :
                filled.filter
                    (fun filled => now < filled.2 + setting.lifetime) =
                  none := by
              rw [Option.filter_eq_none_iff]
              intro found isFill isYoung
              exact young ⟨found, isFill, by simpa using isYoung⟩
            have asks :
                ∀ cached,
                  (run setting (fresh source : State Name Value Source)
                        (done.filterMap event?)).cache
                      (setting.name other) = some cached →
                    ¬ now < cached.cachedAt + setting.lifetime := by
              intro cached isCached isYoung
              rw [before] at isCached
              obtain ⟨found, isFill, rfl⟩ :=
                Option.map_eq_some_iff.mp isCached
              exact young ⟨found, isFill, isYoung⟩
            rw [old, Option.none_or]
            refine ⟨?_, ?_⟩
            · rw [run_append_single, given]
              simp only [Option.elim_some, step]
              rw [read_asks asks, run_source]
              exact Function.update_self ..
            · intro found isNew
              obtain rfl := Option.some.inj isNew
              exact ⟨request, [], rfl, given⟩

/-- Further requests keep it. -/
theorem last
    (holds : Filled setting event? source key done filled)
    (requests : List Request) :
    Filled setting event? source key (done ++ requests)
      (lastFilled setting event? key done filled requests) := by
  induction requests generalizing done filled with
  | nil => rwa [List.append_nil]
  | cons request rest inductionHypothesis =>
      have later := inductionHypothesis (holds.next request)
      rw [List.append_assoc, List.singleton_append] at later
      exact later

end Filled

/-- What is cached after some requests from nothing cached. -/
theorem filled_lastFilled
    (setting : Setting Key Name Value Source Change)
    (event? : Request → Option (Event Key Change))
    (source : Source)
    (key : Key)
    (requests : List Request) :
    Filled setting event? source key requests
      (lastFilled setting event? key [] none requests) := by
  have nothing : Filled setting event? source key [] none :=
    ⟨rfl, fun found isFill => by cases isFill⟩
  exact nothing.last requests

/-- A read shows the source as it was after these requests. -/
theorem read_asOf
    (setting : Setting Key Name Value Source Change)
    (event? : Request → Option (Event Key Change))
    (source : Source)
    (key : Key)
    (now : Nat)
    (requests : List Request) :
    (read (setting.name key) setting.lifetime now (setting.view key)
          (run setting (fresh source) (requests.filterMap event?))).1 =
      setting.view key
        (sourceAfter setting source
          ((asOf setting event? key now requests).filterMap event?)) := by
  have holds := filled_lastFilled setting event? source key requests
  unfold asOf
  cases young :
      (lastFilled setting event? key [] none requests).filter
        (fun filled => now < filled.2 + setting.lifetime) with
  | some found =>
      obtain ⟨isFill, isYoung⟩ := Option.filter_eq_some_iff.mp young
      have cached := holds.cached
      rw [isFill] at cached
      rw [read_young cached (by simpa using isYoung)]
      rfl
  | none =>
      rw [read_asks]
      · rw [run_source]
        rfl
      · intro cached isCached isYoung
        rw [holds.cached] at isCached
        obtain ⟨found, isFill, rfl⟩ := Option.map_eq_some_iff.mp isCached
        rw [Option.filter_eq_none_iff] at young
        exact young found isFill (by simpa using isYoung)

/-- A read of the key asked there, less than the lifetime ago. -/
theorem asOf_recent
    (setting : Setting Key Name Value Source Change)
    (source : Source)
    (key : Key)
    (now : Nat)
    (requests : List Request) :
    asOf setting event? key now requests = requests ∨
      ∃ request rest filledAt,
        requests =
            asOf setting event? key now requests ++ request :: rest ∧
          event? request = some (.read key filledAt) ∧
          now < filledAt + setting.lifetime := by
  have holds := filled_lastFilled setting event? source key requests
  unfold asOf
  cases young :
      (lastFilled setting event? key [] none requests).filter
        (fun filled => now < filled.2 + setting.lifetime) with
  | none => exact .inl rfl
  | some found =>
      obtain ⟨isFill, isYoung⟩ := Option.filter_eq_some_iff.mp young
      obtain ⟨request, rest, split, asks⟩ := holds.asked found isFill
      exact .inr
        ⟨request, rest, found.2, split, asks, by simpa using isYoung⟩

/-! ## Reads do not go back -/

omit [DecidableEq Name] in
/-- The requests before a fill are never fewer later. -/
theorem lastFilled_prefix
    {found : List Request × Nat}
    (inDone : found.1 <+: done)
    (requests : List Request) :
    ∃ later,
      lastFilled setting event? key done (some found) requests =
          some later ∧
        found.1 <+: later.1 ∧ later.1 <+: done ++ requests := by
  induction requests generalizing done found with
  | nil => exact ⟨found, rfl, List.prefix_rfl, by simpa using inDone⟩
  | cons request rest inductionHypothesis =>
      have next :
          ∃ after,
            nextFilled setting event? key done (some found) request =
                some after ∧
              found.1 <+: after.1 ∧ after.1 <+: done := by
        unfold nextFilled
        split
        · rename_i other now given
          by_cases same : other = key
          · rw [if_pos same]
            by_cases young : now < found.2 + setting.lifetime
            · rw [Option.filter_some, if_pos (decide_eq_true young)]
              exact ⟨found, rfl, List.prefix_rfl, inDone⟩
            · rw [Option.filter_some, if_neg (by simpa using young)]
              exact ⟨(done, now), rfl, inDone, List.prefix_rfl⟩
          · rw [if_neg same]
            exact ⟨found, rfl, List.prefix_rfl, inDone⟩
        · exact ⟨found, rfl, List.prefix_rfl, inDone⟩
      obtain ⟨after, isNext, grows, isBefore⟩ := next
      have inNext : after.1 <+: done ++ [request] :=
        isBefore.trans (List.prefix_append done [request])
      obtain ⟨later, isLater, growsOn, isIn⟩ := inductionHypothesis inNext
      refine ⟨later, ?_, grows.trans growsOn, ?_⟩
      · simp only [lastFilled, isNext, isLater]
      · simpa using isIn

omit [DecidableEq Name] in
/-- The fill after a read is what the read shows. -/
theorem nextFilled_read
    {request : Request}
    {now : Nat}
    (reads : event? request = some (.read key now))
    (requests : List Request) :
    ∃ filledAt,
      nextFilled setting event? key requests
          (lastFilled setting event? key [] none requests) request =
        some (asOf setting event? key now requests, filledAt) := by
  simp only [nextFilled, asOf, reads, ↓reduceIte]
  cases (lastFilled setting event? key [] none requests).filter
      (fun filled => now < filled.2 + setting.lifetime) with
  | none => exact ⟨now, rfl⟩
  | some found => exact ⟨found.2, rfl⟩

omit [DecidableEq Name] in
/-- Requests in two parts. -/
theorem lastFilled_append
    (done first second : List Request)
    (filled : Option (List Request × Nat)) :
    lastFilled setting event? key done filled (first ++ second) =
      lastFilled setting event? key (done ++ first)
        (lastFilled setting event? key done filled first) second := by
  induction first generalizing done filled with
  | nil => simp [lastFilled]
  | cons request rest inductionHypothesis =>
      simp only [List.cons_append, lastFilled, inductionHypothesis,
        List.append_assoc, List.nil_append]

/-- A later read of a key shows the source no earlier. -/
theorem asOf_mono
    (setting : Setting Key Name Value Source Change)
    (source : Source)
    {request : Request}
    {now : Nat}
    (reads : event? request = some (.read key now))
    (before after : List Request)
    (later : Nat) :
    asOf setting event? key now before <+:
      asOf setting event? key later (before ++ request :: after) := by
  have isPrefix : asOf setting event? key now before <+: before := by
    rcases asOf_recent setting source key now before with
      all | ⟨asking, rest, filledAt, split, -⟩
    · exact ⟨[], by rw [all, List.append_nil]⟩
    · exact ⟨asking :: rest, split.symm⟩
  obtain ⟨filledAt, isNext⟩ :
      ∃ filledAt,
        nextFilled setting event? key before
            (lastFilled setting event? key [] none before) request =
          some (asOf setting event? key now before, filledAt) :=
    nextFilled_read reads before
  have inDone :
      (asOf setting event? key now before, filledAt).1 <+:
        before ++ [request] :=
    isPrefix.trans (List.prefix_append before [request])
  obtain ⟨found, isFound, grows, -⟩ :
      ∃ found,
        lastFilled setting event? key (before ++ [request])
            (some (asOf setting event? key now before, filledAt)) after =
            some found ∧
          asOf setting event? key now before <+: found.1 ∧
          found.1 <+: before ++ [request] ++ after :=
    lastFilled_prefix inDone after
  have isLast :
      lastFilled setting event? key [] none (before ++ request :: after) =
        some found := by
    rw [lastFilled_append]
    simp only [lastFilled, List.nil_append, isNext, isFound]
  unfold asOf at grows ⊢
  rw [isLast]
  by_cases young : later < found.2 + setting.lifetime
  · rw [Option.filter_some, if_pos (decide_eq_true young)]
    exact grows
  · rw [Option.filter_some, if_neg (by simpa using young)]
    exact isPrefix.trans (List.prefix_append before (request :: after))

end Requests

end ReadThrough

end NestBackend
