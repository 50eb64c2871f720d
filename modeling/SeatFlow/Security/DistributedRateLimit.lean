import SeatFlow.Collections.FixedWindow
import SeatFlow.Realtime.RequestRateLimit
import SeatFlow.Relational.Runs
import SeatFlow.Relational.Siblings
import SeatFlow.Security.RateLimitPolicies

/-!
# The distributed rate limiter

Every instance of the service counts its requests in one Redis. A command may be executed late, or
its reply come too late, or not at all: then the instance decides alone, and for a while does not
ask again. What Redis has counted is one fixed window a key, whatever the order in which commands
are executed and replies are read.
-/

namespace SeatFlow

open Collections Relational

/-! ## §1 Instances and Redis -/

structure LimiterConfig where
  enabled : Bool
  /-- Of the keys, when Redis is configured. -/
  keyNamespace : Option String
  /-- Upstash is configured. -/
  rest : Bool
  environment : String
  secret : String

structure LimiterInstance where
  buckets : Buckets := OrderedMap.empty
  limiterRedisUnavailableUntil : Time := 0

def REDIS_COOLDOWN_MS : Time := 5000

inductive LimiterTransport
  | rest | tcp
  deriving DecidableEq

/-- A request that waits for a reply. -/
structure LimiterCall where
  instanceId : Nat
  policyName : RateLimitPolicyName
  subject : String
  transport : LimiterTransport
  deriving DecidableEq

structure RedisCommand where
  id : Nat
  key : String
  windowMs : Time
  deriving DecidableEq

structure RedisCounter where
  count : Nat
  expiresAt : Time
  deriving DecidableEq

/-- The reply is the count; the hit says when it was, and in which window. -/
structure RedisReply where
  id : Nat
  key : String
  hit : WindowHit
  deriving DecidableEq

/-- What `enforceRateLimit` returned, and the hit that it returned it of. -/
structure LimiterResult extends RateLimitDecision where
  policyName : RateLimitPolicyName
  subject : Option String
  hit : Option WindowHit
  deriving DecidableEq

/-- `hits` and `results` are the history of what was executed and returned. -/
structure LimiterState where
  clock : Time := 0
  counters : Table String RedisCounter := ∅
  commands : List RedisCommand := []
  replies : List RedisReply := []
  calls : Table Nat LimiterCall := ∅
  nextId : Nat := 0
  instances : Table Nat LimiterInstance := ∅
  hits : List (String × WindowHit) := []
  results : List LimiterResult := []

namespace LimiterState

variable (config : LimiterConfig) (s : LimiterState)

def instanceOf (instanceId : Nat) : LimiterInstance :=
  (s.instances.lookup instanceId).getD {}

def windowMs (policy : RateLimitPolicy) : Time :=
  policy.windowSeconds * 1000

/-- The window counter of a key after one more hit: `INCR`, and `PEXPIRE` of a new one. -/
def increment (clock : Time) (counter : Option RedisCounter) (windowMs : Time) : RedisCounter :=
  match counter.filter fun counter => clock < counter.expiresAt with
  | none => { count := 1, expiresAt := clock + windowMs }
  | some counter => { counter with count := counter.count + 1 }

def returned (policyName : RateLimitPolicyName) (subject : Option String) (hit : Option WindowHit)
    (decision : RateLimitDecision) : LimiterState :=
  let result : LimiterResult :=
    { decision with policyName := policyName, subject := subject, hit := hit }
  { s with results := result :: s.results }

def send (call : LimiterCall) (key : String) : LimiterState :=
  let command : RedisCommand := ⟨s.nextId, key, windowMs (getRateLimitPolicy call.policyName)⟩
  { s with
    commands := s.commands ++ [command]
    calls := s.calls.insert s.nextId call
    nextId := s.nextId + 1 }

def coolDown (instanceId : Nat) (now : Time) : LimiterState :=
  let cooling :=
    { s.instanceOf instanceId with limiterRedisUnavailableUntil := now + REDIS_COOLDOWN_MS }
  { s with instances := s.instances.insert instanceId cooling }

/-- The process-local fallback. -/
def decideLocally (call : LimiterCall) (now : Time) : LimiterState :=
  let policy := getRateLimitPolicy call.policyName
  let own := s.instanceOf call.instanceId
  let (answer, buckets) := consumeRateLimit own.buckets (policy.name ++ ":" ++ call.subject)
    { limit := policy.limit, windowMs := windowMs policy } now
  returned
    { s with instances := s.instances.insert call.instanceId { own with buckets := buckets } }
    call.policyName (some call.subject) none (decideRateLimit policy none false answer.allowed)

/-- The key, when Redis is configured and not in its cooldown. -/
def usableKey (call : LimiterCall) (now : Time) : Option (Except String String) :=
  (config.keyNamespace.filter fun _ =>
    decide ((s.instanceOf call.instanceId).limiterRedisUnavailableUntil ≤ now)).map
      fun keyNamespace =>
        buildRateLimitKey keyNamespace (getRateLimitPolicy call.policyName).name call.subject

def tryTcp (call : LimiterCall) (now : Time) : LimiterState :=
  match s.usableKey config call now with
  | none => s.decideLocally call now
  | some (.ok key) => s.send { call with transport := .tcp } key
  | some (.error _) => (s.coolDown call.instanceId now).decideLocally call now

def tryRest (call : LimiterCall) (now : Time) : LimiterState :=
  if config.rest then
    match s.usableKey config call now with
    | none => s.tryTcp config call now
    | some (.ok key) => s.send { call with transport := .rest } key
    | some (.error _) => (s.coolDown call.instanceId now).tryTcp config call now
  else s.tryTcp config call now

/-- The hit that a command is. -/
def hitOf (command : RedisCommand) : WindowHit :=
  let counter := increment s.clock (s.counters.lookup command.key) command.windowMs
  { time := s.clock, opened := counter.expiresAt - command.windowMs, count := counter.count }

/-- Redis executes a command. -/
def executed (index : Nat) (command : RedisCommand) : LimiterState :=
  { s with
    commands := s.commands.eraseIdx index
    counters := s.counters.insert command.key
      (increment s.clock (s.counters.lookup command.key) command.windowMs)
    replies := s.replies ++ [⟨command.id, command.key, s.hitOf command⟩]
    hits := (command.key, s.hitOf command) :: s.hits }

/-- A reply is read, for the call that waits for it. -/
def replied (index : Nat) (reply : RedisReply) : LimiterState :=
  let rest := { s with replies := s.replies.eraseIdx index }
  match s.calls.lookup reply.id with
  | none => rest
  | some call =>
      returned { rest with calls := s.calls.erase reply.id }
        call.policyName (some call.subject) (some reply.hit)
        (decideRateLimit (getRateLimitPolicy call.policyName) (some reply.hit.count) true none)

/-- `enforceRateLimit`, up to the reply of Redis. A request that fails is not decided. -/
def enforceRateLimit (hmac : Hmac) (instanceId : Nat) (policyName : RateLimitPolicyName)
    (input : RateLimitSubject) (now : Time) : LimiterState :=
  let policy := getRateLimitPolicy policyName
  if !config.enabled then
    s.returned policyName none none
      { allowed := true, source := .unavailable, retryAfterSeconds := 0 }
  else
    match buildRateLimitSubject hmac config.environment config.secret policy input with
    | .error _ => s
    | .ok none => s.returned policyName none none (decideRateLimit policy none false none)
    | .ok (some subject) => s.tryRest config ⟨instanceId, policyName, subject, .rest⟩ now

end LimiterState

inductive LimiterAction
  | request (instanceId : Nat) (policyName : RateLimitPolicyName) (input : RateLimitSubject)
      (now : Time)
  | execute (index : Nat)
  | lose (index : Nat)
  | reply (index : Nat)
  | reject (id : Nat) (now : Time)
  | transportError (instanceId : Nat) (now : Time)
  | tick (elapsed : Nat)

/-- One step of an instance, of Redis, of the network or of time. -/
def limiterStep (config : LimiterConfig) (hmac : Hmac) (s : LimiterState) :
    LimiterAction → Option LimiterState
  | .request instanceId policyName input now =>
      some (s.enforceRateLimit config hmac instanceId policyName input now)
  | .execute index => (s.commands[index]?).map (s.executed index)
  | .lose index => some { s with commands := s.commands.eraseIdx index }
  | .reply index => (s.replies[index]?).map (s.replied index)
  -- a timeout, an error, or a reply that is no count
  | .reject id now => (s.calls.lookup id).map fun call =>
      let failed := LimiterState.coolDown { s with calls := s.calls.erase id } call.instanceId now
      match call.transport with
      | .rest => failed.tryTcp config call now
      | .tcp => failed.decideLocally call now
  | .transportError instanceId now => some (s.coolDown instanceId now)
  | .tick elapsed => some { s with clock := s.clock + elapsed }

/-! ## §2 What is counted -/

/-- The key of a policy's counter for a subject. -/
def LimiterConfig.KeyOf (config : LimiterConfig) (key : String) (policyName : RateLimitPolicyName)
    (subject : String) : Prop :=
  ∃ keyNamespace, config.keyNamespace = some keyNamespace ∧
    buildRateLimitKey keyNamespace (getRateLimitPolicy policyName).name subject = .ok key

namespace LimiterState

def hitsOf (s : LimiterState) (key : String) : List WindowHit :=
  (s.hits.filter fun e => e.1 = key).map Prod.snd

def replyHits (replies : List RedisReply) (key : String) : List WindowHit :=
  (replies.filter fun reply => reply.key = key).map RedisReply.hit

/-- The hits of which results for a subject were returned. -/
def resultHits (results : List LimiterResult) (policyName : RateLimitPolicyName)
    (subject : String) :
    List WindowHit :=
  (results.filter fun result =>
    result.policyName = policyName ∧ result.subject = some subject).filterMap LimiterResult.hit

/-- A result is that of a hit, or what the failure mode makes of none. -/
def Justified (config : LimiterConfig) (result : LimiterResult) : Prop :=
  let policy := getRateLimitPolicy result.policyName
  (∃ hit subject key, result.hit = some hit ∧ result.subject = some subject ∧
    config.KeyOf key result.policyName subject ∧ result.source = .distributed ∧
    (result.allowed = true ↔ hit.count ≤ policy.limit)) ∨
  result.hit = none ∧ result.source ≠ .distributed ∧
    (config.enabled = true → result.allowed = true → policy.failureMode = .fail_open) ∧
    (result.allowed = false → policy.failureMode = .fail_open → result.source = .process)

/-- **The invariant**: of every key, Redis holds the last hit of a history of hits, and no hit is
replied, or returned a result of, twice. -/
structure Counting (config : LimiterConfig) (s : LimiterState) : Prop where
  commands : ∀ command ∈ s.commands, command.id < s.nextId ∧ ∃ policyName subject,
    config.KeyOf command.key policyName subject ∧
      command.windowMs = windowMs (getRateLimitPolicy policyName)
  commandCalls : ∀ command ∈ s.commands, ∀ call, s.calls.lookup command.id = some call →
    config.KeyOf command.key call.policyName call.subject
  replies : ∀ reply ∈ s.replies, reply.id < s.nextId
  replyCalls : ∀ reply ∈ s.replies, ∀ call, s.calls.lookup reply.id = some call →
    config.KeyOf reply.key call.policyName call.subject
  clock : ∀ e ∈ s.hits, e.2.time ≤ s.clock
  histories : ∀ key policyName subject, config.KeyOf key policyName subject →
    Hits (windowMs (getRateLimitPolicy policyName)) (s.hitsOf key)
  counters : ∀ key policyName subject, config.KeyOf key policyName subject →
    s.counters.lookup key = (s.hitsOf key).head?.map fun hit =>
      { count := hit.count, expiresAt := hit.opened + windowMs (getRateLimitPolicy policyName) }
  once : ∀ key policyName subject, config.KeyOf key policyName subject →
    List.Subperm (resultHits s.results policyName subject ++ replyHits s.replies key) (s.hitsOf key)
  results : ∀ result ∈ s.results, Justified config result

section Counting

variable {config : LimiterConfig} {s : LimiterState} {key key' : String}
  {policyName policyName' : RateLimitPolicyName} {subject subject' : String}

theorem keyOf_inj (h : config.KeyOf key policyName subject)
    (h' : config.KeyOf key policyName' subject') :
    policyName = policyName' ∧ subject = subject' := by
  obtain ⟨keyNamespace, hspace, hkey⟩ := h
  obtain ⟨keyNamespace', hspace', hkey'⟩ := h'
  cases hspace.symm.trans hspace'
  obtain ⟨hpolicy, hsubject⟩ := buildRateLimitKey_inj hkey hkey'
  exact ⟨policySegment_policy hpolicy, hsubject⟩

theorem keyOf_unique (h : config.KeyOf key policyName subject)
    (h' : config.KeyOf key' policyName subject) : key = key' := by
  obtain ⟨keyNamespace, hspace, hkey⟩ := h
  obtain ⟨keyNamespace', hspace', hkey'⟩ := h'
  cases hspace.symm.trans hspace'
  exact Except.ok.inj (hkey.symm.trans hkey')

theorem counting_init (config : LimiterConfig) : Counting config {} where
  commands _ h := by cases h
  commandCalls _ h := by cases h
  replies _ h := by cases h
  replyCalls _ h := by cases h
  clock _ h := by cases h
  histories _ _ _ _ := .nil
  counters _ _ _ _ := rfl
  once _ _ _ _ := List.Subperm.refl _
  results _ h := by cases h

theorem resultHits_cons {result : LimiterResult} {results : List LimiterResult} :
    resultHits (result :: results) policyName subject =
      if result.policyName = policyName ∧ result.subject = some subject then
        result.hit.toList ++ resultHits results policyName subject
      else resultHits results policyName subject := by
  unfold resultHits
  rw [List.filter_cons]
  by_cases hsame : result.policyName = policyName ∧ result.subject = some subject
  · rw [if_pos (decide_eq_true hsame), if_pos hsame, List.filterMap_cons]
    cases result.hit <;> rfl
  · rw [if_neg (by simpa using hsame), if_neg hsame]

theorem replyHits_cons {reply : RedisReply} {replies : List RedisReply} :
    replyHits (reply :: replies) key =
      if reply.key = key then reply.hit :: replyHits replies key else replyHits replies key := by
  unfold replyHits
  rw [List.filter_cons]
  by_cases hsame : reply.key = key <;> simp [hsame]

/-! The instance. -/

theorem Counting.instances (h : Counting config s) (instances : Table Nat LimiterInstance) :
    Counting config { s with instances := instances } :=
  ⟨h.commands, h.commandCalls, h.replies, h.replyCalls, h.clock, h.histories, h.counters, h.once,
    h.results⟩

/-- A call that does not wait any more. -/
theorem Counting.forget (h : Counting config s) (id : Nat) :
    Counting config { s with calls := s.calls.erase id } where
  commands := h.commands
  commandCalls command hmem call hcall :=
    h.commandCalls command hmem call (Table.lookup_of_erase hcall).2
  replies := h.replies
  replyCalls reply hmem call hcall := h.replyCalls reply hmem call (Table.lookup_of_erase hcall).2
  clock := h.clock
  histories := h.histories
  counters := h.counters
  once := h.once
  results := h.results

/-- A result without a hit. -/
theorem Counting.returned (h : Counting config s) {subject : Option String}
    {decision : RateLimitDecision}
    (hresult : Justified config
      { decision with policyName := policyName, subject := subject, hit := none }) :
    Counting config (s.returned policyName subject none decision) := by
  refine ⟨h.commands, h.commandCalls, h.replies, h.replyCalls, h.clock, h.histories, h.counters,
    fun key name subject' hkey => ?_, fun result hmem => ?_⟩
  · have hsame : resultHits (s.returned policyName subject none decision).results name subject' =
        resultHits s.results name subject' := by
      unfold LimiterState.returned
      dsimp only
      rw [resultHits_cons]
      split <;> rfl
    rw [hsame]
    exact h.once key name subject' hkey
  · rcases List.mem_cons.mp hmem with rfl | hold
    · exact hresult
    · exact h.results result hold

theorem Counting.send (h : Counting config s) {call : LimiterCall}
    (hkey : config.KeyOf key call.policyName call.subject) : Counting config (s.send call key) := by
  have hold : ∀ {id call'}, id < s.nextId → (s.calls.insert s.nextId call).lookup id = some call' →
      s.calls.lookup id = some call' := by
    intro id call' hid hcall
    rwa [AList.lookup_insert_ne (Nat.ne_of_lt hid)] at hcall
  refine ⟨fun command hmem => ?_, fun command hmem call' hcall => ?_,
    fun reply hmem => Nat.lt_succ_of_lt (h.replies reply hmem),
    fun reply hmem call' hcall => h.replyCalls reply hmem call' (hold (h.replies reply hmem) hcall),
    h.clock, h.histories, h.counters, h.once, h.results⟩
  · rcases List.mem_append.mp hmem with hmem | hnew
    · obtain ⟨hid, hsent⟩ := h.commands command hmem
      exact ⟨Nat.lt_succ_of_lt hid, hsent⟩
    · rw [List.mem_singleton.mp hnew]
      exact ⟨Nat.lt_succ_self _, call.policyName, call.subject, hkey, rfl⟩
  · rcases List.mem_append.mp hmem with hmem | hnew
    · exact h.commandCalls command hmem call' (hold (h.commands command hmem).1 hcall)
    · rw [List.mem_singleton.mp hnew] at hcall ⊢
      rw [show (s.send call key).calls = s.calls.insert s.nextId call from rfl,
        AList.lookup_insert] at hcall
      rw [← Option.some.inj hcall]
      exact hkey

theorem Counting.decideLocally (h : Counting config s) (call : LimiterCall) (now : Time) :
    Counting config (s.decideLocally call now) := by
  unfold LimiterState.decideLocally
  dsimp only
  refine (h.instances _).returned (.inr ⟨rfl, ?_⟩)
  unfold decideRateLimit
  dsimp only [Option.filter_none]
  split
  · exact ⟨RateLimitSource.noConfusion, fun _ => Bool.noConfusion, fun _ _ => rfl⟩
  · exact ⟨RateLimitSource.noConfusion, fun _ hallowed => beq_iff_eq.mp hallowed, fun _ _ => rfl⟩
  · next hnone => cases hnone

theorem usableKey_eq_some {call : LimiterCall} {now : Time}
    (h : s.usableKey config call now = some (.ok key)) :
    config.KeyOf key call.policyName call.subject := by
  obtain ⟨keyNamespace, hspace, hkey⟩ := Option.map_eq_some_iff.mp h
  exact ⟨keyNamespace, (Option.filter_eq_some_iff.mp hspace).1, hkey⟩

theorem Counting.tryTcp (h : Counting config s) (call : LimiterCall) (now : Time) :
    Counting config (s.tryTcp config call now) := by
  unfold LimiterState.tryTcp
  split
  · exact h.decideLocally call now
  · next hkey => exact h.send (usableKey_eq_some hkey)
  · exact Counting.decideLocally (h.instances _) call now

theorem Counting.tryRest (h : Counting config s) (call : LimiterCall) (now : Time) :
    Counting config (s.tryRest config call now) := by
  unfold LimiterState.tryRest
  split
  · split
    · exact h.tryTcp call now
    · next hkey => exact h.send (usableKey_eq_some hkey)
    · exact Counting.tryTcp (h.instances _) call now
  · exact h.tryTcp call now

theorem Counting.enforceRateLimit (h : Counting config s) {hmac : Hmac} {instanceId : Nat}
    {input : RateLimitSubject} {now : Time} :
    Counting config (s.enforceRateLimit config hmac instanceId policyName input now) := by
  unfold LimiterState.enforceRateLimit
  dsimp only
  split
  · next hdisabled =>
      refine h.returned
        (.inr ⟨rfl, RateLimitSource.noConfusion, fun henabled => ?_, fun hallowed => ?_⟩)
      · rw [henabled] at hdisabled
        cases hdisabled
      · cases hallowed
  · split
    · exact h
    · refine h.returned (.inr ⟨rfl, RateLimitSource.noConfusion, fun _ hallowed => ?_,
        fun hallowed hopen => ?_⟩)
      · exact beq_iff_eq.mp hallowed
      · have hrefused : ((getRateLimitPolicy policyName).failureMode == .fail_open) = false :=
          hallowed
        rw [hopen] at hrefused
        cases hrefused
    · exact h.tryRest _ now

/-! Redis. -/

/-- What Redis stores of a hit, it makes the next hit of. -/
theorem increment_eq {clock width : Time} {last : Option WindowHit} :
    increment clock (last.map fun hit =>
        { count := hit.count, expiresAt := hit.opened + width }) width =
      { count := (nextHit width last clock).count
        expiresAt := (nextHit width last clock).opened + width } := by
  unfold increment nextHit
  cases last with
  | none => rfl
  | some hit =>
    by_cases hlive : clock < hit.opened + width
    · simp [Option.filter_some, hlive]
    · simp [Option.filter_some, hlive]

theorem nextHit_time {width : Int} {last : Option WindowHit} {now : Int} :
    (nextHit width last now).time = now := by
  unfold nextHit
  split <;> rfl

theorem Counting.hitOf_eq (h : Counting config s) {command : RedisCommand}
    (hkey : config.KeyOf command.key policyName subject)
    (hwidth : command.windowMs = windowMs (getRateLimitPolicy policyName)) :
    s.hitOf command = nextHit command.windowMs (s.hitsOf command.key).head? s.clock ∧
      increment s.clock (s.counters.lookup command.key) command.windowMs =
        { count := (s.hitOf command).count
          expiresAt := (s.hitOf command).opened + command.windowMs } := by
  have hincrement : increment s.clock (s.counters.lookup command.key) command.windowMs =
      { count := (nextHit command.windowMs (s.hitsOf command.key).head? s.clock).count
        expiresAt := (nextHit command.windowMs (s.hitsOf command.key).head? s.clock).opened +
          command.windowMs } := by
    rw [h.counters command.key policyName subject hkey, hwidth]
    exact increment_eq
  have hnext : s.hitOf command =
      nextHit command.windowMs (s.hitsOf command.key).head? s.clock := by
    have htime := @nextHit_time command.windowMs (s.hitsOf command.key).head? s.clock
    unfold hitOf
    dsimp only
    rw [hincrement, Int.add_sub_cancel]
    exact congrArg (fun time => { nextHit command.windowMs (s.hitsOf command.key).head? s.clock with
      time := time }) htime.symm
  exact ⟨hnext, by rw [hincrement, hnext]⟩

theorem hitsOf_executed {index : Nat} {command : RedisCommand} :
    (s.executed index command).hitsOf key =
      if command.key = key then s.hitOf command :: s.hitsOf key else s.hitsOf key := by
  unfold hitsOf executed
  rw [List.filter_cons]
  by_cases hkey : command.key = key <;> simp [hkey]

theorem Counting.executed (h : Counting config s) {index : Nat} {command : RedisCommand}
    (hcommand : s.commands[index]? = some command) :
    Counting config (s.executed index command) := by
  have hmem := List.mem_of_getElem? hcommand
  obtain ⟨hid, policyName, subject, hkey, hwidth⟩ := h.commands command hmem
  obtain ⟨hnext, hincrement⟩ := h.hitOf_eq hkey hwidth
  refine ⟨fun c hc => h.commands c (List.mem_of_mem_eraseIdx hc),
    fun c hc => h.commandCalls c (List.mem_of_mem_eraseIdx hc), fun r hr => ?_, fun r hr => ?_,
    fun e he => ?_, fun k n subject' hk => ?_, fun k n subject' hk => ?_,
    fun k n subject' hk => ?_, h.results⟩
  · rcases List.mem_append.mp hr with hr | hnew
    · exact h.replies r hr
    · rw [List.mem_singleton.mp hnew]
      exact hid
  · rcases List.mem_append.mp hr with hr | hnew
    · exact h.replyCalls r hr
    · rw [List.mem_singleton.mp hnew]
      exact h.commandCalls command hmem
  · rcases List.mem_cons.mp he with rfl | hold
    · exact Int.le_refl _
    · exact h.clock e hold
  · have hhistory := h.histories k n subject' hk
    rw [hitsOf_executed]
    split
    · next hsame =>
        rw [← hsame] at hk hhistory ⊢
        obtain ⟨rfl, rfl⟩ := keyOf_inj hkey hk
        rw [hnext, hwidth]
        refine .next hhistory fun last hlast => ?_
        obtain ⟨e, he, rfl⟩ := List.mem_map.mp (List.mem_of_head? hlast)
        exact h.clock e (List.mem_filter.mp he).1
    · exact hhistory
  · rw [hitsOf_executed]
    change (s.counters.insert command.key _).lookup k = _
    rw [Table.lookup_insert_ite]
    by_cases hsame : k = command.key
    · rw [hsame] at hk
      obtain ⟨rfl, rfl⟩ := keyOf_inj hkey hk
      rw [if_pos hsame, if_pos hsame.symm, hincrement, hwidth]
      rfl
    · rw [if_neg hsame, if_neg (Ne.symm hsame)]
      exact h.counters k n subject' hk
  · have honce := h.once k n subject' hk
    have hreplies : replyHits (s.executed index command).replies k =
        replyHits s.replies k ++ if command.key = k then [s.hitOf command] else [] := by
      unfold replyHits LimiterState.executed
      rw [List.filter_append, List.map_append, List.filter_cons]
      by_cases hsame : command.key = k <;> simp [hsame]
    rw [hitsOf_executed, hreplies]
    split
    · rw [← List.append_assoc]
      exact (List.perm_append_singleton _ _).subperm.trans
        ((List.subperm_cons (s.hitOf command)).mpr honce)
    · rw [List.append_nil]
      exact honce

theorem Counting.replied (h : Counting config s) {index : Nat} {reply : RedisReply}
    (hreply : s.replies[index]? = some reply) : Counting config (s.replied index reply) := by
  have hmem := List.mem_of_getElem? hreply
  have hperm : (reply :: s.replies.eraseIdx index).Perm s.replies := by
    obtain ⟨hindex, hget⟩ := List.getElem?_eq_some_iff.mp hreply
    rw [← hget]
    exact List.getElem_cons_eraseIdx_perm hindex
  have hhits : ∀ k, (replyHits (reply :: s.replies.eraseIdx index) k).Perm
    (replyHits s.replies k) :=
    fun k => (hperm.filter _).map _
  -- a reply that nobody waits for
  have hdropped : Counting config { s with replies := s.replies.eraseIdx index } := by
    refine ⟨h.commands, h.commandCalls, fun r hr => h.replies r (List.mem_of_mem_eraseIdx hr),
      fun r hr => h.replyCalls r (List.mem_of_mem_eraseIdx hr), h.clock, h.histories, h.counters,
      fun k n subject' hk => ?_, h.results⟩
    refine List.Subperm.trans ?_ (h.once k n subject' hk)
    refine (List.Sublist.append_left ?_ _).subperm
    exact ((List.eraseIdx_sublist _ _).filter _).map _
  unfold LimiterState.replied
  dsimp only
  split
  · exact hdropped
  · next call hcall =>
      have hkey := h.replyCalls reply hmem call hcall
      have hforgotten := hdropped.forget reply.id
      refine ⟨hforgotten.commands, hforgotten.commandCalls, hforgotten.replies,
        hforgotten.replyCalls, h.clock, h.histories, h.counters, fun k n subject' hk => ?_,
        fun result hresult => ?_⟩
      · refine List.Subperm.trans (List.Perm.subperm ?_) (h.once k n subject' hk)
        refine List.Perm.trans ?_ ((hhits k).append_left _)
        unfold LimiterState.returned
        dsimp only
        rw [resultHits_cons, replyHits_cons]
        by_cases hsame : reply.key = k
        · obtain ⟨rfl, rfl⟩ := keyOf_inj hkey (hsame ▸ hk)
          rw [if_pos ⟨rfl, rfl⟩, if_pos hsame]
          exact List.perm_middle.symm
        · rw [if_neg hsame, if_neg]
          rintro ⟨rfl, hsubject⟩
          cases Option.some.inj hsubject
          exact hsame (keyOf_unique hkey hk)
      · rcases List.mem_cons.mp hresult with rfl | hold
        · refine .inl ⟨reply.hit, call.subject, reply.key, rfl, rfl, hkey, rfl, ?_⟩
          exact decide_eq_true_iff
        · exact h.results result hold

/-- **Step lemma.** -/
theorem Counting.step (h : Counting config s) {hmac : Hmac} {action : LimiterAction}
    {s' : LimiterState} (hstep : limiterStep config hmac s action = some s') :
    Counting config s' := by
  cases action with
  | request instanceId policyName input now =>
    rw [← Option.some.inj hstep]
    exact h.enforceRateLimit
  | execute index =>
    obtain ⟨command, hcommand, rfl⟩ := Option.map_eq_some_iff.mp hstep
    exact h.executed hcommand
  | lose index =>
    rw [← Option.some.inj hstep]
    exact ⟨fun c hc => h.commands c (List.mem_of_mem_eraseIdx hc),
      fun c hc => h.commandCalls c (List.mem_of_mem_eraseIdx hc), h.replies, h.replyCalls, h.clock,
      h.histories, h.counters, h.once, h.results⟩
  | reply index =>
    obtain ⟨reply, hreply, rfl⟩ := Option.map_eq_some_iff.mp hstep
    exact h.replied hreply
  | reject id now =>
    obtain ⟨call, -, rfl⟩ := Option.map_eq_some_iff.mp hstep
    have hfailed : Counting config
        (coolDown { s with calls := s.calls.erase id } call.instanceId now) :=
      (h.forget id).instances _
    dsimp only
    split
    · exact hfailed.tryTcp call now
    · exact hfailed.decideLocally call now
  | transportError instanceId now =>
    rw [← Option.some.inj hstep]
    exact h.instances _
  | tick elapsed =>
    rw [← Option.some.inj hstep]
    refine ⟨h.commands, h.commandCalls, h.replies, h.replyCalls, fun e he => ?_, h.histories,
      h.counters, h.once, h.results⟩
    exact Int.le_trans (h.clock e he) (Int.le_add_of_nonneg_right (Int.natCast_nonneg elapsed))

end Counting

end LimiterState

/-! ## §3 The limit -/

/-- The result allowed a request on a hit of this stretch of time. -/
def LimiterResult.admits (result : LimiterResult) (policyName : RateLimitPolicyName)
    (subject : String) (start : Time) : Bool :=
  result.policyName == policyName && result.subject == some subject && result.allowed &&
    result.hit.any fun hit => decide (start ≤ hit.time ∧
      hit.time < start + LimiterState.windowMs (getRateLimitPolicy policyName))

section Runs

variable {config : LimiterConfig} {hmac : Hmac} {s : LimiterState}

theorem windowMs_pos (policyName : RateLimitPolicyName) :
    0 < LimiterState.windowMs (getRateLimitPolicy policyName) := by
  cases policyName <;> decide

/-- Allowed on a hit, within the limit. -/
theorem length_admits {results : List LimiterResult} {policyName : RateLimitPolicyName}
    {subject : String} {start : Time}
    (h : ∀ result ∈ results, LimiterState.Justified config result) :
    (results.filter fun result => result.admits policyName subject start).length =
      (admittedIn (getRateLimitPolicy policyName).limit start
        (LimiterState.windowMs (getRateLimitPolicy policyName))
        (LimiterState.resultHits results policyName subject)).length := by
  induction results with
  | nil => rfl
  | cons result results ih =>
    have hrest := ih fun other hmem => h other (List.mem_cons_of_mem _ hmem)
    rw [List.filter_cons, LimiterState.resultHits_cons]
    by_cases hsame : result.policyName = policyName ∧ result.subject = some subject
    · rw [if_pos hsame]
      unfold admittedIn at hrest ⊢
      rw [List.filter_append, List.length_append, ← hrest]
      rcases h result List.mem_cons_self with ⟨hit, _, _, hhit, -, -, -, hallowed⟩ | ⟨hnone, -⟩
      · have hsplit : result.admits policyName subject start =
            (decide (start ≤ hit.time ∧ hit.time < start +
              LimiterState.windowMs (getRateLimitPolicy policyName)) &&
                decide (hit.count ≤ (getRateLimitPolicy policyName).limit)) := by
          rw [hsame.1] at hallowed
          have hcount : result.allowed =
              decide (hit.count ≤ (getRateLimitPolicy policyName).limit) := by
            rw [Bool.eq_iff_iff, hallowed, decide_eq_true_iff]
          unfold LimiterResult.admits
          rw [hsame.1, hsame.2, hhit, hcount, Option.any_some, beq_self_eq_true, beq_self_eq_true,
            Bool.true_and, Bool.true_and, Bool.and_comm]
        rw [hsplit, hhit, Option.toList_some, List.filter_cons, List.filter_nil]
        split
        · rw [List.length_cons, List.length_singleton, Nat.add_comm]
        · rw [List.length_nil, Nat.zero_add]
      · have hno : result.admits policyName subject start = false := by
          unfold LimiterResult.admits
          rw [hnone, Option.any_none, Bool.and_false]
        rw [hno, hnone, Option.toList_none, List.filter_nil, List.length_nil, Nat.zero_add]
        rfl
    · have hno : result.admits policyName subject start = false := by
        unfold LimiterResult.admits
        rw [Bool.and_eq_false_iff, Bool.and_eq_false_iff, Bool.and_eq_false_iff]
        refine .inl (.inl ?_)
        rcases not_and_or.mp hsame with hpolicy | hsubject
        · exact .inl (beq_eq_false_iff_ne.mpr hpolicy)
        · exact .inr (beq_eq_false_iff_ne.mpr hsubject)
      rw [if_neg hsame, hno]
      exact hrest

theorem counting_of_reaches (hreach : Reaches (limiterStep config hmac) (fun _ _ => True) {} s) :
    LimiterState.Counting config s :=
  hreach.invariant (LimiterState.counting_init config) fun _ _ _ _ hstep h => h.step hstep

/-- **The limit holds across instances and outages.** Of the requests that the instances have
allowed on a count, for one policy and subject, at most twice the limit were counted in any stretch
of time as long as a window; and a request is allowed without one only by a policy that fails open,
while such a policy rejects only what was counted over a limit. -/
theorem rateLimit_distributed
    (hreach : Reaches (limiterStep config hmac) (fun _ _ => True) {} s)
    (policyName : RateLimitPolicyName) (subject : String) (start : Time) :
    (s.results.filter fun result => result.admits policyName subject start).length ≤
      2 * (getRateLimitPolicy policyName).limit ∧
    ∀ result ∈ s.results, config.enabled = true →
      (result.allowed = true → result.hit = none →
        (getRateLimitPolicy result.policyName).failureMode = .fail_open) ∧
      (result.allowed = false → (getRateLimitPolicy result.policyName).failureMode = .fail_open →
        result.source = .process ∨ ∃ hit, result.hit = some hit ∧
          (getRateLimitPolicy result.policyName).limit < hit.count) := by
  have h := counting_of_reaches hreach
  refine ⟨?_, fun result hresult henabled => ?_⟩
  · by_cases hkey : ∃ key, config.KeyOf key policyName subject
    · obtain ⟨key, hkey⟩ := hkey
      rw [length_admits h.results]
      have honce : List.Subperm (LimiterState.resultHits s.results policyName subject)
          (s.hitsOf key) :=
        (List.sublist_append_left _ _).subperm.trans (h.once key policyName subject hkey)
      exact Nat.le_trans (honce.filter _).length_le
        ((h.histories key policyName subject hkey).length_admittedIn_le (windowMs_pos policyName))
    · rw [List.filter_eq_nil_iff.mpr fun result hresult hadmits => hkey ?_]
      · exact Nat.zero_le _
      · simp only [LimiterResult.admits, Bool.and_eq_true, beq_iff_eq] at hadmits
        obtain ⟨⟨⟨rfl, hsubject⟩, -⟩, hhit⟩ := hadmits
        rcases h.results result hresult with
          ⟨hit, subject', key, -, hsubject', hkey, -⟩ | ⟨hnone, -⟩
        · rw [hsubject] at hsubject'
          cases hsubject'
          exact ⟨key, hkey⟩
        · rw [hnone] at hhit
          cases hhit
  · rcases h.results result hresult with ⟨hit, _, _, hhit, -, -, -, hallowed⟩ |
      ⟨hnone, -, hopen, hclosed⟩
    · refine ⟨fun _ hnone => ?_, fun hrejected _ => .inr ⟨hit, hhit, ?_⟩⟩
      · rw [hhit] at hnone
        cases hnone
      · refine Nat.lt_of_not_le fun hle => ?_
        rw [hallowed.mpr hle] at hrejected
        cases hrejected
    · exact ⟨fun hallowed _ => hopen henabled hallowed,
        fun hrejected hfail => .inl (hclosed hrejected hfail)⟩

end Runs

section TwoReaders

def readersConfig : LimiterConfig :=
  { enabled := true, keyNamespace := some "seatflow:test", rest := true, environment := "test"
    secret := readersSecret }

/-- One reader at two instances; a reply comes too late. -/
def readersRun : List LimiterAction :=
  [ .request 0 .ticket_qr { subjectId := some "user_1" } 1000,
    .request 1 .ticket_qr { subjectId := some "user_1" } 1001, .tick 5, .execute 1, .execute 0,
    .reply 0, .reject 0 1300, .reply 0 ]

theorem rateLimit_distributed_readers :
    ∃ s, Reaches (limiterStep readersConfig readersHmac) (fun _ _ => True) {} s ∧
      s.results.map (·.source) = [.process, .distributed] ∧
      (s.results.filter fun result =>
        result.admits .ticket_qr "3330a868bfc8a9b6622476f9c80ed205" 0).length ≤ 120 := by
  have hrun : (execute (limiterStep readersConfig readersHmac) readersRun {}).any (fun s =>
      s.results.map (·.source) == [.process, .distributed]) = true := by
    decide +kernel
  obtain ⟨s, hs, hsources⟩ := (Option.any_eq_true _ _).mp hrun
  have hreach : Reaches (limiterStep readersConfig readersHmac) (fun _ _ => True) {} s :=
    reaches_of_execute hs fun _ _ _ => trivial
  exact ⟨s, hreach, beq_iff_eq.mp hsources,
    (rateLimit_distributed hreach .ticket_qr "3330a868bfc8a9b6622476f9c80ed205" 0).1⟩

end TwoReaders

end SeatFlow
