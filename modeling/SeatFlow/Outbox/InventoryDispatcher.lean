import SeatFlow.Realtime.InventoryInvalidation
import SeatFlow.Relational.Queue

/-!
# Dispatching the inventory outbox

`inventory-events/dispatcher-service`: any number of dispatchers run at once. Each opens a
transaction, claims due rows that no other one has locked (`FOR UPDATE SKIP LOCKED`),
publishes them one after the other, and marks each as processed or for a later attempt;
the marks become visible when it commits. The publish calls are made inside the
transaction, which has thirty seconds: when they take longer it is rolled back, at any
point and with all its marks, while the call under way goes on and is still answered.
Publish calls are logged when they are answered, whatever becomes of the transaction.
-/

namespace SeatFlow

open Relational

abbrev OutboxId := Nat
abbrev DispatcherId := Nat

/-! ## §1 Rows of the outbox -/

structure OutboxDispatcherConfiguration where
  batchSize : Nat
  maximumAttempts : Nat
  backoffBaseMs : Time
  backoffMaximumMs : Time

/-- A row of `InventoryEventOutbox`. The payload is `none` when it does not meet
`inventoryEventPayloadSchema`. -/
structure OutboxRow where
  sessionId : SessionId
  payload : Option InventoryInvalidationEvent
  createdAt : Time
  availableAt : Time
  attemptCount : Nat := 0
  processedAt : Option Time := none
  deadLetterAt : Option Time := none
  deriving DecidableEq

inductive OutboxStatus
  | pending | processed | deadLettered
  deriving DecidableEq

/-- What a row counts as, by its two time stamps. -/
def OutboxRow.Is (row : OutboxRow) : OutboxStatus → Prop
  | .pending => row.processedAt = none ∧ row.deadLetterAt = none
  | .processed => row.processedAt.isSome = true
  | .deadLettered => row.deadLetterAt.isSome = true

/-- `none` where the source throws. -/
def calculateOutboxBackoffMs (attempt : Nat) (baseMs maximumMs : Time) : Option Time :=
  if attempt < 1 then none else some (min maximumMs (baseMs * 2 ^ min (attempt - 1) 30))

def shouldDeadLetterOutboxEvent (nextAttemptCount maximumAttempts : Nat) : Bool :=
  maximumAttempts ≤ nextAttemptCount

/-- The event to publish; `none` when the payload is malformed or of another envelope. -/
def OutboxRow.envelope (id : OutboxId) (row : OutboxRow) : Option InventoryInvalidationEvent :=
  row.payload.filter fun event => event.eventId == id && event.sessionId == row.sessionId

def OutboxRow.processed (row : OutboxRow) (now : Time) : OutboxRow :=
  { row with processedAt := some now }

def OutboxRow.failed (row : OutboxRow) (config : OutboxDispatcherConfiguration) (now : Time) :
    Option OutboxRow :=
  let nextAttemptCount := row.attemptCount + 1
  let deadLetter := shouldDeadLetterOutboxEvent nextAttemptCount config.maximumAttempts
  (calculateOutboxBackoffMs nextAttemptCount config.backoffBaseMs config.backoffMaximumMs).map
    fun backoff =>
      { row with
        attemptCount := nextAttemptCount
        availableAt := now + backoff
        deadLetterAt := if deadLetter then some now else none }

/-- The row as it is written after its publish call resolved, or failed. -/
def OutboxRow.marked (row : OutboxRow) (config : OutboxDispatcherConfiguration) (now : Time)
    (resolved : Bool) : Option OutboxRow :=
  if resolved then some (row.processed now) else row.failed config now

def OutboxRow.due (row : OutboxRow) (now : Time) : Bool :=
  row.processedAt.isNone && row.deadLetterAt.isNone && row.availableAt ≤ now

/-! ## §2 Dispatchers -/

structure OutboxDispatchResult where
  claimed : Nat
  processed : Nat := 0
  failed : Nat := 0
  deadLettered : Nat := 0
  deriving DecidableEq

/-- A dispatcher in its transaction: the rows it has locked, those it has still to handle,
how the publish call of the first of them was answered, and the rows it has written. -/
structure DispatcherRun where
  now : Time
  claimed : List OutboxId
  remaining : List (OutboxId × OutboxRow)
  resolved : Option Bool := none
  updates : List (OutboxId × OutboxRow) := []
  result : OutboxDispatchResult
  ended : Bool := false
  deriving DecidableEq

inductive OutboxEvent
  | claimed (dispatcher : DispatcherId) (ids : List OutboxId)
  | published (dispatcher : DispatcherId) (id : OutboxId)
  | failed (dispatcher : DispatcherId) (id : OutboxId)
  | marked (dispatcher : DispatcherId) (id : OutboxId)
  | committed (dispatcher : DispatcherId)
  | rolledBack (dispatcher : DispatcherId)
  deriving DecidableEq

def OutboxEvent.dispatcher : OutboxEvent → DispatcherId
  | .claimed d _ | .published d _ | .failed d _ | .marked d _ | .committed d | .rolledBack d => d

structure OutboxSystem where
  outbox : Table OutboxId OutboxRow
  dispatchers : Table DispatcherId DispatcherRun := ∅
  log : List OutboxEvent := []

inductive OutboxAction
  | enqueue (id : OutboxId) (sessionId : SessionId) (serverTimestamp : String) (now : Time)
  | claim (dispatcher : DispatcherId) (now : Time)
  | publish (dispatcher : DispatcherId) (resolves : Bool)
  | mark (dispatcher : DispatcherId)
  | commit (dispatcher : DispatcherId)
  | rollBack (dispatcher : DispatcherId)

def OutboxAction.rollsBack : OutboxAction → Bool
  | .rollBack _ => true
  | _ => false

namespace OutboxSystem

/-- Some open transaction has the row locked. -/
def locked (sys : OutboxSystem) (id : OutboxId) : Bool :=
  sys.dispatchers.any fun _ run => !run.ended && run.claimed.contains id

def claimable (sys : OutboxSystem) (batchSize : Nat) (now : Time) : List (OutboxId × OutboxRow) :=
  let due := sys.outbox.ordered (fun id row => row.due now && !sys.locked id) (·.createdAt)
  due.take batchSize

/-- The dispatcher goes on, and what it did is logged. -/
def moves (sys : OutboxSystem) (id : DispatcherId) (run : DispatcherRun) (event : OutboxEvent) :
    OutboxSystem :=
  { sys with dispatchers := sys.dispatchers.insert id run, log := sys.log ++ [event] }

def claim (sys : OutboxSystem) (config : OutboxDispatcherConfiguration) (id : DispatcherId)
    (now : Time) : OutboxSystem :=
  let claimed := sys.claimable config.batchSize now
  let ids := claimed.map Prod.fst
  sys.moves id { now, claimed := ids, remaining := claimed, result := { claimed := ids.length } }
    (.claimed id ids)

/-- The first statements for a row: parse it, check it, publish it. -/
def publish (sys : OutboxSystem) (id : DispatcherId) (run : DispatcherRun)
    (row : OutboxId × OutboxRow) (resolves : Bool) : OutboxSystem :=
  if (row.2.envelope row.1).isSome && resolves then
    sys.moves id { run with resolved := some true } (.published id row.1)
  else sys.moves id { run with resolved := some false } (.failed id row.1)

/-- The transaction ends without its updates. -/
def rollBack (sys : OutboxSystem) (id : DispatcherId) (run : DispatcherRun) : OutboxSystem :=
  sys.moves id { run with ended := true } (.rolledBack id)

/-- The update of a row after its publish call; the transaction fails where the source
throws again. -/
def mark (sys : OutboxSystem) (config : OutboxDispatcherConfiguration) (id : DispatcherId)
    (run : DispatcherRun) (row : OutboxId × OutboxRow) (rest : List (OutboxId × OutboxRow))
    (resolved : Bool) : OutboxSystem :=
  match row.2.marked config run.now resolved with
  | none => sys.rollBack id run
  | some written =>
      let result := run.result
      sys.moves id
        { run with
          remaining := rest
          resolved := none
          updates := run.updates ++ [(row.1, written)]
          result :=
            { result with
              processed := result.processed + if resolved then 1 else 0
              failed := result.failed + if resolved then 0 else 1
              deadLettered := result.deadLettered +
                if written.deadLetterAt.isSome then 1 else 0 } }
        (.marked id row.1)

def commit (sys : OutboxSystem) (id : DispatcherId) (run : DispatcherRun) : OutboxSystem :=
  { sys.moves id { run with ended := true } (.committed id) with
    outbox := sys.outbox.putAll run.updates }

/-- A row as `enqueueInventoryEvent` creates it. -/
def enqueued (id : OutboxId) (sessionId : SessionId) (serverTimestamp : String) (now : Time) :
    OutboxRow :=
  { sessionId := sessionId
    payload := some { eventId := id, sessionId := sessionId, serverTimestamp := serverTimestamp }
    createdAt := now
    availableAt := now }

/-- One step; `none` when the action is not possible now. -/
def step (config : OutboxDispatcherConfiguration) (sys : OutboxSystem) :
    OutboxAction → Option OutboxSystem
  | .enqueue id sessionId serverTimestamp now =>
      match sys.outbox.lookup id with
      | none =>
          some { sys with
            outbox := sys.outbox.insert id (enqueued id sessionId serverTimestamp now) }
      | some _ => none
  | .claim id now =>
      match sys.dispatchers.lookup id with
      | none => some (sys.claim config id now)
      | some _ => none
  | .publish id resolves =>
      match sys.dispatchers.lookup id with
      | some run =>
          -- also after the transaction was rolled back while the call was under way
          match run.resolved, run.remaining with
          | none, row :: _ => some (sys.publish id run row resolves)
          | _, _ => none
      | none => none
  | .mark id =>
      match sys.dispatchers.lookup id with
      | some run =>
          match run.ended, run.resolved, run.remaining with
          | false, some resolved, row :: rest => some (sys.mark config id run row rest resolved)
          | _, _, _ => none
      | none => none
  | .commit id =>
      match sys.dispatchers.lookup id with
      | some run =>
          match run.ended, run.remaining with
          | false, [] => some (sys.commit id run)
          | _, _ => none
      | none => none
  | .rollBack id =>
      match sys.dispatchers.lookup id with
      | some run => if run.ended then none else some (sys.rollBack id run)
      | none => none

/-- Failed attempts at a row whose transactions have ended. -/
def failures (log : List OutboxEvent) (id : OutboxId) : Nat :=
  log.countP fun
    | .failed d id' =>
        id' == id && (log.contains (.committed d) || log.contains (.rolledBack d))
    | _ => false

/-- Those of them whose transactions committed. -/
def committedFailures (log : List OutboxEvent) (id : OutboxId) : Nat :=
  log.countP fun
    | .failed d id' => id' == id && log.contains (.committed d)
    | _ => false

end OutboxSystem

/-! ## §3 What a dispatcher has done with its rows -/

/-- A row is open for attempts, or processed, or given up after the last one. -/
structure OutboxRow.Sound (maximumAttempts : Nat) (row : OutboxRow) : Prop where
  undecided : row.processedAt = none ∨ row.deadLetterAt = none
  bounded : row.attemptCount ≤ maximumAttempts
  exhausted : row.Is .deadLettered ↔ row.attemptCount = maximumAttempts

namespace OutboxSystem

/-- The one attempt of the dispatcher at the row, as it was logged. -/
def Tallied (log : List OutboxEvent) (d : DispatcherId) (id : OutboxId) (resolved : Bool) : Prop :=
  log.count (.published d id) = (if resolved then 1 else 0) ∧
    log.count (.failed d id) = if resolved then 0 else 1

/-- An open transaction, against the committed rows and the log. -/
structure Working (config : OutboxDispatcherConfiguration) (outbox : Table OutboxId OutboxRow)
    (log : List OutboxEvent) (d : DispatcherId) (run : DispatcherRun) : Prop where
  claimed : run.claimed = run.updates.map Prod.fst ++ run.remaining.map Prod.fst
  distinct : run.claimed.Nodup
  remaining : ∀ e ∈ run.remaining, outbox.lookup e.1 = some e.2 ∧ e.2.Is .pending
  updated : ∀ e ∈ run.updates, ∃ row resolved, outbox.lookup e.1 = some row ∧ row.Is .pending ∧
    row.marked config run.now resolved = some e.2 ∧ Tallied log d e.1 resolved
  answered : ∀ resolved e rest, run.resolved = some resolved → run.remaining = e :: rest →
    Tallied log d e.1 resolved
  untried : ∀ id, id ∉ run.updates.map Prod.fst →
    (∀ e rest, run.resolved ≠ none → run.remaining = e :: rest → id ≠ e.1) →
      .published d id ∉ log ∧ .failed d id ∉ log
  uncommitted : .committed d ∉ log
  begun : .claimed d run.claimed ∈ log

/-- All rows, all dispatchers and the log fit together, whatever is rolled back. -/
structure Balanced (config : OutboxDispatcherConfiguration) (start sys : OutboxSystem) : Prop where
  rows : ∀ id row, sys.outbox.lookup id = some row → row.Sound config.maximumAttempts
  kept : ∀ id row, start.outbox.lookup id = some row → ∃ row', sys.outbox.lookup id = some row'
  attempts : ∀ id row, sys.outbox.lookup id = some row →
    row.attemptCount
      = ((start.outbox.lookup id).map (·.attemptCount)).getD 0 + committedFailures sys.log id
  processed : ∀ id row, sys.outbox.lookup id = some row → row.Is .processed →
    (∃ old, start.outbox.lookup id = some old ∧ old.Is .processed) ∨
      ∃ d, .published d id ∈ sys.log ∧ .committed d ∈ sys.log
  absent : ∀ id, sys.outbox.lookup id = none → ∀ d, .failed d id ∉ sys.log
  known : ∀ event ∈ sys.log, ∃ run, sys.dispatchers.lookup event.dispatcher = some run
  working : ∀ d run, sys.dispatchers.lookup d = some run → run.ended = false →
    Working config sys.outbox sys.log d run
  pending : ∀ d run, sys.dispatchers.lookup d = some run → ∀ e ∈ run.remaining,
    .committed d ∉ sys.log ∧ ∃ row, sys.outbox.lookup e.1 = some row
  exclusive : ∀ d d' run run' id, sys.dispatchers.lookup d = some run → run.ended = false →
    sys.dispatchers.lookup d' = some run' → run'.ended = false → id ∈ run.claimed →
      id ∈ run'.claimed → d = d'

/-- No dispatcher has run yet. -/
structure Resting (config : OutboxDispatcherConfiguration) (start : OutboxSystem) : Prop where
  rows : ∀ id row, start.outbox.lookup id = some row → row.Sound config.maximumAttempts
  idle : ∀ d, start.dispatchers.lookup d = none
  log : start.log = []

variable {config : OutboxDispatcherConfiguration} {start sys sys' : OutboxSystem}
  {outbox outbox' : Table OutboxId OutboxRow} {log : List OutboxEvent} {d : DispatcherId}
  {run : DispatcherRun} {id : OutboxId} {row : OutboxRow}

theorem failed_eq (row : OutboxRow) (config : OutboxDispatcherConfiguration) (now : Time) :
    ∃ availableAt, row.failed config now = some
      { row with
        attemptCount := row.attemptCount + 1
        availableAt := availableAt
        deadLetterAt :=
          if shouldDeadLetterOutboxEvent (row.attemptCount + 1) config.maximumAttempts then some now
          else none } := by
  refine ⟨now + min config.backoffMaximumMs
    (config.backoffBaseMs * 2 ^ min (row.attemptCount + 1 - 1) 30), ?_⟩
  simp [OutboxRow.failed, calculateOutboxBackoffMs]

/-- Every row can be marked: the second statement of the loop never throws. -/
theorem marked_isSome (row : OutboxRow) (config : OutboxDispatcherConfiguration) (now : Time)
    (resolved : Bool) : ∃ written, row.marked config now resolved = some written := by
  cases resolved with
  | true => exact ⟨_, rfl⟩
  | false =>
      obtain ⟨availableAt, hfailed⟩ := failed_eq row config now
      exact ⟨_, hfailed⟩

/-- What a mark makes of a pending row. -/
theorem marked_spec {written : OutboxRow} {now : Time} {resolved : Bool}
    (hsound : row.Sound config.maximumAttempts) (hpending : row.Is .pending)
    (h : row.marked config now resolved = some written) :
    written.Sound config.maximumAttempts ∧
      written.attemptCount = row.attemptCount + (if resolved then 0 else 1) ∧
      (written.Is .processed → resolved = true) := by
  obtain ⟨hunprocessed, halive⟩ := hpending
  have hbelow : row.attemptCount ≠ config.maximumAttempts := by
    intro hmax
    have hdead := hsound.exhausted.mpr hmax
    simp [OutboxRow.Is, halive] at hdead
  have hbounded := hsound.bounded
  cases resolved with
  | true =>
      cases h
      refine ⟨⟨.inr halive, hbounded, ?_⟩, rfl, fun _ => rfl⟩
      simpa [OutboxRow.Is, OutboxRow.processed, halive] using hbelow
  | false =>
      obtain ⟨availableAt, hfailed⟩ := failed_eq row config now
      have hwritten : row.failed config now = some written := h
      rw [hfailed] at hwritten
      cases hwritten
      refine ⟨⟨.inl hunprocessed, ?_, ?_⟩, rfl, ?_⟩
      · show row.attemptCount + 1 ≤ config.maximumAttempts
        omega
      · by_cases hlast : config.maximumAttempts ≤ row.attemptCount + 1
        · have heq : row.attemptCount + 1 = config.maximumAttempts := by omega
          simp [OutboxRow.Is, shouldDeadLetterOutboxEvent, heq]
        · have hne : row.attemptCount + 1 ≠ config.maximumAttempts := by omega
          simp [OutboxRow.Is, shouldDeadLetterOutboxEvent, hlast, hne]
      · simp [OutboxRow.Is, hunprocessed]

/-! ## §4 One dispatcher among others -/

theorem Working.rows (h : Working config outbox log d run)
    (hrows : ∀ id ∈ run.claimed, outbox'.lookup id = outbox.lookup id) :
    Working config outbox' log d run := by
  refine { h with remaining := fun e he => ?_, updated := fun e he => ?_ }
  · have hmem : e.1 ∈ run.claimed := by
      rw [h.claimed]
      exact List.mem_append_right _ (List.mem_map_of_mem he)
    rw [hrows e.1 hmem]
    exact h.remaining e he
  · have hmem : e.1 ∈ run.claimed := by
      rw [h.claimed]
      exact List.mem_append_left _ (List.mem_map_of_mem he)
    rw [hrows e.1 hmem]
    exact h.updated e he

theorem count_append_other {event other : OutboxEvent} (h : event ≠ other) :
    (log ++ [event]).count other = log.count other := by
  rw [List.count_append, List.count_singleton, if_neg (by simpa using h), Nat.add_zero]

theorem mem_append_other {event other : OutboxEvent} (h : event ≠ other) :
    other ∈ log ++ [event] ↔ other ∈ log := by
  simp [Ne.symm h]

/-- Something is logged that is no attempt of this dispatcher, nor its commit. -/
theorem Working.logs {event : OutboxEvent} (h : Working config outbox log d run)
    (hpublished : ∀ id, event ≠ .published d id) (hfailed : ∀ id, event ≠ .failed d id)
    (hcommitted : event ≠ .committed d) :
    Working config outbox (log ++ [event]) d run := by
  have htallied : ∀ {id resolved}, Tallied log d id resolved →
      Tallied (log ++ [event]) d id resolved := by
    intro id resolved ht
    rwa [Tallied, count_append_other (hpublished id), count_append_other (hfailed id)]
  refine
    { h with
      updated := fun e he => ?_
      answered := fun resolved e rest hr hrem => htallied (h.answered resolved e rest hr hrem)
      untried := fun id hid hhead => ?_
      uncommitted := ?_
      begun := List.mem_append_left _ h.begun }
  · obtain ⟨row, resolved, hrow, hpending, hmarked, ht⟩ := h.updated e he
    exact ⟨row, resolved, hrow, hpending, hmarked, htallied ht⟩
  · rw [mem_append_other (hpublished id), mem_append_other (hfailed id)]
    exact h.untried id hid hhead
  · rw [mem_append_other hcommitted]
    exact h.uncommitted

/-- Another dispatcher logs something. -/
theorem Working.others {event : OutboxEvent} (h : Working config outbox log d run)
    (hother : event.dispatcher ≠ d) : Working config outbox (log ++ [event]) d run := by
  have hne : ∀ own : OutboxEvent, own.dispatcher = d → event ≠ own := by
    rintro own rfl heq
    exact hother (congrArg OutboxEvent.dispatcher heq)
  exact h.logs (fun id => hne (.published d id) rfl) (fun id => hne (.failed d id) rfl)
    (hne (.committed d) rfl)

/-- A publish call is answered: the row at hand is tallied. -/
theorem Working.publish {e : OutboxId × OutboxRow} {rest : List (OutboxId × OutboxRow)}
    {resolved : Bool} (h : Working config outbox log d run) (hnone : run.resolved = none)
    (hremaining : run.remaining = e :: rest) :
    Working config outbox
      (log ++ [if resolved then .published d e.1 else .failed d e.1]) d
      { run with resolved := some resolved } := by
  have hfresh : e.1 ∉ run.updates.map Prod.fst := by
    have hdistinct := h.distinct
    rw [h.claimed, hremaining, List.map_cons, List.nodup_append] at hdistinct
    intro hmem
    exact hdistinct.2.2 e.1 hmem e.1 (List.mem_cons_self) rfl
  have huntried := h.untried e.1 hfresh fun _ _ hsome => absurd hnone hsome
  have hevent : ∀ id, id ≠ e.1 → ∀ own ∈ [OutboxEvent.published d id, .failed d id],
      (if resolved then OutboxEvent.published d e.1 else .failed d e.1) ≠ own := by
    intro id hid own hown
    simp only [List.mem_cons, List.not_mem_nil, or_false] at hown
    rcases hown with rfl | rfl <;> cases resolved <;> simp [Ne.symm hid]
  refine
    { h with
      updated := fun e' he' => ?_
      answered := fun resolved' e' rest' hr hrem => ?_
      untried := fun id hid hhead => ?_
      uncommitted := ?_
      begun := List.mem_append_left _ h.begun }
  · obtain ⟨row, resolved', hrow, hpending, hmarked, hp, hf⟩ := h.updated e' he'
    have hne : e'.1 ≠ e.1 := fun heq => hfresh (heq ▸ List.mem_map_of_mem he')
    refine ⟨row, resolved', hrow, hpending, hmarked, ?_, ?_⟩
    · rw [count_append_other (hevent _ hne _ (by simp))]
      exact hp
    · rw [count_append_other (hevent _ hne _ (by simp))]
      exact hf
  · cases hr
    cases hremaining.symm.trans hrem
    have hzero := List.count_eq_zero.mpr huntried.1
    have hzero' := List.count_eq_zero.mpr huntried.2
    cases resolved <;> simp [Tallied, hzero, hzero']
  · have hne : id ≠ e.1 := hhead e rest (by simp) hremaining
    rw [mem_append_other (hevent id hne _ (by simp)), mem_append_other (hevent id hne _ (by simp))]
    exact h.untried id hid fun _ _ hsome => absurd hnone hsome
  · rw [mem_append_other (by cases resolved <;> simp)]
    exact h.uncommitted

/-- The row at hand is written. -/
theorem Working.mark {e : OutboxId × OutboxRow} {rest : List (OutboxId × OutboxRow)}
    {resolved : Bool} {written : OutboxRow} {result : OutboxDispatchResult}
    (h : Working config outbox log d run) (hresolved : run.resolved = some resolved)
    (hremaining : run.remaining = e :: rest)
    (hmarked : e.2.marked config run.now resolved = some written) :
    Working config outbox log d
      { run with
        remaining := rest, resolved := none, updates := run.updates ++ [(e.1, written)]
        result := result } where
  claimed := by
    rw [h.claimed, hremaining]
    simp
  distinct := h.distinct
  remaining := fun e' he' => h.remaining e' (hremaining ▸ List.mem_cons_of_mem e he')
  updated := by
    intro e' he'
    rcases List.mem_append.mp he' with hold | hnew
    · exact h.updated e' hold
    · cases List.mem_singleton.mp hnew
      obtain ⟨hrow, hpending⟩ := h.remaining e (hremaining ▸ List.mem_cons_self)
      exact ⟨e.2, resolved, hrow, hpending, hmarked,
        h.answered resolved e rest hresolved hremaining⟩
  answered := fun _ _ _ hr => by cases hr
  untried := by
    intro id hid _
    rw [List.map_append, List.mem_append, not_or] at hid
    refine h.untried id hid.1 fun e' rest' _ hrem heq => hid.2 ?_
    cases hremaining.symm.trans hrem
    simp [heq]
  uncommitted := h.uncommitted
  begun := h.begun

/-- The rows that were locked are there. -/
theorem Working.present (h : Working config outbox log d run) (hid : id ∈ run.claimed) :
    ∃ row, outbox.lookup id = some row := by
  rw [h.claimed, List.mem_append] at hid
  rcases hid with hid | hid
  · obtain ⟨e, he, rfl⟩ := List.mem_map.mp hid
    obtain ⟨row, -, hrow, -⟩ := h.updated e he
    exact ⟨row, hrow⟩
  · obtain ⟨e, he, rfl⟩ := List.mem_map.mp hid
    exact ⟨e.2, (h.remaining e he).1⟩

/-! ## §5 All of them -/

theorem committedFailures_eq_zero (h : ∀ d, .failed d id ∉ log) : committedFailures log id = 0 := by
  unfold committedFailures
  rw [List.countP_eq_zero]
  intro event hevent
  cases event with
  | failed d id' =>
      have hne : id' ≠ id := fun heq => h d (heq ▸ hevent)
      simp [hne]
  | _ => simp

/-- Nothing but a commit makes failures of committed transactions. -/
theorem committedFailures_append {event : OutboxEvent} (hcommitted : ∀ d, event ≠ .committed d)
    (hfailed : ∀ d id, event = .failed d id → .committed d ∉ log) (id : OutboxId) :
    committedFailures (log ++ [event]) id = committedFailures log id := by
  have hcontains : ∀ d, (log ++ [event]).contains (.committed d) = log.contains (.committed d) := by
    intro d
    simp [Ne.symm (hcommitted d)]
  unfold committedFailures
  simp only [hcontains]
  rw [List.countP_append]
  have hlast : ([event].countP fun
      | .failed d id' => id' == id && log.contains (.committed d)
      | _ => false) = 0 := by
    cases event with
    | failed d id' => simp [hfailed d id' rfl]
    | _ => rfl
  rw [hlast, Nat.add_zero]

/-- A commit makes the failures of its transaction count. -/
theorem committedFailures_committed (h : OutboxEvent.committed d ∉ log) (id : OutboxId) :
    committedFailures (log ++ [.committed d]) id = committedFailures log id + log.count
      (.failed d id) := by
  have hcount : ∀ l : List OutboxEvent, (l.countP fun
      | .failed d' id' => id' == id && (log ++ [OutboxEvent.committed d]).contains (.committed d')
      | _ => false)
      = (l.countP fun
          | .failed d' id' => id' == id && log.contains (.committed d')
          | _ => false) + l.count (.failed d id) := by
    intro l
    induction l with
    | nil => rfl
    | cons event l ih =>
        rw [List.countP_cons, List.countP_cons, List.count_cons, ih]
        cases event with
        | failed d' id' =>
            by_cases hd : d' = d
            · subst hd
              by_cases hid : id' = id <;> simp [hid, h]
              omega
            · by_cases hid : id' = id <;> simp [hid, hd]
              omega
        | _ => simp
  unfold committedFailures
  rw [List.countP_append, hcount log]
  rfl

/-- Where nothing was rolled back, all failures are of committed transactions. -/
theorem failures_eq_committedFailures (h : ∀ d, .rolledBack d ∉ log) (id : OutboxId) :
    failures log id = committedFailures log id := by
  unfold failures committedFailures
  refine List.countP_congr fun event _ => ?_
  cases event with
  | failed d id' => simp [h d]
  | _ => rfl

/-- A dispatcher goes on in its transaction, ends it without a commit, or hears from a
call that was under way then. -/
theorem Balanced.moves {run' : DispatcherRun} {event : OutboxEvent}
    (h : Balanced config start sys) (hown : event.dispatcher = d)
    (hcommitted : ∀ d, event ≠ .committed d)
    (hfailed : ∀ d' id, event = .failed d' id →
      .committed d' ∉ sys.log ∧ ∃ row, sys.outbox.lookup id = some row)
    (hworking : run'.ended = false → Working config sys.outbox (sys.log ++ [event]) d run')
    (hpending : ∀ e ∈ run'.remaining,
      .committed d ∉ sys.log ∧ ∃ row, sys.outbox.lookup e.1 = some row)
    (halone : run'.ended = false → ∀ d' other id, d' ≠ d →
      sys.dispatchers.lookup d' = some other → other.ended = false → id ∈ run'.claimed →
        id ∉ other.claimed) :
    Balanced config start (sys.moves d run' event) where
  rows := h.rows
  kept := h.kept
  attempts := by
    intro id row hrow
    show _ = _ + committedFailures (sys.log ++ [event]) id
    rw [committedFailures_append hcommitted (fun d' id' heq => (hfailed d' id' heq).1)]
    exact h.attempts id row hrow
  processed := by
    intro id row hrow hprocessed
    rcases h.processed id row hrow hprocessed with hold | ⟨d', hpub, hcom⟩
    · exact .inl hold
    · exact .inr ⟨d', List.mem_append_left _ hpub, List.mem_append_left _ hcom⟩
  absent := by
    intro id hnone d' hmem
    rcases List.mem_append.mp hmem with hold | hnew
    · exact h.absent id hnone d' hold
    · obtain ⟨row, hrow⟩ := (hfailed d' id (List.mem_singleton.mp hnew).symm).2
      rw [show sys.outbox.lookup id = none from hnone] at hrow
      cases hrow
  known := by
    intro event' hmem
    show ∃ other, (sys.dispatchers.insert d run').lookup event'.dispatcher = some other
    by_cases hd : event'.dispatcher = d
    · rw [hd, AList.lookup_insert]
      exact ⟨run', rfl⟩
    · rw [AList.lookup_insert_ne hd]
      rcases List.mem_append.mp hmem with hold | hnew
      · exact h.known event' hold
      · cases List.mem_singleton.mp hnew
        exact absurd hown hd
  working := by
    intro d' other hother hopen
    rcases Table.wrote_insert.cases hother with ⟨rfl, rfl⟩ | ⟨hne, hold⟩
    · exact hworking hopen
    · exact (h.working d' other hold hopen).others fun heq => hne (heq.symm.trans hown)
  pending := by
    intro d' other hother e he
    show .committed d' ∉ sys.log ++ [event] ∧ _
    rw [mem_append_other (hcommitted d')]
    rcases Table.wrote_insert.cases hother with ⟨rfl, rfl⟩ | ⟨-, hold⟩
    · exact hpending e he
    · exact h.pending d' other hold e he
  exclusive := by
    intro d₁ d₂ run₁ run₂ id h₁ hopen₁ h₂ hopen₂ hid₁ hid₂
    rcases Table.wrote_insert.cases h₁ with ⟨rfl, rfl⟩ | ⟨hne₁, hold₁⟩ <;>
      rcases Table.wrote_insert.cases h₂ with ⟨rfl, rfl⟩ | ⟨hne₂, hold₂⟩
    · rfl
    · exact absurd hid₂ (halone hopen₁ d₂ run₂ id hne₂ hold₂ hopen₂ hid₁)
    · exact absurd hid₁ (halone hopen₂ d₁ run₁ id hne₁ hold₁ hopen₁ hid₂)
    · exact h.exclusive d₁ d₂ run₁ run₂ id hold₁ hopen₁ hold₂ hopen₂ hid₁ hid₂

theorem Balanced.alone {other : DispatcherRun} {d' : DispatcherId} (h : Balanced config start sys)
    (hrun : sys.dispatchers.lookup d = some run) (hopen : run.ended = false) (hne : d' ≠ d)
    (hother : sys.dispatchers.lookup d' = some other) (hopen' : other.ended = false)
    (hid : id ∈ run.claimed) : id ∉ other.claimed := by
  intro hid'
  exact hne (h.exclusive d' d other run id hother hopen' hrun hopen hid' hid)

theorem Balanced.rollBack (h : Balanced config start sys)
    (hrun : sys.dispatchers.lookup d = some run) : Balanced config start (sys.rollBack d run) :=
  h.moves rfl (by simp) (by simp) (by simp) (h.pending d run hrun) (by simp)

/-- The answer to a call, whether or not the transaction is still open. -/
theorem Balanced.publish {e : OutboxId × OutboxRow} {rest : List (OutboxId × OutboxRow)}
    (h : Balanced config start sys) (hrun : sys.dispatchers.lookup d = some run)
    (hnone : run.resolved = none) (hremaining : run.remaining = e :: rest) (resolves : Bool) :
    Balanced config start (sys.publish d run e resolves) := by
  have hpending := h.pending d run hrun
  have hown := hpending e (hremaining ▸ List.mem_cons_self)
  have hanswered : ∀ resolved : Bool, run.ended = false → Working config sys.outbox
      (sys.log ++ [if resolved then .published d e.1 else .failed d e.1]) d
      { run with resolved := some resolved } :=
    fun resolved hopen => (h.working d run hrun hopen).publish hnone hremaining
  have halone : run.ended = false → ∀ d' other id, d' ≠ d →
      sys.dispatchers.lookup d' = some other → other.ended = false → id ∈ run.claimed →
        id ∉ other.claimed :=
    fun hopen _ _ _ hne hother hopen' hid => h.alone hrun hopen hne hother hopen' hid
  unfold OutboxSystem.publish
  split
  · exact h.moves rfl (by simp) (by simp) (hanswered true) hpending halone
  · exact h.moves rfl (by simp) (by rintro _ _ ⟨⟩; exact hown) (hanswered false) hpending halone

theorem Balanced.mark {e : OutboxId × OutboxRow} {rest : List (OutboxId × OutboxRow)}
    {resolved : Bool} (h : Balanced config start sys)
    (hrun : sys.dispatchers.lookup d = some run) (hopen : run.ended = false)
    (hresolved : run.resolved = some resolved) (hremaining : run.remaining = e :: rest) :
    Balanced config start (sys.mark config d run e rest resolved) := by
  have hworking := h.working d run hrun hopen
  have hpending := h.pending d run hrun
  obtain ⟨written, hmarked⟩ := marked_isSome e.2 config run.now resolved
  simp only [OutboxSystem.mark, hmarked]
  refine h.moves rfl (by simp) (by simp) (fun _ => ?_)
    (fun e' he' => hpending e' (hremaining ▸ List.mem_cons_of_mem e he'))
    fun _ d' other id hne hother hopen' hid => h.alone hrun hopen hne hother hopen' hid
  exact (hworking.mark hresolved hremaining hmarked).logs (by simp) (by simp) (by simp)

theorem mem_claimable {batchSize : Nat} {now : Time} {e : OutboxId × OutboxRow}
    (h : e ∈ sys.claimable batchSize now) :
    sys.outbox.lookup e.1 = some e.2 ∧ e.2.Is .pending ∧ sys.locked e.1 = false := by
  obtain ⟨hrow, hdue⟩ := Table.mem_ordered.mp (List.mem_of_mem_take h)
  simp only [Bool.and_eq_true, Bool.not_eq_true', OutboxRow.due, Option.isNone_iff_eq_none] at hdue
  exact ⟨hrow, ⟨hdue.1.1.1, hdue.1.1.2⟩, hdue.2⟩

theorem nodup_claimable (batchSize : Nat) (now : Time) :
    ((sys.claimable batchSize now).map Prod.fst).Nodup :=
  Table.nodup_ordered.sublist ((List.take_sublist _ _).map _)

/-- A dispatcher that has not begun has logged nothing. -/
theorem Balanced.silent (h : Balanced config start sys)
    (hfresh : sys.dispatchers.lookup d = none) : ∀ event ∈ sys.log, event.dispatcher ≠ d := by
  intro event hevent heq
  obtain ⟨run, hrun⟩ := h.known event hevent
  rw [heq, hfresh] at hrun
  cases hrun

theorem Balanced.claim (h : Balanced config start sys)
    (hfresh : sys.dispatchers.lookup d = none) (now : Time) :
    Balanced config start (sys.claim config d now) := by
  have hsilent := h.silent hfresh
  refine h.moves rfl (by simp) (by simp) (fun _ => ?_) ?_ ?_
  · refine ⟨by simp, nodup_claimable _ now, fun e he => ?_, by simp, by simp, fun id _ _ => ?_, ?_,
      List.mem_append_right _ (List.mem_singleton_self _)⟩
    · obtain ⟨hrow, hpending, -⟩ := mem_claimable he
      exact ⟨hrow, hpending⟩
    · rw [mem_append_other (by simp), mem_append_other (by simp)]
      exact ⟨fun hmem => hsilent _ hmem rfl, fun hmem => hsilent _ hmem rfl⟩
    · rw [mem_append_other (by simp)]
      exact fun hmem => hsilent _ hmem rfl
  · intro e he
    exact ⟨fun hmem => hsilent _ hmem rfl, e.2, (mem_claimable he).1⟩
  · intro _ d' other id _ hother hopen hid hid'
    obtain ⟨e, he, rfl⟩ := List.mem_map.mp hid
    have hunlocked := (mem_claimable he).2.2
    unfold locked at hunlocked
    have hclear := Table.any_eq_false.mp hunlocked d' other hother
    simp [hopen, hid'] at hclear

/-! ### Commits -/

section Commit

variable (h : Working config outbox log d run) (hdone : run.remaining = [])

include h hdone

theorem Working.claimed_updates : run.claimed = run.updates.map Prod.fst := by
  rw [h.claimed, hdone]
  simp

theorem Working.untouched (hid : id ∉ run.claimed) :
    (outbox.putAll run.updates).lookup id = outbox.lookup id :=
  Table.lookup_putAll_of_notMem (h.claimed_updates hdone ▸ hid)

/-- A committed row is one that the transaction wrote, or an old one. -/
theorem Working.committed_cases (hrow : (outbox.putAll run.updates).lookup id = some row) :
    (id ∈ run.claimed ∧ ∃ old resolved, outbox.lookup id = some old ∧ old.Is .pending ∧
      old.marked config run.now resolved = some row ∧ Tallied log d id resolved) ∨
    (id ∉ run.claimed ∧ outbox.lookup id = some row) := by
  by_cases hid : id ∈ run.claimed
  · obtain ⟨e, he, rfl⟩ := List.mem_map.mp (h.claimed_updates hdone ▸ hid)
    have hwritten : (outbox.putAll run.updates).lookup e.1 = some e.2 :=
      Table.lookup_putAll_of_mem (h.claimed_updates hdone ▸ h.distinct) he
    cases hwritten.symm.trans hrow
    exact .inl ⟨hid, h.updated e he⟩
  · exact .inr ⟨hid, h.untouched hdone hid ▸ hrow⟩

theorem Working.committed_present (hrow : outbox.lookup id = some row) :
    ∃ row', (outbox.putAll run.updates).lookup id = some row' := by
  by_cases hid : id ∈ run.claimed
  · obtain ⟨e, he, rfl⟩ := List.mem_map.mp (h.claimed_updates hdone ▸ hid)
    exact ⟨e.2, Table.lookup_putAll_of_mem (h.claimed_updates hdone ▸ h.distinct) he⟩
  · exact ⟨row, (h.untouched hdone hid).trans hrow⟩

/-- The failures of the transaction are those that it has written down. -/
theorem Working.committed_attempts
    (hrows : ∀ id row, outbox.lookup id = some row → row.Sound config.maximumAttempts)
    (hrow : (outbox.putAll run.updates).lookup id = some row) :
    ∃ old, outbox.lookup id = some old ∧
      row.attemptCount = old.attemptCount + log.count (.failed d id) := by
  rcases h.committed_cases hdone hrow with ⟨-, old, resolved, hold, hpending, hmarked, htally⟩ |
    ⟨hid, hold⟩
  · refine ⟨old, hold, ?_⟩
    rw [(marked_spec (hrows id old hold) hpending hmarked).2.1, htally.2]
  · refine ⟨row, hold, ?_⟩
    have huntried := (h.untried id (h.claimed_updates hdone ▸ hid) fun e rest _ hrem => by
      cases hdone.symm.trans hrem).2
    rw [List.count_eq_zero.mpr huntried, Nat.add_zero]

/-- What counts as processed was published by the transaction, or was processed before. -/
theorem Working.committed_processed
    (hrows : ∀ id row, outbox.lookup id = some row → row.Sound config.maximumAttempts)
    (hrow : (outbox.putAll run.updates).lookup id = some row) (hprocessed : row.Is .processed) :
    .published d id ∈ log ∨ outbox.lookup id = some row := by
  rcases h.committed_cases hdone hrow with ⟨-, old, resolved, hold, hpending, hmarked, htally⟩ |
    ⟨-, hold⟩
  · cases (marked_spec (hrows id old hold) hpending hmarked).2.2 hprocessed
    refine .inl (List.count_pos_iff.mp ?_)
    rw [htally.1]
    exact Nat.one_pos
  · exact .inr hold

end Commit

theorem Balanced.commit (h : Balanced config start sys)
    (hrun : sys.dispatchers.lookup d = some run) (hopen : run.ended = false)
    (hdone : run.remaining = []) : Balanced config start (sys.commit d run) := by
  have hworking := h.working d run hrun hopen
  refine ⟨?_, ?_, ?_, ?_, ?_, ?_, ?_, ?_, ?_⟩
  · intro id row hrow
    rcases hworking.committed_cases hdone hrow with ⟨-, old, resolved, hold, hpending, hmarked, -⟩ |
      ⟨-, hold⟩
    · exact (marked_spec (h.rows id old hold) hpending hmarked).1
    · exact h.rows id row hold
  · intro id row hrow
    obtain ⟨row', hrow'⟩ := h.kept id row hrow
    exact hworking.committed_present hdone hrow'
  · intro id row hrow
    obtain ⟨old, hold, hattempts⟩ := hworking.committed_attempts hdone h.rows hrow
    show _ = _ + committedFailures (sys.log ++ [.committed d]) id
    rw [committedFailures_committed hworking.uncommitted, hattempts, h.attempts id old hold,
      Nat.add_assoc]
  · intro id row hrow hprocessed
    rcases hworking.committed_processed hdone h.rows hrow hprocessed with hpublished | hold
    · exact .inr ⟨d, List.mem_append_left _ hpublished,
        List.mem_append_right _ (List.mem_singleton_self _)⟩
    · rcases h.processed id row hold hprocessed with hstart | ⟨d', hpub, hcom⟩
      · exact .inl hstart
      · exact .inr ⟨d', List.mem_append_left _ hpub, List.mem_append_left _ hcom⟩
  · intro id hnone d' hmem
    have hgone : sys.outbox.lookup id = none := by
      rw [Option.eq_none_iff_forall_ne_some]
      intro row hrow
      obtain ⟨row', hrow'⟩ := hworking.committed_present hdone hrow
      cases hrow'.symm.trans hnone
    exact h.absent id hgone d' ((mem_append_other (by simp)).mp hmem)
  · intro event hmem
    show ∃ other, (sys.dispatchers.insert d _).lookup event.dispatcher = some other
    by_cases hd : event.dispatcher = d
    · rw [hd, AList.lookup_insert]
      exact ⟨_, rfl⟩
    · rw [AList.lookup_insert_ne hd]
      rcases List.mem_append.mp hmem with hold | hnew
      · exact h.known event hold
      · cases List.mem_singleton.mp hnew
        exact absurd rfl hd
  · intro d' other hother hopen'
    rcases Table.wrote_insert.cases hother with ⟨rfl, rfl⟩ | ⟨hne, hold⟩
    · cases hopen'
    · have hothers : Working config sys.outbox (sys.log ++ [.committed d]) d' other :=
        (h.working d' other hold hopen').others fun heq => hne heq.symm
      exact hothers.rows fun id hid => hworking.untouched hdone fun hid' =>
        h.alone hrun hopen hne hold hopen' hid' hid
  · intro d' other hother e he
    rcases Table.wrote_insert.cases hother with ⟨rfl, rfl⟩ | ⟨hne, hold⟩
    · cases (hdone ▸ he : e ∈ [])
    · obtain ⟨huncommitted, row, hrow⟩ := h.pending d' other hold e he
      refine ⟨?_, hworking.committed_present hdone hrow⟩
      show .committed d' ∉ sys.log ++ [.committed d]
      rwa [mem_append_other (by simpa using Ne.symm hne)]
  · intro d₁ d₂ run₁ run₂ id h₁ hopen₁ h₂ hopen₂ hid₁ hid₂
    rcases Table.wrote_insert.cases h₁ with ⟨rfl, rfl⟩ | ⟨-, hold₁⟩
    · cases hopen₁
    · rcases Table.wrote_insert.cases h₂ with ⟨rfl, rfl⟩ | ⟨-, hold₂⟩
      · cases hopen₂
      · exact h.exclusive d₁ d₂ run₁ run₂ id hold₁ hopen₁ hold₂ hopen₂ hid₁ hid₂

theorem Balanced.enqueue (h : Balanced config start sys) (hmaximum : 0 < config.maximumAttempts)
    (hnone : sys.outbox.lookup id = none) (sessionId : SessionId) (serverTimestamp : String)
    (now : Time) :
    Balanced config start
      { sys with outbox := sys.outbox.insert id (enqueued id sessionId serverTimestamp now) } := by
  have hfresh : start.outbox.lookup id = none := by
    rw [Option.eq_none_iff_forall_ne_some]
    intro row hrow
    obtain ⟨row', hrow'⟩ := h.kept id row hrow
    cases hrow'.symm.trans hnone
  refine
    { h with
      rows := ?_, kept := ?_, attempts := ?_, processed := ?_, absent := ?_, working := ?_
      pending := ?_ }
  · intro id' row hrow
    rcases Table.wrote_insert.cases hrow with ⟨rfl, rfl⟩ | ⟨-, hold⟩
    · refine ⟨.inl rfl, Nat.zero_le _, ?_⟩
      simpa [OutboxRow.Is, enqueued] using hmaximum.ne
    · exact h.rows id' row hold
  · intro id' row hrow
    obtain ⟨row', hrow'⟩ := h.kept id' row hrow
    exact ⟨row', Table.wrote_insert.keeps hnone hrow'⟩
  · intro id' row hrow
    rcases Table.wrote_insert.cases hrow with ⟨rfl, rfl⟩ | ⟨-, hold⟩
    · rw [hfresh, committedFailures_eq_zero (h.absent _ hnone)]
      rfl
    · exact h.attempts id' row hold
  · intro id' row hrow hprocessed
    rcases Table.wrote_insert.cases hrow with ⟨rfl, rfl⟩ | ⟨-, hold⟩
    · cases hprocessed
    · exact h.processed id' row hold hprocessed
  · intro id' hgone d hmem
    by_cases hid : id' = id
    · subst hid
      exact h.absent id' hnone d hmem
    · exact h.absent id' ((Table.wrote_insert.lookup_ne hid).symm.trans hgone) d hmem
  · intro d run hrun hopen
    have hworking := h.working d run hrun hopen
    refine hworking.rows fun id' hid' => Table.wrote_insert.lookup_ne ?_
    rintro rfl
    obtain ⟨row, hrow⟩ := hworking.present hid'
    cases hrow.symm.trans hnone
  · intro d run hrun e he
    obtain ⟨huncommitted, row, hrow⟩ := h.pending d run hrun e he
    exact ⟨huncommitted, row, Table.wrote_insert.keeps hnone hrow⟩

theorem Balanced.step {a : OutboxAction} (h : Balanced config start sys)
    (hmaximum : 0 < config.maximumAttempts) (hstep : sys.step config a = some sys') :
    Balanced config start sys' := by
  cases a with
  | enqueue id sessionId serverTimestamp now =>
      simp only [OutboxSystem.step] at hstep
      split at hstep <;> cases hstep
      exact h.enqueue hmaximum ‹_› sessionId serverTimestamp now
  | claim d now =>
      simp only [OutboxSystem.step] at hstep
      split at hstep <;> cases hstep
      exact h.claim ‹_› now
  | publish d resolves =>
      simp only [OutboxSystem.step] at hstep
      split at hstep
      · rename_i run hrun
        split at hstep <;> cases hstep
        rename_i hnone hremaining
        exact h.publish hrun hnone hremaining resolves
      · cases hstep
  | mark d =>
      simp only [OutboxSystem.step] at hstep
      split at hstep
      · rename_i run hrun
        split at hstep <;> cases hstep
        rename_i hopen hresolved hremaining
        exact h.mark hrun hopen hresolved hremaining
      · cases hstep
  | commit d =>
      simp only [OutboxSystem.step] at hstep
      split at hstep
      · rename_i run hrun
        split at hstep <;> cases hstep
        rename_i hopen hdone
        exact h.commit hrun hopen hdone
      · cases hstep
  | rollBack d =>
      simp only [OutboxSystem.step] at hstep
      split at hstep
      · rename_i run hrun
        split at hstep <;> cases hstep
        exact h.rollBack hrun
      · cases hstep

theorem Resting.balanced (h : Resting config start) : Balanced config start start where
  rows := h.rows
  kept := fun _ row hrow => ⟨row, hrow⟩
  attempts := fun id row hrow => by
    rw [hrow, h.log]
    rfl
  processed := fun _ row hrow hprocessed => .inl ⟨row, hrow, hprocessed⟩
  absent := fun id _ d hmem => by
    rw [h.log] at hmem
    cases hmem
  known := fun event hmem => by
    rw [h.log] at hmem
    cases hmem
  working := fun d run hrun => by
    rw [h.idle d] at hrun
    cases hrun
  pending := fun d run hrun => by
    rw [h.idle d] at hrun
    cases hrun
  exclusive := fun d _ run _ _ hrun => by
    rw [h.idle d] at hrun
    cases hrun

/-- A row is exactly one of pending, processed and dead-lettered. -/
theorem status_of_sound (h : row.Sound config.maximumAttempts) : ∃! status, row.Is status := by
  rcases h.undecided with hnone | hnone
  · cases hdead : row.deadLetterAt with
    | none =>
        refine ⟨.pending, ⟨hnone, hdead⟩, fun status hstatus => ?_⟩
        cases status <;> simp_all [OutboxRow.Is]
    | some at' =>
        refine ⟨.deadLettered, by simp [OutboxRow.Is, hdead], fun status hstatus => ?_⟩
        cases status <;> simp_all [OutboxRow.Is]
  · cases hprocessed : row.processedAt with
    | none =>
        refine ⟨.pending, ⟨hprocessed, hnone⟩, fun status hstatus => ?_⟩
        cases status <;> simp_all [OutboxRow.Is]
    | some at' =>
        refine ⟨.processed, by simp [OutboxRow.Is, hprocessed], fun status hstatus => ?_⟩
        cases status <;> simp_all [OutboxRow.Is]

/-- **Rows.** Whatever the dispatchers do, in any order, with any answers from the transport
and any transactions rolled back: no row is lost; each is exactly one of pending, processed
and dead-lettered; a row that has been processed was published by a dispatcher that
committed; and the attempts are the failures of committed transactions, never more than the
maximum, and have reached it exactly when the row is dead-lettered. -/
theorem rows_balanced (hmaximum : 0 < config.maximumAttempts) (hstart : Resting config start)
    (hreach : Reaches (OutboxSystem.step config) (fun _ _ => True) start sys) :
    (∀ id row, start.outbox.lookup id = some row → ∃ row', sys.outbox.lookup id = some row') ∧
    ∀ id row, sys.outbox.lookup id = some row →
      (∃! status, row.Is status) ∧
      (row.Is .processed →
        (∃ old, start.outbox.lookup id = some old ∧ old.Is .processed) ∨
          ∃ d, .published d id ∈ sys.log ∧ .committed d ∈ sys.log) ∧
      row.attemptCount
        = ((start.outbox.lookup id).map (·.attemptCount)).getD 0 + committedFailures sys.log id ∧
      row.attemptCount ≤ config.maximumAttempts ∧
      (row.Is .deadLettered ↔ row.attemptCount = config.maximumAttempts) := by
  have hbalanced : Balanced config start sys :=
    hreach.invariant hstart.balanced fun _ _ _ _ hstep hs => hs.step hmaximum hstep
  refine ⟨hbalanced.kept, fun id row hrow => ?_⟩
  have hsound := hbalanced.rows id row hrow
  exact ⟨status_of_sound hsound, hbalanced.processed id row hrow, hbalanced.attempts id row hrow,
    hsound.bounded, hsound.exhausted⟩

/-! ## §6 While nothing is rolled back -/

/-- Since the dispatcher claimed its rows, nobody else has published any of them. -/
def Alone (log : List OutboxEvent) (d : DispatcherId) (ids : List OutboxId) : Prop :=
  ∀ before after claimed, log = before ++ .claimed d claimed :: after →
    claimed = ids ∧ ∀ d' id, id ∈ ids → .published d' id ∈ after → d' = d

theorem Alone.append {ids : List OutboxId} {event : OutboxEvent} (h : Alone log d ids)
    (hclaim : ∀ claimed, event ≠ .claimed d claimed)
    (hpublish : ∀ d' id, event = .published d' id → id ∈ ids → d' = d) :
    Alone (log ++ [event]) d ids := by
  intro before after claimed hlog
  rcases split_log hlog with ⟨rfl, hlast, -⟩ | ⟨after', rfl, hold⟩
  · exact absurd hlast.symm (hclaim claimed)
  · obtain ⟨hids, halone⟩ := h before after' claimed hold
    refine ⟨hids, fun d' id hid hmem => ?_⟩
    rw [List.mem_append, List.mem_singleton] at hmem
    rcases hmem with hmem | heq
    · exact halone d' id hid hmem
    · exact hpublish d' id heq.symm hid

/-- No transaction has been rolled back: none that has ended has left anything undone, and
the rows of an open one are its own. -/
structure Unbroken (sys : OutboxSystem) : Prop where
  whole : ∀ d, .rolledBack d ∉ sys.log
  finished : ∀ d run, sys.dispatchers.lookup d = some run → run.ended = true → run.remaining = []
  alone : ∀ d run, sys.dispatchers.lookup d = some run → run.ended = false →
    Alone sys.log d run.claimed

theorem Resting.unbroken (h : Resting config start) : start.Unbroken where
  whole := fun d hmem => by
    rw [h.log] at hmem
    cases hmem
  finished := fun d run hrun => by
    rw [h.idle d] at hrun
    cases hrun
  alone := fun d run hrun => by
    rw [h.idle d] at hrun
    cases hrun

/-- A dispatcher goes on in its transaction or commits. -/
theorem Unbroken.moves {run' : DispatcherRun} {event : OutboxEvent} (h : sys.Unbroken)
    (hown : event.dispatcher = d) (hwhole : ∀ d, event ≠ .rolledBack d)
    (hfinished : run'.ended = true → run'.remaining = [])
    (halone : run'.ended = false → Alone (sys.log ++ [event]) d run'.claimed)
    (hlocked : ∀ id, event = .published d id → ∀ d' other, d' ≠ d →
      sys.dispatchers.lookup d' = some other → other.ended = false → id ∉ other.claimed) :
    (sys.moves d run' event).Unbroken where
  whole := by
    intro d'
    show .rolledBack d' ∉ sys.log ++ [event]
    rw [mem_append_other (hwhole d')]
    exact h.whole d'
  finished := by
    intro d' other hother hended
    rcases Table.wrote_insert.cases hother with ⟨rfl, rfl⟩ | ⟨-, hold⟩
    · exact hfinished hended
    · exact h.finished d' other hold hended
  alone := by
    intro d' other hother hopen
    rcases Table.wrote_insert.cases hother with ⟨rfl, rfl⟩ | ⟨hne, hold⟩
    · exact halone hopen
    · refine (h.alone d' other hold hopen).append (fun claimed heq => ?_) fun d'' id heq hid => ?_
      · subst heq
        exact hne hown
      · subst heq
        cases hown
        exact absurd hid (hlocked id rfl d' other hne hold hopen)

theorem Unbroken.claim (h : sys.Unbroken) (hb : Balanced config start sys)
    (hfresh : sys.dispatchers.lookup d = none) (now : Time) :
    (sys.claim config d now).Unbroken := by
  refine h.moves rfl (by simp) (by simp) (fun _ => ?_) (by simp)
  intro before after claimed hlog
  rcases split_log hlog with ⟨rfl, hlast, -⟩ | ⟨after', rfl, hold⟩
  · cases hlast
    exact ⟨rfl, by simp⟩
  · have hmem : .claimed d claimed ∈ sys.log := by
      rw [hold]
      simp
    exact absurd rfl (hb.silent hfresh _ hmem)

theorem Unbroken.publish {e : OutboxId × OutboxRow} {rest : List (OutboxId × OutboxRow)}
    (h : sys.Unbroken) (hb : Balanced config start sys)
    (hrun : sys.dispatchers.lookup d = some run) (hremaining : run.remaining = e :: rest)
    (resolves : Bool) : (sys.publish d run e resolves).Unbroken := by
  have hopen : run.ended = false := by
    rw [← Bool.not_eq_true]
    intro hended
    cases hremaining.symm.trans (h.finished d run hrun hended)
  have hlocked : e.1 ∈ run.claimed := by
    rw [(hb.working d run hrun hopen).claimed, hremaining]
    simp
  have halone := h.alone d run hrun hopen
  unfold OutboxSystem.publish
  split
  · refine h.moves rfl (by simp) (fun hended => ?_) (fun _ => ?_) ?_
    · exact h.finished d run hrun hended
    · exact halone.append (by simp) (by rintro _ _ ⟨⟩ _; rfl)
    · rintro _ ⟨⟩ d' other hne hother hopen'
      exact hb.alone hrun hopen hne hother hopen' hlocked
  · refine h.moves rfl (by simp) (fun hended => ?_) (fun _ => ?_) (by simp)
    · exact h.finished d run hrun hended
    · exact halone.append (by simp) (by simp)

theorem Unbroken.mark {e : OutboxId × OutboxRow} {rest : List (OutboxId × OutboxRow)}
    {resolved : Bool} (h : sys.Unbroken) (hrun : sys.dispatchers.lookup d = some run)
    (hopen : run.ended = false) : (sys.mark config d run e rest resolved).Unbroken := by
  obtain ⟨written, hmarked⟩ := marked_isSome e.2 config run.now resolved
  simp only [OutboxSystem.mark, hmarked]
  refine h.moves rfl (by simp) (by simp [hopen]) (fun _ => ?_) (by simp)
  exact (h.alone d run hrun hopen).append (by simp) (by simp)

theorem Unbroken.commit (h : sys.Unbroken) (hdone : run.remaining = []) :
    (sys.commit d run).Unbroken := by
  have hmoved : (sys.moves d { run with ended := true } (.committed d)).Unbroken :=
    h.moves rfl (by simp) (fun _ => hdone) (by simp) (by simp)
  exact ⟨hmoved.whole, hmoved.finished, hmoved.alone⟩

theorem Unbroken.step {a : OutboxAction} (h : sys.Unbroken) (hb : Balanced config start sys)
    (ha : a.rollsBack = false) (hstep : sys.step config a = some sys') : sys'.Unbroken := by
  cases a with
  | enqueue id sessionId serverTimestamp now =>
      simp only [OutboxSystem.step] at hstep
      split at hstep <;> cases hstep
      exact ⟨h.whole, h.finished, h.alone⟩
  | claim d now =>
      simp only [OutboxSystem.step] at hstep
      split at hstep <;> cases hstep
      exact h.claim hb ‹_› now
  | publish d resolves =>
      simp only [OutboxSystem.step] at hstep
      split at hstep
      · rename_i run hrun
        split at hstep <;> cases hstep
        rename_i hremaining
        exact h.publish hb hrun hremaining resolves
      · cases hstep
  | mark d =>
      simp only [OutboxSystem.step] at hstep
      split at hstep
      · rename_i run hrun
        split at hstep <;> cases hstep
        rename_i hopen _ _
        exact h.mark hrun hopen
      · cases hstep
  | commit d =>
      simp only [OutboxSystem.step] at hstep
      split at hstep
      · rename_i run hrun
        split at hstep <;> cases hstep
        rename_i hdone
        exact h.commit hdone
      · cases hstep
  | rollBack d => cases ha

/-- A claim of the dispatcher, seen from the log: nobody else publishes the rows, and the
dispatcher publishes each at most once. -/
def Exclusively (log : List OutboxEvent) (d : DispatcherId) (ids : List OutboxId) : Prop :=
  .claimed d ids ∈ log ∧
  ∀ before after claimed, log = before ++ .claimed d claimed :: after → claimed = ids ∧
    ∀ id ∈ ids, after.count (.published d id) ≤ 1 ∧ ∀ d', .published d' id ∈ after → d' = d

/-- An open transaction has published each of its rows at most once. -/
theorem Working.published_once (h : Working config outbox log d run) (id : OutboxId) :
    log.count (.published d id) ≤ 1 := by
  have hbound : ∀ {resolved}, Tallied log d id resolved → log.count (.published d id) ≤ 1 := by
    intro resolved ht
    rw [ht.1]
    split <;> omega
  by_cases hupdated : id ∈ run.updates.map Prod.fst
  · obtain ⟨e, he, rfl⟩ := List.mem_map.mp hupdated
    obtain ⟨row, resolved, -, -, -, ht⟩ := h.updated e he
    exact hbound ht
  · by_cases hhead : ∃ resolved e rest, run.resolved = some resolved ∧ run.remaining = e :: rest ∧
        id = e.1
    · obtain ⟨resolved, e, rest, hresolved, hremaining, rfl⟩ := hhead
      exact hbound (h.answered resolved e rest hresolved hremaining)
    · have huntried := h.untried id hupdated fun e rest hsome hremaining heq => by
        obtain ⟨resolved, hresolved⟩ := Option.ne_none_iff_exists'.mp hsome
        exact hhead ⟨resolved, e, rest, hresolved, hremaining, heq⟩
      rw [List.count_eq_zero.mpr huntried.1]
      exact Nat.zero_le 1

theorem Working.exclusively (h : Working config outbox log d run)
    (halone : Alone log d run.claimed) : Exclusively log d run.claimed := by
  refine ⟨h.begun, ?_⟩
  intro before after claimed hlog
  obtain ⟨hids, hothers⟩ := halone before after claimed hlog
  refine ⟨hids, fun id hid => ⟨?_, fun d' hmem => hothers d' id hid hmem⟩⟩
  refine Nat.le_trans ?_ (h.published_once id)
  rw [hlog, List.count_append, List.count_cons]
  omega

/-- **The outbox.** In every run in which no transaction is rolled back, whatever the
dispatchers do otherwise, in any order and with any answers from the transport: no row is
lost; each is exactly one of pending, processed and dead-lettered; a row that has been
processed was published by a dispatcher that committed; its attempts are its failures, never
more than the maximum, and it is dead-lettered exactly when they have reached it; and as long
as a transaction is open, its rows are published by nobody else, and at most once. -/
theorem outbox_balanced (hmaximum : 0 < config.maximumAttempts) (hstart : Resting config start)
    (hreach : Reaches (OutboxSystem.step config) (fun _ a => a.rollsBack = false) start sys) :
    (∀ id row, start.outbox.lookup id = some row → ∃ row', sys.outbox.lookup id = some row') ∧
    (∀ id row, sys.outbox.lookup id = some row →
      (∃! status, row.Is status) ∧
      (row.Is .processed →
        (∃ old, start.outbox.lookup id = some old ∧ old.Is .processed) ∨
          ∃ d, .published d id ∈ sys.log ∧ .committed d ∈ sys.log) ∧
      row.attemptCount
        = ((start.outbox.lookup id).map (·.attemptCount)).getD 0 + failures sys.log id ∧
      row.attemptCount ≤ config.maximumAttempts ∧
      (row.Is .deadLettered ↔ row.attemptCount = config.maximumAttempts)) ∧
    ∀ d run, sys.dispatchers.lookup d = some run → run.ended = false →
      Exclusively sys.log d run.claimed := by
  have hinv := hreach.invariant (I := fun s => Balanced config start s ∧ s.Unbroken)
    ⟨hstart.balanced, hstart.unbroken⟩
    fun _ _ _ ha hstep hs => ⟨hs.1.step hmaximum hstep, hs.2.step hs.1 ha hstep⟩
  obtain ⟨hbalanced, hunbroken⟩ := hinv
  obtain ⟨hkept, hrows⟩ := rows_balanced hmaximum hstart (hreach.mono fun _ _ _ => trivial)
  refine ⟨hkept, fun id row hrow => ?_, fun d run hrun hopen => ?_⟩
  · rw [failures_eq_committedFailures hunbroken.whole]
    exact hrows id row hrow
  · exact (hbalanced.working d run hrun hopen).exclusively (hunbroken.alone d run hrun hopen)

/-! ## §7 Runs on fixed rows -/

/-- Rows that wait for their first attempt. -/
def waiting (ids : List OutboxId) : OutboxSystem :=
  let row := fun id : OutboxId => enqueued id 1 "1970-01-01T00:00:00.001Z" 1
  { outbox := ids.foldr (fun id rows => rows.insert id (row id)) ∅ }

theorem waiting_resting (hmaximum : 0 < config.maximumAttempts) (ids : List OutboxId) :
    Resting config (waiting ids) where
  rows := by
    induction ids with
    | nil =>
        intro id row hrow
        cases (AList.lookup_empty id).symm.trans hrow
    | cons new ids ih =>
        intro id row hrow
        rcases Table.wrote_insert.cases hrow with ⟨rfl, rfl⟩ | ⟨-, hold⟩
        · exact ⟨.inl rfl, Nat.zero_le _, by simpa [OutboxRow.Is, enqueued] using hmaximum.ne⟩
        · exact ih id row hold
  idle := fun d => AList.lookup_empty d
  log := rfl

/-- One attempt for every row. -/
def oneAttempt : OutboxDispatcherConfiguration :=
  { batchSize := 1, maximumAttempts := 1, backoffBaseMs := 1000, backoffMaximumMs := 60000 }

/-- Two dispatchers at once: the second skips the row that the first has locked. -/
def twoDispatchers : List OutboxAction :=
  [.claim 1 10, .claim 2 10, .publish 1 false, .publish 2 true, .mark 2, .mark 1, .commit 1,
    .commit 2]

theorem outbox_balanced_two :
    ∃ sys, execute (guarded (OutboxSystem.step oneAttempt) fun _ a => !a.rollsBack) twoDispatchers
        (waiting [1, 2]) = some sys ∧
      (sys.outbox.lookup 1).any (fun row => row.deadLetterAt == some 10) = true ∧
      (sys.outbox.lookup 2).any (fun row => row.processedAt == some 10) = true ∧
      ∀ id row, sys.outbox.lookup id = some row → ∃! status, row.Is status := by
  have hends : (execute (guarded (OutboxSystem.step oneAttempt) fun _ a => !a.rollsBack)
      twoDispatchers (waiting [1, 2])).any (fun sys =>
        (sys.outbox.lookup 1).any (fun row => row.deadLetterAt == some 10) &&
          (sys.outbox.lookup 2).any (fun row => row.processedAt == some 10)) = true := by
    decide +kernel
  obtain ⟨sys, hrun, hrows⟩ := (Option.any_eq_true _ _).mp hends
  rw [Bool.and_eq_true] at hrows
  have hbalanced := outbox_balanced Nat.one_pos (waiting_resting Nat.one_pos [1, 2])
    ((reaches_of_guarded hrun).mono fun _ a hok => by simpa using hok)
  exact ⟨sys, hrun, hrows.1, hrows.2, fun id row hrow => (hbalanced.2.1 id row hrow).1⟩

/-- The defaults of the environment. -/
def eightAttempts : OutboxDispatcherConfiguration :=
  { batchSize := 100, maximumAttempts := 8, backoffBaseMs := 1000, backoffMaximumMs := 300000 }

/-- A dispatcher whose publish calls all time out after ten seconds: thirty seconds have
passed when the fourth is under way. -/
def timedOut (d : DispatcherId) : List OutboxAction :=
  [.claim d 10, .publish d false, .mark d, .publish d false, .mark d, .publish d false, .mark d,
    .rollBack d, .publish d false]

/-- **What a roll back loses.** Eight dispatchers in a row fail to publish four rows, and none
of the failures is on record: no row is dead-lettered. And a call that is answered after its
transaction was rolled back publishes a row that another dispatcher has claimed and
publishes. -/
theorem outbox_unbalanced :
    (∃ sys row, Resting eightAttempts (waiting [1, 2, 3, 4]) ∧
      Reaches (OutboxSystem.step eightAttempts) (fun _ _ => True) (waiting [1, 2, 3, 4]) sys ∧
      sys.outbox.lookup 1 = some row ∧
      failures sys.log 1 = eightAttempts.maximumAttempts ∧ ¬row.Is .deadLettered ∧
      row.attemptCount = 0) ∧
    ∃ sys run, Resting eightAttempts (waiting [1]) ∧
      Reaches (OutboxSystem.step eightAttempts) (fun _ _ => True) (waiting [1]) sys ∧
      sys.dispatchers.lookup 2 = some run ∧ run.ended = false ∧
      ¬Exclusively sys.log 2 run.claimed := by
  constructor
  · have hends :
        (execute (OutboxSystem.step eightAttempts) ([1, 2, 3, 4, 5, 6, 7, 8].flatMap timedOut)
        (waiting [1, 2, 3, 4])).any (fun sys => failures sys.log 1 == 8 &&
          (sys.outbox.lookup 1).any fun row =>
            row.deadLetterAt.isNone && row.attemptCount == 0) = true := by
      decide +kernel
    obtain ⟨sys, hrun, hcheck⟩ := (Option.any_eq_true _ _).mp hends
    rw [Bool.and_eq_true, beq_iff_eq] at hcheck
    obtain ⟨row, hrow, hpending⟩ := (Option.any_eq_true _ _).mp hcheck.2
    rw [Bool.and_eq_true, beq_iff_eq, Option.isNone_iff_eq_none] at hpending
    exact ⟨sys, row, waiting_resting (by decide) _, reaches_of_execute hrun fun _ _ _ => trivial,
      hrow, hcheck.1, by simp [OutboxRow.Is, hpending.1], hpending.2⟩
  · have hends : (execute (OutboxSystem.step eightAttempts)
        [.claim 1 10, .rollBack 1, .claim 2 20, .publish 1 true, .publish 2 true]
        (waiting [1])).any (fun sys => decide (sys.log = [.claimed 1 [1], .rolledBack 1,
          .claimed 2 [1], .published 1 1, .published 2 1]) &&
          (sys.dispatchers.lookup 2).any fun run => !run.ended && run.claimed == [1]) = true := by
      decide +kernel
    obtain ⟨sys, hrun, hcheck⟩ := (Option.any_eq_true _ _).mp hends
    rw [Bool.and_eq_true, decide_eq_true_eq] at hcheck
    obtain ⟨run, hlook, hopen⟩ := (Option.any_eq_true _ _).mp hcheck.2
    rw [Bool.and_eq_true, Bool.not_eq_true', beq_iff_eq] at hopen
    refine ⟨sys, run, waiting_resting (by decide) _, reaches_of_execute hrun fun _ _ _ => trivial,
      hlook, hopen.1, fun hexclusive => ?_⟩
    have hids := (hexclusive.2 [.claimed 1 [1], .rolledBack 1] [.published 1 1, .published 2 1] [1]
      hcheck.1).2
    have hone := (hids 1 (by rw [hopen.2]; simp)).2 1 (by simp)
    cases hone

end OutboxSystem

end SeatFlow
