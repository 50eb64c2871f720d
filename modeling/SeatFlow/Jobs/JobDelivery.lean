import SeatFlow.Database.Types
import SeatFlow.Relational.Runs
import SeatFlow.Relational.Table

/-!
# Deliveries of scheduled jobs

`delivery-receipt` and the job route: a scheduler delivers each message at least once. A
delivery claims its message's receipt, runs the job's handler and records the outcome, in
separate statements, each of which may fail; the function may be killed in between. What
the deliveries did is logged.
-/

namespace SeatFlow

open Relational

abbrev MessageId := Nat
abbrev DeliveryId := Nat

/-! ## §1 Receipts -/

inductive ServerlessJobOutcome
  | COMPLETED | RETRYABLE_FAILURE | PERMANENT_FAILURE
  deriving DecidableEq

/-- How a handler ended. -/
inductive JobOutcome
  | completed
  | retryable (safeErrorCode : Code)
  | permanent (safeErrorCode : Code)
  deriving DecidableEq

def JobOutcome.outcomeByStatus : JobOutcome → ServerlessJobOutcome
  | .completed => .COMPLETED
  | .retryable _ => .RETRYABLE_FAILURE
  | .permanent _ => .PERMANENT_FAILURE

def JobOutcome.isRetryable : JobOutcome → Bool
  | .retryable _ => true
  | _ => false

def JobOutcome.safeErrorCode : JobOutcome → Option Code
  | .completed => none
  | .retryable code | .permanent code => some code

structure JobDeliveryReceipt where
  receivedAt : Time
  completedAt : Option Time := none
  outcome : Option ServerlessJobOutcome := none
  attemptCount : Int
  safeErrorCode : Option Code := none
  durationMs : Option Time := none
  deriving DecidableEq

/-- The receipt with a delivery's outcome: a retryable one is left uncompleted. -/
def JobDeliveryReceipt.recorded (receipt : JobDeliveryReceipt) (outcome : JobOutcome)
    (durationMs now : Time) : JobDeliveryReceipt :=
  { receipt with
    completedAt := if outcome.isRetryable then none else some now
    outcome := if outcome.isRetryable then none else some outcome.outcomeByStatus
    durationMs := some (max 0 durationMs)
    safeErrorCode := outcome.safeErrorCode }

/-! ## §2 Deliveries -/

/-- How far a delivery has come. -/
inductive DeliveryStage
  | arrived
  | found
  | absent
  | running
  | ran (outcome : JobOutcome)
  | acknowledged
  | ended
  deriving DecidableEq

structure JobDelivery where
  messageId : MessageId
  retryCount : Option Int
  stage : DeliveryStage := .arrived
  deriving DecidableEq

/-- What the log records about a delivery. -/
inductive DeliveryEvent
  | lookedUp (delivery : DeliveryId)
  | registered (delivery : DeliveryId) (messageId : MessageId)
  | recorded (delivery : DeliveryId) (messageId : MessageId) (outcome : JobOutcome)
  | duplicate (delivery : DeliveryId) (messageId : MessageId)
  deriving DecidableEq

structure JobSystem where
  receipts : Table MessageId JobDeliveryReceipt := ∅
  deliveries : Table DeliveryId JobDelivery := ∅
  log : List DeliveryEvent := []

inductive JobAction
  | arrive (delivery : DeliveryId) (messageId : MessageId) (retryCount : Option Int)
  | lookUp (delivery : DeliveryId) (fails : Bool)
  | register (delivery : DeliveryId) (now : Time) (fails : Bool)
  | run (delivery : DeliveryId) (outcome : JobOutcome)
  | record (delivery : DeliveryId) (durationMs now : Time) (fails : Bool)
  | kill (delivery : DeliveryId)
  | prune (messageId : MessageId)

namespace JobSystem

/-- The delivery comes to a stage. -/
def moves (sys : JobSystem) (id : DeliveryId) (delivery : JobDelivery) (stage : DeliveryStage) :
    JobSystem :=
  { sys with deliveries := sys.deliveries.insert id { delivery with stage := stage } }

def logs (sys : JobSystem) (event : DeliveryEvent) : JobSystem :=
  { sys with log := sys.log ++ [event] }

/-- The first statement of `claimJobDelivery`. -/
def lookUp (sys : JobSystem) (id : DeliveryId) (delivery : JobDelivery) : JobSystem :=
  match sys.receipts.lookup delivery.messageId with
  | none => (sys.moves id delivery .absent).logs (.lookedUp id)
  | some receipt =>
      if receipt.completedAt.isSome then
        (sys.moves id delivery .acknowledged).logs (.duplicate id delivery.messageId)
      else (sys.moves id delivery .found).logs (.lookedUp id)

/-- The second statement when a receipt was found: one more attempt. -/
def claimAgain (sys : JobSystem) (id : DeliveryId) (delivery : JobDelivery) (fails : Bool) :
    JobSystem :=
  match fails, sys.receipts.lookup delivery.messageId with
  | false, some receipt =>
      { sys.moves id delivery .running with
        receipts := sys.receipts.insert delivery.messageId
          { receipt with attemptCount := receipt.attemptCount + 1 } }
  | _, _ => sys.moves id delivery .ended

/-- The second statement when there was none: whatever the insert fails for, the delivery
is taken for a duplicate. -/
def claimFirst (sys : JobSystem) (id : DeliveryId) (delivery : JobDelivery) (now : Time)
    (fails : Bool) : JobSystem :=
  match fails, sys.receipts.lookup delivery.messageId with
  | false, none =>
      { (sys.moves id delivery .running).logs (.registered id delivery.messageId) with
        receipts := sys.receipts.insert delivery.messageId
          { receivedAt := now, attemptCount := max 1 (delivery.retryCount.getD 0 + 1) } }
  | _, _ => (sys.moves id delivery .acknowledged).logs (.duplicate id delivery.messageId)

/-- `recordJobDeliveryOutcome`: a failure to record is swallowed. -/
def recordOutcome (sys : JobSystem) (id : DeliveryId) (delivery : JobDelivery)
    (outcome : JobOutcome) (durationMs now : Time) (fails : Bool) : JobSystem :=
  match fails, sys.receipts.lookup delivery.messageId with
  | false, some receipt =>
      { (sys.moves id delivery .ended).logs (.recorded id delivery.messageId outcome) with
        receipts := sys.receipts.insert delivery.messageId
          (receipt.recorded outcome durationMs now) }
  | _, _ => sys.moves id delivery .ended

/-- One step; `none` when the action is not possible now. A failed look-up ends the
delivery, and so does being killed; the retention sweep may drop any receipt. -/
def step (sys : JobSystem) : JobAction → Option JobSystem
  | .arrive id messageId retryCount =>
      match sys.deliveries.lookup id with
      | none =>
          some { sys with
            deliveries := sys.deliveries.insert id
              { messageId := messageId, retryCount := retryCount } }
      | some _ => none
  | .lookUp id fails =>
      match sys.deliveries.lookup id with
      | some delivery =>
          if delivery.stage = .arrived then
            some (if fails then sys.moves id delivery .ended else sys.lookUp id delivery)
          else none
      | none => none
  | .register id now fails =>
      match sys.deliveries.lookup id with
      | some delivery =>
          match delivery.stage with
          | .found => some (sys.claimAgain id delivery fails)
          | .absent => some (sys.claimFirst id delivery now fails)
          | _ => none
      | none => none
  | .run id outcome =>
      match sys.deliveries.lookup id with
      | some delivery =>
          if delivery.stage = .running then some (sys.moves id delivery (.ran outcome)) else none
      | none => none
  | .record id durationMs now fails =>
      match sys.deliveries.lookup id with
      | some delivery =>
          match delivery.stage with
          | .ran outcome => some (sys.recordOutcome id delivery outcome durationMs now fails)
          | _ => none
      | none => none
  | .kill id =>
      match sys.deliveries.lookup id with
      | some delivery => some (sys.moves id delivery .ended)
      | none => none
  | .prune messageId => some { sys with receipts := sys.receipts.erase messageId }

/-- An insert fails only because there is a row already. -/
def insertsClean (sys : JobSystem) : JobAction → Prop
  | .register id _ fails =>
      ∀ delivery, sys.deliveries.lookup id = some delivery → delivery.stage = .absent →
        fails = false
  | _ => True

/-! ## §3 What an acknowledged duplicate was a duplicate of -/

/-- Some delivery of the message recorded a terminal outcome. -/
def Done (log : List DeliveryEvent) (messageId : MessageId) : Prop :=
  ∃ id outcome, .recorded id messageId outcome ∈ log ∧ outcome.isRetryable = false

/-- Another delivery registered the message after this one looked it up. -/
def Overtaken (log : List DeliveryEvent) (id : DeliveryId) (messageId : MessageId) : Prop :=
  ∃ before after winner, log = before ++ .lookedUp id :: after ∧ winner ≠ id ∧
    .registered winner messageId ∈ after

/-- What the deliveries have been told so far. -/
structure Answered (sys : JobSystem) : Prop where
  completed : ∀ messageId receipt, sys.receipts.lookup messageId = some receipt →
    receipt.completedAt.isSome = true → Done sys.log messageId
  looked : ∀ id delivery, sys.deliveries.lookup id = some delivery → delivery.stage = .absent →
    .lookedUp id ∈ sys.log
  overtaken : ∀ id delivery, sys.deliveries.lookup id = some delivery → delivery.stage = .absent →
    sys.receipts.lookup delivery.messageId ≠ none → Overtaken sys.log id delivery.messageId
  acknowledged : ∀ id delivery, sys.deliveries.lookup id = some delivery →
    delivery.stage = .acknowledged → .duplicate id delivery.messageId ∈ sys.log
  duplicates : ∀ before after id messageId,
    sys.log = before ++ .duplicate id messageId :: after →
      Done before messageId ∨ Overtaken before id messageId

variable {sys sys' : JobSystem} {id : DeliveryId} {messageId : MessageId}
  {delivery : JobDelivery} {log : List DeliveryEvent}

theorem Done.append (h : Done log messageId) (later : List DeliveryEvent) :
    Done (log ++ later) messageId := by
  obtain ⟨id, outcome, hmem, hterminal⟩ := h
  exact ⟨id, outcome, List.mem_append_left _ hmem, hterminal⟩

theorem Overtaken.append (h : Overtaken log id messageId) (later : List DeliveryEvent) :
    Overtaken (log ++ later) id messageId := by
  obtain ⟨before, after, winner, rfl, hother, hmem⟩ := h
  exact ⟨before, after ++ later, winner, by simp, hother, List.mem_append_left _ hmem⟩

/-- The delivery that registers a message overtakes those that have looked it up. -/
theorem overtaken_registered {winner : DeliveryId} (hlooked : .lookedUp id ∈ log)
    (hother : winner ≠ id) : Overtaken (log ++ [.registered winner messageId]) id messageId := by
  obtain ⟨before, after, rfl⟩ := List.append_of_mem hlooked
  exact ⟨before, after ++ [.registered winner messageId], winner, by simp, hother, by simp⟩

theorem answered_start : Answered {} where
  completed := fun _ _ h => by cases h
  looked := fun _ _ h => by cases h
  overtaken := fun _ _ h => by cases h
  acknowledged := fun _ _ h => by cases h
  duplicates := fun before after _ _ h => by simp at h

theorem Answered.logs (h : sys.Answered) (event : DeliveryEvent)
    (hduplicate : ∀ id messageId, event = .duplicate id messageId →
      Done sys.log messageId ∨ Overtaken sys.log id messageId) : (sys.logs event).Answered where
  completed :=
    fun m receipt hreceipt hcompleted => (h.completed m receipt hreceipt hcompleted).append _
  looked := fun id delivery hdelivery hstage =>
    List.mem_append_left _ (h.looked id delivery hdelivery hstage)
  overtaken := fun id delivery hdelivery hstage hreceipt =>
    (h.overtaken id delivery hdelivery hstage hreceipt).append _
  acknowledged := fun id delivery hdelivery hstage =>
    List.mem_append_left _ (h.acknowledged id delivery hdelivery hstage)
  duplicates := by
    intro before after id messageId hlog
    rcases split_log hlog with ⟨rfl, hlast, rfl⟩ | ⟨after', rfl, hold⟩
    · exact hduplicate id messageId hlast.symm
    · exact h.duplicates before after' id messageId hold

theorem Answered.moves (h : sys.Answered) (id : DeliveryId) (delivery : JobDelivery)
    (stage : DeliveryStage)
    (habsent : stage = .absent → .lookedUp id ∈ sys.log ∧
      sys.receipts.lookup delivery.messageId = none)
    (hacknowledged : stage = .acknowledged → .duplicate id delivery.messageId ∈ sys.log) :
    (sys.moves id delivery stage).Answered := by
  have hcases : ∀ {id' delivery'}, (sys.moves id delivery stage).deliveries.lookup id'
      = some delivery' → (id' = id ∧ delivery' = { delivery with stage := stage }) ∨
        (id' ≠ id ∧ sys.deliveries.lookup id' = some delivery') :=
    fun hlook => Table.wrote_insert.cases hlook
  refine ⟨h.completed, ?_, ?_, ?_, h.duplicates⟩
  · intro id' delivery' hdelivery hstage
    rcases hcases hdelivery with ⟨rfl, rfl⟩ | ⟨-, hold⟩
    · exact (habsent hstage).1
    · exact h.looked id' delivery' hold hstage
  · intro id' delivery' hdelivery hstage hreceipt
    rcases hcases hdelivery with ⟨rfl, rfl⟩ | ⟨-, hold⟩
    · exact absurd (habsent hstage).2 hreceipt
    · exact h.overtaken id' delivery' hold hstage hreceipt
  · intro id' delivery' hdelivery hstage
    rcases hcases hdelivery with ⟨rfl, rfl⟩ | ⟨-, hold⟩
    · exact hacknowledged hstage
    · exact h.acknowledged id' delivery' hold hstage

/-- Receipts may change as long as what is completed was recorded, and whoever found none
has been overtaken when there is one. -/
theorem Answered.receipts (h : sys.Answered) {receipts : Table MessageId JobDeliveryReceipt}
    (hcompleted : ∀ messageId receipt, receipts.lookup messageId = some receipt →
      receipt.completedAt.isSome = true → Done sys.log messageId)
    (hnew : ∀ id delivery, sys.deliveries.lookup id = some delivery → delivery.stage = .absent →
      receipts.lookup delivery.messageId ≠ none → sys.receipts.lookup delivery.messageId = none →
        Overtaken sys.log id delivery.messageId) :
    Answered { sys with receipts := receipts } where
  completed := hcompleted
  looked := h.looked
  overtaken := by
    intro id delivery hdelivery hstage hreceipt
    by_cases hold : sys.receipts.lookup delivery.messageId = none
    · exact hnew id delivery hdelivery hstage hreceipt hold
    · exact h.overtaken id delivery hdelivery hstage hold
  acknowledged := h.acknowledged
  duplicates := h.duplicates

/-- Writing to a receipt that is there. -/
theorem Answered.rewrites (h : sys.Answered) {old receipt : JobDeliveryReceipt}
    (hold : sys.receipts.lookup messageId = some old)
    (hcompleted : receipt.completedAt.isSome = true → Done sys.log messageId) :
    Answered { sys with receipts := sys.receipts.insert messageId receipt } := by
  refine h.receipts (fun m row hrow hdone => ?_) fun id delivery hdelivery hstage hrow hnone => ?_
  · rcases Table.wrote_insert.cases hrow with ⟨rfl, rfl⟩ | ⟨-, hsame⟩
    · exact hcompleted hdone
    · exact h.completed m row hsame hdone
  · have hne : delivery.messageId ≠ messageId := by
      intro heq
      rw [heq, hold] at hnone
      cases hnone
    exact absurd hnone (Table.wrote_insert.lookup_ne hne ▸ hrow)

theorem Answered.lookUp (h : sys.Answered) (id : DeliveryId) (delivery : JobDelivery) :
    (sys.lookUp id delivery).Answered := by
  unfold JobSystem.lookUp
  split
  · rename_i hnone
    refine (h.logs (.lookedUp id) (by simp)).moves id delivery .absent (fun _ => ?_) (by simp)
    exact ⟨List.mem_append_right _ (List.mem_singleton_self _), hnone⟩
  · rename_i receipt hreceipt
    split
    · rename_i hcompleted
      refine (h.logs (.duplicate id delivery.messageId) ?_).moves id delivery .acknowledged
        (by simp) fun _ => List.mem_append_right _ (List.mem_singleton_self _)
      rintro _ _ ⟨⟩
      exact .inl (h.completed _ receipt hreceipt hcompleted)
    · exact (h.logs (.lookedUp id) (by simp)).moves id delivery .found (by simp) (by simp)

theorem Answered.claimAgain (h : sys.Answered) (id : DeliveryId) (delivery : JobDelivery)
    (fails : Bool) : (sys.claimAgain id delivery fails).Answered := by
  unfold JobSystem.claimAgain
  split
  · rename_i receipt hreceipt
    exact (h.moves id delivery .running (by simp) (by simp)).rewrites hreceipt
      (h.completed _ receipt hreceipt)
  · exact h.moves id delivery .ended (by simp) (by simp)

theorem Answered.claimFirst (h : sys.Answered) {now : Time}
    (hdelivery : sys.deliveries.lookup id = some delivery) (hstage : delivery.stage = .absent) :
    (sys.claimFirst id delivery now false).Answered := by
  unfold JobSystem.claimFirst
  split
  · rename_i hnone
    have hlogged : ((sys.logs (.registered id delivery.messageId)).moves id delivery
        .running).Answered :=
      (h.logs _ (by simp)).moves id delivery .running (by simp) (by simp)
    refine hlogged.receipts (fun m receipt hreceipt hcompleted => ?_) ?_
    · rcases Table.wrote_insert.cases hreceipt with ⟨rfl, rfl⟩ | ⟨-, hold⟩
      · cases hcompleted
      · exact hlogged.completed m receipt hold hcompleted
    · intro id' delivery' hdelivery' hstage' hreceipt hnone'
      have hsame : delivery'.messageId = delivery.messageId := by
        by_contra hne
        exact hreceipt ((Table.wrote_insert.lookup_ne hne).trans hnone')
      rcases Table.wrote_insert.cases hdelivery' with ⟨rfl, rfl⟩ | ⟨hother, hold⟩
      · cases hstage'
      · rw [hsame]
        exact overtaken_registered (h.looked id' delivery' hold hstage') (Ne.symm hother)
  · rename_i hfound
    have hovertaken : Overtaken sys.log id delivery.messageId :=
      h.overtaken id delivery hdelivery hstage fun hnone => hfound rfl hnone
    refine (h.logs (.duplicate id delivery.messageId) ?_).moves id delivery .acknowledged
      (by simp) fun _ => List.mem_append_right _ (List.mem_singleton_self _)
    rintro _ _ ⟨⟩
    exact .inr hovertaken

theorem Answered.recordOutcome (h : sys.Answered) (id : DeliveryId) (delivery : JobDelivery)
    (outcome : JobOutcome) (durationMs now : Time) (fails : Bool) :
    (sys.recordOutcome id delivery outcome durationMs now fails).Answered := by
  unfold JobSystem.recordOutcome
  split
  · rename_i receipt hreceipt
    refine ((h.logs (.recorded id delivery.messageId outcome) (by simp)).moves id delivery .ended
      (by simp) (by simp)).rewrites hreceipt fun hcompleted => ?_
    refine ⟨id, outcome, List.mem_append_right _ (List.mem_singleton_self _), ?_⟩
    by_contra hretryable
    rw [Bool.not_eq_false] at hretryable
    simp [JobDeliveryReceipt.recorded, hretryable] at hcompleted
  · exact h.moves id delivery .ended (by simp) (by simp)

theorem Answered.step {a : JobAction} (h : sys.Answered) (hclean : sys.insertsClean a)
    (hstep : sys.step a = some sys') : sys'.Answered := by
  cases a with
  | arrive id messageId retryCount =>
      simp only [JobSystem.step] at hstep
      split at hstep <;> cases hstep
      exact h.moves id { messageId := messageId, retryCount := retryCount } .arrived (by simp)
        (by simp)
  | lookUp id fails =>
      simp only [JobSystem.step] at hstep
      split at hstep
      · rename_i delivery hdelivery
        split at hstep <;> cases hstep
        cases fails with
        | true => exact h.moves id delivery .ended (by simp) (by simp)
        | false => exact h.lookUp id delivery
      · cases hstep
  | register id now fails =>
      simp only [JobSystem.step] at hstep
      split at hstep
      · rename_i delivery hdelivery
        split at hstep
        · cases hstep
          exact h.claimAgain id delivery fails
        · rename_i hstage
          cases hstep
          cases hclean delivery hdelivery hstage
          exact h.claimFirst hdelivery hstage
        · cases hstep
      · cases hstep
  | run id outcome =>
      simp only [JobSystem.step] at hstep
      split at hstep
      · rename_i delivery hdelivery
        split at hstep <;> cases hstep
        exact h.moves id delivery (.ran outcome) (by simp) (by simp)
      · cases hstep
  | record id durationMs now fails =>
      simp only [JobSystem.step] at hstep
      split at hstep
      · rename_i delivery hdelivery
        split at hstep
        · rename_i outcome hstage
          cases hstep
          exact h.recordOutcome id delivery outcome durationMs now fails
        · cases hstep
      · cases hstep
  | kill id =>
      simp only [JobSystem.step] at hstep
      split at hstep <;> cases hstep
      exact h.moves id _ .ended (by simp) (by simp)
  | prune messageId =>
      cases hstep
      have hkept : ∀ m receipt, (sys.receipts.erase messageId).lookup m = some receipt →
          sys.receipts.lookup m = some receipt := by
        intro m receipt hreceipt
        by_cases hm : m = messageId
        · rw [hm, AList.lookup_erase] at hreceipt
          cases hreceipt
        · rwa [AList.lookup_erase_ne hm] at hreceipt
      refine h.receipts
        (fun m receipt hreceipt => h.completed m receipt (hkept m receipt hreceipt)) ?_
      intro id delivery hdelivery hstage hreceipt hnone
      obtain ⟨receipt, hfound⟩ := Option.ne_none_iff_exists'.mp hreceipt
      rw [hkept _ receipt hfound] at hnone
      cases hnone

/-- **Duplicates.** As long as an insert fails only because of a row that is there, a
delivery is told that its message was completed only after some delivery of it recorded a
terminal outcome, or when another one registered the message since this one looked it
up. -/
theorem duplicate_done_or_overtaken (hreach : Reaches JobSystem.step insertsClean {} sys) :
    (∀ id delivery, sys.deliveries.lookup id = some delivery → delivery.stage = .acknowledged →
      .duplicate id delivery.messageId ∈ sys.log) ∧
    ∀ before after id messageId, sys.log = before ++ .duplicate id messageId :: after →
      Done before messageId ∨ Overtaken before id messageId := by
  have hanswered : sys.Answered :=
    hreach.invariant answered_start fun _ _ _ hclean hstep h => h.step hclean hstep
  exact ⟨hanswered.acknowledged, hanswered.duplicates⟩

/-- A delivery whose handler failed for good, and a second delivery of its message. -/
def redelivery : List JobAction :=
  [.arrive 1 7 none, .lookUp 1 false, .register 1 0 false, .run 1 (.permanent "PERMANENT_FAILURE"),
    .record 1 5 5 false, .arrive 2 7 (some 1), .lookUp 2 false]

theorem duplicate_done_or_overtaken_redelivery :
    ∃ sys, execute JobSystem.step redelivery {} = some sys ∧
      sys.log = [.lookedUp 1, .registered 1 7, .recorded 1 7 (.permanent "PERMANENT_FAILURE"),
        .duplicate 2 7] ∧
      (Done (sys.log.take 3) 7 ∨ Overtaken (sys.log.take 3) 2 7) := by
  refine ⟨_, rfl, rfl, ?_⟩
  have hclean : ∀ sys : JobSystem, ∀ a ∈ redelivery, sys.insertsClean a := by
    intro sys a ha
    simp only [redelivery, List.mem_cons, List.not_mem_nil, or_false] at ha
    rcases ha with rfl | rfl | rfl | rfl | rfl | rfl | rfl <;> simp [insertsClean]
  have hrun : execute JobSystem.step redelivery {} = some _ := rfl
  exact (duplicate_done_or_overtaken (reaches_of_execute hrun hclean)).2 _ [] 2 7 rfl

/-- Two deliveries of one message at the same time. -/
def raceToInsert : List JobAction :=
  [.arrive 1 7 none, .arrive 2 7 none, .lookUp 1 false, .lookUp 2 false, .register 1 0 false,
    .register 2 0 false]

/-- The loser of the race is told that the message was completed, while its handler has
not even run. -/
theorem duplicate_not_done :
    ∃ sys, Reaches JobSystem.step insertsClean {} sys ∧
      sys.log = [.lookedUp 1, .lookedUp 2, .registered 1 7, .duplicate 2 7] ∧
      ¬Done sys.log 7 := by
  have hclean : ∀ sys : JobSystem, ∀ a ∈ raceToInsert, sys.insertsClean a := by
    intro sys a ha
    simp only [raceToInsert, List.mem_cons, List.not_mem_nil, or_false] at ha
    rcases ha with rfl | rfl | rfl | rfl | rfl | rfl <;> simp [insertsClean]
  have hrun : execute JobSystem.step raceToInsert {} = some _ := rfl
  refine ⟨_, reaches_of_execute hrun hclean, rfl, ?_⟩
  rintro ⟨id, outcome, hmem, -⟩
  have hlogged : DeliveryEvent.recorded id 7 outcome ∈
      [.lookedUp 1, .lookedUp 2, .registered 1 7, .duplicate 2 7] := hmem
  simp at hlogged

end JobSystem

end SeatFlow
