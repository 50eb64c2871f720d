import SeatFlow.Refunds.OverRefund
import SeatFlow.Relational.Runs

/-!
# Refunds and the provider

The whole refund system: the database, the refunds that exist at the provider,
and the `submitRefund` and `reconcileAmbiguousRefunds` calls in progress. Each of
those calls is several steps with no lock held between them: two transactions
and the provider call of a submission, the reads and the adopting transaction of
a reconciliation. A call that stops in the middle simply takes no further step.

The provider creates at most one refund for an idempotency key. After accepting
a key it may still answer with an error.
-/

namespace SeatFlow

open Relational Program

abbrev SubmissionId := Nat

/-- What `createRefund` came back with: the external refund's identity, or an
error with its message. -/
inductive ProviderAnswer
  | returned (providerRefundId : ProviderRef)
  | threw (message : Option String)
  deriving DecidableEq

/-- Where a `submitRefund` call stands after its claim. -/
inductive SubmissionStage
  | claimed
  | answered (answer : ProviderAnswer)
  | attemptClosed (answer : ProviderAnswer)
  deriving DecidableEq

/-- A `submitRefund` call in progress. -/
structure Submission where
  claimed : ClaimedRefund
  provider : PaymentProviderName
  now : Time
  stage : SubmissionStage := .claimed
  deriving DecidableEq

/-- A `createRefund` call that was made, with the refund's row at that moment. -/
structure CreateRefundCall where
  claimed : ClaimedRefund
  row : Option Refund
  deriving DecidableEq

structure RefundSystem where
  db : Db
  external : List ExternalRefund := []
  submissions : Table SubmissionId Submission := ∅
  calls : List CreateRefundCall := []
  candidates : List RefundId := []
  adoptions : List (RefundId × ProviderRef) := []
  deriving DecidableEq

/-- How a provider call goes: the key is accepted, with an identity for the
refund if it is new and perhaps an error afterwards, or it is not. -/
inductive CallOutcome
  | accepts (fresh : ProviderRef) (thrown : Option (Option String))
  | rejects (message : Option String)

inductive RefundAction
  | requestRefund (actor : RefundActor) (input : RefundRequestInput) (fresh : FreshRefund)
      (now : Time)
  | claim (id : SubmissionId) (provider : PaymentProviderName) (refundId : RefundId) (now : Time)
  | createRefund (id : SubmissionId) (outcome : CallOutcome)
  | completeAttempt (id : SubmissionId)
  | finish (id : SubmissionId)
  | selectAmbiguous (provider : PaymentProviderName) (batchSize : Nat)
  | inspect (refundId : RefundId) (listed : List ExternalRefund)
  | adopt (refundId : RefundId) (providerRefundId : ProviderRef)
  | storeWebhook (provider : PaymentProviderName) (event : NormalizedRefundWebhookEvent)
      (fresh : WebhookId) (now : Time)
  | processWebhook (webhookId : WebhookId) (now : Time)

/-- The webhook record that an action processes. -/
def RefundAction.processes : RefundAction → WebhookId → Prop
  | .processWebhook webhookId _ => fun id => id = webhookId
  | _ => fun _ => False

namespace RefundSystem

/-- The external refund under the claimed key, created now if there is none:
that refund and all refunds. `none` when the fresh identity is taken. -/
def accept (external : List ExternalRefund) (claimed : ClaimedRefund) (fresh : ProviderRef) :
    Option (ExternalRefund × List ExternalRefund) :=
  match external.find? fun e => e.idempotencyKey == claimed.providerIdempotencyKey with
  | some e => some (e, external)
  | none =>
      let created : ExternalRefund :=
        { providerRefundId := fresh
          idempotencyKey := claimed.providerIdempotencyKey
          providerIntentId := claimed.providerIntentId
          amountMinor := claimed.requestedAmountMinor
          currency := claimed.currency }
      if fresh ∈ external.map (·.providerRefundId) then none
      else some (created, external ++ [created])

/-- `submitRefund`'s `completeAttempt` call for an answer. -/
def completeSubmission (submission : Submission) (answer : ProviderAnswer) : Sql Unit :=
  match answer with
  | .returned ref =>
      SeatFlow.completeAttempt submission.claimed.id submission.claimed.attemptNumber .SUCCEEDED
        (some ref) none submission.now
  | .threw message =>
      SeatFlow.completeAttempt submission.claimed.id submission.claimed.attemptNumber
        (if isAmbiguousFailure message then .TIMEOUT else .FAILED) none
        (some (safeCodeFrom message)) submission.now

/-- The last transaction of `submitRefund` for an answer. -/
def finishSubmission (submission : Submission) (answer : ProviderAnswer) : Sql Unit :=
  match answer with
  | .returned ref => recordSubmission submission.claimed submission.provider ref submission.now
  | .threw message =>
      if isAmbiguousFailure message then markSubmissionAmbiguous submission.claimed submission.now
      else failRefund submission.claimed.id (safeCodeFrom message) submission.now

/-- The external identity that `reconcileAmbiguousRefunds` would adopt for a
candidate, given the provider's listing. -/
def adoption (db : Db) (refundId : RefundId) (listed : List ExternalRefund) :
    Option ExternalRefund :=
  match db.refunds.lookup refundId with
  | none => none
  | some refund => adoptionCandidate listed refund.requestedAmountMinor db.adoptedRefs

/-- The provider's listing for a candidate's payment: all its refunds, in any
order. -/
def IsListing (sys : RefundSystem) (refundId : RefundId) (listed : List ExternalRefund) : Prop :=
  ∃ refund ∈ sys.db.refunds.lookup refundId,
    ∃ attempt ∈ sys.db.attempts.lookup refund.paymentAttemptId,
      ∃ intent ∈ attempt.providerIntentId,
        listed.Perm (sys.external.filter fun e => e.providerIntentId == intent)

instance (sys : RefundSystem) (refundId : RefundId) (listed : List ExternalRefund) :
    Decidable (sys.IsListing refundId listed) :=
  inferInstanceAs (Decidable (∃ refund ∈ sys.db.refunds.lookup refundId,
    ∃ attempt ∈ sys.db.attempts.lookup refund.paymentAttemptId,
      ∃ intent ∈ attempt.providerIntentId,
        listed.Perm (sys.external.filter fun e => e.providerIntentId == intent)))

/-- One step of the system; `none` when the action is not possible now. -/
def step (sys : RefundSystem) : RefundAction → Option RefundSystem
  | .requestRefund actor input fresh now =>
      some { sys with db := (SeatFlow.requestRefund actor input fresh now).commit sys.db }
  | .claim id provider refundId now =>
      match sys.submissions.lookup id, (claimRefundForSubmission refundId now).run sys.db with
      | none, .ok (some claimed, db) =>
          let submission : Submission := { claimed := claimed, provider := provider, now := now }
          some { sys with db := db, submissions := sys.submissions.insert id submission }
      | none, .ok (none, db) => some { sys with db := db }
      | _, _ => none
  | .createRefund id outcome =>
      match sys.submissions.lookup id with
      | some { claimed, provider, now, stage := .claimed } =>
          let call : CreateRefundCall :=
            { claimed := claimed, row := sys.db.refunds.lookup claimed.id }
          match outcome with
          | .rejects message =>
              let submission : Submission :=
                { claimed, provider, now, stage := .answered (.threw message) }
              some { sys with
                calls := sys.calls ++ [call]
                submissions := sys.submissions.insert id submission }
          | .accepts fresh thrown =>
              match accept sys.external claimed fresh with
              | none => none
              | some (refund, external) =>
                  let answer := thrown.elim (.returned refund.providerRefundId) .threw
                  let submission : Submission :=
                    { claimed, provider, now, stage := .answered answer }
                  some { sys with
                    calls := sys.calls ++ [call]
                    external := external
                    submissions := sys.submissions.insert id submission }
      | _ => none
  | .completeAttempt id =>
      match sys.submissions.lookup id with
      | some { claimed, provider, now, stage := .answered answer } =>
          let submission : Submission :=
            { claimed, provider, now, stage := .attemptClosed answer }
          match (completeSubmission submission answer).run sys.db with
          | .ok ((), db) =>
              some { sys with db := db, submissions := sys.submissions.insert id submission }
          | .error _ => none
      | _ => none
  | .finish id =>
      match sys.submissions.lookup id with
      | some { claimed, provider, now, stage := .attemptClosed answer } =>
          let submission : Submission :=
            { claimed, provider, now, stage := .attemptClosed answer }
          some { sys with
            db := (finishSubmission submission answer).commit sys.db
            submissions := sys.submissions.erase id }
      | _ => none
  | .selectAmbiguous provider batchSize =>
      some { sys with candidates := sys.candidates ++ ambiguousRefunds provider batchSize sys.db }
  | .inspect refundId listed =>
      if refundId ∈ sys.candidates ∧ sys.IsListing refundId listed then
        match adoption sys.db refundId listed with
        | none => some { sys with candidates := sys.candidates.erase refundId }
        | some entry =>
            some { sys with
              candidates := sys.candidates.erase refundId
              adoptions := (refundId, entry.providerRefundId) :: sys.adoptions }
      else none
  | .adopt refundId providerRefundId =>
      if (refundId, providerRefundId) ∈ sys.adoptions then
        some { sys with
          db := (adoptExternalRefund refundId providerRefundId).commit sys.db
          adoptions := sys.adoptions.erase (refundId, providerRefundId) }
      else none
  | .storeWebhook provider event fresh now =>
      some { sys with
        db := (storeVerifiedFinancialWebhook provider event fresh now).commit sys.db }
  | .processWebhook webhookId now =>
      some { sys with db := (processVerifiedRefundRecord webhookId now).commit sys.db }

/-! ## §1 What an action can do -/

variable {sys sys' : RefundSystem}

/-- The refund that the provider answers with: the one under the claimed key,
which was there or is new. -/
theorem accept_cases {external external' : List ExternalRefund} {claimed : ClaimedRefund}
    {fresh : ProviderRef} {e : ExternalRefund}
    (h : accept external claimed fresh = some (e, external')) :
    e.idempotencyKey = claimed.providerIdempotencyKey ∧ e ∈ external' ∧
      (external' = external ∨ external' = external ++ [e] ∧
        e.providerRefundId ∉ external.map (·.providerRefundId) ∧
        e.idempotencyKey ∉ external.map (·.idempotencyKey)) := by
  unfold accept at h
  split at h
  · rename_i found hfound
    cases h
    exact ⟨by simpa using List.find?_some hfound, List.mem_of_find?_eq_some hfound, .inl rfl⟩
  · rename_i hnone
    dsimp only at h
    split at h
    · cases h
    · rename_i hfresh
      cases h
      refine ⟨rfl, by simp, .inr ⟨rfl, hfresh, ?_⟩⟩
      simpa [List.find?_eq_none] using hnone

theorem step_claim {id : SubmissionId} {provider : PaymentProviderName} {refundId : RefundId}
    {now : Time} (h : sys.step (.claim id provider refundId now) = some sys') :
    (∃ db, (claimRefundForSubmission refundId now).run sys.db = .ok (none, db) ∧
      sys' = { sys with db := db }) ∨
    ∃ claimed db, (claimRefundForSubmission refundId now).run sys.db = .ok (some claimed, db) ∧
      sys.submissions.lookup id = none ∧
      sys' = { sys with
        db := db
        submissions :=
          sys.submissions.insert id (Submission.mk claimed provider now .claimed) } := by
  simp only [step] at h
  split at h
  · rename_i claimed db habsent hrun
    exact .inr ⟨claimed, db, hrun, habsent, (Option.some.inj h).symm⟩
  · rename_i db _ hrun
    exact .inl ⟨db, hrun, (Option.some.inj h).symm⟩
  · cases h

theorem step_createRefund {id : SubmissionId} {outcome : CallOutcome}
    (h : sys.step (.createRefund id outcome) = some sys') :
    ∃ claimed provider now answer external,
      sys.submissions.lookup id = some (Submission.mk claimed provider now .claimed) ∧
      sys' = { sys with
        calls := sys.calls ++ [CreateRefundCall.mk claimed (sys.db.refunds.lookup claimed.id)]
        external := external
        submissions :=
          sys.submissions.insert id (Submission.mk claimed provider now (.answered answer)) } ∧
      ((∃ message, outcome = .rejects message ∧ external = sys.external ∧
          answer = .threw message) ∨
        ∃ fresh thrown e, outcome = .accepts fresh thrown ∧
          accept sys.external claimed fresh = some (e, external) ∧
          answer = thrown.elim (.returned e.providerRefundId) .threw) := by
  simp only [step] at h
  split at h
  · rename_i claimed provider now hlook
    split at h
    · rename_i message
      exact ⟨claimed, provider, now, _, _, hlook, (Option.some.inj h).symm,
        .inl ⟨message, rfl, rfl, rfl⟩⟩
    · rename_i fresh thrown
      split at h
      · cases h
      · rename_i e external haccept
        exact ⟨claimed, provider, now, _, external, hlook, (Option.some.inj h).symm,
          .inr ⟨fresh, thrown, e, rfl, haccept, rfl⟩⟩
  · cases h

theorem step_completeAttempt {id : SubmissionId}
    (h : sys.step (.completeAttempt id) = some sys') :
    ∃ claimed provider now answer db,
      sys.submissions.lookup id = some (Submission.mk claimed provider now (.answered answer)) ∧
      (completeSubmission (Submission.mk claimed provider now (.attemptClosed answer)) answer).run
        sys.db = .ok ((), db) ∧
      sys' = { sys with
        db := db
        submissions :=
          sys.submissions.insert id
            (Submission.mk claimed provider now (.attemptClosed answer)) } := by
  simp only [step] at h
  split at h
  · rename_i claimed provider now answer hlook
    split at h
    · rename_i db hrun
      exact ⟨claimed, provider, now, answer, db, hlook, hrun, (Option.some.inj h).symm⟩
    · cases h
  · cases h

theorem step_finish {id : SubmissionId} (h : sys.step (.finish id) = some sys') :
    ∃ claimed provider now answer,
      sys.submissions.lookup id =
        some (Submission.mk claimed provider now (.attemptClosed answer)) ∧
      sys' = { sys with
        db := (finishSubmission (Submission.mk claimed provider now (.attemptClosed answer))
          answer).commit sys.db
        submissions := sys.submissions.erase id } := by
  simp only [step] at h
  split at h
  · rename_i claimed provider now answer hlook
    exact ⟨claimed, provider, now, answer, hlook, (Option.some.inj h).symm⟩
  · cases h

theorem step_inspect {refundId : RefundId} {listed : List ExternalRefund}
    (h : sys.step (.inspect refundId listed) = some sys') :
    sys.IsListing refundId listed ∧
    (adoption sys.db refundId listed = none ∧
        sys' = { sys with candidates := sys.candidates.erase refundId } ∨
      ∃ entry, adoption sys.db refundId listed = some entry ∧
        sys' = { sys with
          candidates := sys.candidates.erase refundId
          adoptions := (refundId, entry.providerRefundId) :: sys.adoptions }) := by
  simp only [step] at h
  split at h
  · rename_i hlisting
    refine ⟨hlisting.2, ?_⟩
    split at h
    · rename_i hnone
      exact .inl ⟨hnone, (Option.some.inj h).symm⟩
    · rename_i entry hentry
      exact .inr ⟨entry, hentry, (Option.some.inj h).symm⟩
  · cases h

theorem step_adopt {refundId : RefundId} {ref : ProviderRef}
    (h : sys.step (.adopt refundId ref) = some sys') :
    (refundId, ref) ∈ sys.adoptions ∧
      sys' = { sys with
        db := (adoptExternalRefund refundId ref).commit sys.db
        adoptions := sys.adoptions.erase (refundId, ref) } := by
  simp only [step] at h
  split at h
  · rename_i hmem
    exact ⟨hmem, (Option.some.inj h).symm⟩
  · cases h

/-- The update that the last transaction of a submission may make. -/
def answerUpdate (now : Time) : ProviderAnswer → RefundUpdate
  | .returned ref => .attach ref
  | .threw message =>
      if isAmbiguousFailure message then .ambiguous else .fail (safeCodeFrom message) now

/-- The updates of refund rows that an action may make. -/
def Allowed (sys : RefundSystem) : RefundAction → RefundId → RefundUpdate → Prop
  | .claim _ _ refundId _ => fun id u => id = refundId ∧ ∃ t, u = .submit t
  | .finish sid => fun id u => ∃ claimed provider now answer,
      sys.submissions.lookup sid =
        some (Submission.mk claimed provider now (.attemptClosed answer)) ∧
        id = claimed.id ∧ u = answerUpdate now answer
  | .adopt refundId ref => fun id u => id = refundId ∧ u = .attach ref
  | .processWebhook _ _ => fun _ u => u.settles = true
  | _ => fun _ _ => False

theorem steps_finishSubmission {U : RefundId → RefundUpdate → Prop} {B : BookingId → Prop}
    {W : WebhookId → Prop}
    (submission : Submission) (answer : ProviderAnswer)
    (hU : U submission.claimed.id (answerUpdate submission.now answer)) :
    (finishSubmission submission answer).Steps (RefundStep U B W) := by
  cases answer with
  | returned ref => exact steps_recordSubmission _ _ _ _ hU
  | threw message =>
      simp only [finishSubmission, answerUpdate] at hU ⊢
      split
      · rename_i hambiguous
        rw [if_pos hambiguous] at hU
        exact steps_markSubmissionAmbiguous _ _ hU
      · rename_i hclean
        rw [if_neg hclean] at hU
        exact steps_failRefund _ _ _ hU

/-- **What an action does to the database** is a sequence of refund steps, with
the updates that the action allows. -/
theorem db_steps {a : RefundAction} (h : sys.step a = some sys') :
    Relation.ReflTransGen (RefundStep (sys.Allowed a) (fun _ => True) a.processes) sys.db
      sys'.db := by
  cases a with
  | requestRefund actor input fresh now =>
      cases h
      exact (steps_requestRefund actor input fresh now).commit sys.db
  | claim id provider refundId now =>
      have hsteps :=
        steps_claimRefundForSubmission (U := sys.Allowed (.claim id provider refundId now))
        (B := fun _ => True) (W := fun _ => False) refundId now fun t => ⟨rfl, t, rfl⟩
      rcases step_claim h with ⟨db, hrun, rfl⟩ | ⟨claimed, db, hrun, -, rfl⟩
      · exact hsteps _ _ _ hrun
      · exact hsteps _ _ _ hrun
  | createRefund id outcome =>
      obtain ⟨_, _, _, _, _, -, rfl, -⟩ := step_createRefund h
      exact .refl
  | completeAttempt id =>
      obtain ⟨claimed, provider, now, answer, db, -, hrun, rfl⟩ := step_completeAttempt h
      unfold completeSubmission at hrun
      split at hrun
      · exact steps_completeAttempt _ _ _ _ _ _ _ _ _ hrun
      · exact steps_completeAttempt _ _ _ _ _ _ _ _ _ hrun
  | finish id =>
      obtain ⟨claimed, provider, now, answer, hlook, rfl⟩ := step_finish h
      exact (steps_finishSubmission _ answer
        ⟨claimed, provider, now, answer, hlook, rfl, rfl⟩).commit sys.db
  | selectAmbiguous provider batchSize =>
      cases h
      exact .refl
  | inspect refundId listed =>
      rcases (step_inspect h).2 with ⟨-, rfl⟩ | ⟨_, -, rfl⟩ <;> exact .refl
  | adopt refundId ref =>
      obtain ⟨-, rfl⟩ := step_adopt h
      exact (steps_adoptExternalRefund refundId ref ⟨rfl, rfl⟩).commit sys.db
  | storeWebhook provider event fresh now =>
      cases h
      exact (steps_storeVerifiedFinancialWebhook provider event fresh now).commit sys.db
  | processWebhook webhookId now =>
      cases h
      have hsteps := steps_processVerifiedRefundRecord (B := fun _ => True)
        (W := (RefundAction.processWebhook webhookId now).processes) webhookId now
        (fun _ _ hu => hu) (fun _ => trivial) rfl
      exact hsteps.commit sys.db

/-! ## §2 Submissions stand on refunds -/

/-- Before any refund was requested. -/
structure Start (sys : RefundSystem) : Prop where
  refunds : ∀ id, sys.db.refunds.lookup id = none
  external : sys.external = []
  submissions : ∀ id, sys.submissions.lookup id = none
  calls : sys.calls = []
  adoptions : sys.adoptions = []

/-- What ties the parts of the system together: submissions and external refunds
are of stored refunds and carry their keys, and a returned identity is the one
the provider has under that key. -/
structure Grounded (sys : RefundSystem) : Prop where
  rows : RefundRows sys.db
  externalIds : (sys.external.map (·.providerRefundId)).Nodup
  externalKeys : (sys.external.map (·.idempotencyKey)).Nodup
  linked : ∀ sid submission, sys.submissions.lookup sid = some submission →
    ∃ r, sys.db.refunds.lookup submission.claimed.id = some r ∧
      r.providerIdempotencyKey = submission.claimed.providerIdempotencyKey
  owned : ∀ e ∈ sys.external, ∃ id r, sys.db.refunds.lookup id = some r ∧
    r.providerIdempotencyKey = e.idempotencyKey
  answered : ∀ sid submission ref, sys.submissions.lookup sid = some submission →
    (submission.stage = .answered (.returned ref) ∨
      submission.stage = .attemptClosed (.returned ref)) →
    ∃ e ∈ sys.external, e.providerRefundId = ref ∧
      e.idempotencyKey = submission.claimed.providerIdempotencyKey

theorem Start.grounded (h : sys.Start) : sys.Grounded where
  rows :=
    { approval := fun id r hr => by simp [h.refunds id] at hr
      keys := fun id r _ _ hr => by simp [h.refunds id] at hr
      lifecycle := fun id r hr => by simp [h.refunds id] at hr }
  externalIds := by simp [h.external]
  externalKeys := by simp [h.external]
  linked := fun sid s hs => by simp [h.submissions sid] at hs
  owned := by simp [h.external]
  answered := fun sid s _ hs => by simp [h.submissions sid] at hs

theorem rows_of_steps {U : RefundId → RefundUpdate → Prop} {B : BookingId → Prop}
    {W : WebhookId → Prop} {s s' : Db}
    (h : Relation.ReflTransGen (RefundStep U B W) s s') (hs : RefundRows s) : RefundRows s' := by
  induction h with
  | refl => exact hs
  | tail _ hstep ih => exact ih.step hstep

/-- Where a submission comes from: it was there, or this action claimed it, got
its answer or closed its attempt. -/
theorem submission_cases {a : RefundAction} (h : sys.step a = some sys') {sid : SubmissionId}
    {submission : Submission} (hlook' : sys'.submissions.lookup sid = some submission) :
    sys.submissions.lookup sid = some submission ∨
    (∃ claimed provider refundId now, a = .claim sid provider refundId now ∧
      (claimRefundForSubmission refundId now).run sys.db = .ok (some claimed, sys'.db) ∧
      submission = Submission.mk claimed provider now .claimed) ∨
    (∃ claimed provider now answer outcome, a = .createRefund sid outcome ∧
      sys.submissions.lookup sid = some (Submission.mk claimed provider now .claimed) ∧
      submission = Submission.mk claimed provider now (.answered answer) ∧
      ((∃ message, outcome = .rejects message ∧ sys'.external = sys.external ∧
          answer = .threw message) ∨
        ∃ fresh thrown e, outcome = .accepts fresh thrown ∧
          accept sys.external claimed fresh = some (e, sys'.external) ∧
          answer = thrown.elim (.returned e.providerRefundId) .threw)) ∨
    ∃ claimed provider now answer, a = .completeAttempt sid ∧
      sys.submissions.lookup sid = some (Submission.mk claimed provider now (.answered answer)) ∧
      submission = Submission.mk claimed provider now (.attemptClosed answer) := by
  have hinsert : ∀ id s, sys'.submissions = sys.submissions.insert id s →
      sys.submissions.lookup sid = some submission ∨ sid = id ∧ submission = s := by
    intro id s heq
    rw [heq, Table.lookup_insert_ite] at hlook'
    split at hlook'
    · rename_i hid
      exact .inr ⟨hid, (Option.some.inj hlook').symm⟩
    · exact .inl hlook'
  cases a with
  | claim id provider refundId now =>
      rcases step_claim h with ⟨db, -, rfl⟩ | ⟨claimed, db, hrun, -, rfl⟩
      · exact .inl hlook'
      · rcases hinsert _ _ rfl with hsame | ⟨rfl, rfl⟩
        · exact .inl hsame
        · exact .inr (.inl ⟨claimed, provider, refundId, now, rfl, hrun, rfl⟩)
  | createRefund id outcome =>
      obtain ⟨claimed, provider, now, answer, external, hlook, rfl, houtcome⟩ := step_createRefund h
      rcases hinsert _ _ rfl with hsame | ⟨rfl, rfl⟩
      · exact .inl hsame
      · exact .inr (.inr
          (.inl ⟨claimed, provider, now, answer, outcome, rfl, hlook, rfl, houtcome⟩))
  | completeAttempt id =>
      obtain ⟨claimed, provider, now, answer, db, hlook, -, rfl⟩ := step_completeAttempt h
      rcases hinsert _ _ rfl with hsame | ⟨rfl, rfl⟩
      · exact .inl hsame
      · exact .inr (.inr (.inr ⟨claimed, provider, now, answer, rfl, hlook, rfl⟩))
  | finish id =>
      obtain ⟨_, _, _, _, -, rfl⟩ := step_finish h
      refine .inl ?_
      by_cases hid : sid = id
      · subst hid
        rw [AList.lookup_erase] at hlook'
        cases hlook'
      · rwa [AList.lookup_erase_ne hid] at hlook'
  | inspect refundId listed =>
      rcases (step_inspect h).2 with ⟨-, rfl⟩ | ⟨_, -, rfl⟩ <;> exact .inl hlook'
  | adopt refundId ref =>
      obtain ⟨-, rfl⟩ := step_adopt h
      exact .inl hlook'
  | _ =>
      cases h
      exact .inl hlook'

/-- How the provider's refunds change: an accepted call adds one under its key. -/
theorem external_cases {a : RefundAction} (h : sys.step a = some sys') :
    sys'.external = sys.external ∨
    ∃ sid claimed provider now fresh thrown e, a = .createRefund sid (.accepts fresh thrown) ∧
      sys.submissions.lookup sid = some (Submission.mk claimed provider now .claimed) ∧
      e.idempotencyKey = claimed.providerIdempotencyKey ∧ sys'.external = sys.external ++ [e] ∧
      e.providerRefundId ∉ sys.external.map (·.providerRefundId) ∧
      e.idempotencyKey ∉ sys.external.map (·.idempotencyKey) := by
  cases a with
  | claim id provider refundId now =>
      rcases step_claim h with ⟨db, -, rfl⟩ | ⟨claimed, db, -, -, rfl⟩ <;> exact .inl rfl
  | createRefund id outcome =>
      obtain ⟨claimed, provider, now, answer, external, hlook, rfl, ⟨_, -, rfl, -⟩ |
        ⟨fresh, thrown, e, rfl, haccept, -⟩⟩ := step_createRefund h
      · exact .inl rfl
      · obtain ⟨hkey, -, rfl | ⟨rfl, hid, hnew⟩⟩ := accept_cases haccept
        · exact .inl rfl
        · exact .inr ⟨id, claimed, provider, now, fresh, thrown, e, rfl, hlook, hkey,
            rfl, hid, hnew⟩
  | completeAttempt id =>
      obtain ⟨_, _, _, _, _, -, -, rfl⟩ := step_completeAttempt h
      exact .inl rfl
  | finish id =>
      obtain ⟨_, _, _, _, -, rfl⟩ := step_finish h
      exact .inl rfl
  | inspect refundId listed =>
      rcases (step_inspect h).2 with ⟨-, rfl⟩ | ⟨_, -, rfl⟩ <;> exact .inl rfl
  | adopt refundId ref =>
      obtain ⟨-, rfl⟩ := step_adopt h
      exact .inl rfl
  | _ =>
      cases h
      exact .inl rfl

theorem calls_cases {a : RefundAction} (h : sys.step a = some sys') :
    sys'.calls = sys.calls ∨
    ∃ sid submission, sys.submissions.lookup sid = some submission ∧
      sys'.calls = sys.calls ++
        [CreateRefundCall.mk submission.claimed (sys.db.refunds.lookup submission.claimed.id)] := by
  cases a with
  | claim id provider refundId now =>
      rcases step_claim h with ⟨db, -, rfl⟩ | ⟨claimed, db, -, -, rfl⟩ <;> exact .inl rfl
  | createRefund id outcome =>
      obtain ⟨claimed, provider, now, answer, external, hlook, rfl, -⟩ := step_createRefund h
      exact .inr ⟨id, _, hlook, rfl⟩
  | completeAttempt id =>
      obtain ⟨_, _, _, _, _, -, -, rfl⟩ := step_completeAttempt h
      exact .inl rfl
  | finish id =>
      obtain ⟨_, _, _, _, -, rfl⟩ := step_finish h
      exact .inl rfl
  | inspect refundId listed =>
      rcases (step_inspect h).2 with ⟨-, rfl⟩ | ⟨_, -, rfl⟩ <;> exact .inl rfl
  | adopt refundId ref =>
      obtain ⟨-, rfl⟩ := step_adopt h
      exact .inl rfl
  | _ =>
      cases h
      exact .inl rfl

theorem external_mono {a : RefundAction} (h : sys.step a = some sys') {e : ExternalRefund}
    (he : e ∈ sys.external) : e ∈ sys'.external := by
  rcases external_cases h with heq | ⟨_, _, _, _, _, _, _, -, -, -, heq, -⟩
  · rwa [heq]
  · rw [heq]
    exact List.mem_append_left _ he

theorem Grounded.step {a : RefundAction} (hs : sys.Grounded) (h : sys.step a = some sys') :
    sys'.Grounded := by
  have hlinked :
      ∀ id key, (∃ r, sys.db.refunds.lookup id = some r ∧ r.providerIdempotencyKey = key) →
      ∃ r, sys'.db.refunds.lookup id = some r ∧ r.providerIdempotencyKey = key := by
    rintro id key ⟨r, hr, hkey⟩
    obtain ⟨r', hr', hevolves⟩ := refund_evolves (db_steps h) hr
    exact ⟨r', hr', hevolves.key.trans hkey⟩
  refine ⟨rows_of_steps (db_steps h) hs.rows, ?_, ?_, ?_, ?_, ?_⟩
  · rcases external_cases h with heq | ⟨_, _, _, _, _, _, e, -, -, -, heq, hid, -⟩
    · rw [heq]
      exact hs.externalIds
    · rw [heq, List.map_append, List.map_singleton, ← List.concat_eq_append]
      exact hs.externalIds.concat hid
  · rcases external_cases h with heq | ⟨_, _, _, _, _, _, e, -, -, -, heq, -, hkey⟩
    · rw [heq]
      exact hs.externalKeys
    · rw [heq, List.map_append, List.map_singleton, ← List.concat_eq_append]
      exact hs.externalKeys.concat hkey
  · intro sid submission hlook'
    rcases submission_cases h hlook' with hlook | ⟨claimed, provider, refundId, now, rfl,
      hrun, rfl⟩ |
      ⟨claimed, provider, now, answer, outcome, -, hlook, rfl, -⟩ |
      ⟨claimed, provider, now, answer, -, hlook, rfl⟩
    · exact hlinked _ _ (hs.linked sid submission hlook)
    · obtain ⟨r, t, hr, -, hid, hkey, -⟩ :=
        ensures_claimRefundForSubmission _ _ hrun claimed rfl
      exact hlinked _ _ ⟨r, hid ▸ hr, hkey.symm⟩
    · have hold := hs.linked sid _ hlook
      exact hlinked _ _ hold
    · have hold := hs.linked sid _ hlook
      exact hlinked _ _ hold
  · intro e he
    rcases external_cases h with heq | ⟨sid, claimed, _, _, _, _, new, -, hlook, hkey, heq, -⟩
    · obtain ⟨id, hid⟩ := hs.owned e (heq ▸ he)
      exact ⟨id, hlinked id _ hid⟩
    · rw [heq, List.mem_append, List.mem_singleton] at he
      rcases he with he | rfl
      · obtain ⟨id, hid⟩ := hs.owned e he
        exact ⟨id, hlinked id _ hid⟩
      · rw [hkey]
        exact ⟨claimed.id, hlinked _ _ (hs.linked sid _ hlook)⟩
  · intro sid submission ref hlook' hstage
    have hkeep : (∃ e ∈ sys.external, e.providerRefundId = ref ∧
          e.idempotencyKey = submission.claimed.providerIdempotencyKey) →
        ∃ e ∈ sys'.external, e.providerRefundId = ref ∧
          e.idempotencyKey = submission.claimed.providerIdempotencyKey := by
      rintro ⟨e, he, hid, hkey⟩
      exact ⟨e, external_mono h he, hid, hkey⟩
    rcases submission_cases h hlook' with hlook | ⟨claimed, provider, refundId, now, -, -, rfl⟩ |
      ⟨claimed, provider, now, answer, outcome, -, -, rfl, houtcome⟩ |
      ⟨claimed, provider, now, answer, -, hlook, rfl⟩
    · exact hkeep (hs.answered sid submission ref hlook hstage)
    · simp at hstage
    · have hanswer : answer = .returned ref := by simpa using hstage
      subst hanswer
      rcases houtcome with ⟨message, -, -, hcontra⟩ | ⟨fresh, thrown, e, -, haccept, hreturned⟩
      · cases hcontra
      · cases thrown with
        | some message => cases hreturned
        | none =>
            cases hreturned
            obtain ⟨hkey, hmem, -⟩ := accept_cases haccept
            exact ⟨e, hmem, rfl, hkey⟩
    · have hold := hs.answered sid _ ref hlook (.inl (by simpa using hstage))
      exact hkeep hold

/-! ## §3 A captured payment -/

/-- The captured payment, nothing requested yet. -/
def capturedStart : RefundSystem :=
  { db := capturedPayment }

theorem capturedStart_start : capturedStart.Start where
  refunds := fun id => AList.lookup_empty id
  external := rfl
  submissions := fun sid => AList.lookup_empty sid
  calls := rfl
  adoptions := rfl

/-- One seat of the booking requested and submitted, with the provider's outcome. -/
def requestAndSubmit (actor : RefundActor) (seat : BookingSeatId) (key : RequestKey)
    (id : RefundId) (outcome : CallOutcome) : List RefundAction :=
  [.requestRefund actor
      { bookingReference := 1, scope := .SELECTED_SEATS, bookingSeatIds := [seat]
        reasonCode := .CUSTOMER_REQUEST, idempotencyKey := key }
      { refundId := id, publicReference := id } 200,
    .claim id .STRIPE id 210, .createRefund id outcome, .completeAttempt id, .finish id]

end RefundSystem

end SeatFlow
