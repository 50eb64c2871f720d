import SeatFlow.Refunds.RefundSystem

/-!
# Unknown outcomes of submissions

A refund whose provider call failed cleanly is marked `FAILED` and its seats can
be refunded again; one whose outcome is unknown stays in flight. The two are told
apart by words in the error's message. So a refund that the provider accepted
stays live exactly as long as the errors thrown after the acceptance carry such a
word, and the adapter's own normalisation error does not.
-/

namespace SeatFlow

open Relational

/-! ## §1 The adapter's normalisation error -/

def normalizedRefundStatuses : List (String × RefundStatus) :=
  [("pending", .PROCESSING), ("processing", .PROCESSING), ("requires_action", .PROCESSING),
    ("succeeded", .SUCCEEDED), ("success", .SUCCEEDED), ("failed", .FAILED), ("failure", .FAILED),
    ("canceled", .CANCELLED), ("cancelled", .CANCELLED), ("requires_review", .REQUIRES_REVIEW)]

/-- `value.trim().toLowerCase()`; no character outside ASCII has a letter of the
known statuses for its lower case. -/
def normalizedWord (value : String) : String :=
  String.ofList
    ((((value.toList.dropWhile isBlank).reverse.dropWhile isBlank).reverse).map Char.toLower)

/-- The lower-case names that every object inherits. Reading one of them from the table
of statuses gives a member of `Object.prototype`. -/
def inheritedNames : List String := ["constructor", "__proto__"]

/-- `normalizeProviderRefundStatus`: an unknown status throws. `none` is what is no
status and does not throw either, an inherited member. -/
def normalizeProviderRefundStatus (value : String) : Except String (Option RefundStatus) :=
  match normalizedRefundStatuses.lookup (normalizedWord value) with
  | some status => .ok (some status)
  | none =>
      if normalizedWord value ∈ inheritedNames then .ok none
      else .error "Unsupported provider refund status."

/-- What `toProviderRefund` throws for the status that the provider returned. -/
def thrownByNormalization (value : String) : Option (Option String) :=
  match normalizeProviderRefundStatus value with
  | .ok _ => none
  | .error message => some (some message)

/-- The normalisation error is taken for a clean rejection. -/
theorem thrownByNormalization_not_ambiguous {value : String} {message : Option String}
    (h : thrownByNormalization value = some message) : isAmbiguousFailure message = false := by
  have hmessage : message = some "Unsupported provider refund status." := by
    unfold thrownByNormalization normalizeProviderRefundStatus at h
    cases hlookup : normalizedRefundStatuses.lookup (normalizedWord value) with
    | some status => simp [hlookup] at h
    | none =>
        by_cases hinherited : normalizedWord value ∈ inheritedNames
        · simp [hlookup, hinherited] at h
        · simp only [hlookup, hinherited, if_false, Option.some.injEq] at h
          exact h.symm
  subst hmessage
  decide +kernel

/-! ## §2 Live refunds have different seats -/

theorem RefundUpdate.seats_apply (u : RefundUpdate) (r : Refund) : (u.apply r).seats = r.seats := by
  cases u <;> rfl

theorem RefundUpdate.succeededAt_apply {u : RefundUpdate} (hu : u.status ≠ .SUCCEEDED)
    (r : Refund) : (u.apply r).succeededAt = r.succeededAt := by
  cases u with
  | succeed now => exact absurd rfl hu
  | _ => rfl

/-- Only success and review can bring a released refund back to its seats. -/
theorem coversSeats_of_update {db : Db} {id : RefundId} {r : Refund} {u : RefundUpdate}
    (hvalid : Refund.validate db id (some r) (u.apply r) = .ok ())
    (hsuccess : u.status ≠ .SUCCEEDED)
    (hreview : u.status ≠ .REQUIRES_REVIEW) (hcovers : (u.apply r).coversSeats = true) :
    r.coversSeats = true := by
  have hprotected := (Refund.protected_of_validate hvalid).terminal
  rw [RefundUpdate.status_apply] at hprotected
  rw [Refund.coversSeats, RefundUpdate.succeededAt_apply hsuccess,
    RefundUpdate.status_apply] at hcovers
  rw [Refund.coversSeats]
  cases hterminal : isTerminalRefundStatus r.status with
  | false => cases hstatus : r.status <;> simp_all [isTerminalRefundStatus, isInFlightRefundStatus]
  | true =>
      rcases hprotected hterminal with hsame | hsame
      · rwa [hsame] at hcovers
      · exact absurd hsame hreview

/-- No booked seat is covered by two refunds. -/
def SeatsDisjoint (refunds : Table RefundId Refund) : Prop :=
  ∀ id r id' r' seat, refunds.lookup id = some r → refunds.lookup id' = some r' →
    r.coversSeats = true → r'.coversSeats = true → seat ∈ r.seats.map (·.bookingSeatId) →
    seat ∈ r'.seats.map (·.bookingSeatId) → id = id'

theorem SeatsDisjoint.insert {refunds : Table RefundId Refund} (hs : SeatsDisjoint refunds)
    {rid : RefundId} {row : Refund}
    (hrow : row.coversSeats = true → ∀ id r seat, refunds.lookup id = some r → id ≠ rid →
      r.coversSeats = true → seat ∈ r.seats.map (·.bookingSeatId) →
      seat ∉ row.seats.map (·.bookingSeatId)) : SeatsDisjoint (refunds.insert rid row) := by
  intro id r id' r' seat hr hr' hcovers hcovers' hseat hseat'
  rw [Table.lookup_insert_ite] at hr hr'
  split at hr <;> split at hr'
  · rename_i hid hid'
    rw [hid, hid']
  · rename_i hid hne
    cases hr
    exact absurd hseat (hrow hcovers id' r' seat hr' hne hcovers' hseat')
  · rename_i hne hid'
    cases hr'
    exact absurd hseat' (hrow hcovers' id r seat hr hne hcovers hseat)
  · exact hs id r id' r' seat hr hr' hcovers hcovers' hseat hseat'

theorem SeatsDisjoint.step {U : RefundId → RefundUpdate → Prop} {B : BookingId → Prop}
    {W : WebhookId → Prop} {s s' : Db}
    (hs : SeatsDisjoint s.refunds) (h : RefundStep U B W s s')
    (hU : ∀ id u, U id u → u.status ≠ .SUCCEEDED ∧ u.status ≠ .REQUIRES_REVIEW) :
    SeatsDisjoint s'.refunds := by
  cases h with
  | plain hrefunds hattempts hbookings hwebhooks => rwa [hrefunds]
  | insert rid row habsent hvalid hfresh =>
      refine SeatsDisjoint.insert hs fun _ id r seat _ _ _ _ => ?_
      simp [hfresh.seats]
  | seats rid r₀ added hlook hvalid =>
      refine SeatsDisjoint.insert hs fun hcovers id r seat hr hne hcovers' hseat hmem => ?_
      rw [List.map_append, List.mem_append] at hmem
      rcases hmem with hold | hadded
      · exact hne (hs id r rid r₀ seat hr hlook hcovers' hcovers hseat hold)
      · obtain ⟨new, hnew, rfl⟩ := List.mem_map.mp hadded
        simp only [RefundSeat.validate, Option.elim_some, appended_append, Except.bind_unit_eq_ok,
          checkAll_eq_ok, RefundSeat.enforceSnapshot, check_eq_ok] at hvalid
        have hcovering := (hvalid.2 new hnew).2.2.2
        have hfound : (id, r) ∈ s.coveringRefunds rid new.bookingSeatId := by
          obtain ⟨covered, hcovered, heq⟩ := List.mem_map.mp hseat
          refine Table.mem_select.mpr ⟨hr, ?_⟩
          simp only [Bool.and_eq_true, bne_iff_ne, ne_eq, List.any_eq_true, beq_iff_eq]
          exact ⟨⟨hne, hcovers'⟩, covered, hcovered, heq⟩
        rw [hcovering] at hfound
        cases hfound
  | update rid r₀ u hu hlook hvalid =>
      refine SeatsDisjoint.insert hs fun hcovers id r seat hr hne hcovers' hseat hmem => ?_
      rw [RefundUpdate.seats_apply] at hmem
      have hcovered := coversSeats_of_update hvalid (hU rid u hu).1 (hU rid u hu).2 hcovers
      exact hne (hs id r rid r₀ seat hr hlook hcovers' hcovered hseat hmem)
  | aggregate aid a refunded inFlight hlook hvalid => exact hs
  | refunded bid b now hB hlook => exact hs
  | stored wid w habsent hreceived => exact hs
  | webhook wid w w' hW hlook hvalid => exact hs

/-! ## §3 Accepted refunds stay live -/

namespace RefundSystem

variable {sys sys' : RefundSystem}

/-- The condition on a step of requests and submissions: an error thrown after
the provider accepted the key is recognised as an unknown outcome. -/
def unknownRecognised (_ : RefundSystem) : RefundAction → Bool
  | .createRefund _ (.accepts _ (some message)) => isAmbiguousFailure message
  | .requestRefund _ _ _ _ | .claim _ _ _ _ | .createRefund _ _ | .completeAttempt _
  | .finish _ => true
  | _ => false

/-- What the steps keep about submissions and accepted keys. -/
structure Submitting (sys : RefundSystem) : Prop where
  distinct : ∀ sid submission sid' submission', sys.submissions.lookup sid = some submission →
    sys.submissions.lookup sid' = some submission' →
    submission.claimed.id = submission'.claimed.id →
    sid = sid'
  pending : ∀ sid submission, sys.submissions.lookup sid = some submission →
    ∃ r, sys.db.refunds.lookup submission.claimed.id = some r ∧ r.status = .SUBMITTING
  live : ∀ e ∈ sys.external, ∃ id r, sys.db.refunds.lookup id = some r ∧
    r.providerIdempotencyKey = e.idempotencyKey ∧ (r.status = .SUBMITTING ∨ r.status = .PROCESSING)
  unanswered : ∀ sid submission, sys.submissions.lookup sid = some submission →
    submission.stage = .claimed → ∀ e ∈ sys.external,
      e.idempotencyKey ≠ submission.claimed.providerIdempotencyKey
  recognised : ∀ sid submission message, sys.submissions.lookup sid = some submission →
    (submission.stage = .answered (.threw message) ∨
      submission.stage = .attemptClosed (.threw message)) →
    ∀ e ∈ sys.external, e.idempotencyKey = submission.claimed.providerIdempotencyKey →
      isAmbiguousFailure message = true
  disjoint : SeatsDisjoint sys.db.refunds

theorem Start.submitting (h : sys.Start) : sys.Submitting where
  distinct := fun sid s _ _ hs => by simp [h.submissions sid] at hs
  pending := fun sid s hs => by simp [h.submissions sid] at hs
  live := by simp [h.external]
  unanswered := fun sid s hs => by simp [h.submissions sid] at hs
  recognised := fun sid s _ hs => by simp [h.submissions sid] at hs
  disjoint := fun id r _ _ _ hr => by simp [h.refunds id] at hr

/-- A refund after an action: its key is the same, and its status unless the
action may update it. -/
theorem refund_after {a : RefundAction} (h : sys.step a = some sys') {id : RefundId} {r : Refund}
    (hr : sys.db.refunds.lookup id = some r) :
    ∃ r', sys'.db.refunds.lookup id = some r' ∧
      r'.providerIdempotencyKey = r.providerIdempotencyKey ∧
      (r'.status = r.status ∨ ∃ u, sys.Allowed a id u ∧ r'.status = u.status) := by
  obtain ⟨r', hr', hstatus⟩ := refund_status (db_steps h) hr
  obtain ⟨r'', hr'', hevolves⟩ := refund_evolves (db_steps h) hr
  cases Option.some.inj (hr'.symm.trans hr'')
  exact ⟨r', hr', hevolves.key, hstatus⟩

/-- The updates of requests and submissions neither settle nor escalate. -/
theorem allowed_status {a : RefundAction} (hok : sys.unknownRecognised a = true) {id : RefundId}
    {u : RefundUpdate} (hu : sys.Allowed a id u) :
    u.status = .SUBMITTING ∨ u.status = .PROCESSING ∨ u.status = .FAILED := by
  cases a with
  | claim sid provider refundId now =>
      obtain ⟨-, t, rfl⟩ := hu
      exact .inl rfl
  | finish sid =>
      obtain ⟨claimed, provider, now, answer, -, -, rfl⟩ := hu
      cases answer with
      | returned ref => exact .inr (.inl rfl)
      | threw message =>
          simp only [answerUpdate]
          split
          · exact .inr (.inl rfl)
          · exact .inr (.inr rfl)
  | requestRefund actor input fresh now => exact hu.elim
  | createRefund sid outcome => exact hu.elim
  | completeAttempt sid => exact hu.elim
  | _ => cases hok

/-- Two submissions with one key are one. -/
theorem Submitting.eq_of_key (hs : sys.Submitting) (hgrounded : sys.Grounded)
    {sid sid' : SubmissionId} {submission submission' : Submission}
    (hlook : sys.submissions.lookup sid = some submission)
    (hlook' : sys.submissions.lookup sid' = some submission')
    (hkey : submission.claimed.providerIdempotencyKey
      = submission'.claimed.providerIdempotencyKey) : sid = sid' := by
  obtain ⟨r, hr, hrkey⟩ := hgrounded.linked sid submission hlook
  obtain ⟨r', hr', hrkey'⟩ := hgrounded.linked sid' submission' hlook'
  have hid := hgrounded.rows.keys _ r _ r' hr hr' (by rw [hrkey, hrkey', hkey])
  exact hs.distinct sid submission sid' submission' hlook hlook' hid

/-- A claimed refund was requested, so it had neither a submission nor an
accepted key. -/
theorem Submitting.fresh_claim (hs : sys.Submitting) (hgrounded : sys.Grounded)
    {refundId : RefundId} {now : Time} {claimed : ClaimedRefund} {db : Db}
    (hrun : (claimRefundForSubmission refundId now).run sys.db = .ok (some claimed, db)) :
    claimed.id = refundId ∧
      (∃ r, db.refunds.lookup refundId = some r ∧ r.status = .SUBMITTING) ∧
      (∀ sid submission, sys.submissions.lookup sid = some submission →
        submission.claimed.id ≠ refundId) ∧
      ∀ e ∈ sys.external, e.idempotencyKey ≠ claimed.providerIdempotencyKey := by
  obtain ⟨r, t, hr, hrequested, hid, hkey, hrefunds⟩ :=
    ensures_claimRefundForSubmission _ _ hrun claimed rfl
  refine ⟨hid, ⟨_, by rw [hrefunds, Table.lookup_insert_ite, if_pos rfl], rfl⟩, ?_, ?_⟩
  · intro sid submission hlook heq
    obtain ⟨r', hr', hpending⟩ := hs.pending sid submission hlook
    rw [heq, hr] at hr'
    cases hr'
    rw [hrequested] at hpending
    cases hpending
  · intro e he heq
    obtain ⟨id', r', hr', hkey', hlive⟩ := hs.live e he
    have hsame := hgrounded.rows.keys id' r' refundId r hr' hr (by rw [hkey', heq, hkey])
    rw [hsame, hr] at hr'
    cases hr'
    simp [hrequested] at hlive

/-- A submission after an action carries the claim of one that was there, or was
claimed by this action. -/
theorem submission_origin {a : RefundAction} (h : sys.step a = some sys') {sid : SubmissionId}
    {submission' : Submission} (hlook' : sys'.submissions.lookup sid = some submission') :
    (∃ submission, sys.submissions.lookup sid = some submission ∧
      submission'.claimed = submission.claimed) ∨
    ∃ provider refundId now, a = .claim sid provider refundId now ∧
      (claimRefundForSubmission refundId now).run sys.db = .ok
        (some submission'.claimed, sys'.db) := by
  rcases submission_cases h hlook' with hlook | ⟨claimed, provider, refundId, now, rfl, hrun, rfl⟩ |
    ⟨claimed, provider, now, answer, outcome, -, hlook, rfl, -⟩ |
    ⟨claimed, provider, now, answer, -, hlook, rfl⟩
  · exact .inl ⟨_, hlook, rfl⟩
  · exact .inr ⟨provider, refundId, now, rfl, hrun⟩
  · exact .inl ⟨_, hlook, rfl⟩
  · exact .inl ⟨_, hlook, rfl⟩

theorem Submitting.step_distinct {a : RefundAction} (hs : sys.Submitting)
    (hgrounded : sys.Grounded) (h : sys.step a = some sys') :
    ∀ sid submission sid' submission', sys'.submissions.lookup sid = some submission →
      sys'.submissions.lookup sid' = some submission' →
      submission.claimed.id = submission'.claimed.id → sid = sid' := by
  intro sid submission sid' submission' hlook hlook' hid
  rcases submission_origin h hlook with
    ⟨old, hold, hclaimed⟩ | ⟨provider, refundId, now, rfl, hrun⟩ <;>
    rcases submission_origin h hlook' with ⟨old', hold', hclaimed'⟩ |
      ⟨provider', refundId', now', ha', hrun'⟩
  · exact hs.distinct sid old sid' old' hold hold' (by rw [← hclaimed, ← hclaimed', hid])
  · obtain ⟨hid', -, hother, -⟩ := hs.fresh_claim hgrounded hrun'
    exact absurd (by rw [← hclaimed, hid, hid']) (hother sid old hold)
  · obtain ⟨hid', -, hother, -⟩ := hs.fresh_claim hgrounded hrun
    exact absurd (by rw [← hclaimed', ← hid, hid']) (hother sid' old' hold')
  · cases ha'
    rfl

theorem Submitting.step_pending {a : RefundAction} (hs : sys.Submitting)
    (hgrounded : sys.Grounded) (hok : sys.unknownRecognised a = true) (h : sys.step a = some sys') :
    ∀ sid submission, sys'.submissions.lookup sid = some submission →
      ∃ r, sys'.db.refunds.lookup submission.claimed.id = some r ∧ r.status = .SUBMITTING := by
  intro sid submission hlook
  rcases submission_origin h hlook with ⟨old, hold, hclaimed⟩ | ⟨provider, refundId, now, rfl, hrun⟩
  · obtain ⟨r, hr, hpending⟩ := hs.pending sid old hold
    obtain ⟨r', hr', -, hstatus | ⟨u, hu, hstatus⟩⟩ := refund_after h hr
    · exact ⟨r', hclaimed ▸ hr', hstatus.trans hpending⟩
    · refine ⟨r', hclaimed ▸ hr', ?_⟩
      cases a with
      | claim sid₁ provider refundId now =>
          obtain ⟨-, t, rfl⟩ := hu
          exact hstatus
      | finish sid₁ =>
          -- the finished submission is gone, and it was the only one of its refund
          obtain ⟨claimed, provider, now, answer, hlook₁, hid, -⟩ := hu
          have hsame := hs.distinct sid old sid₁ _ hold hlook₁ hid
          obtain ⟨_, _, _, _, -, rfl⟩ := step_finish h
          rw [hsame] at hlook
          simp [AList.lookup_erase] at hlook
      | requestRefund actor input fresh now => exact hu.elim
      | createRefund sid₁ outcome => exact hu.elim
      | completeAttempt sid₁ => exact hu.elim
      | _ => cases hok
  · obtain ⟨hid, hsubmitting, -⟩ := hs.fresh_claim hgrounded hrun
    rwa [hid]

theorem Submitting.step_live {a : RefundAction} (hs : sys.Submitting)
    (hgrounded : sys.Grounded) (hok : sys.unknownRecognised a = true) (h : sys.step a = some sys') :
    ∀ e ∈ sys'.external, ∃ id r, sys'.db.refunds.lookup id = some r ∧
      r.providerIdempotencyKey = e.idempotencyKey ∧
      (r.status = .SUBMITTING ∨ r.status = .PROCESSING) := by
  have hkept : ∀ e ∈ sys.external, ∃ id r, sys'.db.refunds.lookup id = some r ∧
      r.providerIdempotencyKey = e.idempotencyKey ∧
      (r.status = .SUBMITTING ∨ r.status = .PROCESSING) := by
    intro e he
    obtain ⟨id, r, hr, hkey, hlive⟩ := hs.live e he
    obtain ⟨r', hr', hkey', hstatus | ⟨u, hu, hstatus⟩⟩ := refund_after h hr
    · exact ⟨id, r', hr', hkey'.trans hkey, hstatus ▸ hlive⟩
    · refine ⟨id, r', hr', hkey'.trans hkey, ?_⟩
      rcases allowed_status hok hu with hu' | hu' | hfailed
      · exact .inl (hstatus.trans hu')
      · exact .inr (hstatus.trans hu')
      · -- only a submission that takes its error for a rejection fails a refund
        cases a with
        | claim sid provider refundId now =>
            obtain ⟨-, t, rfl⟩ := hu
            cases hfailed
        | finish sid =>
            obtain ⟨claimed, provider, now, answer, hlook, hid, rfl⟩ := hu
            cases answer with
            | returned ref => cases hfailed
            | threw message =>
                obtain ⟨r₁, hr₁, hkey₁⟩ := hgrounded.linked sid _ hlook
                rw [← hid, hr] at hr₁
                cases hr₁
                have hrecognised := hs.recognised sid _ message hlook (.inr rfl) e he
                  (hkey.symm.trans hkey₁)
                simp [answerUpdate, hrecognised, RefundUpdate.status] at hfailed
        | requestRefund actor input fresh now => exact hu.elim
        | createRefund sid outcome => exact hu.elim
        | completeAttempt sid => exact hu.elim
        | _ => cases hok
  intro e he
  rcases external_cases h with heq | ⟨sid, claimed, provider, now, fresh, thrown, new, rfl,
    hlook, hkey,
    heq, -⟩
  · exact hkept e (heq ▸ he)
  · rw [heq, List.mem_append, List.mem_singleton] at he
    rcases he with he | rfl
    · exact hkept e he
    · obtain ⟨r, hr, hrkey⟩ := hgrounded.linked sid _ hlook
      obtain ⟨r₁, hr₁, hpending⟩ := hs.pending sid _ hlook
      rw [hr] at hr₁
      cases hr₁
      obtain ⟨r', hr', hkey', hstatus | ⟨u, hu, -⟩⟩ := refund_after h hr
      · exact ⟨_, r', hr', by rw [hkey', hrkey, hkey], .inl (hstatus.trans hpending)⟩
      · exact hu.elim

/-- A key that a step newly accepts is that of the submission whose call it is. -/
theorem Submitting.accepted_cases {a : RefundAction} (hs : sys.Submitting)
    (hgrounded : sys.Grounded) (h : sys.step a = some sys') {sid : SubmissionId}
    {submission : Submission} (hlook : sys.submissions.lookup sid = some submission)
    {e : ExternalRefund} (he : e ∈ sys'.external)
    (hkey : e.idempotencyKey = submission.claimed.providerIdempotencyKey) :
    e ∈ sys.external ∨ ∃ fresh thrown, a = .createRefund sid (.accepts fresh thrown) := by
  rcases external_cases h with heq | ⟨sid', claimed, provider, now, fresh, thrown, new, rfl, hlook',
    hnew, heq, -⟩
  · exact .inl (heq ▸ he)
  · rw [heq, List.mem_append, List.mem_singleton] at he
    rcases he with he | rfl
    · exact .inl he
    · have hsame := hs.eq_of_key hgrounded hlook hlook' (by rw [← hkey, hnew])
      exact .inr ⟨fresh, thrown, by rw [hsame]⟩

theorem Submitting.step_unanswered {a : RefundAction} (hs : sys.Submitting)
    (hgrounded : sys.Grounded) (h : sys.step a = some sys') :
    ∀ sid submission, sys'.submissions.lookup sid = some submission →
      submission.stage = .claimed → ∀ e ∈ sys'.external,
        e.idempotencyKey ≠ submission.claimed.providerIdempotencyKey := by
  intro sid submission hlook' hstage e he hkey
  rcases submission_cases h hlook' with hlook | ⟨claimed, provider, refundId, now, rfl, hrun, rfl⟩ |
    ⟨claimed, provider, now, answer, outcome, -, hlook, rfl, -⟩ |
    ⟨claimed, provider, now, answer, -, hlook, rfl⟩
  · rcases hs.accepted_cases hgrounded h hlook he hkey with hold | ⟨fresh, thrown, rfl⟩
    · exact hs.unanswered sid submission hlook hstage e hold hkey
    · obtain ⟨claimed, provider, now, answer, external, -, rfl, -⟩ := step_createRefund h
      rw [Table.lookup_insert_ite, if_pos rfl] at hlook'
      cases hlook'
      cases hstage
  · rcases external_cases h with heq | ⟨_, _, _, _, _, _, _, ha, -⟩
    · exact (hs.fresh_claim hgrounded hrun).2.2.2 e (heq ▸ he) hkey
    · cases ha
  · cases hstage
  · cases hstage

theorem Submitting.step_recognised {a : RefundAction} (hs : sys.Submitting)
    (hgrounded : sys.Grounded) (hok : sys.unknownRecognised a = true) (h : sys.step a = some sys') :
    ∀ sid submission message, sys'.submissions.lookup sid = some submission →
      (submission.stage = .answered (.threw message) ∨
        submission.stage = .attemptClosed (.threw message)) →
      ∀ e ∈ sys'.external, e.idempotencyKey = submission.claimed.providerIdempotencyKey →
        isAmbiguousFailure message = true := by
  intro sid submission message hlook' hstage e he hkey
  rcases submission_cases h hlook' with hlook | ⟨claimed, provider, refundId, now, -, -, rfl⟩ |
    ⟨claimed, provider, now, answer, outcome, rfl, hlook, rfl, houtcome⟩ |
    ⟨claimed, provider, now, answer, rfl, hlook, rfl⟩
  · rcases hs.accepted_cases hgrounded h hlook he hkey with hold | ⟨fresh, thrown, rfl⟩
    · exact hs.recognised sid submission message hlook hstage e hold hkey
    · obtain ⟨claimed, provider, now, answer, external, hcalled, -⟩ := step_createRefund h
      rw [hlook] at hcalled
      cases hcalled
      simp at hstage
  · simp at hstage
  · have hanswer : answer = .threw message := by simpa using hstage
    subst hanswer
    rcases houtcome with ⟨m, rfl, hsame, -⟩ | ⟨fresh, thrown, new, rfl, -, hthrown⟩
    · rw [hsame] at he
      exact absurd hkey (hs.unanswered sid _ hlook rfl e he)
    · cases thrown with
      | none => cases hthrown
      | some m =>
          cases hthrown
          exact hok
  · rcases hs.accepted_cases hgrounded h hlook he hkey with hold | ⟨_, _, ha⟩
    · exact hs.recognised sid _ message hlook (.inl (by simpa using hstage)) e hold hkey
    · cases ha

theorem Submitting.step {a : RefundAction} (hs : sys.Submitting) (hgrounded : sys.Grounded)
    (hok : sys.unknownRecognised a = true) (h : sys.step a = some sys') : sys'.Submitting where
  distinct := hs.step_distinct hgrounded h
  pending := hs.step_pending hgrounded hok h
  live := hs.step_live hgrounded hok h
  unanswered := hs.step_unanswered hgrounded h
  recognised := hs.step_recognised hgrounded hok h
  disjoint := by
    have hsteps := db_steps h
    have hstart := hs.disjoint
    generalize sys'.db = db at hsteps
    induction hsteps with
    | refl => exact hstart
    | tail _ hstep ih =>
        refine ih.step hstep fun id u hu => ?_
        rcases allowed_status hok hu with hu | hu | hu <;> simp [hu]

/-- **Unknown outcomes.** In every run of requests and submissions in which the
errors thrown after an acceptance are recognised as unknown outcomes, no refund
whose key the provider accepted is failed, and no booked seat is covered by two
accepted refunds. -/
theorem accepted_live_of_unknownRecognised (hstart : sys.Start)
    (hreach : Reaches RefundSystem.step (fun s a => s.unknownRecognised a = true) sys sys') :
    (∀ e ∈ sys'.external, ∀ id r, sys'.db.refunds.lookup id = some r →
      r.providerIdempotencyKey = e.idempotencyKey → r.status ≠ .FAILED) ∧
    ∀ e ∈ sys'.external, ∀ e' ∈ sys'.external, ∀ id r id' r' seat,
      sys'.db.refunds.lookup id = some r → sys'.db.refunds.lookup id' = some r' →
      r.providerIdempotencyKey = e.idempotencyKey → r'.providerIdempotencyKey = e'.idempotencyKey →
      seat ∈ r.seats.map (·.bookingSeatId) → seat ∈ r'.seats.map (·.bookingSeatId) → e = e' := by
  have hinv : sys'.Grounded ∧ sys'.Submitting := by
    have hpair := hreach.invariant (I := fun s => s.Grounded ∧ s.Submitting)
      ⟨hstart.grounded, hstart.submitting⟩
    exact hpair fun s a t hok hstep hs => ⟨hs.1.step hstep, hs.2.step hs.1 hok hstep⟩
  obtain ⟨hgrounded, hs⟩ := hinv
  have hlive : ∀ e ∈ sys'.external, ∀ id r, sys'.db.refunds.lookup id = some r →
      r.providerIdempotencyKey = e.idempotencyKey →
      r.status = .SUBMITTING ∨ r.status = .PROCESSING := by
    intro e he id r hr hkey
    obtain ⟨id', r', hr', hkey', hlive⟩ := hs.live e he
    have hsame := hgrounded.rows.keys id r id' r' hr hr' (by rw [hkey, hkey'])
    rw [hsame, hr'] at hr
    cases hr
    exact hlive
  constructor
  · intro e he id r hr hkey hfailed
    simpa [hfailed] using hlive e he id r hr hkey
  · intro e he e' he' id r id' r' seat hr hr' hkey hkey' hseat hseat'
    have hcovers : ∀ r : Refund, r.status = .SUBMITTING ∨ r.status = .PROCESSING →
        r.coversSeats = true := by
      rintro r (hstatus | hstatus) <;> simp [Refund.coversSeats, hstatus, isInFlightRefundStatus]
    have hid := hs.disjoint id r id' r' seat hr hr' (hcovers r (hlive e he id r hr hkey))
      (hcovers r' (hlive e' he' id' r' hr' hkey')) hseat hseat'
    rw [hid, hr'] at hr
    cases hr
    exact List.inj_on_of_nodup_map hgrounded.externalKeys he he' (hkey.symm.trans hkey')

theorem accepted_live_timedOut :
    ∃ sys, execute (guarded RefundSystem.step unknownRecognised)
        (requestAndSubmit { userId := 1, role := .CUSTOMER } 1 1 1
          (.accepts 71 (some (some "ETIMEDOUT")))) capturedStart = some sys ∧
      ∃ e ∈ sys.external, ∃ r, sys.db.refunds.lookup 1 = some r ∧
        r.providerIdempotencyKey = e.idempotencyKey ∧ r.status ≠ .FAILED := by
  have hrun : (execute (guarded RefundSystem.step unknownRecognised)
      (requestAndSubmit { userId := 1, role := .CUSTOMER } 1 1 1
        (.accepts 71 (some (some "ETIMEDOUT")))) capturedStart).any (fun sys =>
      sys.external.any fun e => (sys.db.refunds.lookup 1).any fun r =>
        r.providerIdempotencyKey == e.idempotencyKey) = true := by
    decide +kernel
  obtain ⟨sys, hsys, hcheck⟩ := (Option.any_eq_true _ _).mp hrun
  obtain ⟨e, he, hrefund⟩ := List.any_eq_true.mp hcheck
  obtain ⟨r, hr, hkey⟩ := (Option.any_eq_true _ _).mp hrefund
  rw [beq_iff_eq] at hkey
  exact ⟨sys, hsys, e, he, r, hr, hkey, (accepted_live_of_unknownRecognised capturedStart_start
    (reaches_of_guarded hsys)).1 e he 1 r hr hkey⟩

/-- **A refund paid twice.** The provider accepts a refund with a status the
adapter does not know; the refund is failed, the same seat is requested again and
accepted again. -/
theorem accepted_failed_unknownStatus :
    capturedStart.Start ∧
    ∃ sys, Reaches RefundSystem.step (fun _ _ => True) capturedStart sys ∧
      (∃ e ∈ sys.external, ∃ r, sys.db.refunds.lookup 1 = some r ∧
        r.providerIdempotencyKey = e.idempotencyKey ∧ r.status = .FAILED ∧
        (1 : BookingSeatId) ∈ r.seats.map (·.bookingSeatId)) ∧
      ∃ e ∈ sys.external, ∃ r, sys.db.refunds.lookup 2 = some r ∧
        r.providerIdempotencyKey = e.idempotencyKey ∧
        (1 : BookingSeatId) ∈ r.seats.map (·.bookingSeatId) := by
  have hrun : (execute RefundSystem.step
      (requestAndSubmit { userId := 1, role := .CUSTOMER } 1 1 1
          (.accepts 71 (thrownByNormalization "blocked")) ++
        requestAndSubmit { userId := 1, role := .CUSTOMER } 1 2 2
          (.accepts 72 (thrownByNormalization "pending")))
      capturedStart).any (fun sys =>
      (sys.external.any fun e => (sys.db.refunds.lookup 1).any fun r =>
        decide (r.providerIdempotencyKey = e.idempotencyKey ∧ r.status = .FAILED ∧
          (1 : BookingSeatId) ∈ r.seats.map (·.bookingSeatId))) &&
      sys.external.any fun e => (sys.db.refunds.lookup 2).any fun r =>
        decide (r.providerIdempotencyKey = e.idempotencyKey ∧
          (1 : BookingSeatId) ∈ r.seats.map (·.bookingSeatId))) = true := by
    decide +kernel
  obtain ⟨sys, hsys, hcheck⟩ := (Option.any_eq_true _ _).mp hrun
  rw [Bool.and_eq_true, List.any_eq_true, List.any_eq_true] at hcheck
  obtain ⟨⟨e, he, hfirst⟩, e', he', hsecond⟩ := hcheck
  obtain ⟨r, hr, hfailed⟩ := (Option.any_eq_true _ _).mp hfirst
  obtain ⟨r', hr', hcovered⟩ := (Option.any_eq_true _ _).mp hsecond
  exact ⟨capturedStart_start, sys, reaches_of_execute hsys fun _ _ _ => trivial,
    ⟨e, he, r, hr, of_decide_eq_true hfailed⟩, e', he', r', hr', of_decide_eq_true hcovered⟩

end RefundSystem

end SeatFlow
