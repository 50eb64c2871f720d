import SeatFlow.Refunds.RefundSystem

/-!
# Adopting external refunds

A refund's external identity is attached by the submission that created it, or
adopted by `reconcileAmbiguousRefunds`, which takes the first listed refund of
the right amount that nobody has adopted. Listings do not show the idempotency
key, so the adopted refund is the refund's own exactly when no other one of the
same amount stands before it.
-/

namespace SeatFlow

open Relational

/-- Where an attached identity comes from: it was attached before, or the steps
attached it. -/
theorem attached_cases {U : RefundId → RefundUpdate → Prop} {B : BookingId → Prop}
    {W : WebhookId → Prop} {s s' : Db}
    (h : Relation.ReflTransGen (RefundStep U B W) s s') {id : RefundId} {r' : Refund}
    {ref : ProviderRef} (hlook' : s'.refunds.lookup id = some r')
    (href : r'.providerRefundId = some ref) :
    U id (.attach ref) ∨ ∃ r, s.refunds.lookup id = some r ∧ r.providerRefundId = some ref := by
  induction h generalizing r' with
  | refl => exact .inr ⟨r', hlook', href⟩
  | tail _ hstep ih =>
      rcases hstep.refund_cases hlook' with hlook | ⟨-, -, hfresh⟩ | ⟨r, added, hlook, rfl, -⟩ |
        ⟨r, u, hlook, hu, rfl, -⟩
      · exact ih hlook href
      · rw [hfresh.unattached] at href
        cases href
      · exact ih hlook href
      · cases u with
        | attach ref' =>
            cases href
            exact .inl hu
        | _ => exact ih hlook href

namespace RefundSystem

variable {sys sys' : RefundSystem}

/-- The external refund `ref` was created under `key`. -/
def CreatedUnder (sys : RefundSystem) (ref : ProviderRef) (key : AttemptId × RequestKey) : Prop :=
  ∃ e ∈ sys.external, e.providerRefundId = ref ∧ e.idempotencyKey = key

/-- The condition on a reconciliation: before any listed refund that could be
adopted but is not the refund's own stands one that could be and is. -/
def OwnListedFirst (sys : RefundSystem) : RefundAction → Prop
  | .inspect refundId listed => ∀ r, sys.db.refunds.lookup refundId = some r →
      ∀ before e after, listed = before ++ e :: after →
        e.amountMinor = r.requestedAmountMinor → e.providerRefundId ∉ sys.db.adoptedRefs →
        e.idempotencyKey ≠ r.providerIdempotencyKey →
        ∃ own ∈ before, own.amountMinor = r.requestedAmountMinor ∧
          own.providerRefundId ∉ sys.db.adoptedRefs ∧
          own.idempotencyKey = r.providerIdempotencyKey
  | _ => True

/-- Every attached identity, and every one about to be adopted, is the refund's
own. -/
structure OwnAttached (sys : RefundSystem) : Prop where
  attached : ∀ id r ref, sys.db.refunds.lookup id = some r → r.providerRefundId = some ref →
    sys.CreatedUnder ref r.providerIdempotencyKey
  adoptions : ∀ id ref, (id, ref) ∈ sys.adoptions → ∃ r, sys.db.refunds.lookup id = some r ∧
    sys.CreatedUnder ref r.providerIdempotencyKey

theorem Start.ownAttached (h : sys.Start) : sys.OwnAttached where
  attached := fun id r _ hr => by simp [h.refunds id] at hr
  adoptions := by simp [h.adoptions]

/-- A refund keeps its key, and the provider its refunds. -/
theorem createdUnder_step {a : RefundAction} (h : sys.step a = some sys') {id : RefundId}
    {r : Refund} {ref : ProviderRef} (hr : sys.db.refunds.lookup id = some r)
    (hcreated : sys.CreatedUnder ref r.providerIdempotencyKey) :
    ∃ r', sys'.db.refunds.lookup id = some r' ∧
    sys'.CreatedUnder ref r'.providerIdempotencyKey := by
  obtain ⟨r', hr', hevolves⟩ := refund_evolves (db_steps h) hr
  obtain ⟨e, he, hid, hekey⟩ := hcreated
  exact ⟨r', hr', e, external_mono h he, hid, by rw [hekey, hevolves.key]⟩

/-- The entry chosen for adoption is the refund's own, under the condition. -/
theorem adoption_own {refundId : RefundId} {listed : List ExternalRefund} {r : Refund}
    {entry : ExternalRefund} (hr : sys.db.refunds.lookup refundId = some r)
    (hentry : adoption sys.db refundId listed = some entry)
    (hown : sys.OwnListedFirst (.inspect refundId listed)) :
    entry ∈ listed ∧ entry.idempotencyKey = r.providerIdempotencyKey := by
  simp only [adoption, hr, adoptionCandidate] at hentry
  obtain ⟨hadoptable, before, after, hlisted, hfirst⟩ := List.find?_eq_some_iff_append.mp hentry
  rw [Bool.and_eq_true, beq_iff_eq, decide_eq_true_eq] at hadoptable
  refine ⟨by simp [hlisted], ?_⟩
  by_contra hother
  obtain ⟨own, hmem, hamount, hunadopted, -⟩ :=
    hown r hr before entry after hlisted hadoptable.1 hadoptable.2 hother
  have := hfirst own hmem
  simp [hamount, hunadopted] at this

theorem OwnAttached.step {a : RefundAction} (hs : sys.OwnAttached) (hgrounded : sys.Grounded)
    (hown : sys.OwnListedFirst a) (h : sys.step a = some sys') : sys'.OwnAttached where
  attached := by
    intro id r' ref hr' href
    -- an identity attached by this action belongs to the row that was there
    have hattach : ∀ r, sys.db.refunds.lookup id = some r →
        sys.CreatedUnder ref r.providerIdempotencyKey →
        sys'.CreatedUnder ref r'.providerIdempotencyKey := by
      intro r hr hcreated
      obtain ⟨r₁, hr₁, hcreated₁⟩ := createdUnder_step h hr hcreated
      cases Option.some.inj (hr'.symm.trans hr₁)
      exact hcreated₁
    rcases attached_cases (db_steps h) hr' href with hallowed | ⟨r, hr, hold⟩
    · cases a with
      | finish sid =>
          obtain ⟨claimed, provider, now, answer, hlook, rfl, hu⟩ := hallowed
          have hanswer : answer = .returned ref := by
            cases answer with
            | returned ref' =>
                cases hu
                rfl
            | threw message =>
                simp only [answerUpdate] at hu
                split at hu <;> cases hu
          subst hanswer
          obtain ⟨r, hr, hkey⟩ := hgrounded.linked sid _ hlook
          have hcreated := hgrounded.answered sid _ ref hlook (.inr rfl)
          exact hattach r hr (hkey ▸ hcreated)
      | adopt refundId ref' =>
          obtain ⟨rfl, hu⟩ := hallowed
          cases hu
          obtain ⟨r, hr, hcreated⟩ := hs.adoptions id ref (step_adopt h).1
          exact hattach r hr hcreated
      | claim sid provider refundId now =>
          obtain ⟨-, t, hu⟩ := hallowed
          cases hu
      | processWebhook webhookId now => cases hallowed
      | _ => exact hallowed.elim
    · exact hattach r hr (hs.attached id r ref hr hold)
  adoptions := by
    have hkeep : ∀ id ref, (id, ref) ∈ sys.adoptions → ∃ r', sys'.db.refunds.lookup id = some r' ∧
        sys'.CreatedUnder ref r'.providerIdempotencyKey := by
      intro id ref hmem
      obtain ⟨r, hr, hcreated⟩ := hs.adoptions id ref hmem
      exact createdUnder_step h hr hcreated
    intro id ref hmem
    cases a with
    | inspect refundId listed =>
        obtain ⟨⟨r, hr, attempt, -, intent, -, hperm⟩, ⟨-, rfl⟩ | ⟨entry, hentry, rfl⟩⟩ :=
          step_inspect h
        · exact hkeep id ref hmem
        · rcases List.mem_cons.mp hmem with heq | hmem
          · cases heq
            obtain ⟨hlisted, hkey⟩ := adoption_own hr hentry hown
            exact ⟨r, hr, entry, (List.mem_filter.mp (hperm.mem_iff.mp hlisted)).1, rfl, hkey⟩
          · exact hkeep id ref hmem
    | adopt refundId ref' =>
        obtain ⟨-, rfl⟩ := step_adopt h
        exact hkeep id ref (List.mem_of_mem_erase hmem)
    | claim sid provider refundId now =>
        rcases step_claim h with ⟨db, -, rfl⟩ | ⟨claimed, db, -, -, rfl⟩ <;> exact hkeep id ref hmem
    | createRefund sid outcome =>
        obtain ⟨_, _, _, _, _, -, rfl, -⟩ := step_createRefund h
        exact hkeep id ref hmem
    | completeAttempt sid =>
        obtain ⟨_, _, _, _, _, -, -, rfl⟩ := step_completeAttempt h
        exact hkeep id ref hmem
    | finish sid =>
        obtain ⟨_, _, _, _, -, rfl⟩ := step_finish h
        exact hkeep id ref hmem
    | _ =>
        cases h
        exact hkeep id ref hmem

/-- **Adoption of the right refund.** In every run whose reconciliations find the
refund's own external refund before any other adoptable one, every attached
identity names the one external refund created under the refund's key. -/
theorem attached_own_of_ownListedFirst (hstart : sys.Start)
    (hreach : Reaches RefundSystem.step OwnListedFirst sys sys') :
    ∀ id r ref, sys'.db.refunds.lookup id = some r → r.providerRefundId = some ref →
      ∃ e ∈ sys'.external, e.providerRefundId = ref ∧
        e.idempotencyKey = r.providerIdempotencyKey ∧
        ∀ e' ∈ sys'.external, e'.providerRefundId = ref → e' = e := by
  have hinv : sys'.Grounded ∧ sys'.OwnAttached := by
    have hpair := hreach.invariant (I := fun s => s.Grounded ∧ s.OwnAttached)
      ⟨hstart.grounded, hstart.ownAttached⟩
    exact hpair fun s a t hown hstep hs => ⟨hs.1.step hstep, hs.2.step hs.1 hown hstep⟩
  intro id r ref hr href
  obtain ⟨e, he, hid, hkey⟩ := hinv.2.attached id r ref hr href
  refine ⟨e, he, hid, hkey, fun e' he' hid' => ?_⟩
  exact List.inj_on_of_nodup_map hinv.1.externalIds he' he (hid'.trans hid.symm)

/-! ### Two refunds of the same amount -/

/-- Two seats of one price, nothing requested yet. -/
def equalStart : RefundSystem :=
  { db := paidBooking 500 500 }

theorem equalStart_start : equalStart.Start where
  refunds := fun id => AList.lookup_empty id
  external := rfl
  submissions := fun sid => AList.lookup_empty sid
  calls := rfl
  adoptions := rfl

/-- The external refund under the key of the seat's refund. -/
def seatExternalRefund (seat : BookingSeatId) : ExternalRefund :=
  { providerRefundId := 70 + seat, idempotencyKey := (1, seat), providerIntentId := 7,
    amountMinor := 500, currency := .USD }

/-- One reconciliation of refund `id`, the payment having one external refund. -/
def reconcile (id : RefundId) (entry : ExternalRefund) : List RefundAction :=
  [.selectAmbiguous .STRIPE 10, .inspect id [entry], .adopt id entry.providerRefundId]

/-- Whether everything listed is the refund's own. -/
def ownListed (sys : RefundSystem) : RefundAction → Bool
  | .inspect refundId listed => (sys.db.refunds.lookup refundId).all fun r =>
      listed.all fun e => e.idempotencyKey == r.providerIdempotencyKey
  | _ => true

theorem ownListedFirst_of_ownListed {a : RefundAction} (h : sys.ownListed a = true) :
    sys.OwnListedFirst a := by
  cases a with
  | inspect refundId listed =>
      intro r hr before e after hlisted _ _ hother
      rw [ownListed, hr, Option.all_some, List.all_eq_true] at h
      exact absurd (by simpa using h e (by simp [hlisted])) hother
  | _ => trivial

theorem attached_own_timedOut :
    ∃ sys, execute (guarded RefundSystem.step ownListed)
        (requestAndSubmit { userId := 2, role := .PLATFORM_ADMIN } 1 1 1
          (.accepts 71 (some (some "ETIMEDOUT"))) ++ reconcile 1 (seatExternalRefund 1))
        equalStart = some sys ∧
      ∃ r, sys.db.refunds.lookup 1 = some r ∧ r.providerRefundId = some 71 ∧
        ∃ e ∈ sys.external, e.providerRefundId = 71 ∧
          e.idempotencyKey = r.providerIdempotencyKey ∧
          ∀ e' ∈ sys.external, e'.providerRefundId = 71 → e' = e := by
  have hrun : (execute (guarded RefundSystem.step ownListed)
      (requestAndSubmit { userId := 2, role := .PLATFORM_ADMIN } 1 1 1
        (.accepts 71 (some (some "ETIMEDOUT"))) ++ reconcile 1 (seatExternalRefund 1))
      equalStart).any (fun sys => (sys.db.refunds.lookup 1).any fun r =>
        r.providerRefundId == some 71) = true := by
    decide +kernel
  obtain ⟨sys, hsys, hcheck⟩ := (Option.any_eq_true _ _).mp hrun
  obtain ⟨r, hr, href⟩ := (Option.any_eq_true _ _).mp hcheck
  rw [beq_iff_eq] at href
  have hreach := (reaches_of_guarded hsys).mono fun _ _ => ownListedFirst_of_ownListed
  exact ⟨sys, hsys, r, hr, href,
    attached_own_of_ownListedFirst equalStart_start hreach 1 r 71 hr href⟩

/-- **A wrong adoption.** Seat 2's refund exists at the provider although its call
timed out, seat 1's never got there: reconciling seat 1's adopts seat 2's. -/
theorem attached_other_equalAmounts :
    equalStart.Start ∧
    ∃ sys, Reaches RefundSystem.step (fun _ _ => True) equalStart sys ∧
      ∃ r, sys.db.refunds.lookup 1 = some r ∧ r.providerIdempotencyKey = (1, 1) ∧
        r.providerRefundId = some 72 ∧ sys.external = [seatExternalRefund 2] := by
  have hrun : (execute RefundSystem.step
      (requestAndSubmit { userId := 2, role := .PLATFORM_ADMIN } 1 1 1
          (.rejects (some "connect ETIMEDOUT")) ++
        requestAndSubmit { userId := 2, role := .PLATFORM_ADMIN } 2 2 2
          (.accepts 72 (some (some "ETIMEDOUT"))) ++
        reconcile 1 (seatExternalRefund 2))
      equalStart).any (fun sys => (sys.db.refunds.lookup 1).any fun r =>
        decide (r.providerIdempotencyKey = (1, 1) ∧ r.providerRefundId = some 72 ∧
          sys.external = [seatExternalRefund 2])) = true := by
    decide +kernel
  obtain ⟨sys, hsys, hcheck⟩ := (Option.any_eq_true _ _).mp hrun
  obtain ⟨r, hr, hwrong⟩ := (Option.any_eq_true _ _).mp hcheck
  exact ⟨equalStart_start, sys, reaches_of_execute hsys fun _ _ _ => trivial, r, hr,
    of_decide_eq_true hwrong⟩

end RefundSystem

end SeatFlow
