import SeatFlow.Refunds.RefundWrites

/-!
# The refund lifecycle

What the refund transactions can do to the refunds, the payments, the bookings
and the webhook records, said once. `RefundStep U B W` is one admitted write, where
`U` says which updates may befall which refund, `B` which bookings may be marked
refunded and `W` which webhook records may be updated. Each transaction takes only
the steps its own text allows.
-/

namespace SeatFlow

open Relational Program Entity

/-! ## §1 Steps -/

/-- The payment row with recomputed totals. -/
def PaymentAttempt.aggregated (a : PaymentAttempt) (refunded inFlight : Money) : PaymentAttempt :=
  { a with refundedMinor := refunded, inFlightRefundMinor := inFlight }

/-- One write of a refund transaction, run alone. -/
inductive RefundStep (U : RefundId → RefundUpdate → Prop) (B : BookingId → Prop)
    (W : WebhookId → Prop) : Db → Db → Prop
  | plain {s s' : Db} (hrefunds : s'.refunds = s.refunds) (hattempts : s'.attempts = s.attempts)
      (hbookings : s'.bookings = s.bookings) (hwebhooks : s'.webhooks = s.webhooks) :
      RefundStep U B W s s'
  | insert {s : Db} (id : RefundId) (row : Refund) (habsent : s.refunds.lookup id = none)
      (hvalid : Refund.validate s id none row = .ok ()) (hfresh : row.Fresh) :
      RefundStep U B W s { s with refunds := s.refunds.insert id row }
  | seats {s : Db} (id : RefundId) (r : Refund) (added : List RefundSeat)
      (hlook : s.refunds.lookup id = some r)
      (hvalid : RefundSeat.validate s id (some r) { r with seats := r.seats ++ added } = .ok ()) :
      RefundStep U B W s
        { s with refunds := s.refunds.insert id { r with seats := r.seats ++ added } }
  | update {s : Db} (id : RefundId) (r : Refund) (u : RefundUpdate) (hu : U id u)
      (hlook : s.refunds.lookup id = some r)
      (hvalid : Refund.validate s id (some r) (u.apply r) = .ok ()) :
      RefundStep U B W s { s with refunds := s.refunds.insert id (u.apply r) }
  | aggregate {s : Db} (id : AttemptId) (a : PaymentAttempt) (refunded inFlight : Money)
      (hlook : s.attempts.lookup id = some a)
      (hvalid : PaymentAttempt.validate s id (some a) (a.aggregated refunded inFlight) = .ok ()) :
      RefundStep U B W s
        { s with attempts := s.attempts.insert id (a.aggregated refunded inFlight) }
  | refunded {s : Db} (id : BookingId) (b : Booking) (now : Time) (hB : B id)
      (hlook : s.bookings.lookup id = some b) :
      RefundStep U B W s { s with bookings := s.bookings.insert id (b.refunded now) }
  | stored {s : Db} (id : WebhookId) (w : PaymentWebhookEvent)
      (habsent : s.webhooks.lookup id = none) (hreceived : w.processingStatus = .RECEIVED) :
      RefundStep U B W s { s with webhooks := s.webhooks.insert id w }
  | webhook {s : Db} (id : WebhookId) (w w' : PaymentWebhookEvent) (hW : W id)
      (hlook : s.webhooks.lookup id = some w)
      (hvalid : PaymentWebhookEvent.validate s id (some w) w' = .ok ()) :
      RefundStep U B W s { s with webhooks := s.webhooks.insert id w' }

variable {U : RefundId → RefundUpdate → Prop} {B : BookingId → Prop} {W : WebhookId → Prop}

/-! ### What a step keeps -/

/-- The payment row without its totals: what the aggregate trigger keeps. -/
def PaymentAttempt.identity (a : PaymentAttempt) : PaymentAttempt :=
  a.aggregated 0 0

/-- Rewriting the totals of one payment keeps every payment's identity. -/
theorem lookup_identity_insert {t : Table AttemptId PaymentAttempt} {id : AttemptId}
    {a : PaymentAttempt} {refunded inFlight : Money} (hlook : t.lookup id = some a)
    (p : AttemptId) :
    ((t.insert id (a.aggregated refunded inFlight)).lookup p).map (·.identity)
      = (t.lookup p).map (·.identity) := by
  rw [Table.lookup_insert_ite]
  split
  · rename_i hp
    rw [hp, hlook]
    rfl
  · rfl

theorem RefundStep.payments {s s' : Db} (h : RefundStep U B W s s') (p : AttemptId) :
    (s'.attempts.lookup p).map (·.identity) = (s.attempts.lookup p).map (·.identity) := by
  cases h with
  | plain hrefunds hattempts hbookings hwebhooks => rw [hattempts]
  | aggregate id a refunded inFlight hlook hvalid => exact lookup_identity_insert hlook p
  | _ => rfl

theorem RefundStep.bookings {s s' : Db} (h : RefundStep U (fun _ => False) W s s') :
    s'.bookings = s.bookings := by
  cases h with
  | plain hrefunds hattempts hbookings hwebhooks => exact hbookings
  | refunded id b now hB hlook => exact hB.elim
  | _ => rfl

theorem RefundStep.booking_order {s s' : Db} (h : RefundStep U B W s s') (id : BookingId) :
    (s'.bookings.lookup id).map (·.orderId) = (s.bookings.lookup id).map (·.orderId) := by
  cases h with
  | plain hrefunds hattempts hbookings hwebhooks => rw [hbookings]
  | refunded bid b now hB hlook =>
      show ((s.bookings.insert bid (b.refunded now)).lookup id).map _ = _
      rw [Table.lookup_insert_ite]
      split
      · rename_i hid
        rw [hid, hlook]
        rfl
      · rfl
  | _ => rfl

/-- A refund row after a step is the row before it, a new row, or the row with
more seats or with an admitted update. -/
theorem RefundStep.refund_cases {s s' : Db} (h : RefundStep U B W s s') {id : RefundId}
    {r' : Refund}
    (hlook' : s'.refunds.lookup id = some r') :
    s.refunds.lookup id = some r' ∨
    (s.refunds.lookup id = none ∧ Refund.validate s id none r' = .ok () ∧ r'.Fresh) ∨
    (∃ r added, s.refunds.lookup id = some r ∧ r' = { r with seats := r.seats ++ added } ∧
      RefundSeat.validate s id (some r) r' = .ok ()) ∨
    ∃ r u, s.refunds.lookup id = some r ∧ U id u ∧ r' = u.apply r ∧
      Refund.validate s id (some r) r' = .ok () := by
  cases h with
  | plain hrefunds hattempts hbookings hwebhooks =>
      rw [hrefunds] at hlook'
      exact .inl hlook'
  | insert rid row habsent hvalid hfresh =>
      replace hlook' : (s.refunds.insert rid row).lookup id = some r' := hlook'
      rw [Table.lookup_insert_ite] at hlook'
      split at hlook'
      · rename_i hid
        cases hlook'
        exact .inr (.inl ⟨hid ▸ habsent, hid ▸ hvalid, hfresh⟩)
      · exact .inl hlook'
  | seats rid r added hlook hvalid =>
      replace hlook' : (s.refunds.insert rid _).lookup id = some r' := hlook'
      rw [Table.lookup_insert_ite] at hlook'
      split at hlook'
      · rename_i hid
        cases hlook'
        exact .inr (.inr (.inl ⟨r, added, hid ▸ hlook, rfl, hid ▸ hvalid⟩))
      · exact .inl hlook'
  | update rid r u hu hlook hvalid =>
      replace hlook' : (s.refunds.insert rid _).lookup id = some r' := hlook'
      rw [Table.lookup_insert_ite] at hlook'
      split at hlook'
      · rename_i hid
        cases hlook'
        exact .inr (.inr (.inr ⟨r, u, hid ▸ hlook, hid ▸ hu, rfl, hid ▸ hvalid⟩))
      · exact .inl hlook'
  | aggregate aid a refunded inFlight hlook hvalid => exact .inl hlook'
  | refunded bid b now hB hlook => exact .inl hlook'
  | stored wid w habsent hreceived => exact .inl hlook'
  | webhook wid w w' hW hlook hvalid => exact .inl hlook'

/-- One step inserts at most one refund. -/
theorem RefundStep.insert_unique {s s' : Db} (h : RefundStep U B W s s') {id id' : RefundId}
    {r r' : Refund} (habsent : s.refunds.lookup id = none) (habsent' : s.refunds.lookup id' = none)
    (hlook : s'.refunds.lookup id = some r) (hlook' : s'.refunds.lookup id' = some r') :
    id = id' := by
  have hone : ∀ rid row, s'.refunds = s.refunds.insert rid row → id = id' := by
    intro rid row heq
    rw [heq, Table.lookup_insert_ite] at hlook hlook'
    split at hlook
    · split at hlook'
      · rename_i hid hid'
        rw [hid, hid']
      · rw [habsent'] at hlook'
        cases hlook'
    · rw [habsent] at hlook
      cases hlook
  cases h with
  | plain hrefunds hattempts hbookings hwebhooks =>
      rw [hrefunds, habsent] at hlook
      cases hlook
  | insert rid row _ hvalid hfresh => exact hone rid row rfl
  | seats rid r₀ added _ hvalid => exact hone rid _ rfl
  | update rid r₀ u hu _ hvalid => exact hone rid _ rfl
  | _ =>
      rw [show _ = s.refunds.lookup id from rfl, habsent] at hlook
      cases hlook

/-- A refund stays, and what a step did to its row. -/
theorem RefundStep.refund_persists {s s' : Db} (h : RefundStep U B W s s') {id : RefundId}
    {r : Refund}
    (hlook : s.refunds.lookup id = some r) :
    ∃ r', s'.refunds.lookup id = some r' ∧
      (r' = r ∨ (∃ added, r' = { r with seats := r.seats ++ added }) ∨
        ∃ u, U id u ∧ r' = u.apply r ∧ Refund.validate s id (some r) r' = .ok ()) := by
  have hkeep : ∃ r', s'.refunds.lookup id = some r' := by
    cases h with
    | plain hrefunds hattempts hbookings hwebhooks => exact ⟨r, hrefunds ▸ hlook⟩
    | insert rid row habsent hvalid hfresh =>
        show ∃ r', (s.refunds.insert rid row).lookup id = some r'
        rw [Table.lookup_insert_ite]
        split
        · exact ⟨row, rfl⟩
        · exact ⟨r, hlook⟩
    | seats rid r₀ added hlook₀ hvalid =>
        show ∃ r', (s.refunds.insert rid _).lookup id = some r'
        rw [Table.lookup_insert_ite]
        split
        · exact ⟨_, rfl⟩
        · exact ⟨r, hlook⟩
    | update rid r₀ u hu hlook₀ hvalid =>
        show ∃ r', (s.refunds.insert rid _).lookup id = some r'
        rw [Table.lookup_insert_ite]
        split
        · exact ⟨_, rfl⟩
        · exact ⟨r, hlook⟩
    | _ => exact ⟨r, hlook⟩
  obtain ⟨r', hlook'⟩ := hkeep
  refine ⟨r', hlook', ?_⟩
  rcases h.refund_cases hlook' with hsame | ⟨habsent, -⟩ | ⟨r₀, added, hlook₀, hr', -⟩ |
    ⟨r₀, u, hlook₀, hu, hr', hvalid⟩
  · exact .inl (Option.some.inj (hsame.symm.trans hlook))
  · rw [hlook] at habsent
    cases habsent
  · cases Option.some.inj (hlook.symm.trans hlook₀)
    exact .inr (.inl ⟨added, hr'⟩)
  · cases Option.some.inj (hlook.symm.trans hlook₀)
    exact .inr (.inr ⟨u, hu, hr', hvalid⟩)

/-- What steps keep about a refund: its identity and approval, an outcome up to
escalation, and the time of that outcome. -/
structure Refund.Evolves (r r' : Refund) : Prop where
  identity : Refund.SameIdentity r r'
  approval : r'.approvedByUserId = r.approvedByUserId
  review : r.status = .REQUIRES_REVIEW → r'.status = .REQUIRES_REVIEW
  terminal : isTerminalRefundStatus r.status →
    r'.status = r.status ∨ r'.status = .REQUIRES_REVIEW
  failed : writeOnce r.failedAt r'.failedAt
  succeeded : writeOnce r.succeededAt r'.succeededAt

theorem Refund.Evolves.refl (r : Refund) : Refund.Evolves r r :=
  ⟨by simp [Refund.SameIdentity], rfl, fun h => h, fun _ => .inl rfl, fun _ => rfl, fun _ => rfl⟩

theorem Refund.Evolves.trans {r r' r'' : Refund} (h : Refund.Evolves r r')
    (h' : Refund.Evolves r' r'') : Refund.Evolves r r'' where
  identity := by
    have h₁ := h.identity
    have h₂ := h'.identity
    simp only [Refund.SameIdentity] at h₁ h₂ ⊢
    simp [h₁, h₂]
  approval := h'.approval.trans h.approval
  review := fun hr => h'.review (h.review hr)
  terminal := by
    intro hr
    rcases h.terminal hr with hsame | hreview
    · exact (h'.terminal (hsame ▸ hr)).imp_left (·.trans hsame)
    · exact .inr (h'.review hreview)
  failed := fun hr => (h'.failed (h.failed hr ▸ hr)).trans (h.failed hr)
  succeeded := fun hr => (h'.succeeded (h.succeeded hr ▸ hr)).trans (h.succeeded hr)

theorem Refund.Evolves.key {r r' : Refund} (h : Refund.Evolves r r') :
    r'.providerIdempotencyKey = r.providerIdempotencyKey := by
  obtain ⟨-, -, -, -, -, -, -, -, -, -, hkey, -⟩ := h.identity
  exact hkey

theorem RefundUpdate.approvedByUserId_apply (u : RefundUpdate) (r : Refund) :
    (u.apply r).approvedByUserId = r.approvedByUserId := by
  cases u <;> rfl

theorem RefundStep.evolves {s s' : Db} (h : RefundStep U B W s s') {id : RefundId} {r : Refund}
    (hlook : s.refunds.lookup id = some r) :
    ∃ r', s'.refunds.lookup id = some r' ∧ Refund.Evolves r r' := by
  obtain ⟨r', hlook', rfl | ⟨added, rfl⟩ | ⟨u, -, rfl, hvalid⟩⟩ := h.refund_persists hlook
  · exact ⟨r', hlook', .refl r'⟩
  · exact ⟨_, hlook', by simp [Refund.SameIdentity], rfl, fun h => h, fun _ => .inl rfl,
      fun _ => rfl, fun _ => rfl⟩
  · have hprotected := Refund.protected_of_validate hvalid
    exact ⟨_, hlook', hprotected.identity, u.approvedByUserId_apply r, hprotected.review,
      hprotected.terminal, hprotected.failed, hprotected.succeeded⟩

/-- **How refunds evolve.** Over any sequence of steps a refund stays, with its
identity, its approval and its outcome. -/
theorem refund_evolves {s s' : Db} (h : Relation.ReflTransGen (RefundStep U B W) s s')
    {id : RefundId} {r : Refund} (hlook : s.refunds.lookup id = some r) :
    ∃ r', s'.refunds.lookup id = some r' ∧ Refund.Evolves r r' := by
  induction h with
  | refl => exact ⟨r, hlook, .refl r⟩
  | tail _ hstep ih =>
      obtain ⟨r₁, hlook₁, hevolves₁⟩ := ih
      obtain ⟨r₂, hlook₂, hevolves₂⟩ := hstep.evolves hlook₁
      exact ⟨r₂, hlook₂, hevolves₁.trans hevolves₂⟩

/-- A webhook record stays, with its envelope, and as it is unless `W` allows an
update. -/
theorem RefundStep.webhook_persists {s s' : Db} (h : RefundStep U B W s s') {id : WebhookId}
    {w : PaymentWebhookEvent} (hlook : s.webhooks.lookup id = some w) :
    ∃ w', s'.webhooks.lookup id = some w' ∧ PaymentWebhookEvent.SameEnvelope w w' ∧
      (¬W id → w' = w) := by
  have hsame : s'.webhooks = s.webhooks → ∃ w', s'.webhooks.lookup id = some w' ∧
      PaymentWebhookEvent.SameEnvelope w w' ∧ (¬W id → w' = w) :=
    fun heq => ⟨w, heq ▸ hlook, by simp [PaymentWebhookEvent.SameEnvelope], fun _ => rfl⟩
  cases h with
  | plain hrefunds hattempts hbookings hwebhooks => exact hsame hwebhooks
  | stored wid row habsent hreceived =>
      refine ⟨w, ?_, by simp [PaymentWebhookEvent.SameEnvelope], fun _ => rfl⟩
      show (s.webhooks.insert wid row).lookup id = some w
      rw [Table.lookup_insert_ite, if_neg, hlook]
      rintro rfl
      rw [hlook] at habsent
      cases habsent
  | webhook wid row row' hW hlook' hvalid =>
      show ∃ w', (s.webhooks.insert wid row').lookup id = some w' ∧ _
      rw [Table.lookup_insert_ite]
      split
      · rename_i hid
        subst hid
        cases Option.some.inj (hlook.symm.trans hlook')
        exact ⟨row', rfl, PaymentWebhookEvent.sameEnvelope_of_validate hvalid,
          fun hno => absurd hW hno⟩
      · exact ⟨w, hlook, by simp [PaymentWebhookEvent.SameEnvelope], fun _ => rfl⟩
  | _ => exact hsame rfl

theorem RefundStep.webhook_cases {s s' : Db} (h : RefundStep U B W s s') {id : WebhookId}
    {w' : PaymentWebhookEvent} (hlook' : s'.webhooks.lookup id = some w') (hW : ¬W id) :
    s.webhooks.lookup id = some w' ∨ w'.processingStatus = .RECEIVED := by
  cases h with
  | plain hrefunds hattempts hbookings hwebhooks => exact .inl (hwebhooks ▸ hlook')
  | stored wid row habsent hreceived =>
      replace hlook' : (s.webhooks.insert wid row).lookup id = some w' := hlook'
      rw [Table.lookup_insert_ite] at hlook'
      split at hlook'
      · cases hlook'
        exact .inr hreceived
      · exact .inl hlook'
  | webhook wid row row' hwid hlook hvalid =>
      replace hlook' : (s.webhooks.insert wid row').lookup id = some w' := hlook'
      rw [Table.lookup_insert_ite, if_neg (by rintro rfl; exact hW hwid)] at hlook'
      exact .inl hlook'
  | _ => exact .inl hlook'

/-- A record that a run does not process was there as it is, or is new. -/
theorem webhook_unprocessed {s s' : Db} (h : Relation.ReflTransGen (RefundStep U B W) s s')
    {id : WebhookId} {w' : PaymentWebhookEvent} (hlook' : s'.webhooks.lookup id = some w')
    (hW : ¬W id) : s.webhooks.lookup id = some w' ∨ w'.processingStatus = .RECEIVED := by
  induction h with
  | refl => exact .inl hlook'
  | tail _ hstep ih =>
      rcases hstep.webhook_cases hlook' hW with hlook | hreceived
      · exact ih hlook
      · exact .inr hreceived

theorem webhook_envelope {s s' : Db} (h : Relation.ReflTransGen (RefundStep U B W) s s')
    {id : WebhookId} {w : PaymentWebhookEvent} (hlook : s.webhooks.lookup id = some w) :
    ∃ w', s'.webhooks.lookup id = some w' ∧ PaymentWebhookEvent.SameEnvelope w w' := by
  induction h with
  | refl => exact ⟨w, hlook, by simp [PaymentWebhookEvent.SameEnvelope]⟩
  | tail _ hstep ih =>
      obtain ⟨w₁, hlook₁, hsame₁⟩ := ih
      obtain ⟨w₂, hlook₂, hsame₂, -⟩ := hstep.webhook_persists hlook₁
      exact ⟨w₂, hlook₂, hsame₁.trans hsame₂⟩

/-- A refund's status changes by the allowed updates only. -/
theorem refund_status {s s' : Db} (h : Relation.ReflTransGen (RefundStep U B W) s s')
    {id : RefundId} {r : Refund} (hlook : s.refunds.lookup id = some r) :
    ∃ r', s'.refunds.lookup id = some r' ∧
      (r'.status = r.status ∨ ∃ u, U id u ∧ r'.status = u.status) := by
  induction h with
  | refl => exact ⟨r, hlook, .inl rfl⟩
  | tail _ hstep ih =>
      obtain ⟨r₁, hlook₁, hstatus⟩ := ih
      obtain ⟨r₂, hlook₂, rfl | ⟨added, rfl⟩ | ⟨u, hu, rfl, -⟩⟩ := hstep.refund_persists hlook₁
      · exact ⟨r₂, hlook₂, hstatus⟩
      · exact ⟨_, hlook₂, hstatus⟩
      · exact ⟨_, hlook₂, .inr ⟨u, hu, u.status_apply r₁⟩⟩

/-- What holds of the refund rows: the customers' refunds are the unapproved
ones, idempotency keys are unique, and the lifecycle check holds. -/
structure RefundRows (db : Db) : Prop where
  approval : ∀ id r, db.refunds.lookup id = some r →
    (r.approvedByUserId = none ↔ r.initiator = .CUSTOMER)
  keys : ∀ id r id' r', db.refunds.lookup id = some r → db.refunds.lookup id' = some r' →
    r.providerIdempotencyKey = r'.providerIdempotencyKey → id = id'
  lifecycle : ∀ id r, db.refunds.lookup id = some r → r.lifecycleCheck = true

theorem RefundRows.step {s s' : Db} (hs : RefundRows s) (h : RefundStep U B W s s') :
    RefundRows s' where
  approval := by
    intro id r' hlook'
    rcases h.refund_cases hlook' with hlook | ⟨-, -, hfresh⟩ | ⟨r, added, hlook, rfl, -⟩ |
      ⟨r, u, hlook, -, rfl, hvalid⟩
    · exact hs.approval id r' hlook
    · exact hfresh.approval
    · exact hs.approval id r hlook
    · obtain ⟨-, -, -, -, -, hinitiator, -⟩ := (Refund.protected_of_validate hvalid).identity
      rw [u.approvedByUserId_apply, hinitiator]
      exact hs.approval id r hlook
  keys := by
    -- either row is an old one, up to its identity, or newly admitted
    have hold : ∀ id r', s'.refunds.lookup id = some r' →
        (∃ r, s.refunds.lookup id = some r ∧ r'.providerIdempotencyKey = r.providerIdempotencyKey) ∨
        Refund.Admitted s id r' ∧ s.refunds.lookup id = none := by
      intro id r' hlook'
      rcases h.refund_cases hlook' with hlook | ⟨habsent, hvalid, -⟩ | ⟨r, added, hlook, rfl, -⟩ |
        ⟨r, u, hlook, -, rfl, hvalid⟩
      · exact .inl ⟨r', hlook, rfl⟩
      · exact .inr ⟨Refund.admitted_of_validate hvalid, habsent⟩
      · exact .inl ⟨r, hlook, rfl⟩
      · obtain ⟨-, -, -, -, -, -, -, -, -, -, hkey, -⟩ :=
          (Refund.protected_of_validate hvalid).identity
        exact .inl ⟨r, hlook, hkey⟩
    intro id r id' r' hlook hlook' hkey
    rcases hold id r hlook with ⟨r₀, hr₀, hk⟩ | ⟨hadmitted, habsent⟩ <;>
      rcases hold id' r' hlook' with ⟨r₁, hr₁, hk'⟩ | ⟨hadmitted', habsent'⟩
    · exact hs.keys id r₀ id' r₁ hr₀ hr₁ (by rw [← hk, ← hk', hkey])
    · exact hadmitted'.eq_of_key hr₀ (by rw [← hk, hkey])
    · exact (hadmitted.eq_of_key hr₁ (by rw [← hk', hkey])).symm
    · by_contra hne
      exact absurd (h.insert_unique habsent habsent' hlook hlook') hne
  lifecycle := by
    intro id r' hlook'
    rcases h.refund_cases hlook' with hlook | ⟨-, hvalid, -⟩ | ⟨r, added, hlook, rfl, -⟩ |
      ⟨r, u, hlook, -, rfl, hvalid⟩
    · exact hs.lifecycle id r' hlook
    · exact (Refund.admitted_of_validate hvalid).lifecycle
    · exact hs.lifecycle id r hlook
    · exact (Refund.admitted_of_validate hvalid).lifecycle

/-! ## §2 The building blocks -/

theorem free_financialLedgerEntry : Prisma.financialLedgerEntry.Free (RefundStep U B W) :=
  fun _ _ => .plain rfl rfl rfl rfl

theorem free_financialOutbox : Prisma.financialOutbox.Free (RefundStep U B W) :=
  fun _ _ => .plain rfl rfl rfl rfl

theorem free_refundAttempt : Prisma.refundAttempt.Free (RefundStep U B W) :=
  fun _ _ => .plain rfl rfl rfl rfl

theorem steps_defer (trigger : DeferredTrigger) : (defer trigger).Steps (RefundStep U B W) := by
  intro s
  refine ensures_perform.mpr ?_
  rintro eff ⟨⟩
  exact .single (.plain rfl rfl rfl rfl)

theorem steps_runInTransaction {α : Type} {body : Sql α} (h : body.Steps (RefundStep U B W)) :
    (runInTransaction body).Steps (RefundStep U B W) := by
  refine h.bind fun result => Steps.bind (fun s => ensures_perform.mpr ?_) fun _ => steps_pure
  intro eff heff
  simp only [Except.bind_unit_eq_ok] at heff
  obtain ⟨-, ⟨⟩⟩ := heff
  exact .single (.plain rfl rfl rfl rfl)

theorem steps_maintainPaymentAggregate (attempt : AttemptId) :
    (maintainPaymentAggregate attempt).Steps (RefundStep U B W) := by
  intro s
  refine ensures_perform.mpr fun eff heff => ?_
  dsimp only [View.alone] at heff
  split at heff
  · cases heff
    exact .refl
  · rename_i a hlook
    simp only [Except.bind_unit_eq_ok] at heff
    obtain ⟨hvalid, ⟨⟩⟩ := heff
    exact .single (.aggregate attempt a _ _ hlook hvalid)

theorem steps_insertRefund (id : RefundId) (row : Refund) (hfresh : row.Fresh) :
    (insertRefund id row).Steps (RefundStep U B W) :=
  (steps_insert fun _ habsent hvalid => .insert id row habsent hvalid hfresh).bind fun _ =>
    (steps_maintainPaymentAggregate _).bind fun _ => steps_defer _

theorem steps_updateRefund (id : RefundId) (p : Refund → Bool) (u : RefundUpdate) (hu : U id u) :
    (updateRefund id p u.apply).Steps (RefundStep U B W) := by
  refine (steps_updateWhen fun _ r hlook _ hvalid => .update id r u hu hlook hvalid).bind
    fun updated => ?_
  split
  · exact steps_pure
  · exact (steps_maintainPaymentAggregate _).bind fun _ => (steps_defer _).bind fun _ => steps_pure

theorem steps_updateRefundById (id : RefundId) (u : RefundUpdate) (hu : U id u) :
    (updateRefundById id u.apply).Steps (RefundStep U B W) :=
  (steps_updateRefund id _ u hu).bind fun _ => steps_orThrow

theorem steps_insertRefundSeats (id : RefundId) (seats : List RefundSeat) :
    (insertRefundSeats id seats).Steps (RefundStep U B W) :=
  (steps_update fun _ r hlook hvalid => .seats id r seats hlook hvalid).bind fun _ => steps_defer _

theorem steps_appendLedgerEntry (input : AppendLedgerEntryInput) :
    (appendLedgerEntry input).Steps (RefundStep U B W) :=
  steps_require.bind fun _ => free_financialLedgerEntry.insertNew

theorem steps_enqueueFinancialEvent (key : FinancialEventKey) (event : FinancialEvent) :
    (enqueueFinancialEvent key event).Steps (RefundStep U B W) :=
  free_financialOutbox.insertNew

/-! ### The effect of a written refund row -/

/-- `s'` is `s` with refund `id` written, and the totals of its payment. -/
structure RefundWritten (id : RefundId) (row : Refund) (s s' : Db) : Prop where
  refunds : s'.refunds = s.refunds.insert id row
  payments : ∀ p, (s'.attempts.lookup p).map (·.identity) = (s.attempts.lookup p).map (·.identity)
  bookings : s'.bookings = s.bookings
  webhooks : s'.webhooks = s.webhooks

theorem ensures_maintainPaymentAggregate {s : Db} {attempt : AttemptId} :
    Ensures (maintainPaymentAggregate attempt) s fun _ s' =>
      s'.refunds = s.refunds ∧ s'.bookings = s.bookings ∧ s'.webhooks = s.webhooks ∧
        ∀ p, (s'.attempts.lookup p).map (·.identity) = (s.attempts.lookup p).map (·.identity) := by
  refine ensures_perform.mpr fun eff heff => ?_
  dsimp only [View.alone] at heff
  split at heff
  · cases heff
    exact ⟨rfl, rfl, rfl, fun _ => rfl⟩
  · rename_i a hlook
    simp only [Except.bind_unit_eq_ok] at heff
    obtain ⟨-, ⟨⟩⟩ := heff
    exact ⟨rfl, rfl, rfl, lookup_identity_insert hlook⟩

theorem ensures_updateRefund {s : Db} {id : RefundId} {p : Refund → Bool} {f : Refund → Refund}
    {Q : Option Refund → Db → Prop} (hnone : (s.refunds.lookup id).filter p = none → Q none s)
    (hsome : ∀ r s', s.refunds.lookup id = some r → p r = true →
      Refund.validate s id (some r) (f r) = .ok () → RefundWritten id (f r) s s' →
      Q (some (f r)) s') : Ensures (updateRefund id p f) s Q := by
  refine ensures_bind.mpr (ensures_updateWhen.mpr ⟨fun h => ?_, fun r hlook hp hvalid => ?_⟩)
  · exact ensures_pure.mpr (hnone h)
  · refine ensures_bind.mpr (ensures_maintainPaymentAggregate.mono ?_)
    rintro - s' ⟨hrefunds, hbookings, hwebhooks, hpayments⟩
    refine ensures_bind.mpr (ensures_perform.mpr ?_)
    rintro eff ⟨⟩
    exact ensures_pure.mpr (hsome r _ hlook hp hvalid ⟨hrefunds, hpayments, hbookings, hwebhooks⟩)

theorem ensures_updateRefundById {s : Db} {id : RefundId} {f : Refund → Refund}
    {Q : Refund → Db → Prop}
    (h : ∀ r s', s.refunds.lookup id = some r → Refund.validate s id (some r) (f r) = .ok () →
      RefundWritten id (f r) s s' → Q (f r) s') : Ensures (updateRefundById id f) s Q := by
  refine ensures_bind.mpr (ensures_updateRefund (fun _ => ensures_orThrow.mpr (by simp)) ?_)
  intro r s' hlook _ hvalid hwritten
  refine ensures_orThrow.mpr ?_
  rintro _ ⟨⟩
  exact h r s' hlook hvalid hwritten

/-! ## §3 The transactions -/

/-- The writes of a refund transaction are refund steps. -/
theorem refundStep_writes : SettlementWrites U B (RefundStep U B W) where
  updated := steps_updateRefund
  seats := steps_insertRefundSeats
  submission := fun _ _ => free_refundAttempt.insert
  completion := fun _ _ _ => free_refundAttempt.updateWhen
  ledger := fun input _ => steps_appendLedgerEntry input
  outbox := steps_enqueueFinancialEvent
  queue := steps_defer
  credit := crediting_of_free free_financialLedgerEntry
  revoke := revoking_of_free (fun _ _ => .plain rfl rfl rfl rfl) fun _ _ => .plain rfl rfl rfl rfl
  booking := fun id now _ hB => steps_update fun _ b hlook _ => .refunded id b now hB hlook

theorem flagging_refundStep (orderId : OrderId) : Flagging (RefundStep U B W) orderId :=
  fun _ => steps_update fun _ _ _ _ => .plain rfl rfl rfl rfl

theorem steps_updateWebhook {webhookId : WebhookId} (hW : W webhookId)
    (f : PaymentWebhookEvent → PaymentWebhookEvent) (missing : Failure) :
    (Prisma.paymentWebhookEvent.update webhookId f missing).Steps (RefundStep U B W) :=
  steps_update fun _ w hlook hvalid => .webhook webhookId w _ hW hlook hvalid

theorem Transacting.refundSteps {α : Type} {p : Sql α} (h : Transacting (RefundStep U B W) p) :
    p.Steps (RefundStep U B W) :=
  h.steps (committing_of_queue fun _ => .plain rfl rfl rfl rfl)

theorem steps_requestRefund (actor : RefundActor) (input : RefundRequestInput)
    (fresh : FreshRefund) (now : Time) :
    (requestRefund actor input fresh now).Steps (RefundStep U B W) :=
  (refundStep_writes.requested _ _ _ _ fun id row hfresh _ =>
    steps_insertRefund id row hfresh).refundSteps

theorem steps_claimRefundForSubmission (refundId : RefundId) (now : Time)
    (hU : ∀ submittedAt, U refundId (.submit submittedAt)) :
    (claimRefundForSubmission refundId now).Steps (RefundStep U B W) :=
  (refundStep_writes.claimed refundId now hU).refundSteps

theorem steps_completeAttempt (refundId : RefundId) (attemptNumber : Nat)
    (status : RefundAttemptStatus) (providerRequestReference : Option ProviderRef)
    (safeFailureCode : Option Code) (now : Time) :
    (completeAttempt refundId attemptNumber status providerRequestReference safeFailureCode
      now).Steps (RefundStep U B W) :=
  refundStep_writes.attemptCompleted _ _ _ _ _ _

theorem steps_markSubmissionAmbiguous (claimed : ClaimedRefund) (now : Time)
    (hU : U claimed.id .ambiguous) :
    (markSubmissionAmbiguous claimed now).Steps (RefundStep U B W) :=
  (refundStep_writes.markedAmbiguous claimed now hU).refundSteps

theorem steps_recordSubmission (claimed : ClaimedRefund) (provider : PaymentProviderName)
    (providerRefundId : ProviderRef) (now : Time) (hU : U claimed.id (.attach providerRefundId)) :
    (recordSubmission claimed provider providerRefundId now).Steps (RefundStep U B W) :=
  (refundStep_writes.recorded claimed provider providerRefundId now hU).refundSteps

theorem steps_failRefund (refundId : RefundId) (safeCode : Code) (now : Time)
    (hU : U refundId (.fail safeCode now)) :
    (failRefund refundId safeCode now).Steps (RefundStep U B W) :=
  (refundStep_writes.failed refundId safeCode now hU).refundSteps

theorem steps_adoptExternalRefund (refundId : RefundId) (providerRefundId : ProviderRef)
    (hU : U refundId (.attach providerRefundId)) :
    (adoptExternalRefund refundId providerRefundId).Steps (RefundStep U B W) :=
  (refundStep_writes.adopted refundId providerRefundId hU).refundSteps

/-- An event advances a refund to its own status only. -/
theorem steps_settleRefundFromVerifiedEvent (input : SettleInput)
    (hU : ∀ id u, u.settles = true →
      (∀ status now, u = .advance status now → status = input.incomingStatus) → U id u)
    (hB : ∀ id, B id) (hW : W input.webhookId) :
    (settleRefundFromVerifiedEvent input).Steps (RefundStep U B W) :=
  refundStep_writes.settled input hU hB flagging_refundStep fun f missing _ =>
    steps_updateWebhook hW f missing

theorem steps_storeVerifiedFinancialWebhook (provider : PaymentProviderName)
    (event : NormalizedRefundWebhookEvent) (fresh : WebhookId) (now : Time) :
    (storeVerifiedFinancialWebhook provider event fresh now).Steps (RefundStep U B W) :=
  steps_storedRefundEvent fun _ id w hreceives _ habsent _ =>
    .stored id w habsent hreceives.received

theorem steps_processVerifiedRefundRecord (webhookId : WebhookId) (now : Time)
    (hU : ∀ id u, u.settles = true → U id u) (hB : ∀ id, B id) (hW : W webhookId) :
    (processVerifiedRefundRecord webhookId now).Steps (RefundStep U B W) :=
  (refundStep_writes.processed webhookId now hU hB flagging_refundStep fun f missing _ =>
    steps_updateWebhook hW f missing).refundSteps

/-! ## §4 Specifications -/

/-- A successful claim found its refund requested, moved it to `SUBMITTING` and
hands out its data. -/
theorem ensures_claimRefundForSubmission {s : Db} {refundId : RefundId} {now : Time} :
    Ensures (claimRefundForSubmission refundId now) s fun result s' =>
      ∀ claimed, result = some claimed → ∃ r t, s.refunds.lookup refundId = some r ∧
        r.status = .REQUESTED ∧ claimed.id = refundId ∧
        claimed.providerIdempotencyKey = r.providerIdempotencyKey ∧
        s'.refunds = s.refunds.insert refundId (RefundUpdate.apply r (.submit t)) := by
  refine ensures_runInTransaction (ensures_bind.mpr (ensures_lockSkip.mpr ?_))
  split
  · exact ensures_pure.mpr (by simp)
  · rename_i r hlocked
    obtain ⟨hlook, hrequested⟩ := Option.filter_eq_some_iff.mp hlocked
    refine ensures_bind.mpr (ensures_findOrThrow.mpr fun refund hrefund => ?_)
    cases Option.some.inj (hlook.symm.trans hrefund)
    refine ensures_bind.mpr (ensures_findOrThrow.mpr fun attempt _ => ?_)
    refine ensures_bind.mpr (ensures_read.mpr ?_)
    split
    · exact ensures_pure.mpr (by simp)
    · refine ensures_bind.mpr (ensures_updateRefundById fun r₀ s₁ hr₀ _ hwritten => ?_)
      cases Option.some.inj (hlook.symm.trans hr₀)
      refine ensures_bind.mpr (ensures_insert.mpr fun _ _ => ensures_pure.mpr ?_)
      rintro - claimed ⟨⟩
      exact ⟨r, _, hlook, by simpa using hrequested, rfl, rfl, hwritten.refunds⟩

end SeatFlow
