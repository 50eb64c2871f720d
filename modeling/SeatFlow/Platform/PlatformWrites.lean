import SeatFlow.Platform.PlatformSystem

/-!
# Every write of the platform is an admitted one

A statement of any service changes the database by a `DbStep`, and takes nothing
from the ledger and the financial outbox: `Db.Writes`. The services' texts say which
statements these are; here each of them is led back to the constraints of its table.
-/

namespace SeatFlow

open Relational Program Entity

variable {s s' : Db}

/-- The append-only tables lose nothing. -/
structure Db.Appends (s s' : Db) : Prop where
  ledger : s.ledger.Keeps Eq s'.ledger
  outbox : s.financialOutbox.Keeps Eq s'.financialOutbox

theorem Db.Appends.of_eq (hledger : s'.ledger = s.ledger)
    (houtbox : s'.financialOutbox = s.financialOutbox) : s.Appends s' where
  ledger := hledger ▸ Table.keeps_refl (fun _ => rfl) _
  outbox := houtbox ▸ Table.keeps_refl (fun _ => rfl) _

/-- One write of any service. -/
def Db.Writes (s s' : Db) : Prop :=
  DbStep s s' ∧ s.Appends s'

/-- A write of other tables than the append-only ones. -/
theorem Db.Writes.of_step (h : DbStep s s') (hledger : s'.ledger = s.ledger)
    (houtbox : s'.financialOutbox = s.financialOutbox) : s.Writes s' :=
  ⟨h, .of_eq hledger houtbox⟩

/-! ## §1 Statements -/

theorem writes_queue (deferred : List DeferredTrigger) :
    s.Writes { s with deferred := deferred } :=
  .of_step (.other rfl rfl rfl rfl rfl rfl rfl rfl rfl rfl rfl rfl) rfl rfl

theorem writes_defer (trigger : DeferredTrigger) : (defer trigger).Steps Db.Writes := by
  refine fun s => ensures_perform.mpr ?_
  rintro eff ⟨⟩
  exact .single (writes_queue _)

theorem writes_appendLedgerEntry (input : AppendLedgerEntryInput) :
    (appendLedgerEntry input).Steps Db.Writes := by
  refine steps_require.bind fun _ => steps_insertNew fun s habsent _ => ?_
  refine ⟨.other rfl rfl rfl rfl rfl rfl rfl rfl rfl rfl rfl rfl,
    ⟨?_, Table.keeps_refl (fun _ => rfl) _⟩⟩
  refine Table.keeps_insert (fun _ => rfl) fun row hrow => ?_
  rw [show s.ledger.lookup _ = none from habsent] at hrow
  cases hrow

theorem writes_enqueueFinancialEvent (key : FinancialEventKey) (event : FinancialEvent) :
    (enqueueFinancialEvent key event).Steps Db.Writes := by
  refine steps_insertNew fun s habsent _ => ?_
  refine ⟨.other rfl rfl rfl rfl rfl rfl rfl rfl rfl rfl rfl rfl,
    ⟨Table.keeps_refl (fun _ => rfl) _, ?_⟩⟩
  refine Table.keeps_insert (fun _ => rfl) fun row hrow => ?_
  rw [show s.financialOutbox.lookup key = none from habsent] at hrow
  cases hrow

theorem writes_attempt : Prisma.paymentAttempt.AdmitsRow Db.Writes :=
  fun _ id row hvalid => .of_step (.attempt id row hvalid) rfl rfl

theorem writes_booking : Prisma.booking.AdmitsRow Db.Writes :=
  fun _ id row hvalid => .of_step (.booking id row hvalid) rfl rfl

theorem writes_order : Prisma.checkoutOrder.AdmitsRow Db.Writes :=
  fun _ id row hvalid => .of_step (.order id row hvalid) rfl rfl

theorem writes_updateWebhook (id : WebhookId) (f : PaymentWebhookEvent → PaymentWebhookEvent)
    (missing : Failure) : (Prisma.paymentWebhookEvent.update id f missing).Steps Db.Writes :=
  steps_update fun _ _ hlook hvalid => .of_step (.updatedWebhook hlook hvalid) rfl rfl

theorem writes_ticket : Prisma.ticket.AdmitsRow Db.Writes :=
  fun _ id row hvalid => .of_step (.ticket id row hvalid) rfl rfl

theorem writes_maintainPaymentAggregate (attempt : AttemptId) :
    (maintainPaymentAggregate attempt).Steps Db.Writes := by
  refine fun s => ensures_perform.mpr fun eff heff => ?_
  dsimp only [View.alone] at heff
  split at heff
  · cases heff
    exact .refl
  · rename_i a hlook
    obtain ⟨hvalid, ⟨⟩⟩ := Except.bind_unit_eq_ok.mp heff
    refine .single (writes_attempt s attempt _ ?_)
    show PaymentAttempt.validate s attempt (s.attempts.lookup attempt) _ = _
    rwa [hlook]

theorem writes_insertRefund (id : RefundId) (row : Refund) :
    (insertRefund id row).Steps Db.Writes := by
  refine Steps.bind ?_ fun _ => (writes_maintainPaymentAggregate _).bind fun _ => writes_defer _
  refine steps_insert fun s habsent hvalid => .of_step (.refund id row ?_) rfl rfl
  show Refund.validate s id (s.refunds.lookup id) row = _
  rwa [show s.refunds.lookup id = none from habsent]

theorem writes_updateRefund (id : RefundId) (p : Refund → Bool) (f : Refund → Refund) :
    (updateRefund id p f).Steps Db.Writes := by
  refine Steps.bind ?_ fun updated => ?_
  · refine steps_updateWhen fun s r hlook _ hvalid => .of_step (.refund id (f r) ?_) rfl rfl
    show Refund.validate s id (s.refunds.lookup id) (f r) = _
    rwa [show s.refunds.lookup id = some r from hlook]
  · split
    · exact steps_pure
    · exact (writes_maintainPaymentAggregate _).bind fun _ => (writes_defer _).bind fun _ =>
        steps_pure

theorem writes_insertRefundSeats (id : RefundId) (seats : List RefundSeat) :
    (insertRefundSeats id seats).Steps Db.Writes := by
  refine Steps.bind ?_ fun _ => writes_defer _
  exact steps_update fun s r hlook hvalid => .of_step (.refundSeats id r _ hlook hvalid) rfl rfl

theorem writes_revokeAdmission : Revoking Db.Writes := by
  intro now safeReason ticketId
  refine Steps.bind ?_ fun _ => writes_ticket.update.bind fun _ => steps_pure
  refine steps_updateMany fun s hvalid =>
    .of_step (.credentials _ _ (fun k c _ _ => ?_) hvalid) rfl rfl
  exact ⟨by simp, rfl⟩

/-! ## §2 Services -/

theorem writes_refunds : RefundTransactionWrites Db.Writes where
  updated := fun id p u _ => writes_updateRefund id p u.apply
  seats := writes_insertRefundSeats
  submission := fun _ _ => steps_insert fun _ _ _ =>
    .of_step (.other rfl rfl rfl rfl rfl rfl rfl rfl rfl rfl rfl rfl) rfl rfl
  completion := fun _ _ _ => steps_updateWhen fun _ _ _ _ _ =>
    .of_step (.other rfl rfl rfl rfl rfl rfl rfl rfl rfl rfl rfl rfl) rfl rfl
  ledger := fun input _ => writes_appendLedgerEntry input
  outbox := writes_enqueueFinancialEvent
  queue := writes_defer
  credit := fun input _ _ => writes_appendLedgerEntry input
  revoke := writes_revokeAdmission
  booking := fun _ _ _ _ => writes_booking.update
  inserted := fun id row _ => writes_insertRefund id row
  flagged := fun _ _ => writes_order.update
  record := fun id f missing _ => writes_updateWebhook id f missing

theorem writes_disputes (webhookId : WebhookId) : DisputeWrites webhookId Db.Writes where
  opened := fun id row => steps_insert fun s habsent hvalid => by
    refine .of_step (.dispute id row (fun d hd => ?_) ?_) rfl rfl
    · rw [show s.disputes.lookup id = none from habsent] at hd
      cases hd
    · show PaymentDispute.validate s id (s.disputes.lookup id) row = _
      rwa [show s.disputes.lookup id = none from habsent]
  advanced := fun id f _ hbooking => steps_update fun s d hlook hvalid => by
    refine .of_step (.dispute id (f d) (fun d' hd' => ?_) ?_) rfl rfl
    · cases Option.some.inj (hlook.symm.trans hd')
      exact hbooking d
    · show PaymentDispute.validate s id (s.disputes.lookup id) (f d) = _
      rwa [show s.disputes.lookup id = some d from hlook]
  history := fun _ _ => .of_step (.other rfl rfl rfl rfl rfl rfl rfl rfl rfl rfl rfl rfl) rfl rfl
  outbox := writes_enqueueFinancialEvent
  queue := writes_defer
  ledger := fun input _ => writes_appendLedgerEntry input
  webhook := writes_updateWebhook webhookId
  booking := fun _ _ _ => writes_booking.update
  admission := writes_revokeAdmission

theorem writes_commerce : CommerceWrites Db.Writes where
  hold := fun _ id row hvalid => .of_step (.hold id row hvalid) rfl rfl
  holds := fun _ p f hvalid => .of_step (.holds p f hvalid) rfl rfl
  holdItems := fun id _ _ => steps_update fun _ h hlook _ =>
    .of_step (.holdItems id h _ hlook) rfl rfl
  inventory := fun _ p f hvalid => .of_step (.inventory p f hvalid) rfl rfl
  session := fun id _ _ => steps_update fun _ session hlook _ =>
    .of_step (.session id session _ hlook rfl) rfl rfl
  placed := fun id _ _ _ => by
    refine writes_order.insert.bind fun _ => (writes_defer _).bind fun _ =>
      Steps.bind ?_ fun _ => writes_defer _
    exact steps_update fun _ o hlook _ => .of_step (.orderItems id o _ hlook) rfl rfl
  order := fun _ _ _ _ => writes_order.update
  orders := fun p _ => steps_updateMany fun _ hvalid => .of_step (.orders p _ hvalid) rfl rfl
  attempted := fun _ _ _ => writes_attempt.insert
  attempt := fun _ _ _ _ _ => writes_attempt.update
  webhook := fun id f missing _ => writes_updateWebhook id f missing
  booking := fun _ _ _ => writes_booking.insert
  bookingSeats := fun id _ _ => steps_update fun _ b hlook hvalid =>
    .of_step (.bookingSeats id b _ hlook hvalid) rfl rfl
  issuance :=
    fun _ _ _ _ => .of_step (.other rfl rfl rfl rfl rfl rfl rfl rfl rfl rfl rfl rfl) rfl rfl
  outbox := fun _ _ _ _ => .of_step (.other rfl rfl rfl rfl rfl rfl rfl rfl rfl rfl rfl rfl) rfl rfl
  queue := writes_defer

theorem writes_tickets : TicketWrites (fun _ _ _ => True) Db.Writes where
  issued := fun _ _ _ _ _ _ _ => writes_ticket.insert
  ticket := fun _ _ _ => writes_ticket.update
  credential := fun _ id row hvalid => .of_step (.credential id row hvalid) rfl rfl
  redemption :=
    fun _ _ _ _ => .of_step (.other rfl rfl rfl rfl rfl rfl rfl rfl rfl rfl rfl rfl) rfl rfl
  request :=
    fun _ _ _ _ => .of_step (.other rfl rfl rfl rfl rfl rfl rfl rfl rfl rfl rfl rfl) rfl rfl
  queue := writes_defer

/-- **Every write of the platform is an admitted one.** -/
theorem writes_platform : PlatformWrites (fun _ _ _ => True) Db.Writes where
  refunds := writes_refunds
  disputes := writes_disputes
  entries := writes_appendLedgerEntry
  commerce := writes_commerce
  tickets := writes_tickets

theorem writes_commits : PlatformCommits Db.Writes Db.Writes where
  commit := committing_of_queue fun _ => writes_queue []
  stored := fun _ s id w hreceives _ habsent hvalid =>
    .of_step (.webhook id w (fun _ => hreceives) (by rwa [habsent])) rfl rfl
  retried := fun p => steps_updateMany fun _ hvalid => .of_step (.webhooks p _ hvalid) rfl rfl
  completed := writes_refunds.completion
  recorded := writes_tickets.redemption
  reissued :=
    fun _ _ _ _ => .of_step (.other rfl rfl rfl rfl rfl rfl rfl rfl rfl rfl rfl rfl) rfl rfl

namespace Platform

variable {sys sys' : FinancialSystem}

/-- An action of the platform is a sequence of admitted writes. -/
theorem step_writes {a : PlatformAction} (h : Platform.step sys a = some sys') :
    Relation.ReflTransGen Db.Writes sys.db sys'.db := by
  refine db_whole writes_platform writes_commits ?_ h
  cases a with
  | ticket t => exact fun _ _ _ _ _ _ _ => trivial
  | _ => trivial

/-- A run of the platform is made of writes. -/
theorem run_writes {ok : FinancialSystem → PlatformAction → Prop}
    (h : Reaches Platform.step ok sys sys') : Relation.ReflTransGen Db.Writes sys.db sys'.db :=
  h.invariant (I := fun t => Relation.ReflTransGen Db.Writes sys.db t.db) .refl
    fun _ _ _ _ hstep hs => hs.trans (step_writes hstep)

end Platform

end SeatFlow
