import SeatFlow.Disputes.FinancialSystem
import SeatFlow.Tickets.TicketWrites

/-!
# The platform

Everything that writes the database, as one system: refunds and disputes with the
provider's refunds, and between their steps the transactions of holds, checkout and
payment webhooks and those of tickets. `PlatformWrites` gathers what the services
write; what one such write keeps, every step of the platform keeps.
-/

namespace SeatFlow

open Relational Program Entity

inductive PlatformAction
  | financial (a : FinancialAction)
  | commerce (t : CommerceTransaction)
  | ticket (t : TicketTransaction)

namespace FinancialSystem

def db (sys : FinancialSystem) : Db :=
  sys.refunds.db

def withDb (sys : FinancialSystem) (db : Db) : FinancialSystem :=
  { sys with refunds := { sys.refunds with db := db } }

end FinancialSystem

namespace Platform

/-- One step of the platform; `none` when the action is not possible now. -/
def step (sys : FinancialSystem) : PlatformAction → Option FinancialSystem
  | .financial a => sys.step a
  | .commerce t => some (sys.withDb (t.commit sys.db))
  | .ticket t => some (sys.withDb (t.commit sys.db))

end Platform

/-! ## §1 Writes -/

/-- The writes of all transactions. -/
structure PlatformWrites (I : BookingId → Booking → BookingSeat → Prop) (step : Db → Db → Prop) :
    Prop where
  refunds : RefundTransactionWrites step
  disputes : ∀ webhookId, DisputeWrites webhookId step
  entries : Settling.Entries step
  commerce : CommerceWrites step
  tickets : TicketWrites I step

/-- Between transactions: what a commit makes of the steps of a body, and the
statements that run outside any transaction. -/
structure PlatformCommits (step whole : Db → Db → Prop) : Prop where
  commit : Committing step whole
  stored : ∀ category, Storing category whole
  retried : ∀ p, (Prisma.paymentWebhookEvent.updateMany p fun _ w => w.retryable).Steps whole
  completed : ∀ id p f, (Prisma.refundAttempt.updateWhen id p f).Steps whole
  recorded : Prisma.ticketRedemptionEvent.AdmitsRow whole
  reissued : Prisma.ticketIssuanceRequest.AdmitsBatch whole

namespace RefundSystem

variable {sys sys' : RefundSystem} {step whole : Db → Db → Prop}

/-- What a step of the refund system does to the database. -/
theorem db_whole (hwrites : RefundTransactionWrites step) (hcommits : PlatformCommits step whole)
    {a : RefundAction} (h : sys.step a = some sys') :
    Relation.ReflTransGen whole sys.db sys'.db := by
  rcases db_transaction h with heq | ⟨t, heq⟩
  · rw [heq]
  · rw [heq]
    exact (t.steps hwrites hcommits.commit (hcommits.stored _) hcommits.completed).commit sys.db

end RefundSystem

namespace FinancialSystem

variable {sys sys' : FinancialSystem} {step whole : Db → Db → Prop}
  {I : BookingId → Booking → BookingSeat → Prop}

/-- What a step of refunds and disputes does to the database. -/
theorem db_financial (hrefunds : RefundTransactionWrites step)
    (hdisputes : ∀ webhookId, DisputeWrites webhookId step) (hentries : Settling.Entries step)
    (hcommits : PlatformCommits step whole) {a : FinancialAction} (h : sys.step a = some sys') :
    Relation.ReflTransGen whole sys.db sys'.db := by
  cases a with
  | refund a =>
      obtain ⟨refunds, hstep, rfl⟩ := step_refund h
      exact RefundSystem.db_whole hrefunds hcommits hstep
  | storeDispute provider event fresh now =>
      cases h
      exact (steps_storeVerifiedDisputeWebhook (hcommits.stored _)).commit sys.refunds.db
  | processDispute webhookId fresh now =>
      cases h
      exact (steps_processVerifiedDisputeRecord (hdisputes webhookId) hentries
        hrefunds.flagged hcommits.commit fresh now).commit sys.refunds.db

theorem db_whole (hwrites : PlatformWrites I step) (hcommits : PlatformCommits step whole)
    {a : FinancialAction} (h : sys.step a = some sys') :
    Relation.ReflTransGen whole sys.db sys'.db :=
  db_financial hwrites.refunds hwrites.disputes hwrites.entries hcommits h

end FinancialSystem

namespace Platform

variable {sys sys' : FinancialSystem} {step whole : Db → Db → Prop}
  {I : BookingId → Booking → BookingSeat → Prop}

/-- The seats that an action's transaction may issue tickets for. -/
def Issues (I : BookingId → Booking → BookingSeat → Prop) (db : Db) : PlatformAction → Prop
  | .ticket t => ∀ bookingId booking, db.issues t = some bookingId →
      db.bookings.lookup bookingId = some booking → booking.status = .CONFIRMED →
      ∀ seat ∈ booking.seats, I bookingId booking seat
  | _ => True

/-- **What an action does to the database** is a sequence of steps between transactions. -/
theorem db_whole (hwrites : PlatformWrites I step) (hcommits : PlatformCommits step whole)
    {a : PlatformAction} (hissues : Issues I sys.db a) (h : Platform.step sys a = some sys') :
    Relation.ReflTransGen whole sys.db sys'.db := by
  cases a with
  | financial a => exact FinancialSystem.db_whole hwrites hcommits h
  | commerce t =>
      cases h
      exact t.steps hwrites.commerce hcommits.commit (hcommits.stored _) hcommits.retried sys.db
  | ticket t =>
      cases h
      exact t.steps hwrites.tickets hcommits.commit hcommits.recorded hcommits.reissued
        sys.db hissues

end Platform

end SeatFlow
