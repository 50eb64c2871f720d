import SeatFlow.Platform.PlatformWrites

/-!
# Reachable states of the platform

What the services keep together. Holds, checkout, payment webhooks and tickets leave the
database consistent and, seen from the refund system, change nothing that it counts on;
a record that is still open is linked to no dispute, and a record's payment is one of
the provider that sent the event.
-/

namespace SeatFlow

open Relational Program Entity

variable {s s' : Db}

/-! ## §1 Consistency -/

/-- A written order and its queued trigger. -/
theorem Db.Regular.wroteOrder (hs : s.Regular) {id : OrderId} {row : CheckoutOrder}
    (hstep : DbStep s { s with orders := s.orders.insert id row }) :
    Db.Regular { s with
      orders := s.orders.insert id row
      deferred := .verifyOrderTotals id :: s.deferred } where
  sound := (hs.sound.step hstep).queue _
  seatTotals := fun id' => (hs.seatTotals id').imp_right (List.mem_cons_of_mem _)
  orderTotals := by
    intro id'
    by_cases hid : id' = id
    · exact .inr (by simp [hid])
    · rw [verifyTotals_congr (s := s) (by
        show ((s.orders.insert id row).lookup id').map _ = _
        rw [AList.lookup_insert_ne hid])]
      exact (hs.orderTotals id').imp_right (List.mem_cons_of_mem _)

theorem regular_placed (id : OrderId) (row : CheckoutOrder) (items : List CheckoutOrderItem)
    (missing : Failure) :
    (do
      Prisma.checkoutOrder.insert id row
      defer (.verifyOrderTotals id)
      let _ ← Prisma.checkoutOrderItem.update id (fun o => { o with items := o.items ++ items })
        missing
      defer (.verifyOrderTotals id) : Sql Unit).Steps (Keeping Db.Regular) := by
  have hdefer : ∀ {s : Db} {Q : Unit → Db → Prop},
      Q () { s with deferred := .verifyOrderTotals id :: s.deferred } →
      Ensures (defer (.verifyOrderTotals id)) s Q := by
    intro s Q hQ
    refine ensures_perform.mpr ?_
    rintro eff ⟨⟩
    exact hQ
  refine steps_keeping.mpr fun s hs =>
    ensures_bind.mpr (ensures_insert.mpr fun habsent hvalid => ?_)
  -- the order is regular once its trigger is queued, and so is the order with its items
  have hplaced : DbStep s { s with orders := s.orders.insert id row } := by
    refine .order id row ?_
    rwa [show s.orders.lookup id = none from habsent]
  refine ensures_bind.mpr (hdefer ?_)
  refine ensures_bind.mpr (ensures_update.mpr fun o hlook _ => hdefer ?_)
  exact (hs.wroteOrder hplaced).wroteOrder (.orderItems id o _ hlook)

theorem regular_updateOrder (id : OrderId) (f : CheckoutOrder → CheckoutOrder) (missing : Failure)
    (hf : ∀ o, (f o).totalColumns = o.totalColumns) :
    (Prisma.checkoutOrder.update id f missing).Steps (Keeping Db.Regular) := by
  refine steps_update fun s o hlook hvalid hs => hs.step (.order id _ ?_) (fun _ => rfl) ?_ rfl
  · show CheckoutOrder.validate s id (s.orders.lookup id) _ = _
    rwa [show s.orders.lookup id = some o from hlook]
  · exact map_lookup_insert hlook (hf o)

theorem regular_expireOrders (p : OrderId → CheckoutOrder → Bool) (now : Time) :
    (Prisma.checkoutOrder.updateMany p fun _ o => o.expired now).Steps (Keeping Db.Regular) := by
  refine steps_updateMany fun s hvalid hs => hs.step (.orders p _ hvalid) (fun _ => rfl) ?_ rfl
  intro id
  show ((s.orders.putAll (s.orders.updates p fun _ o => o.expired now)).lookup id).map _ = _
  rw [Table.mapped_updates p _ s.orders id, Option.map_map]
  refine congrArg (fun g => (s.orders.lookup id).map g) (funext fun o => ?_)
  dsimp only [Function.comp]
  split <;> rfl

theorem regular_commerce : CommerceWrites (Keeping Db.Regular) where
  hold := fun _ id row hvalid hs => regular_other hs (.hold id row hvalid) rfl rfl rfl
  holds := fun _ p f hvalid hs => regular_other hs (.holds p f hvalid) rfl rfl rfl
  holdItems := fun id _ _ => steps_update fun _ h hlook _ hs =>
    regular_other hs (.holdItems id h _ hlook) rfl rfl rfl
  inventory := fun _ p f hvalid hs => regular_other hs (.inventory p f hvalid) rfl rfl rfl
  session := fun id _ _ => steps_update fun _ session hlook _ hs =>
    regular_other hs (.session id session _ hlook rfl) rfl rfl rfl
  placed := regular_placed
  order := regular_updateOrder
  orders := regular_expireOrders
  attempted := fun id row _ => steps_insert fun s habsent hvalid hs => by
    refine regular_other hs (.attempt id row ?_) rfl rfl rfl
    rwa [show s.attempts.lookup id = none from habsent]
  attempt := fun id f _ _ _ => steps_update fun s a hlook hvalid hs => by
    refine regular_other hs (.attempt id (f a) ?_) rfl rfl rfl
    rwa [show s.attempts.lookup id = some a from hlook]
  webhook := fun id f missing _ => regular_updateWebhook id f missing
  booking := fun id row _ => steps_insert fun s habsent hvalid hs => by
    refine regular_other hs (.booking id row ?_) rfl rfl rfl
    rwa [show s.bookings.lookup id = none from habsent]
  bookingSeats := fun id _ _ => steps_update fun _ b hlook hvalid hs =>
    regular_other hs (.bookingSeats id b _ hlook hvalid) rfl rfl rfl
  issuance := fun _ _ _ _ hs =>
    regular_other hs (.other rfl rfl rfl rfl rfl rfl rfl rfl rfl rfl rfl rfl) rfl rfl rfl
  outbox := fun _ _ _ _ hs =>
    regular_other hs (.other rfl rfl rfl rfl rfl rfl rfl rfl rfl rfl rfl rfl) rfl rfl rfl
  queue := regular_defer

theorem regular_tickets : TicketWrites (fun _ _ _ => True) (Keeping Db.Regular) where
  issued :=
    fun bookingId booking seat reference now id _ => steps_insert fun s habsent hvalid hs => by
    refine regular_other hs
      (.ticket id (booking.ticket bookingId seat reference now) ?_) rfl rfl rfl
    rwa [show s.tickets.lookup id = none from habsent]
  ticket := fun id f _ => steps_update fun s t hlook hvalid hs => by
    refine regular_other hs (.ticket id (f t) ?_) rfl rfl rfl
    rwa [show s.tickets.lookup id = some t from hlook]
  credential := fun _ id row hvalid hs => regular_other hs (.credential id row hvalid) rfl rfl rfl
  redemption := fun _ _ _ _ hs =>
    regular_other hs (.other rfl rfl rfl rfl rfl rfl rfl rfl rfl rfl rfl rfl) rfl rfl rfl
  request := fun _ _ _ _ hs =>
    regular_other hs (.other rfl rfl rfl rfl rfl rfl rfl rfl rfl rfl rfl rfl) rfl rfl rfl
  queue := regular_defer

theorem regular_platform : PlatformWrites (fun _ _ _ => True) (Keeping Db.Regular) where
  refunds := regular_refundTransactionWrites
  disputes := disputeWrites_regular
  entries := regular_appendLedgerEntry
  commerce := regular_commerce
  tickets := regular_tickets

/-- A statement between transactions. -/
theorem Db.Consistent.other (hs : s.Consistent) (h : DbStep s s')
    (hrefunds : s'.refunds = s.refunds) (horders : s'.orders = s.orders)
    (hdeferred : s'.deferred = s.deferred) : s'.Consistent :=
  (regular_other hs.regular h hrefunds horders hdeferred).consistent (hdeferred.trans hs.idle)

theorem consistent_commits : PlatformCommits (Keeping Db.Regular) (Keeping Db.Consistent) where
  commit := committing_consistent
  stored := storing_consistent
  retried := fun p => steps_updateMany fun _ hvalid hs =>
    hs.other (.webhooks p _ hvalid) rfl rfl rfl
  completed := fun _ _ _ => steps_updateWhen fun _ _ _ _ _ hs =>
    hs.other (.other rfl rfl rfl rfl rfl rfl rfl rfl rfl rfl rfl rfl) rfl rfl rfl
  recorded := fun _ _ _ _ hs =>
    hs.other (.other rfl rfl rfl rfl rfl rfl rfl rfl rfl rfl rfl rfl) rfl rfl rfl
  reissued := fun _ _ _ _ hs =>
    hs.other (.other rfl rfl rfl rfl rfl rfl rfl rfl rfl rfl rfl rfl) rfl rfl rfl

namespace Platform

variable {sys sys' : FinancialSystem}

theorem issues_any (db : Db) (a : PlatformAction) : Issues (fun _ _ _ => True) db a := by
  cases a with
  | ticket t => exact fun _ _ _ _ _ _ _ => trivial
  | _ => trivial

/-- **Consistency.** Every action of the platform keeps it. -/
theorem consistent_step {a : PlatformAction} (h : Platform.step sys a = some sys')
    (hs : sys.db.Consistent) : sys'.db.Consistent :=
  Keeping.steps (db_whole regular_platform consistent_commits (issues_any _ _) h) hs

end Platform

/-! ## §2 What other services leave to refunds -/

/-- An admitted update of a record that keeps its links. -/
theorem recordsAside_update {id : WebhookId} {w new : PaymentWebhookEvent}
    (hlook : s.webhooks.lookup id = some w)
    (hvalid : PaymentWebhookEvent.validate s id (some w) new = .ok ())
    (hlinks : new.links = w.links)
    (hnew : new.processingStatus.isFinal = false) :
    ∃ w, s.webhooks.lookup id = some w ∧ w.processingStatus.isFinal = false ∧
      new.links = w.links ∧ new.normalizedRefundStatus = w.normalizedRefundStatus := by
  have hkeep := paymentWebhookEventConstraints.keep_of_validate hvalid
  simp only [paymentWebhookEventConstraints, PaymentWebhookEvent.protectEnvelope,
    Except.bind_unit_eq_ok, check_eq_ok] at hkeep
  obtain ⟨⟨-, -, -, -, -, -, hstatus, -⟩, -, -, hfinal⟩ := hkeep
  refine ⟨w, hlook, ?_, hlinks, hstatus⟩
  by_contra hclosed
  rw [hfinal (by simpa using hclosed)] at hnew
  exact hclosed hnew

theorem aside_of_webhooks (h : s'.webhooks = s.webhooks) : s.RecordsAside s' :=
  .of_open fun _ _ hw _ => h ▸ hw

/-- A write of tables that refunds do not look at. -/
theorem aside_other (hrefunds : s'.refunds = s.refunds) (hattempts : s'.attempts = s.attempts)
    (hwebhooks : s'.webhooks = s.webhooks) : s.RefundsAside s' :=
  .of_eq hrefunds hattempts (aside_of_webhooks hwebhooks)

theorem aside_updateWebhook (id : WebhookId) (f : PaymentWebhookEvent → PaymentWebhookEvent)
    (missing : Failure) (hf : ∀ w, (f w).links = w.links) :
    (Prisma.paymentWebhookEvent.update id f missing).Steps Db.RefundsAside := by
  refine steps_update fun s w hlook hvalid => .of_eq rfl rfl fun id' w' hw' hopened => .inr ?_
  rcases Table.wrote_insert.cases hw' with ⟨rfl, rfl⟩ | ⟨-, hold⟩
  · exact recordsAside_update hlook hvalid (hf w) hopened
  · exact ⟨w', hold, hopened, rfl, rfl⟩

theorem aside_retried (p : WebhookId → PaymentWebhookEvent → Bool) :
    (Prisma.paymentWebhookEvent.updateMany p fun _ w => w.retryable).Steps Db.RefundsAside := by
  refine steps_updateMany fun s hvalid => .of_eq rfl rfl fun id w' hw' hopened => .inr ?_
  obtain ⟨w, hw, rfl⟩ := (Table.mapped_updates p (fun _ w => w.retryable) s.webhooks).cases hw'
  by_cases hp : p id w = true
  · rw [if_pos hp] at hopened ⊢
    exact recordsAside_update hw (hvalid id w hw hp) rfl hopened
  · rw [if_neg hp] at hopened ⊢
    exact ⟨w, hw, hopened, rfl, rfl⟩

/-- Rewriting a payment with its totals. -/
theorem totalsOf_insert {id : AttemptId} {row : PaymentAttempt} (h : row.totals = s.totalsOf id)
    (p : AttemptId) :
    Db.totalsOf { s with attempts := s.attempts.insert id row } p = s.totalsOf p := by
  unfold Db.totalsOf
  rw [Table.lookup_insert_ite]
  split
  · rename_i hp
    rw [hp]
    exact h
  · rfl

theorem aside_defer (trigger : DeferredTrigger) : (defer trigger).Steps Db.RefundsAside := by
  refine fun s => ensures_perform.mpr ?_
  rintro eff ⟨⟩
  exact .single (aside_other rfl rfl rfl)

theorem aside_commerce : CommerceWrites Db.RefundsAside where
  hold := fun _ _ _ _ => aside_other rfl rfl rfl
  holds := fun _ _ _ _ => aside_other rfl rfl rfl
  holdItems := fun _ _ _ => steps_update fun _ _ _ _ => aside_other rfl rfl rfl
  inventory := fun _ _ _ _ => aside_other rfl rfl rfl
  session := fun _ _ _ => steps_update fun _ _ _ _ => aside_other rfl rfl rfl
  placed := fun id row _ _ => by
    have hinsert : (Prisma.checkoutOrder.insert id row).Steps Db.RefundsAside :=
      steps_insert fun _ _ _ => aside_other rfl rfl rfl
    refine hinsert.bind fun _ => (aside_defer _).bind fun _ => Steps.bind ?_ fun _ => aside_defer _
    exact steps_update fun _ _ _ _ => aside_other rfl rfl rfl
  order := fun _ _ _ _ => steps_update fun _ _ _ _ => aside_other rfl rfl rfl
  orders := fun _ _ => steps_updateMany fun _ _ => aside_other rfl rfl rfl
  attempted := fun id row htotals => steps_insert fun s habsent _ => by
    refine ⟨rfl, totalsOf_insert ?_, aside_of_webhooks rfl⟩
    rw [Db.totalsOf, show s.attempts.lookup id = none from habsent]
    exact htotals
  attempt := fun id f _ _ htotals => steps_update fun s a hlook _ => by
    refine ⟨rfl, totalsOf_insert ?_, aside_of_webhooks rfl⟩
    rw [Db.totalsOf, show s.attempts.lookup id = some a from hlook]
    exact htotals a
  webhook := aside_updateWebhook
  booking := fun _ _ _ => steps_insert fun _ _ _ => aside_other rfl rfl rfl
  bookingSeats := fun _ _ _ => steps_update fun _ _ _ _ => aside_other rfl rfl rfl
  issuance := fun _ _ _ _ => aside_other rfl rfl rfl
  outbox := fun _ _ _ _ => aside_other rfl rfl rfl
  queue := aside_defer

/-- A stored payment event is about no refund. -/
theorem aside_stored : Storing .PAYMENT Db.RefundsAside := by
  intro s id w hreceives hcategory _ hvalid
  replace hvalid : Prisma.paymentWebhookEvent.validate s id none w = .ok () := hvalid
  refine .of_eq rfl rfl fun id' w' hw' hopened => ?_
  rcases Table.wrote_insert.cases hw' with ⟨-, rfl⟩ | ⟨-, hold⟩
  · have hcheck := (paymentWebhookEventConstraints.ok_of_validate hvalid).category
    simp only [PaymentWebhookEvent.categoryCheck, hcategory, Bool.and_eq_true,
      Option.isNone_iff_eq_none] at hcheck
    refine .inl ⟨?_, hcheck.1.1.1.1.1.2⟩
    rw [PaymentWebhookEvent.links, hreceives.refund, hreceives.dispute]
  · exact .inr ⟨w', hold, hopened, rfl, rfl⟩

theorem aside_commit : Committing Db.RefundsAside Db.RefundsAside :=
  committing_of_queue fun _ => aside_other rfl rfl rfl

/-- A sequence of such steps. -/
theorem refundsAside_of_steps (h : Relation.ReflTransGen Db.RefundsAside s s') :
    s.RefundsAside s' := by
  induction h with
  | refl => exact s.refundsAside_refl
  | tail _ hlast ih => exact ih.trans hlast

theorem CommerceTransaction.aside (t : CommerceTransaction) (db : Db) :
    db.RefundsAside (t.commit db) :=
  refundsAside_of_steps (t.steps aside_commerce aside_commit aside_stored aside_retried db)

theorem TicketTransaction.aside (t : TicketTransaction) (db : Db) :
    db.RefundsAside (t.commit db) := by
  have houtside := t.outside db
  simp only [Db.outsideTickets, Prod.mk.injEq] at houtside
  obtain ⟨-, -, -, hattempts, hwebhooks, -, hrefunds, -⟩ := houtside
  exact aside_other hrefunds hattempts hwebhooks

/-! ## §3 Records -/

/-- A record that is open is linked to no dispute. -/
def Db.OpenUnlinked (db : Db) : Prop :=
  ∀ id w, db.webhooks.lookup id = some w → w.processingStatus.isFinal = false → w.disputeId = none

theorem Db.OpenUnlinked.aside (hs : s.OpenUnlinked) (h : s.RecordsAside s') : s'.OpenUnlinked := by
  intro id w' hw' hopened
  rcases h id w' hw' hopened with ⟨hnew, -⟩ | ⟨w, hw, hopened₀, hlinks, -⟩
  · exact congrArg Prod.snd hnew
  · exact (congrArg Prod.snd hlinks).trans (hs id w hw hopened₀)

theorem unlinked_of_webhooks (h : Framing Db.webhooks s s') : Keeping Db.OpenUnlinked s s' :=
  fun hs => hs.aside (aside_of_webhooks h)

theorem unlinked_refunds : RefundTransactionWrites (Keeping Db.OpenUnlinked) where
  toSettlementWrites := by
    have hcrediting : Crediting (Framing Db.webhooks) := crediting_of_free fun _ _ => rfl
    have hrevoking : Revoking (Framing Db.webhooks) :=
      revoking_of_free (fun _ _ => rfl) fun _ _ => rfl
    exact (webhooks_frame.settlementWrites hcrediting hrevoking fun _ _ => rfl).mono
      fun _ _ => unlinked_of_webhooks
  inserted := fun id row _ => (framed_insertRefund webhooks_frame.1 (fun _ _ => rfl) id row).mono
    fun _ _ => unlinked_of_webhooks
  flagged := fun _ _ => steps_update fun _ _ _ _ => unlinked_of_webhooks rfl
  record := fun id f _ hf => steps_update fun s w hlook hvalid hs => by
    intro id' w' hw' hopened
    rcases Table.wrote_insert.cases hw' with ⟨rfl, rfl⟩ | ⟨-, hold⟩
    · have hkeep := paymentWebhookEventConstraints.keep_of_validate hvalid
      simp only [paymentWebhookEventConstraints, PaymentWebhookEvent.protectEnvelope,
        Except.bind_unit_eq_ok, check_eq_ok] at hkeep
      refine (hf w).trans (hs id' w hlook ?_)
      by_contra hclosed
      rw [hkeep.2.2.2 (by simpa using hclosed)] at hopened
      exact hclosed hopened
    · exact hs id' w' hold hopened

theorem unlinked_stored : Storing .REFUND (Keeping Db.OpenUnlinked) := by
  intro s id w hreceives _ _ _ hs id' w' hw' hopened
  rcases Table.wrote_insert.cases hw' with ⟨-, rfl⟩ | ⟨-, hold⟩
  · exact hreceives.dispute
  · exact hs id' w' hold hopened

/-- A record's payment is one of the provider that sent the event. -/
def Db.Addressed (db : Db) : Prop :=
  ∀ id w p, db.webhooks.lookup id = some w → w.paymentAttemptId = some p →
    ∃ a, db.attempts.lookup p = some a ∧ a.provider = w.provider

theorem lookup_of_intentPayment {provider : PaymentProviderName} {intent : ProviderRef}
    {p : AttemptId} (h : s.intentPayment provider intent = some p) :
    ∃ a, s.attempts.lookup p = some a ∧ a.provider = provider := by
  obtain ⟨⟨p', a⟩, hhead, rfl⟩ := Option.map_eq_some_iff.mp h
  obtain ⟨hlook, hsame⟩ := Table.mem_select.mp (List.mem_of_head? hhead)
  exact ⟨a, hlook, eq_of_beq (Bool.and_eq_true_iff.mp hsame).1⟩

/-- **Records keep their address**: no write changes the provider of a payment or the
envelope of a record. -/
theorem Db.Addressed.step (hs : s.Addressed) (h : DbStep s s') : s'.Addressed := by
  have hattempts := h.keeps.attempts
  -- the payment of an old record is still there
  have hold : ∀ id w p, s.webhooks.lookup id = some w → w.paymentAttemptId = some p →
      ∃ a, s'.attempts.lookup p = some a ∧ a.provider = w.provider := by
    intro id w p hw hp
    obtain ⟨a, ha, hprovider⟩ := hs id w p hw hp
    obtain ⟨a', ha', hterms⟩ := hattempts p a ha
    exact ⟨a', ha', hterms.identity.2.1.trans hprovider⟩
  have hsame : s'.webhooks = s.webhooks → s'.Addressed :=
    fun heq id w p hw hp => hold id w p (heq ▸ hw) hp
  cases h with
  | other _ _ _ _ _ _ hwebhooks => exact hsame hwebhooks
  | webhook id new hreceived hvalid =>
      intro id' w p hw hp
      rcases Table.wrote_insert.cases hw with ⟨rfl, rfl⟩ | ⟨-, hrow⟩
      · cases hlook : s.webhooks.lookup id' with
        | none => exact lookup_of_intentPayment ((hreceived hlook).payment.symm.trans hp)
        | some w₀ =>
            rw [hlook] at hvalid
            obtain ⟨hprovider, -, -, -, hpayment, -⟩ :=
              PaymentWebhookEvent.sameEnvelope_of_validate hvalid
            rw [hprovider]
            exact hold id' w₀ p hlook (hpayment.symm.trans hp)
      · exact hold id' w p hrow hp
  | webhooks q f hvalid =>
      intro id w p hw hp
      obtain ⟨w₀, hw₀, rfl⟩ := (Table.mapped_updates q f s.webhooks).cases hw
      by_cases hq : q id w₀ = true
      · rw [if_pos hq] at hp ⊢
        obtain ⟨hprovider, -, -, -, hpayment, -⟩ :=
          PaymentWebhookEvent.sameEnvelope_of_validate (hvalid id w₀ hw₀ hq)
        rw [hprovider]
        exact hold id w₀ p hw₀ (hpayment.symm.trans hp)
      · rw [if_neg hq] at hp ⊢
        exact hold id w₀ p hw₀ hp
  | _ => exact hsame rfl

/-! ## §4 Reachable states -/

namespace Platform

variable {sys sys' : FinancialSystem}

/-- The refund events of a run are normalised before they are stored. -/
def NormalizedEvents (sys : FinancialSystem) : PlatformAction → Prop
  | .financial a => sys.NormalizedEvents a
  | _ => True

/-- What a run keeps. -/
structure Reachable (sys : FinancialSystem) : Prop where
  refunds : sys.refunds.Reachable
  unlinked : sys.db.OpenUnlinked
  addressed : sys.db.Addressed

theorem Reachable.consistent (hs : Reachable sys) : sys.db.Consistent :=
  hs.refunds.kept.consistent

theorem refunds_step {a : PlatformAction} (hs : Reachable sys) (hok : NormalizedEvents sys a)
    (h : Platform.step sys a = some sys') : sys'.refunds.Reachable := by
  have hconsistent := consistent_step h hs.consistent
  cases a with
  | financial a => exact FinancialSystem.reachable_step hs.refunds hok h
  | commerce t =>
      cases h
      exact hs.refunds.kept_db hconsistent (t.aside sys.db)
  | ticket t =>
      cases h
      exact hs.refunds.kept_db hconsistent (t.aside sys.db)

theorem unlinked_step {a : PlatformAction} (hs : sys.db.OpenUnlinked)
    (h : Platform.step sys a = some sys') : sys'.db.OpenUnlinked := by
  cases a with
  | commerce t =>
      cases h
      exact hs.aside (t.aside sys.db).records
  | ticket t =>
      cases h
      exact hs.aside (t.aside sys.db).records
  | financial a =>
      cases a with
      | storeDispute provider event fresh now =>
          cases h
          exact hs.aside (ensures_storedDispute_aside.commit (Db.refundsAside_refl _)).records
      | processDispute webhookId fresh now =>
          cases h
          exact hs.aside (ensures_processedDispute_aside.commit (Db.refundsAside_refl _)).records
      | refund a =>
          obtain ⟨refunds, hstep, rfl⟩ := FinancialSystem.step_refund h
          rcases RefundSystem.db_transaction hstep with heq | ⟨t, heq⟩
          · exact (congrArg Db.OpenUnlinked heq).mpr hs
          · have hsteps := t.steps unlinked_refunds
              (committing_of_queue fun _ => unlinked_of_webhooks rfl) unlinked_stored
              fun _ _ _ => steps_updateWhen fun _ _ _ _ _ => unlinked_of_webhooks rfl
            refine (congrArg Db.OpenUnlinked heq).mpr ?_
            exact (steps_keeping.mp hsteps _ hs).commit hs

/-- **Every action keeps reachability.** -/
theorem Reachable.step {a : PlatformAction} (hs : Reachable sys) (hok : NormalizedEvents sys a)
    (h : Platform.step sys a = some sys') : Reachable sys' where
  refunds := refunds_step hs hok h
  unlinked := unlinked_step hs.unlinked h
  addressed := by
    have hwrites := step_writes h
    have hstart := hs.addressed
    generalize sys'.db = db' at hwrites
    induction hwrites with
    | refl => exact hstart
    | tail _ hlast ih => exact ih.step hlast.1

/-- **Every state that a run reaches** is reachable. -/
theorem Reachable.reaches (hs : Reachable sys)
    (h : Reaches Platform.step NormalizedEvents sys sys') : Reachable sys' :=
  h.invariant hs fun _ _ _ hok hstep ih => ih.step hok hstep

/-- A platform whose refund system is fresh and that has heard of nothing yet. -/
theorem reachable_of_fresh (h : sys.refunds.Fresh)
    (hquiet : ∀ id, sys.db.webhooks.lookup id = none) :
    Reachable sys where
  refunds := h.reachable
  unlinked := fun id w hw => by simp [hquiet id] at hw
  addressed := fun id w p hw => by simp [hquiet id] at hw

theorem capturedFinances_reachable : Reachable FinancialSystem.capturedFinances :=
  reachable_of_fresh RefundSystem.capturedStart_fresh fun _ => rfl

end Platform

end SeatFlow
