import SeatFlow.Database.Indexes
import SeatFlow.Commerce.WebhookService

/-!
# What processing an event writes to its record

Processing a payment event writes one webhook record, its own, and writes it with a final
status. It does so in the transaction of the event's effect: a transaction that completes on
an open record has closed it.
-/

namespace SeatFlow

open Relational Program Entity

/-! ## §1 Writes of a record -/

/-- The only webhook record that is written is `webhookId`, and it is closed. -/
def Write.OfRecord (webhookId : WebhookId) : Write → Prop
  | .webhook id row => id = webhookId ∧ row.processingStatus.isFinal
  | _ => True

/-- The writes close the record. -/
structure Closes (webhookId : WebhookId) (writes : List Write) : Prop where
  own : ∀ w ∈ writes, w.OfRecord webhookId
  closed : ∃ row : PaymentWebhookEvent, row.processingStatus.isFinal ∧
    Write.webhook webhookId row ∈ writes

/-- A program that completes has closed the record. -/
def Concludes (webhookId : WebhookId) {α : Type} (p : Sql α) : Prop :=
  p.Yields fun _ writes => Closes webhookId writes

variable {α β : Type} {webhookId : WebhookId}

/-- The record is closed in the end. -/
theorem Concludes.after {p : Sql α} {f : α → Sql β} (hp : p.Emits (Write.OfRecord webhookId))
    (hf : ∀ a, Concludes webhookId (f a)) : Concludes webhookId (p >>= f) := by
  refine yields_bind (hp.yields.mono fun a written hwritten => ?_)
  refine (hf a).mono fun b later hlater => ⟨fun w hw => ?_, ?_⟩
  · rcases List.mem_append.mp hw with hw | hw
    · exact hwritten w hw
    · exact hlater.own w hw
  · obtain ⟨row, hrow, hmem⟩ := hlater.closed
    exact ⟨row, hrow, List.mem_append_right _ hmem⟩

/-! ## §2 Holds and inventory -/

theorem ofRecord_deferAll (triggers : List DeferredTrigger) :
    (deferAll triggers).Emits (Write.OfRecord webhookId) := by
  induction triggers with
  | nil => exact emits_pure
  | cons trigger triggers ih =>
      refine Emits.bind (emits_perform ?_) fun _ => ih
      rintro v eff ⟨⟩ w hw
      rw [List.mem_singleton.mp hw]
      trivial

theorem ofRecord_defer (trigger : DeferredTrigger) :
    (defer trigger).Emits (Write.OfRecord webhookId) := by
  refine emits_perform ?_
  rintro v eff ⟨⟩ w hw
  rw [List.mem_singleton.mp hw]
  trivial

theorem ofRecord_updateOrder (id : OrderId) (f : CheckoutOrder → CheckoutOrder) :
    (updateOrder id f).Emits (Write.OfRecord webhookId) :=
  (emits_update fun _ => trivial).bind fun _ => ofRecord_defer _

theorem ofRecord_enqueueInventoryEvent (key : InventoryEventKey) (sessionId : SessionId)
    (now : Time) : (enqueueInventoryEvent key sessionId now).Emits (Write.OfRecord webhookId) :=
  emits_insert trivial

theorem ofRecord_enqueueExpiredHoldEvents (sessionId : SessionId) (now : Time)
    (holdIds : List HoldId) :
    (enqueueExpiredHoldEvents sessionId now holdIds).Emits (Write.OfRecord webhookId) := by
  induction holdIds with
  | nil => exact emits_pure
  | cons holdId holdIds ih => exact (ofRecord_enqueueInventoryEvent _ _ _).bind fun _ => ih

theorem ofRecord_releaseExpiredHoldsForSession (sessionId : SessionId) (now : Time) :
    (releaseExpiredHoldsForSession sessionId now).Emits (Write.OfRecord webhookId) := by
  refine Emits.bind ?_ fun expired => Emits.bind ?_ fun _ =>
    (ofRecord_enqueueExpiredHoldEvents _ _ _).bind fun _ => emits_pure
  · exact (emits_updateMany fun _ _ => trivial).bind fun _ =>
      (ofRecord_deferAll _).bind fun _ => emits_pure
  · unfold releaseInventoryForHolds
    split
    · exact emits_pure
    · exact (emits_updateMany fun _ _ => trivial).bind fun _ => emits_pure

/-! ## §3 The outcomes -/

theorem concludes_closeWebhook {processingStatus : PaymentWebhookProcessingStatus}
    (hfinal : processingStatus.isFinal) (error : Option Code) (now : Time) :
    Concludes webhookId (closeWebhook webhookId processingStatus error now) := by
  refine yields_bind (yields_update.mono ?_)
  rintro row written ⟨r, rfl, rfl⟩
  refine ⟨?_, _, hfinal, List.mem_singleton_self _⟩
  intro w hw
  rw [List.mem_singleton.mp hw]
  exact ⟨rfl, hfinal⟩

theorem ofRecord_reviewTarget (target : ReviewTarget) (safeCode : Code) (now : Time)
    (paid : Bool) :
    (reviewTarget webhookId target safeCode now paid).Emits (Write.OfRecord webhookId) := by
  unfold reviewTarget
  extract_lets last announce preserve
  have hannounce : ∀ u, (announce u).Emits (Write.OfRecord webhookId) := by
    intro u
    dsimp only [announce]
    split
    · exact (ofRecord_enqueueInventoryEvent _ _ _).bind fun _ =>
        ofRecord_enqueueInventoryEvent _ _ _
    · exact ofRecord_enqueueInventoryEvent _ _ _
  have hpreserve : ∀ u, (preserve u).Emits (Write.OfRecord webhookId) := by
    intro u
    dsimp only [preserve]
    split
    · exact hannounce ()
    · exact (ofRecord_updateOrder _ _).bind fun _ => hannounce ()
  split
  · exact (emits_update fun _ => trivial).bind fun _ => hpreserve ()
  · exact hpreserve ()

theorem concludes_markWebhookReview (target : Option ReviewTarget) (safeCode : Code) (now : Time)
    (paid : Bool) : Concludes webhookId (markWebhookReview webhookId target safeCode now paid) := by
  have hclose : Concludes webhookId (closeWebhook webhookId .REQUIRES_REVIEW (some safeCode) now) :=
    concludes_closeWebhook rfl _ _
  unfold markWebhookReview
  split
  · exact hclose
  · exact Concludes.after (ofRecord_reviewTarget _ _ _ _) fun _ => hclose

theorem concludes_failPayment (attemptId : AttemptId) (orderId : OrderId) (order : CheckoutOrder)
    (cancelled : Bool) (now : Time) :
    Concludes webhookId (failPayment webhookId attemptId orderId order cancelled now) := by
  unfold failPayment
  refine Concludes.after (emits_update fun _ => trivial) fun _ => ?_
  have hclose : Concludes webhookId (do
      enqueueInventoryEvent (.paymentFailed webhookId) order.sessionId now
      closeWebhook webhookId .PROCESSED none now : Sql Unit) :=
    Concludes.after (ofRecord_enqueueInventoryEvent _ _ _) fun _ => concludes_closeWebhook rfl _ _
  split
  · exact Concludes.after (ofRecord_updateOrder _ _) fun _ => hclose
  · exact hclose

theorem concludes_recordPendingPayment (attemptId : AttemptId) (now : Time) :
    Concludes webhookId (recordPendingPayment webhookId attemptId now) := by
  refine Concludes.after (emits_update fun _ => trivial) fun _ => ?_
  refine yields_bind (yields_update.mono ?_)
  rintro row written ⟨r, rfl, rfl⟩
  refine ⟨?_, _, rfl, List.mem_singleton_self _⟩
  intro w hw
  rw [List.mem_singleton.mp hw]
  exact ⟨rfl, rfl⟩

theorem ofRecord_createBooking (fresh : FreshBooking) (orderId : OrderId) (order : CheckoutOrder)
    (now : Time) : (createBooking fresh orderId order now).Emits (Write.OfRecord webhookId) :=
  (emits_insert trivial).bind fun _ => (ofRecord_defer _).bind fun _ =>
    (emits_update fun _ => trivial).bind fun _ => (ofRecord_defer _).bind fun _ =>
      (emits_insertNew trivial).bind fun _ => emits_pure

theorem ofRecord_bookInventory (orderId : OrderId) (order : CheckoutOrder) (now : Time) :
    (bookInventory orderId order now).Emits (Write.OfRecord webhookId) :=
  (emits_updateMany fun _ _ => trivial).bind fun _ => emits_require.bind fun _ =>
    (emits_update fun _ => trivial).bind fun _ => (ofRecord_defer _).bind fun _ =>
      ofRecord_updateOrder _ _

theorem concludes_fulfillOrder (attemptId : AttemptId) (orderId : OrderId) (order : CheckoutOrder)
    (fresh : FreshBooking) (now : Time) :
    Concludes webhookId (fulfillOrder webhookId attemptId orderId order fresh now) :=
  Concludes.after (emits_update fun _ => trivial) fun _ =>
    Concludes.after (ofRecord_createBooking _ _ _ _) fun _ =>
      Concludes.after (ofRecord_bookInventory _ _ _) fun _ =>
        Concludes.after (ofRecord_enqueueInventoryEvent _ _ _) fun _ =>
          Concludes.after (ofRecord_enqueueInventoryEvent _ _ _) fun _ =>
            Concludes.after (ofRecord_enqueueInventoryEvent _ _ _) fun _ =>
              concludes_closeWebhook rfl _ _

/-! ## §4 Processing -/

theorem concludes_processSuccess (attemptId : AttemptId) (orderId : OrderId)
    (order : CheckoutOrder) (hold : SeatHold)
    (inventory : List (InventoryId × SessionSeatInventory)) (session : EventSession)
    (event : Event) (fresh : FreshBooking) (now : Time) :
    Concludes webhookId
      (processSuccess webhookId attemptId orderId order hold inventory session event
        fresh now) := by
  unfold processSuccess
  extract_lets target decision
  have hreview : ∀ code, Concludes webhookId
      (markWebhookReview webhookId (some target) code now true) := fun code =>
    concludes_markWebhookReview _ _ _ _
  have hfulfill : Concludes webhookId
      (if snapshotsMatch
          { orderItems := order.items
            holdItems := hold.items
            inventory := inventory
            holdId := order.sourceHoldId
            sessionId := order.sessionId
            holdExpiresAt := hold.expiresAt } then
        fulfillOrder webhookId attemptId orderId order fresh now
      else markWebhookReview webhookId (some target) "FULFILLMENT_SNAPSHOT_MISMATCH" now true) := by
    split
    · exact concludes_fulfillOrder _ _ _ _ _
    · exact hreview _
  clear_value decision
  cases decision with
  | REVIEW code =>
    dsimp only
    split
    · exact Concludes.after (ofRecord_releaseExpiredHoldsForSession _ _) fun _ => hreview _
    · exact hreview _
  | FULFILL => exact hfulfill
  | IDEMPOTENT => exact hfulfill

theorem concludes_processPayment (webhook : PaymentWebhookEvent)
    (normalizedStatus : PaymentAttemptStatus) (attemptId : AttemptId) (fresh : FreshBooking)
    (now : Time) :
    Concludes webhookId
      (processPayment webhookId webhook normalizedStatus attemptId fresh now) := by
  refine Concludes.after emits_lock fun _ => Concludes.after emits_findOrThrow fun attempt => ?_
  refine Concludes.after emits_lock fun _ => Concludes.after emits_findOrThrow fun order => ?_
  refine Concludes.after emits_findMany fun bookings => Concludes.after emits_lock fun _ => ?_
  refine Concludes.after emits_findOrThrow fun hold => ?_
  refine Concludes.after emits_lockMany fun inventory => ?_
  refine Concludes.after emits_findOrThrow fun session => ?_
  refine Concludes.after emits_findOrThrow fun event => ?_
  dsimp only
  split
  · exact concludes_closeWebhook rfl _ _
  · split
    · exact concludes_markWebhookReview _ _ _ _
    · split
      · exact concludes_closeWebhook (by split <;> rfl) _ _
      · split
        · exact concludes_markWebhookReview _ _ _ _
        · split
          · exact concludes_failPayment _ _ _ _ _
          · split
            · exact concludes_recordPendingPayment _ _
            · exact concludes_processSuccess _ _ _ _ _ _ _ _ _

theorem yields_runDeferredTriggers :
    runDeferredTriggers.Yields fun _ writes => writes = [.settled] := by
  intro v eff heff
  obtain ⟨-, ⟨⟩⟩ := Except.bind_unit_eq_ok.mp heff
  rfl

/-- The transaction leaves a closed record alone and closes an open one. -/
theorem yields_processInTransaction (webhookId : WebhookId) (fresh : FreshBooking) (now : Time) :
    (processInTransaction webhookId fresh now).Yields fun _ writes =>
      writes = [.settled] ∨ Closes webhookId writes := by
  have hsettle : ∀ {α : Type} {body : Sql α},
      (body.Yields fun _ writes => writes = [] ∨ Closes webhookId writes) →
      (runInTransaction body).Yields fun _ writes =>
        writes = [.settled] ∨ Closes webhookId writes := by
    intro α body hbody
    refine yields_bind (hbody.mono fun a written hwritten => ?_)
    refine yields_bind (yields_runDeferredTriggers.mono ?_)
    rintro ⟨⟩ later rfl
    rcases hwritten with rfl | hcloses
    · exact .inl rfl
    · obtain ⟨row, hfinal, hmem⟩ := hcloses.closed
      refine .inr ⟨fun w hw => ?_, row, hfinal, List.mem_append_left _ hmem⟩
      rcases List.mem_append.mp hw with hw | hw
      · exact hcloses.own w hw
      · rw [List.mem_singleton.mp hw]
        trivial
  have hreads : ∀ {α β : Type} {p : Sql α} {f : α → Sql β}, p.Emits (fun _ => False) →
      (∀ a, (f a).Yields fun _ writes => writes = [] ∨ Closes webhookId writes) →
      (p >>= f).Yields fun _ writes => writes = [] ∨ Closes webhookId writes := by
    intro α β p f hp hf
    refine yields_bind (hp.yields.mono fun a written hwritten => ?_)
    obtain rfl : written = [] := List.eq_nil_iff_forall_not_mem.mpr hwritten
    exact hf a
  refine hsettle (hreads emits_lock fun _ => hreads emits_findOrThrow fun webhook => ?_)
  split
  · exact .inl rfl
  · refine hreads emits_require fun _ => ?_
    split
    · split
      · exact (concludes_markWebhookReview _ _ _ _).mono fun _ _ h => .inr h
      · exact (concludes_processPayment _ _ _ _ _).mono fun _ _ h => .inr h
    · trivial

/-- Writes of one record leave the others. -/
theorem lookup_webhooks_of_ofRecord {writes : List Write} {id : WebhookId} (hid : id ≠ webhookId)
    (h : ∀ w ∈ writes, w.OfRecord webhookId) (db : Db) :
    (applyAll writes db).webhooks.lookup id = db.webhooks.lookup id := by
  induction writes generalizing db with
  | nil => rfl
  | cons w writes ih =>
      have hrest := ih (fun w' hw' => h w' (List.mem_cons_of_mem _ hw')) (w.apply db)
      refine hrest.trans ?_
      have hw := h w List.mem_cons_self
      cases w with
      | webhook k row =>
          obtain ⟨rfl, -⟩ := hw
          exact AList.lookup_insert_ne hid
      | _ => rfl

/-- Processing a record leaves the others. -/
theorem lookup_webhooks_processed {id : WebhookId} (hid : id ≠ webhookId) (fresh : FreshBooking)
    (now : Time) (db : Db) :
    (processVerifiedWebhookRecord webhookId fresh now db).webhooks.lookup id =
      db.webhooks.lookup id := by
  unfold processVerifiedWebhookRecord
  split
  · next db' hrun =>
    obtain ⟨writes, hwrites, rfl⟩ :=
      (yields_processInTransaction webhookId fresh now).ensures _ _ hrun
    rcases hwrites with rfl | hcloses
    · rfl
    · exact lookup_webhooks_of_ofRecord hid hcloses.own db
  · rfl
  · refine Ensures.commit (Q := fun s' : Db => s'.webhooks.lookup id = db.webhooks.lookup id)
      ?_ rfl
    refine ensures_bind.mpr (ensures_updateMany.mpr fun _ => ensures_pure.mpr ?_)
    refine (Table.lookup_putAll_updates _ _ _ _).trans ?_
    have hother : (id == webhookId) = false := by simpa using hid
    cases hrow : db.webhooks.lookup id with
    | none =>
      show (db.webhooks.lookup id).map _ = none
      rw [hrow]
      rfl
    | some w =>
      show (db.webhooks.lookup id).map _ = some w
      rw [hrow, Option.map_some, hother]
      rfl

end SeatFlow
