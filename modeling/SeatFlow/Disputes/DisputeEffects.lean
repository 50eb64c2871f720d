import SeatFlow.Disputes.DisputeWrites
import SeatFlow.Refunds.LedgerMirror

/-!
# What a processed dispute event does

The books of disputes: the disputes themselves, the ledger and the announced
overlaps with refunds. A dispute event that is processed leaves them alone, opens a
dispute, escalates one or advances one, and in each case the new books are a
function of the old ones.
-/

namespace SeatFlow

open Relational Program Entity

/-! ## §1 The books -/

@[ext]
structure DisputeBooks where
  disputes : Table DisputeId PaymentDispute
  ledger : Table LedgerKey FinancialLedgerEntry
  overlaps : DisputeId → Bool

def Db.books (db : Db) : DisputeBooks where
  disputes := db.disputes
  ledger := db.ledger
  overlaps := fun id => (db.financialOutbox.lookup (.refundDisputeOverlap id)).isSome

namespace DisputeBooks

/-- Append an entry, unless its key is taken. -/
def append (books : DisputeBooks) (input : AppendLedgerEntryInput) : DisputeBooks :=
  if (books.ledger.lookup ⟨input.entryType, input.causeKey⟩).isSome then books
  else { books with ledger := books.ledger.insert ⟨input.entryType, input.causeKey⟩ input.row }

/-- Announce the overlap of a dispute. -/
def announce (books : DisputeBooks) (id : DisputeId) : DisputeBooks :=
  { books with overlaps := fun other => books.overlaps other || other == id }

def write (books : DisputeBooks) (id : DisputeId) (d : PaymentDispute) : DisputeBooks :=
  { books with disputes := books.disputes.insert id d }

end DisputeBooks

/-- The amounts of refunds and a dispute overlap. -/
def DisputeConsequenceInput.overlapping (input : DisputeConsequenceInput) : Bool :=
  (detectRefundDisputeOverlap input.refundedMinor input.amountMinor input.capturedMinor).overlapping

/-- The entry of a status. -/
def DisputeConsequenceInput.recordStatus (input : DisputeConsequenceInput) (books : DisputeBooks) :
    DisputeBooks :=
  match ledgerTypeByStatus input.status with
  | some entryType => books.append (input.ledgerEntry entryType (.webhook input.webhookId))
  | none => books

def DisputeConsequenceInput.recordOverlap (input : DisputeConsequenceInput) (books : DisputeBooks) :
    DisputeBooks :=
  if input.overlapping then books.announce input.disputeId else books

/-- The entry of a chargeback. -/
def DisputeConsequenceInput.recordLoss (input : DisputeConsequenceInput) (books : DisputeBooks) :
    DisputeBooks :=
  if input.status = .LOST then
    books.append (input.ledgerEntry .CHARGEBACK_RECORDED (.chargeback input.webhookId))
  else books

/-- What the consequences of a status make of the books. -/
def DisputeConsequenceInput.books (input : DisputeConsequenceInput) (books : DisputeBooks) :
    DisputeBooks :=
  input.recordLoss (input.recordOverlap (input.recordStatus books))

/-- The input that an event's record is applied with. -/
def PaymentWebhookEvent.disputeInput (w : PaymentWebhookEvent) (webhookId : WebhookId)
    (providerDisputeId : ProviderRef) (status : DisputeStatus) (now : Time) :
    DisputeEventInput where
  webhookId := webhookId
  providerEventId := w.providerEventId
  providerIntentId := w.providerIntentId
  providerDisputeId := providerDisputeId
  status := status
  reasonCategory := .UNRECOGNIZED
  amountMinor := w.amountMinor
  currency := w.currency
  occurredAt := w.providerOccurredAt
  evidenceDueAt := none
  now := now

/-- The consequences of opening a dispute. -/
def DisputeEventInput.opened (input : DisputeEventInput) (disputeId : DisputeId)
    (attemptId : AttemptId) (attempt : PaymentAttempt) (bookingId : Option BookingId) :
    DisputeConsequenceInput where
  disputeId := disputeId
  status := input.status
  orderId := attempt.orderId
  paymentAttemptId := attemptId
  bookingId := bookingId
  amountMinor := input.amountMinor
  currency := input.currency
  provider := attempt.provider
  webhookId := input.webhookId
  providerDisputeId := input.providerDisputeId
  effectiveAt := input.occurredAt.getD input.now
  now := input.now
  capturedMinor := attempt.amountMinor
  refundedMinor := attempt.refundedMinor

/-- The consequences of advancing a dispute. -/
def DisputeEventInput.advanced (input : DisputeEventInput) (attempt : PaymentAttempt)
    (disputeId : DisputeId) (dispute : PaymentDispute) (status : DisputeStatus) :
    DisputeConsequenceInput where
  disputeId := disputeId
  status := status
  orderId := dispute.orderId
  paymentAttemptId := dispute.paymentAttemptId
  bookingId := dispute.bookingId
  amountMinor := dispute.disputedAmountMinor
  currency := dispute.currency
  provider := attempt.provider
  webhookId := input.webhookId
  providerDisputeId := input.providerDisputeId
  effectiveAt := input.occurredAt.getD input.now
  now := input.now
  capturedMinor := attempt.amountMinor
  refundedMinor := attempt.refundedMinor

/-- A dispute under review. -/
def PaymentDispute.escalated (d : PaymentDispute) : PaymentDispute :=
  { d with status := .REQUIRES_REVIEW, version := d.version + 1 }

/-- A dispute with a new status. -/
def PaymentDispute.advanced (d : PaymentDispute) (input : DisputeEventInput)
    (status : DisputeStatus) (outcome : Option DisputeOutcome) : PaymentDispute :=
  { d with
    status := status
    outcome := outcome
    closedAt := if isTerminalDisputeStatus status then some input.now else none
    evidenceDueAt := input.evidenceDueAt.or d.evidenceDueAt
    version := d.version + 1 }

/-! ## §2 The steps of the transaction -/

section Books

variable {s s' : Db}

theorem books_congr (hdisputes : s'.disputes = s.disputes) (hledger : s'.ledger = s.ledger)
    (houtbox : s'.financialOutbox = s.financialOutbox) : s'.books = s.books := by
  refine DisputeBooks.ext hdisputes hledger ?_
  simp only [Db.books, houtbox]

theorem ensures_appendLedgerEntry_books {input : AppendLedgerEntryInput} :
    Ensures (appendLedgerEntry input) s fun _ s' => s'.books = s.books.append input := by
  refine ensures_bind.mpr (ensures_require.mpr fun _ => ensures_insertNew.mpr ⟨?_, ?_⟩)
  · intro hpresent
    exact (if_pos hpresent).symm
  · intro habsent _
    rw [DisputeBooks.append, if_neg (by rw [show s.books.ledger = s.ledger from rfl,
      show s.ledger.lookup _ = none from habsent]; simp)]
    rfl

/-- An outbox event that is no overlap. -/
theorem framed_enqueue_books {key : FinancialEventKey} {event : FinancialEvent}
    (hkey : ∀ id, key ≠ .refundDisputeOverlap id) :
    (enqueueFinancialEvent key event).Steps (Framing Db.books) := by
  refine steps_insertNew fun s _ _ => DisputeBooks.ext rfl rfl ?_
  funext id
  show (AList.lookup _ (s.financialOutbox.insert key event)).isSome = _
  rw [AList.lookup_insert_ne (hkey id).symm]
  rfl

theorem ensures_announce_books {id : DisputeId} {event : FinancialEvent} :
    Ensures (enqueueFinancialEvent (.refundDisputeOverlap id) event) s fun _ s' =>
      s'.books = s.books.announce id := by
  refine ensures_insertNew.mpr ⟨fun hpresent => ?_, fun _ _ => ?_⟩
  · refine DisputeBooks.ext rfl rfl ?_
    funext other
    by_cases hother : other = id
    · subst hother
      replace hpresent : (s.financialOutbox.lookup (.refundDisputeOverlap other)).isSome = true :=
        hpresent
      simp [DisputeBooks.announce, Db.books, hpresent]
    · simp [DisputeBooks.announce, hother]
  · refine DisputeBooks.ext rfl rfl ?_
    funext other
    show (AList.lookup _ (s.financialOutbox.insert _ event)).isSome = _
    rw [Table.lookup_insert_ite]
    by_cases hother : other = id
    · simp [DisputeBooks.announce, hother]
    · simp [DisputeBooks.announce, hother, Db.books]

theorem framed_raiseReviewState_books {orderId : OrderId} {state : FinancialReviewState} :
    (raiseReviewState orderId state).Steps (Framing Db.books) :=
  (steps_update fun _ _ _ _ => books_congr rfl rfl rfl).bind fun _ =>
    framed_defer (fun _ _ => books_congr rfl rfl rfl) _

theorem framed_revokeDisputedTickets_books {now : Time} {tickets : List (TicketId × Ticket)} :
    (revokeDisputedTickets now tickets).Steps (Framing Db.books) := by
  induction tickets with
  | nil => exact steps_pure
  | cons ticket tickets ih =>
      refine Steps.bind ?_ fun revoked => ih.bind fun rest => steps_pure
      unfold revokeDisputedTicket
      split
      · exact (revoking_of_free (fun _ _ => books_congr rfl rfl rfl)
          (fun _ _ => books_congr rfl rfl rfl) _ _ _).bind fun _ => steps_pure
      · exact steps_pure

theorem ensures_recordChargeback_books {input : DisputeConsequenceInput} :
    Ensures (recordChargeback input) s fun _ s' => s'.books
      = s.books.append (input.ledgerEntry .CHARGEBACK_RECORDED (.chargeback input.webhookId)) := by
  have hlast : ∀ payload, (do
      let _ ← enqueueFinancialEvent (.chargeback input.disputeId) (input.financialEvent payload)
      pure () : Sql Unit).Steps (Framing Db.books) :=
    fun payload => (framed_enqueue_books (by rintro id ⟨⟩)).bind fun _ => steps_pure
  refine ensures_bind.mpr (ensures_appendLedgerEntry_books.mono fun _ s₁ happended => ?_)
  rw [← happended]
  refine (framed_raiseReviewState_books.bind fun _ => ?_ : Steps (Framing Db.books) _).framed s₁
  dsimp only
  split
  · exact (steps_findMany.bind fun _ => framed_revokeDisputedTickets_books).bind fun _ => hlast _
  · exact hlast _

/-- **The consequences of a status**, on the books. -/
theorem ensures_consequences_books {input : DisputeConsequenceInput} :
    Ensures (recordDisputeLedgerAndConsequences input) s fun _ s' =>
      s'.books = input.books s.books := by
  unfold recordDisputeLedgerAndConsequences
  extract_lets overlap last chargeback continued
  have hlast : ∀ {s : Db}, Ensures (last ()) s fun _ s' => s'.books = s.books := by
    intro s
    have hframed : Steps (Framing Db.books) (last ()) :=
      (framed_enqueue_books (by rintro id ⟨⟩)).bind fun _ => steps_pure
    exact hframed.framed s
  have hchargeback : ∀ {s : Db}, Ensures (chargeback ()) s fun _ s' =>
      s'.books = input.recordLoss s.books := by
    intro s
    dsimp only [chargeback]
    unfold DisputeConsequenceInput.recordLoss
    split
    · exact ensures_bind.mpr (ensures_recordChargeback_books.mono fun _ s₁ hloss =>
        hlast.mono fun _ _ hsame => hsame.trans hloss)
    · exact hlast
  have hcontinued : ∀ {s : Db}, Ensures (continued ()) s fun _ s' =>
      s'.books = input.recordLoss (input.recordOverlap s.books) := by
    intro s
    dsimp only [continued]
    by_cases hoverlap : overlap.overlapping = true
    · rw [if_pos hoverlap, DisputeConsequenceInput.recordOverlap,
        if_pos (show input.overlapping = true from hoverlap)]
      refine framed_raiseReviewState_books.framed_bind fun _ s₁ hsame => ?_
      refine ensures_bind.mpr (ensures_announce_books.mono fun _ s₂ hannounced => ?_)
      rw [← hsame, ← hannounced]
      exact hchargeback
    · rw [if_neg hoverlap, DisputeConsequenceInput.recordOverlap,
        if_neg (show ¬input.overlapping = true from hoverlap)]
      exact hchargeback
  unfold DisputeConsequenceInput.books DisputeConsequenceInput.recordStatus
  cases ledgerTypeByStatus input.status with
  | some entryType =>
    refine ensures_bind.mpr (ensures_appendLedgerEntry_books.mono fun _ s₁ happended => ?_)
    dsimp only
    rw [← happended]
    exact hcontinued
  | none => exact hcontinued

theorem framed_linkDispute_books {webhookId : WebhookId} {disputeId : DisputeId} :
    (linkDispute webhookId disputeId).Steps (Framing Db.books) :=
  (steps_update fun _ _ _ _ => books_congr rfl rfl rfl).bind fun _ => steps_pure

theorem framed_appendDisputeEvent_books {input : DisputeEventInput} {disputeId : DisputeId}
    {previousStatus : Option DisputeStatus} {newStatus : DisputeStatus}
    {safeMetadata : Option Code} :
    (appendDisputeEvent input disputeId previousStatus newStatus safeMetadata).Steps
      (Framing Db.books) :=
  steps_insertNew fun _ _ _ => books_congr rfl rfl rfl

theorem ensures_openDispute_books {input : DisputeEventInput} {fresh : FreshDispute}
    {attemptId : AttemptId} {attempt : PaymentAttempt} {bookingId : Option BookingId} :
    Ensures (openDispute input fresh attemptId attempt bookingId) s fun _ s' =>
      s.disputes.lookup fresh.disputeId = none ∧
        s'.books = (input.opened fresh.disputeId attemptId attempt bookingId).books
          (s.books.write fresh.disputeId
            (PaymentDispute.created input fresh attemptId attempt bookingId)) := by
  refine ensures_bind.mpr (ensures_insert.mpr fun habsent _ => ?_)
  have hwritten : (Prisma.paymentDispute.set ((Prisma.paymentDispute.get s).insert fresh.disputeId
      (PaymentDispute.created input fresh attemptId attempt bookingId)) s).books
      = s.books.write fresh.disputeId
        (PaymentDispute.created input fresh attemptId attempt bookingId) := rfl
  refine framed_linkDispute_books.framed_bind fun _ s₁ hlinked => ?_
  refine framed_appendDisputeEvent_books.framed_bind fun _ s₂ hheard => ?_
  refine framed_raiseReviewState_books.framed_bind fun _ s₃ hraised => ?_
  rw [← hwritten, ← hlinked, ← hheard, ← hraised]
  have hlast : ∀ {s : Db}, Ensures (do
      recordDisputeLedgerAndConsequences
        (input.opened fresh.disputeId attemptId attempt bookingId)
      pure (DisputeProcessingOutcome.OPENED fresh.disputeId)) s fun _ s' =>
        s'.books = (input.opened fresh.disputeId attemptId attempt bookingId).books s.books :=
    ensures_bind.mpr (ensures_consequences_books.mono fun _ _ h => ensures_pure.mpr h)
  dsimp only
  split
  · refine (steps_update fun _ _ _ _ => books_congr rfl rfl rfl :
      Steps (Framing Db.books) _).framed_bind fun _ s₄ hflagged => ?_
    rw [← hflagged]
    exact hlast.mono fun _ _ h => ⟨habsent, h⟩
  · exact hlast.mono fun _ _ h => ⟨habsent, h⟩

theorem ensures_markDisputeUnderReview_books {input : DisputeEventInput} {disputeId : DisputeId}
    {dispute : PaymentDispute} {safeCode : Code} {d : PaymentDispute}
    (hlook : s.disputes.lookup disputeId = some d) :
    Ensures (markDisputeUnderReview input disputeId dispute safeCode) s fun _ s' =>
      s'.books = s.books.write disputeId d.escalated := by
  refine ensures_bind.mpr (ensures_update.mpr fun d' hd' _ => ?_)
  cases Option.some.inj (hlook.symm.trans hd')
  refine (?_ : Steps (Framing Db.books) _).framed _
  exact framed_raiseReviewState_books.bind fun _ => framed_appendDisputeEvent_books.bind fun _ =>
    (framed_enqueue_books (by rintro id ⟨⟩)).bind fun _ => steps_pure

theorem ensures_advanceDispute_books {input : DisputeEventInput} {attempt : PaymentAttempt}
    {disputeId : DisputeId} {d : PaymentDispute} {status : DisputeStatus}
    {outcome : Option DisputeOutcome} (hlook : s.disputes.lookup disputeId = some d) :
    Ensures (advanceDispute input attempt disputeId d status outcome) s fun _ s' =>
      s'.books = (input.advanced attempt disputeId d status).books
        (s.books.write disputeId (d.advanced input status outcome)) := by
  refine ensures_bind.mpr (ensures_update.mpr fun d' hd' _ => ?_)
  cases Option.some.inj (hlook.symm.trans hd')
  refine framed_appendDisputeEvent_books.framed_bind fun _ s₁ hheard => ?_
  refine ensures_consequences_books.mono fun _ s₂ hbooks => ?_
  rw [hbooks, hheard]
  rfl

end Books

/-! ## §3 The transaction -/

/-- A dispute event that is about to be applied: its record is open, and its intent is
that of a payment. -/
structure Db.Hears (db : Db) (webhookId : WebhookId) (w : PaymentWebhookEvent)
    (ref : ProviderRef) (incoming : DisputeStatus) (attemptId : AttemptId)
    (attempt : PaymentAttempt) : Prop where
  record : db.webhooks.lookup webhookId = some w
  opened : w.processingStatus.isFinal = false
  reference : w.providerDisputeId = some ref
  incoming : w.normalizedDisputeStatus = some incoming
  payment : db.paymentNamed w.providerIntentId = some (attemptId, attempt)

/-- The record determines what is heard. -/
theorem Db.Hears.unique {db : Db} {wid : WebhookId} {w w' : PaymentWebhookEvent}
    {ref ref' : ProviderRef} {incoming incoming' : DisputeStatus} {p p' : AttemptId}
    {a a' : PaymentAttempt} (h : db.Hears wid w ref incoming p a)
    (h' : db.Hears wid w' ref' incoming' p' a') :
    w' = w ∧ ref' = ref ∧ incoming' = incoming ∧ a' = a := by
  cases Option.some.inj (h.record.symm.trans h'.record)
  cases Option.some.inj (h.reference.symm.trans h'.reference)
  cases Option.some.inj (h.incoming.symm.trans h'.incoming)
  cases Option.some.inj (h.payment.symm.trans h'.payment)
  exact ⟨rfl, rfl, rfl, rfl⟩

/-- What a processed dispute event does to the books. -/
inductive DisputeEffect (s s' : Db) (wid : WebhookId) (fresh : FreshDispute) (now : Time) : Prop
  | quiet (books : s'.books = s.books)
      (ignored : ∀ w ref incoming p a, s.Hears wid w ref incoming p a → ∃ id d reason,
        s.disputeNamed a.provider ref = some (id, d) ∧
          decideDisputeTransition d.status incoming = .ignore reason)
  | opened (w : PaymentWebhookEvent) (ref : ProviderRef) (incoming : DisputeStatus)
      (p : AttemptId) (a : PaymentAttempt) (bookingId : Option BookingId)
      (heard : s.Hears wid w ref incoming p a) (closed : s'.Closed wid)
      (unnamed : s.disputeNamed a.provider ref = none)
      (booking : bookingId
        = (s.bookings.select fun _ b => b.orderId == a.orderId).head?.map Prod.fst)
      (absent : s.disputes.lookup fresh.disputeId = none)
      (books : s'.books
        = ((w.disputeInput wid ref incoming now).opened fresh.disputeId p a bookingId).books
            (s.books.write fresh.disputeId
              (PaymentDispute.created (w.disputeInput wid ref incoming now) fresh p a bookingId)))
  | escalated (w : PaymentWebhookEvent) (ref : ProviderRef) (incoming : DisputeStatus)
      (p : AttemptId) (a : PaymentAttempt) (id : DisputeId) (d : PaymentDispute) (code : Code)
      (heard : s.Hears wid w ref incoming p a) (closed : s'.Closed wid)
      (named : s.disputeNamed a.provider ref = some (id, d))
      (decision : decideDisputeTransition d.status incoming = .review code)
      (books : s'.books = s.books.write id d.escalated)
  | advanced (w : PaymentWebhookEvent) (ref : ProviderRef) (incoming : DisputeStatus)
      (p : AttemptId) (a : PaymentAttempt) (id : DisputeId) (d : PaymentDispute)
      (outcome : Option DisputeOutcome)
      (heard : s.Hears wid w ref incoming p a) (closed : s'.Closed wid)
      (named : s.disputeNamed a.provider ref = some (id, d))
      (decision : decideDisputeTransition d.status incoming = .apply incoming outcome)
      (books : s'.books
        = ((w.disputeInput wid ref incoming now).advanced a id d incoming).books
            (s.books.write id (d.advanced (w.disputeInput wid ref incoming now) incoming outcome)))

variable {s : Db} {wid : WebhookId} {fresh : FreshDispute} {now : Time}

/-- A dispute that was found by its external identity. -/
theorem Db.lookup_of_disputeNamed {provider : PaymentProviderName} {ref : ProviderRef}
    {id : DisputeId} {d : PaymentDispute} (h : s.disputeNamed provider ref = some (id, d)) :
    s.disputes.lookup id = some d ∧ d.provider = provider ∧ d.providerDisputeId = ref := by
  obtain ⟨hlook, hsame⟩ := Table.mem_select.mp (List.mem_of_head? h)
  simpa using And.intro hlook (Bool.and_eq_true_iff.mp hsame)

/-- The payment and the booking that a stored dispute is about. -/
theorem payment_of_dispute (hs : s.Sound) {id : DisputeId} {d : PaymentDispute}
    (hd : s.disputes.lookup id = some d) :
    ∃ a, s.attempts.lookup d.paymentAttemptId = some a ∧ a.orderId = d.orderId ∧
      a.provider = d.provider ∧ a.currency = d.currency ∧
      ∀ bookingId ∈ d.bookingId, ∃ b, s.bookings.lookup bookingId = some b ∧
        b.orderId = d.orderId := by
  have hancestry := hs.disputeAncestry id d hd
  simp only [PaymentDispute.enforceAncestry, Except.bind_unit_eq_ok, check_eq_ok,
    Option.map_eq_some_iff] at hancestry
  obtain ⟨⟨a, ha, horder⟩, ⟨a₁, ha₁, hprovider⟩, ⟨a₂, ha₂, hcurrency⟩, -, hbooking⟩ := hancestry
  cases Option.some.inj (ha.symm.trans ha₁)
  cases Option.some.inj (ha.symm.trans ha₂)
  exact ⟨a, ha, horder, hprovider, hcurrency, hbooking⟩

/-- What applying an event does, whatever closes its record afterwards. -/
theorem ensures_applyDispute_effect {w : PaymentWebhookEvent} {ref : ProviderRef}
    {incoming : DisputeStatus} (hw : s.webhooks.lookup wid = some w)
    (hopened : w.processingStatus.isFinal = false) (href : w.providerDisputeId = some ref)
    (hincoming : w.normalizedDisputeStatus = some incoming) :
    Ensures (applyDisputeFromVerifiedEvent (w.disputeInput wid ref incoming now) fresh) s
      fun _ s₁ => ∀ s', s'.books = s₁.books → s'.Closed wid → DisputeEffect s s' wid fresh now := by
  refine ensures_bind.mpr (ensures_findMany.mpr ?_)
  rw [show ((Prisma.paymentAttempt.get s).select fun _ a =>
    a.providerIntentId == some (w.disputeInput wid ref incoming now).providerIntentId).head? =
      s.paymentNamed w.providerIntentId from rfl]
  cases hpayment : s.paymentNamed w.providerIntentId with
  | none =>
      refine ensures_pure.mpr fun s' hbooks _ => .quiet hbooks fun w' _ _ _ _ hheard => ?_
      cases Option.some.inj (hw.symm.trans hheard.record)
      cases hpayment.symm.trans hheard.payment
  | some payment =>
      obtain ⟨p, a⟩ := payment
      have hheard : s.Hears wid w ref incoming p a := ⟨hw, hopened, href, hincoming, hpayment⟩
      refine ensures_bind.mpr (ensures_findMany.mpr (ensures_bind.mpr (ensures_lockMany.mpr ?_)))
      rw [show ((Prisma.paymentDispute.get s).select fun _ d => d.provider == a.provider &&
        d.providerDisputeId == (w.disputeInput wid ref incoming now).providerDisputeId).head? =
          s.disputeNamed a.provider ref from rfl]
      cases hnamed : s.disputeNamed a.provider ref with
      | none =>
          refine ensures_openDispute_books.mono fun _ s₁ hnew s' hsame hclosed => ?_
          exact .opened w ref incoming p a _ hheard hclosed hnamed rfl hnew.1 (hsame.trans hnew.2)
      | some found =>
          obtain ⟨id, d⟩ := found
          have hlook := (Db.lookup_of_disputeNamed hnamed).1
          refine ensures_bind.mpr (ensures_findOrThrow.mpr fun d' hd' => ?_)
          cases Option.some.inj (hlook.symm.trans hd')
          refine framed_linkDispute_books.framed_bind fun _ s₁ hlinked => ?_
          have hlook₁ : s₁.disputes.lookup id = some d := by
            rw [show s₁.disputes = s.disputes from congrArg DisputeBooks.disputes hlinked]
            exact hlook
          split
          · rename_i reason hdecision
            refine framed_appendDisputeEvent_books.framed_bind fun _ s₂ hheard₂ =>
              ensures_pure.mpr fun s' hsame _ => ?_
            refine .quiet ((hsame.trans hheard₂).trans hlinked) fun w' ref' _ _ _ hheard' => ?_
            obtain ⟨rfl, rfl, rfl, rfl⟩ := hheard.unique hheard'
            exact ⟨id, d, reason, hnamed, hdecision⟩
          · rename_i code hdecision
            refine ensures_bind.mpr ((ensures_markDisputeUnderReview_books hlook₁).mono
              fun _ s₂ hbooks => ensures_pure.mpr fun s' hsame hclosed => ?_)
            rw [hlinked] at hbooks
            exact .escalated w ref incoming p a id d code hheard hclosed hnamed hdecision
              (hsame.trans hbooks)
          · rename_i status outcome hdecision
            cases decideDisputeTransition_apply hdecision
            refine ensures_bind.mpr ((ensures_advanceDispute_books hlook₁).mono
              fun _ s₂ hbooks => ensures_pure.mpr fun s' hsame hclosed => ?_)
            rw [hlinked] at hbooks
            exact .advanced w ref incoming p a id d outcome hheard hclosed hnamed hdecision
              (hsame.trans hbooks)

/-- **What a processed dispute event does** to the disputes, the ledger and the
announced overlaps. -/
theorem ensures_processedDispute_effect :
    Ensures (processVerifiedDisputeRecord wid fresh now) s fun _ s' =>
      DisputeEffect s s' wid fresh now := by
  refine ensures_runInTransaction (ensures_bind.mpr (ensures_lock.mpr ?_))
  refine ensures_bind.mpr (ensures_findOrThrow.mpr fun w hw => ?_)
  split
  · rename_i hfinal
    refine ensures_pure.mpr fun _ => .quiet (books_congr rfl rfl rfl) fun w' _ _ _ _ hheard => ?_
    cases Option.some.inj (hw.symm.trans hheard.record)
    rw [hheard.opened] at hfinal
    cases hfinal
  · rename_i hopened
    replace hopened : w.processingStatus.isFinal = false := by simpa using hopened
    refine ensures_bind.mpr (ensures_require.mpr fun _ => ?_)
    split
    · rename_i ref incoming href hincoming
      refine ensures_bind.mpr
        ((ensures_applyDispute_effect hw hopened href hincoming).mono fun applied s₁ heffect => ?_)
      refine ensures_bind.mpr (ensures_update.mpr fun w₁ _ _ => ensures_pure.mpr fun _ => ?_)
      refine heffect _ (books_congr rfl rfl rfl) ⟨_, AList.lookup_insert _, ?_⟩
      cases applied <;> rfl
    · exact ensures_abort.mpr trivial

end SeatFlow
