import SeatFlow.Disputes.DisputeEffects
import SeatFlow.Disputes.FinancialSystem
import Mathlib.Tactic.Linarith

/-!
# What a lost dispute costs

A dispute that is lost appends two entries, `DISPUTE_LOST` and `CHARGEBACK_RECORDED`,
and both record its amount as money that moved: the settled balance falls by twice
the amount. Nothing else that a dispute appends is settling.
-/

namespace SeatFlow

open Relational Program Entity

/-! ## §1 The entries of a dispute -/

/-- The ledger entries that carry a dispute. -/
def Db.ledgerForDispute (db : Db) (id : DisputeId) : List (LedgerKey × FinancialLedgerEntry) :=
  db.ledger.select fun _ entry => entry.disputeId == some id

/-- What an entry adds to the balance of a dispute. -/
def disputedMinor (id : DisputeId) (key : LedgerKey) (entry : FinancialLedgerEntry) : Money :=
  if entry.disputeId = some id then settledMinor key entry else 0

/-- What the entries of a dispute add to the balance. -/
def Db.disputeNet (db : Db) (id : DisputeId) : Money :=
  db.ledger.sum (disputedMinor id)

theorem calculateSettledBalanceMinor_ledgerForDispute (db : Db) (id : DisputeId) :
    calculateSettledBalanceMinor (db.ledgerForDispute id) = db.disputeNet id := by
  rw [Db.ledgerForDispute, calculateSettledBalanceMinor_select, Db.disputeNet]
  refine Table.sum_congr fun key => ?_
  simp only [Table.contribution, beq_iff_eq]
  rfl

/-- The entry types of a loss. -/
def isLossEntryType (entryType : LedgerEntryType) : Bool :=
  entryType == .DISPUTE_LOST || entryType == .CHARGEBACK_RECORDED

/-- The entries of losses, and the other settling entries that carry a dispute. -/
def Db.disputedEntries (db : Db) (key : LedgerKey) : Option FinancialLedgerEntry :=
  if isLossEntryType key.entryType then db.ledger.lookup key
  else (db.ledger.lookup key).filter fun entry =>
    isSettlingEntryType key.entryType && entry.disputeId.isSome

/-- The balance of a dispute looks at these entries only. -/
theorem disputeNet_congr {s s' : Db} (h : s'.disputedEntries = s.disputedEntries)
    (id : DisputeId) : s'.disputeNet id = s.disputeNet id := by
  have hcontribution : ∀ (db : Db) key, db.ledger.contribution (disputedMinor id) key
      = (db.disputedEntries key).elim 0 (disputedMinor id key) := by
    intro db key
    unfold Table.contribution Db.disputedEntries
    cases db.ledger.lookup key with
    | none => simp
    | some entry =>
        by_cases hloss : isLossEntryType key.entryType = true
        · simp [hloss]
        · by_cases hkept : (isSettlingEntryType key.entryType && entry.disputeId.isSome) = true
          · simp [hloss, Option.filter, hkept]
          · have hzero : disputedMinor id key entry = 0 := by
              unfold disputedMinor settledMinor
              cases hid : entry.disputeId <;> simp_all
            simp [hloss, Option.filter, hkept, hzero]
  refine Table.sum_congr fun key => ?_
  rw [hcontribution, hcontribution, h]

/-- No refund transaction touches them. -/
theorem disputedEntries_insert {s : Db} {key : LedgerKey} {row : FinancialLedgerEntry}
    (habsent : isSettlingEntryType key.entryType = true → s.ledger.lookup key = none)
    (hloss : isLossEntryType key.entryType = false)
    (hrow : (isSettlingEntryType key.entryType && row.disputeId.isSome) = false) :
    Db.disputedEntries { s with ledger := s.ledger.insert key row } = s.disputedEntries := by
  funext key'
  unfold Db.disputedEntries
  rw [Table.lookup_insert_ite]
  by_cases hkey : key' = key
  · subst hkey
    rw [if_pos rfl, hloss]
    by_cases hsettling : isSettlingEntryType key'.entryType = true
    · simp_all [Option.filter]
    · cases s.ledger.lookup key' <;> simp_all [Option.filter]
  · rw [if_neg hkey]

theorem disputedEntries_frame : RefundFrame Db.disputedEntries where
  refunds := fun _ _ _ _ _ => rfl
  submissions := fun _ _ => rfl
  outbox := fun _ _ => rfl
  totals := fun _ _ => rfl
  queue := fun _ _ => rfl
  ledger := by
    intro s key row hsettling
    refine disputedEntries_insert (fun h => ?_) ?_ (by rw [hsettling]; rfl)
    · rw [hsettling] at h
      cases h
    · revert hsettling
      cases key.entryType <;> decide

theorem disputedEntries_crediting : Crediting (Framing Db.disputedEntries) := by
  intro input htype hdispute
  refine steps_require.bind fun _ => steps_insertNew fun s habsent _ => ?_
  exact disputedEntries_insert (fun _ => habsent) (by rw [htype]; rfl) (by simp [hdispute])

theorem framed_storeVerifiedDisputeWebhook {γ : Type} {part : Db → γ}
    (hpart : ∀ s webhooks, part { s with webhooks := webhooks } = part s)
    (provider : PaymentProviderName) (event : NormalizedDisputeWebhookEvent) (fresh : WebhookId)
    (now : Time) : (storeVerifiedDisputeWebhook provider event fresh now).Steps (Framing part) :=
  steps_storeVerifiedDisputeWebhook fun s _ _ _ _ _ _ => hpart s _

/-! ## §2 What a status appends -/

/-- What the entries of a dispute add to the balance, in the books. -/
def DisputeBooks.net (books : DisputeBooks) (id : DisputeId) : Money :=
  books.ledger.sum (disputedMinor id)

/-- An entry under a new key counts once. -/
theorem DisputeBooks.net_append {books : DisputeBooks} {input : AppendLedgerEntryInput}
    (hnew : books.ledger.lookup ⟨input.entryType, input.causeKey⟩ = none) (id : DisputeId) :
    (books.append input).net id = books.net id
      + disputedMinor id ⟨input.entryType, input.causeKey⟩ input.row := by
  have hsum := Table.sum_insert (disputedMinor id) books.ledger
    ⟨input.entryType, input.causeKey⟩ input.row
  rw [Table.contribution_none hnew, add_zero] at hsum
  rw [DisputeBooks.append, hnew]
  exact hsum

/-- An entry that is not settling does not count. -/
theorem DisputeBooks.net_append_unsettling {books : DisputeBooks} {input : AppendLedgerEntryInput}
    (htype : isSettlingEntryType input.entryType = false) (id : DisputeId) :
    (books.append input).net id = books.net id := by
  cases hlook : books.ledger.lookup ⟨input.entryType, input.causeKey⟩ with
  | some entry => simp [DisputeBooks.append, hlook]
  | none =>
      rw [DisputeBooks.net_append hlook, disputedMinor, settledMinor]
      simp [htype]

theorem DisputeBooks.lookup_append {books : DisputeBooks} {input : AppendLedgerEntryInput}
    {key : LedgerKey} (h : ((books.append input).ledger.lookup key).isSome = true) :
    (books.ledger.lookup key).isSome = true ∨ key = ⟨input.entryType, input.causeKey⟩ := by
  unfold DisputeBooks.append at h
  split at h
  · exact .inl h
  · rw [show ({ books with ledger := _ } : DisputeBooks).ledger = _ from rfl,
      Table.lookup_insert_ite] at h
    split at h
    · exact .inr ‹_›
    · exact .inl h

variable {input : DisputeConsequenceInput} {books : DisputeBooks}

/-- What the consequences of a status append is keyed by its event. -/
theorem DisputeConsequenceInput.lookup_books {key : LedgerKey}
    (h : ((input.books books).ledger.lookup key).isSome = true) :
    (books.ledger.lookup key).isSome = true ∨ key.cause = .webhook input.webhookId ∨
      key.cause = .chargeback input.webhookId := by
  have hstatus : ((input.recordStatus books).ledger.lookup key).isSome = true →
      (books.ledger.lookup key).isSome = true ∨ key.cause = .webhook input.webhookId := by
    intro h
    unfold DisputeConsequenceInput.recordStatus at h
    split at h
    · rcases DisputeBooks.lookup_append h with hold | rfl
      · exact .inl hold
      · exact .inr rfl
    · exact .inl h
  have hoverlap :
      ((input.recordOverlap (input.recordStatus books)).ledger.lookup key).isSome = true →
      ((input.recordStatus books).ledger.lookup key).isSome = true := by
    intro h
    unfold DisputeConsequenceInput.recordOverlap at h
    split at h <;> exact h
  unfold DisputeConsequenceInput.books DisputeConsequenceInput.recordLoss at h
  split at h
  · rcases DisputeBooks.lookup_append h with hold | rfl
    · rcases hstatus (hoverlap hold) with hold | hcause
      · exact .inl hold
      · exact .inr (.inl hcause)
    · exact .inr (.inr rfl)
  · rcases hstatus (hoverlap h) with hold | hcause
    · exact .inl hold
    · exact .inr (.inl hcause)

theorem DisputeConsequenceInput.net_recordOverlap (id : DisputeId) :
    (input.recordOverlap books).net id = books.net id := by
  unfold DisputeConsequenceInput.recordOverlap
  split <;> rfl

/-- The consequences of a status write no dispute. -/
theorem DisputeConsequenceInput.disputes_books : (input.books books).disputes = books.disputes := by
  have happend :
      ∀ (books : DisputeBooks) input, (books.append input).disputes = books.disputes := by
    intro books input
    unfold DisputeBooks.append
    split <;> rfl
  unfold DisputeConsequenceInput.books DisputeConsequenceInput.recordLoss
    DisputeConsequenceInput.recordOverlap DisputeConsequenceInput.recordStatus
    DisputeBooks.announce
  cases ledgerTypeByStatus input.status <;> dsimp only <;> split <;> split <;> simp [happend]

/-- A status other than lost costs nothing. -/
theorem DisputeConsequenceInput.net_books_of_ne (hstatus : input.status ≠ .LOST) (id : DisputeId) :
    (input.books books).net id = books.net id := by
  rw [DisputeConsequenceInput.books, DisputeConsequenceInput.recordLoss, if_neg hstatus,
    net_recordOverlap]
  unfold DisputeConsequenceInput.recordStatus
  split
  · rename_i entryType htype
    refine DisputeBooks.net_append_unsettling ?_ id
    show isSettlingEntryType entryType = false
    cases hcase : input.status <;> rw [hcase] at htype hstatus <;> cases htype <;>
      first | rfl | exact absurd rfl hstatus
  · rfl

/-- **A loss costs its amount twice**, under keys that are new. -/
theorem DisputeConsequenceInput.net_books_of_lost (hstatus : input.status = .LOST)
    (hlost : books.ledger.lookup ⟨.DISPUTE_LOST, .webhook input.webhookId⟩ = none)
    (hcharged : books.ledger.lookup ⟨.CHARGEBACK_RECORDED, .chargeback input.webhookId⟩ = none)
    (id : DisputeId) :
    (input.books books).net id
      = books.net id - if id = input.disputeId then 2 * input.amountMinor else 0 := by
  have hentry : ∀ (entryType : LedgerEntryType) (cause : LedgerCause),
      isLossEntryType entryType = true →
      disputedMinor id ⟨(input.ledgerEntry entryType cause).entryType,
        (input.ledgerEntry entryType cause).causeKey⟩ (input.ledgerEntry entryType cause).row
        = -if id = input.disputeId then input.amountMinor else 0 := by
    intro entryType cause htype
    by_cases hid : id = input.disputeId
    · subst hid
      cases entryType <;> cases htype <;> simp [disputedMinor, settledMinor, isSettlingEntryType,
        DisputeConsequenceInput.ledgerEntry, AppendLedgerEntryInput.row, directionForEntryType]
    · simp [disputedMinor, DisputeConsequenceInput.ledgerEntry, AppendLedgerEntryInput.row, hid,
        Ne.symm hid]
  have hfirst : input.recordStatus books
      = books.append (input.ledgerEntry .DISPUTE_LOST (.webhook input.webhookId)) := by
    rw [DisputeConsequenceInput.recordStatus, hstatus]
    rfl
  have hledger : (input.recordOverlap (input.recordStatus books)).ledger
      = (input.recordStatus books).ledger := by
    unfold DisputeConsequenceInput.recordOverlap
    split <;> rfl
  have hsecond : (input.recordOverlap (input.recordStatus books)).ledger.lookup
      ⟨.CHARGEBACK_RECORDED, .chargeback input.webhookId⟩ = none := by
    cases hpresent : (input.recordOverlap (input.recordStatus books)).ledger.lookup
        ⟨.CHARGEBACK_RECORDED, .chargeback input.webhookId⟩ with
    | none => rfl
    | some entry =>
        rw [hledger, hfirst] at hpresent
        rcases DisputeBooks.lookup_append
          (Option.isSome_iff_exists.mpr ⟨_, hpresent⟩) with hold | hkey
        · rw [hcharged] at hold
          cases hold
        · cases hkey
  rw [DisputeConsequenceInput.books, DisputeConsequenceInput.recordLoss, if_pos hstatus,
    DisputeBooks.net_append hsecond, net_recordOverlap, hfirst, DisputeBooks.net_append hlost,
    hentry .DISPUTE_LOST _ rfl, hentry .CHARGEBACK_RECORDED _ rfl]
  split <;> linarith

/-! ## §3 Runs -/

/-- What a dispute costs in the end: nothing, or twice its amount when it is lost. -/
def PaymentDispute.cost (d : PaymentDispute) : Money :=
  if d.outcome = some .LOST then -(2 * d.disputedAmountMinor) else 0

/-- The entries of losses are of closed records, and each dispute's net is its cost. -/
structure LossesBooked (db : Db) : Prop where
  closed : ∀ key wid, (db.ledger.lookup key).isSome = true → isLossEntryType key.entryType = true →
    key.cause = .webhook wid ∨ key.cause = .chargeback wid → db.Closed wid
  net : ∀ id, db.disputeNet id = (db.disputes.lookup id).elim 0 PaymentDispute.cost

section Step

variable {s s' : Db} {wid : WebhookId} {fresh : FreshDispute} {now : Time}

/-- An open record has appended no loss. -/
theorem LossesBooked.unused (hs : LossesBooked s) (hopened : ¬s.Closed wid) {key : LedgerKey}
    (hloss : isLossEntryType key.entryType = true)
    (hcause : key.cause = .webhook wid ∨ key.cause = .chargeback wid) :
    s.ledger.lookup key = none := by
  cases hlook : s.ledger.lookup key with
  | none => rfl
  | some entry => exact absurd (hs.closed key wid (by rw [hlook]; rfl) hloss hcause) hopened

/-- A step that leaves the disputes and their entries alone. -/
theorem LossesBooked.kept (hs : LossesBooked s) (hdisputes : s'.disputes = s.disputes)
    (hentries : s'.disputedEntries = s.disputedEntries)
    (hclosed : ∀ wid, s.Closed wid → s'.Closed wid) : LossesBooked s' where
  closed := by
    intro key wid hpresent hloss hcause
    have hlook := congrFun hentries key
    simp only [Db.disputedEntries, hloss, if_true] at hlook
    rw [hlook] at hpresent
    exact hclosed wid (hs.closed key wid hpresent hloss hcause)
  net := by
    intro id
    rw [disputeNet_congr hentries, hs.net id, hdisputes]

/-- A dispute that is written with the consequences of its new status. -/
theorem LossesBooked.written (hs : LossesBooked s) {input : DisputeConsequenceInput}
    {d : PaymentDispute} (hwebhook : input.webhookId = wid) (hopened : ¬s.Closed wid)
    (hnow : s'.Closed wid) (hclosed : ∀ wid, s.Closed wid → s'.Closed wid)
    (hbooks : s'.books = input.books (s.books.write input.disputeId d))
    (hbefore : s.disputeNet input.disputeId = 0)
    (hlost : d.outcome = some .LOST ↔ input.status = .LOST)
    (hamount : d.disputedAmountMinor = input.amountMinor) : LossesBooked s' := by
  subst hwebhook
  have hnet :
      ∀ id, s'.disputeNet id = s.disputeNet id + if id = input.disputeId then d.cost else 0 := by
    intro id
    have hnet' : s'.disputeNet id = (input.books (s.books.write input.disputeId d)).net id :=
      congrArg (fun books : DisputeBooks => books.net id) hbooks
    rw [hnet', PaymentDispute.cost, hamount]
    by_cases hstatus : input.status = .LOST
    · rw [DisputeConsequenceInput.net_books_of_lost hstatus (hs.unused hopened rfl (.inl rfl))
        (hs.unused hopened rfl (.inr rfl)), if_pos (hlost.mpr hstatus)]
      show s.disputeNet id - _ = _
      split <;> linarith
    · rw [DisputeConsequenceInput.net_books_of_ne hstatus, if_neg (mt hlost.mp hstatus)]
      show s.disputeNet id = _
      split <;> linarith
  have hdisputes : s'.disputes = s.disputes.insert input.disputeId d :=
    (congrArg DisputeBooks.disputes hbooks).trans DisputeConsequenceInput.disputes_books
  constructor
  case closed =>
    intro key wid hpresent hloss hcause
    have hpresent' : ((input.books (s.books.write input.disputeId d)).ledger.lookup key).isSome
        = true := by
      rw [← hbooks]
      exact hpresent
    rcases DisputeConsequenceInput.lookup_books hpresent' with hold | hnew
    · exact hclosed wid (hs.closed key wid hold hloss hcause)
    · have hwid : wid = input.webhookId := by
        rcases hcause with hcause | hcause <;> rcases hnew with hnew | hnew <;>
          rw [hcause] at hnew <;> cases hnew <;> rfl
      rw [hwid]
      exact hnow
  case net =>
    intro id
    rw [hnet, hdisputes, Table.lookup_insert_ite]
    by_cases hid : id = input.disputeId
    · subst hid
      rw [if_pos rfl, if_pos rfl, hbefore, zero_add]
      rfl
    · rw [if_neg hid, if_neg hid, add_zero]
      exact hs.net id

/-- Only an open dispute is advanced, and it has no outcome. -/
theorem outcome_of_advanced {d : PaymentDispute} {incoming : DisputeStatus}
    {outcome : Option DisputeOutcome} (hrow : PaymentDispute.RowOk d)
    (hdecision : decideDisputeTransition d.status incoming = .apply incoming outcome) :
    d.outcome = none ∧ outcome = outcomeForTerminalStatus incoming := by
  unfold decideDisputeTransition at hdecision
  split_ifs at hdecision with hreview _ _ hterminal
  cases hdecision
  refine ⟨?_, rfl⟩
  have hlifecycle := hrow.lifecycle
  unfold PaymentDispute.lifecycleCheck at hlifecycle
  cases hstatus : d.status <;> rw [hstatus] at hlifecycle hterminal hreview <;>
    simp_all [isTerminalDisputeStatus]

theorem outcomeForTerminalStatus_eq_lost {status : DisputeStatus} :
    outcomeForTerminalStatus status = some .LOST ↔ status = .LOST := by
  cases status <;> simp [outcomeForTerminalStatus]

/-- A dispute event books its losses. -/
theorem LossesBooked.event (hs : LossesBooked s) (hconsistent : s.Consistent)
    (heffect : DisputeEffect s s' wid fresh now)
    (hclosed : ∀ wid, s.Closed wid → s'.Closed wid) : LossesBooked s' := by
  have hunclosed : ∀ {w : PaymentWebhookEvent}, s.webhooks.lookup wid = some w →
      w.processingStatus.isFinal = false → ¬s.Closed wid := by
    rintro w hw hopened ⟨w', hw', hfinal⟩
    cases Option.some.inj (hw.symm.trans hw')
    rw [hopened] at hfinal
    cases hfinal
  cases heffect with
  | quiet books =>
      refine hs.kept (congrArg DisputeBooks.disputes books) ?_ hclosed
      funext key
      unfold Db.disputedEntries
      rw [show s'.ledger = s.ledger from congrArg DisputeBooks.ledger books]
  | opened w ref incoming p a bookingId heard closed unnamed booking absent books =>
      refine hs.written (d := PaymentDispute.created (w.disputeInput wid ref incoming now) fresh p a
        bookingId) rfl (hunclosed heard.record heard.opened) closed hclosed books ?_
        outcomeForTerminalStatus_eq_lost rfl
      refine (hs.net fresh.disputeId).trans ?_
      rw [absent]
      rfl
  | escalated w ref incoming p a id d code heard closed named decision books =>
      have hlook := (Db.lookup_of_disputeNamed named).1
      have hledger : s'.ledger = s.ledger := congrArg DisputeBooks.ledger books
      constructor
      case closed =>
        intro key wid' hpresent hloss hcause
        rw [hledger] at hpresent
        exact hclosed wid' (hs.closed key wid' hpresent hloss hcause)
      case net =>
        intro id'
        have hdisputes : s'.disputes = s.disputes.insert id d.escalated :=
          congrArg DisputeBooks.disputes books
        rw [Db.disputeNet, hledger, hdisputes, Table.lookup_insert_ite]
        refine (hs.net id').trans ?_
        by_cases hid : id' = id
        · subst hid
          rw [if_pos rfl, hlook]
          rfl
        · rw [if_neg hid]
  | advanced w ref incoming p a id d outcome heard closed named decision books =>
      have hlook := (Db.lookup_of_disputeNamed named).1
      obtain ⟨hnone, rfl⟩ :=
        outcome_of_advanced (hconsistent.sound.disputes.row id d hlook) decision
      refine hs.written (d := d.advanced (w.disputeInput wid ref incoming now) incoming
        (outcomeForTerminalStatus incoming)) rfl (hunclosed heard.record heard.opened)
          closed hclosed
        books ?_ outcomeForTerminalStatus_eq_lost rfl
      refine (hs.net id).trans ?_
      rw [hlook]
      simp [PaymentDispute.cost, hnone]

end Step

/-- Each dispute's entries add minus its amount to the settled balance if it is lost, and
nothing otherwise. -/
def Db.LossesCostOnce (db : Db) : Prop :=
  ∀ id d, db.disputes.lookup id = some d →
    calculateSettledBalanceMinor (db.ledgerForDispute id)
      = if d.outcome = some .LOST then -d.disputedAmountMinor else 0

/-- Amounts are positive, so twice an amount is never the amount. -/
theorem LossesBooked.lossesCostOnce_iff {db : Db} (hs : LossesBooked db)
    (hconsistent : db.Consistent) :
    db.LossesCostOnce ↔ ∀ id d, db.disputes.lookup id = some d → d.outcome ≠ some .LOST := by
  have hbalance : ∀ id d, db.disputes.lookup id = some d →
      calculateSettledBalanceMinor (db.ledgerForDispute id) = d.cost := by
    intro id d hlook
    rw [calculateSettledBalanceMinor_ledgerForDispute, hs.net id, hlook]
    rfl
  constructor
  · intro honce id d hlook hlost
    have hcost := (hbalance id d hlook).symm.trans (honce id d hlook)
    have hamount := (hconsistent.sound.disputes.row id d hlook).amount
    rw [PaymentDispute.cost, if_pos hlost, if_pos hlost] at hcost
    linarith
  · intro hnone id d hlook
    rw [hbalance id d hlook, PaymentDispute.cost, if_neg (hnone id d hlook),
      if_neg (hnone id d hlook)]

/-- Whether the event of a record loses a dispute: a report of a loss that opens one, or
that is applied to an open one. -/
def Db.losesDispute (db : Db) (webhookId : WebhookId) : Bool :=
  match db.webhooks.lookup webhookId with
  | none => false
  | some w =>
      if w.processingStatus.isFinal then false
      else
        match w.providerDisputeId, db.paymentNamed w.providerIntentId with
        | some ref, some (_, attempt) =>
            w.normalizedDisputeStatus == some .LOST &&
              match db.disputeNamed attempt.provider ref with
              | none => true
              | some (_, d) => decideDisputeTransition d.status .LOST == .apply .LOST (some .LOST)
        | _, _ => false

theorem Db.Hears.losesDispute {s : Db} {wid : WebhookId} {w : PaymentWebhookEvent}
    {ref : ProviderRef} {incoming : DisputeStatus} {p : AttemptId} {a : PaymentAttempt}
    (h : s.Hears wid w ref incoming p a) :
    s.losesDispute wid = (incoming == .LOST &&
      match s.disputeNamed a.provider ref with
      | none => true
      | some (_, d) => decideDisputeTransition d.status .LOST == .apply .LOST (some .LOST)) := by
  simp only [Db.losesDispute, h.record, h.opened, h.reference, h.payment, h.incoming,
    Bool.false_eq_true, if_false]
  rfl

/-- No dispute is lost. -/
def Db.NoneLost (db : Db) : Prop :=
  ∀ id d, db.disputes.lookup id = some d → d.outcome ≠ some .LOST

/-- An event that loses no dispute. -/
theorem Db.NoneLost.event {s s' : Db} {wid : WebhookId} {fresh : FreshDispute} {now : Time}
    (hs : s.NoneLost) (heffect : DisputeEffect s s' wid fresh now)
    (hkept : s.losesDispute wid = false) : s'.NoneLost := by
  have hwritten : ∀ {k : DisputeId} {row : PaymentDispute},
      s'.disputes = s.disputes.insert k row → row.outcome ≠ some .LOST → s'.NoneLost := by
    intro k row hdisputes hrow id d hlook
    rw [hdisputes] at hlook
    rcases Table.wrote_insert.cases hlook with ⟨-, rfl⟩ | ⟨-, hold⟩
    · exact hrow
    · exact hs id d hold
  cases heffect with
  | quiet books =>
      intro id d hlook
      exact hs id d
        ((congrArg (fun b : DisputeBooks => b.disputes.lookup id) books).symm.trans hlook)
  | opened w ref incoming p a bookingId heard closed unnamed booking absent books =>
      rw [heard.losesDispute, unnamed, Bool.and_true, beq_eq_false_iff_ne] at hkept
      refine hwritten ((congrArg DisputeBooks.disputes books).trans
        DisputeConsequenceInput.disputes_books) ?_
      exact mt outcomeForTerminalStatus_eq_lost.mp hkept
  | escalated w ref incoming p a id d code heard closed named decision books =>
      exact hwritten (congrArg DisputeBooks.disputes books)
        (hs id d (Db.lookup_of_disputeNamed named).1)
  | advanced w ref incoming p a id d outcome heard closed named decision books =>
      refine hwritten ((congrArg DisputeBooks.disputes books).trans
        DisputeConsequenceInput.disputes_books) ?_
      have houtcome : outcome = outcomeForTerminalStatus incoming := by
        unfold decideDisputeTransition at decision
        split_ifs at decision
        cases decision
        rfl
      subst houtcome
      rintro hlost
      have hincoming := outcomeForTerminalStatus_eq_lost.mp hlost
      subst hincoming
      rw [heard.losesDispute, named] at hkept
      simp [decision, outcomeForTerminalStatus] at hkept

/-- Before any dispute: none is recorded, and no entry carries one or records a loss. -/
structure Db.Undisputed (db : Db) : Prop where
  disputes : ∀ id, db.disputes.lookup id = none
  ledger : ∀ key entry, db.ledger.lookup key = some entry →
    entry.disputeId = none ∧ isLossEntryType key.entryType = false

theorem Db.Undisputed.lossesBooked {db : Db} (h : db.Undisputed) : LossesBooked db where
  closed := by
    intro key wid hpresent hloss
    obtain ⟨entry, hentry⟩ := Option.isSome_iff_exists.mp hpresent
    rw [(h.ledger key entry hentry).2] at hloss
    cases hloss
  net := by
    intro id
    have hempty : db.disputeNet id = (∅ : Table LedgerKey FinancialLedgerEntry).sum
        (disputedMinor id) := by
      refine Table.sum_congr fun key => ?_
      rw [Table.contribution_none (AList.lookup_empty key)]
      cases hlook : db.ledger.lookup key with
      | none => exact Table.contribution_none hlook
      | some entry =>
          rw [Table.contribution_some hlook, disputedMinor, (h.ledger key entry hlook).1]
          rfl
    rw [h.disputes id, hempty]
    rfl

namespace FinancialSystem

variable {sys₀ sys sys' : FinancialSystem}

/-- The condition on a step: a dispute event that is processed loses no dispute, unless
its transaction is rolled back. -/
def Undefeated (sys : FinancialSystem) : FinancialAction → Prop
  | .refund a => sys.refunds.NormalizedEvents a
  | .storeDispute _ _ _ _ => True
  | .processDispute webhookId fresh now =>
      ((processVerifiedDisputeRecord webhookId fresh now).run sys.refunds.db).isOk = true →
        sys.refunds.db.losesDispute webhookId = false

instance (sys : FinancialSystem) : (a : FinancialAction) → Decidable (sys.Undefeated a)
  | .refund a => inferInstanceAs (Decidable (sys.refunds.NormalizedEvents a))
  | .storeDispute .. => instDecidableTrue
  | .processDispute webhookId fresh now => inferInstanceAs (Decidable
      (((processVerifiedDisputeRecord webhookId fresh now).run sys.refunds.db).isOk = true →
        sys.refunds.db.losesDispute webhookId = false))

theorem Undefeated.normalized {a : FinancialAction} (h : sys.Undefeated a) :
    sys.NormalizedEvents a := by
  cases a with
  | refund a => exact h
  | _ => trivial

/-- Refund actions and stored events leave the disputes and their entries alone. -/
theorem disputeRecords_step {a : FinancialAction} (h : sys.step a = some sys')
    (hprocess : ∀ wid fresh now, a ≠ .processDispute wid fresh now) :
    sys'.refunds.db.disputes = sys.refunds.db.disputes ∧
      sys'.refunds.db.disputedEntries = sys.refunds.db.disputedEntries := by
  cases a with
  | refund a =>
      obtain ⟨refunds, hstep, rfl⟩ := step_refund h
      have hframe : RefundFrame Db.disputes :=
        ⟨⟨fun _ _ => rfl, fun _ _ => rfl, fun _ _ => rfl, fun _ _ => rfl, fun _ _ _ _ => rfl⟩,
          fun _ _ _ _ _ => rfl⟩
      refine ⟨RefundSystem.framed_step hframe (fun _ _ => rfl) (fun _ _ => rfl)
        (crediting_of_free fun _ _ => rfl) (revoking_of_free (fun _ _ => rfl) fun _ _ => rfl)
        (fun _ _ => rfl) (fun _ _ => steps_update fun _ _ _ _ => rfl) hstep, ?_⟩
      exact RefundSystem.framed_step disputedEntries_frame (fun _ _ => rfl) (fun _ _ => rfl)
        disputedEntries_crediting (revoking_of_free (fun _ _ => rfl) fun _ _ => rfl)
        (fun _ _ => rfl) (fun _ _ => steps_update fun _ _ _ _ => rfl) hstep
  | storeDispute provider event fresh now =>
      cases h
      exact ⟨Ensures.commit (Q := fun s' : Db => s'.disputes = sys.refunds.db.disputes)
          ((framed_storeVerifiedDisputeWebhook (fun _ _ => rfl) _ _ _ _).framed _) rfl,
        Ensures.commit (Q := fun s' : Db => s'.disputedEntries = sys.refunds.db.disputedEntries)
          ((framed_storeVerifiedDisputeWebhook (fun _ _ => rfl) _ _ _ _).framed _) rfl⟩
  | processDispute wid fresh now => exact absurd rfl (hprocess wid fresh now)

/-- **Losses are booked**, in every run: each dispute's net is twice its amount if it is
lost and nothing otherwise. -/
theorem lossesBooked_step {a : FinancialAction} (hs : sys.refunds.Reachable)
    (hbooked : LossesBooked sys.refunds.db) (h : sys.step a = some sys') :
    LossesBooked sys'.refunds.db := by
  by_cases hprocess : ∃ wid fresh now, a = .processDispute wid fresh now
  · obtain ⟨wid, fresh, now, rfl⟩ := hprocess
    have hclosed : ∀ wid, sys.refunds.db.Closed wid → sys'.refunds.db.Closed wid :=
      fun _ => closed_step h
    cases h
    dsimp only at hclosed ⊢
    cases hrun : (processVerifiedDisputeRecord wid fresh now).run sys.refunds.db with
    | error e => rwa [show Program.commit _ sys.refunds.db = sys.refunds.db by
        simp [Program.commit, hrun]]
    | ok result =>
        rw [commit_of_run hrun] at hclosed ⊢
        exact hbooked.event hs.kept.consistent (ensures_processedDispute_effect _ _ hrun) hclosed
  · obtain ⟨hdisputes, hentries⟩ := disputeRecords_step h
      fun wid fresh now heq => hprocess ⟨wid, fresh, now, heq⟩
    exact hbooked.kept hdisputes hentries fun wid => closed_step h

theorem noneLost_step {a : FinancialAction} (hkept : sys.Undefeated a)
    (hnone : sys.refunds.db.NoneLost) (h : sys.step a = some sys') :
    sys'.refunds.db.NoneLost := by
  by_cases hprocess : ∃ wid fresh now, a = .processDispute wid fresh now
  · obtain ⟨wid, fresh, now, rfl⟩ := hprocess
    cases h
    dsimp only
    cases hrun : (processVerifiedDisputeRecord wid fresh now).run sys.refunds.db with
    | error e => rwa [show Program.commit _ sys.refunds.db = sys.refunds.db by
        simp [Program.commit, hrun]]
    | ok result =>
        rw [commit_of_run hrun]
        exact hnone.event (ensures_processedDispute_effect _ _ hrun)
          (hkept (by simp [hrun, Except.isOk, Except.toBool]))
  · obtain ⟨hdisputes, -⟩ := disputeRecords_step h
      fun wid fresh now heq => hprocess ⟨wid, fresh, now, heq⟩
    intro id d hlook
    exact hnone id d (hdisputes ▸ hlook)

/-- **A dispute costs its amount once if it is lost and nothing otherwise**, in every run
in which no event loses a dispute. -/
theorem losses_cost_once_of_undefeated (hfresh : sys₀.refunds.Fresh)
    (hundisputed : sys₀.refunds.db.Undisputed)
    (hreach : Reaches FinancialSystem.step Undefeated sys₀ sys) :
    sys.refunds.db.LossesCostOnce := by
  have hinv : sys.refunds.Reachable ∧ LossesBooked sys.refunds.db ∧ sys.refunds.db.NoneLost := by
    refine hreach.invariant (I := fun sys => sys.refunds.Reachable ∧ LossesBooked sys.refunds.db ∧
      sys.refunds.db.NoneLost) ⟨hfresh.reachable, hundisputed.lossesBooked, fun id d hlook => ?_⟩ ?_
    · rw [hundisputed.disputes id] at hlook
      cases hlook
    · rintro sys a sys' hok hstep ⟨hs, hbooked, hnone⟩
      exact ⟨reachable_step hs hok.normalized hstep, lossesBooked_step hs hbooked hstep,
        noneLost_step hok hnone hstep⟩
  exact (hinv.2.1.lossesCostOnce_iff hinv.1.kept.consistent).mpr hinv.2.2

theorem capturedFinances_undisputed : capturedFinances.refunds.db.Undisputed :=
  ⟨fun _ => rfl, Table.forall_lookup (t := capturedFinances.refunds.db.ledger) (by decide)⟩

/-- A report on the dispute of the captured payment, stored and processed. -/
def capturedDispute (providerEventId : ProviderRef) (webhookId : WebhookId) (status : DisputeStatus)
    (at_ : Time) : List FinancialAction :=
  [.storeDispute .STRIPE
      { providerEventId := providerEventId, providerIntentId := 7, providerDisputeId := 61
        status := status, amountMinor := 1000, currency := .USD, occurredAt := some 202 }
      webhookId at_,
    .processDispute webhookId { disputeId := 1, publicReference := 51 } (at_ + 1)]

/-- A dispute that is opened and won costs nothing. -/
theorem losses_cost_once_won :
    ∃ sys, Reaches FinancialSystem.step Undefeated capturedFinances sys ∧
      (∃ d, sys.refunds.db.disputes.lookup 1 = some d ∧ d.outcome = some .WON) ∧
      sys.refunds.db.LossesCostOnce := by
  have hrun : (execute (guarded FinancialSystem.step fun s a => decide (s.Undefeated a))
      (capturedDispute 81 91 .OPEN 203 ++ capturedDispute 82 92 .WON 205) capturedFinances).any
      (fun sys => (sys.refunds.db.disputes.lookup 1).any fun d =>
        d.outcome == some .WON) = true := by
    decide +kernel
  obtain ⟨sys, hsys, hcheck⟩ := (Option.any_eq_true _ _).mp hrun
  obtain ⟨d, hlook, hwon⟩ := (Option.any_eq_true _ _).mp hcheck
  have hreach := (reaches_of_guarded hsys).mono fun _ _ => of_decide_eq_true
  exact ⟨sys, hreach, ⟨d, hlook, eq_of_beq hwon⟩, losses_cost_once_of_undefeated
    RefundSystem.capturedStart_fresh capturedFinances_undisputed hreach⟩

/-- A dispute of 1000 that is opened and lost: its entries add minus 2000. -/
theorem lost_dispute_costs_twice :
    ∃ sys, Reaches FinancialSystem.step NormalizedEvents capturedFinances sys ∧
      ¬sys.refunds.db.LossesCostOnce := by
  have hrun : (execute FinancialSystem.step
      (capturedDispute 81 91 .OPEN 203 ++ capturedDispute 82 92 .LOST 205) capturedFinances).any
      (fun sys => (sys.refunds.db.disputes.lookup 1).any fun d =>
        d.outcome == some .LOST && d.disputedAmountMinor == 1000 &&
          calculateSettledBalanceMinor (sys.refunds.db.ledgerForDispute 1) == -2000) = true := by
    decide +kernel
  obtain ⟨sys, hsys, hcheck⟩ := (Option.any_eq_true _ _).mp hrun
  obtain ⟨d, hlook, hlost⟩ := (Option.any_eq_true _ _).mp hcheck
  simp only [Bool.and_eq_true, beq_iff_eq] at hlost
  obtain ⟨⟨houtcome, hamount⟩, hbalance⟩ := hlost
  refine ⟨sys, reaches_of_execute hsys ?_, fun honce => ?_⟩
  · intro s a ha
    simp only [List.mem_append, List.mem_cons, List.not_mem_nil, or_false, capturedDispute] at ha
    rcases ha with (rfl | rfl) | rfl | rfl <;> trivial
  · have hcost := honce 1 d hlook
    rw [hbalance, if_pos houtcome, hamount] at hcost
    cases hcost

end FinancialSystem

end SeatFlow
