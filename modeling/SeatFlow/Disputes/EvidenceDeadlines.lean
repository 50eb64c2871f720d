import SeatFlow.Disputes.LostDisputes

/-!
# Evidence deadlines

A dispute's reason and its evidence deadline on their way from the provider's event to
`reportDisputeBacklog`. The event is stored as a record and applied from that record in a
second transaction; the record has neither column, so both are lost between the two.
-/

namespace SeatFlow

open Relational Program Entity

/-! ## §1 The report -/

structure DisputeBacklogReport where
  «open» : Nat
  needsResponse : Nat
  underReview : Nat
  lost : Nat
  requiresReview : Nat
  evidenceDueWithin48Hours : Nat

/-- `paymentDispute.count({ where })`. -/
def Db.countDisputes (db : Db) (p : DisputeId → PaymentDispute → Bool) : Nat :=
  (db.disputes.select p).length

/-- 48 hours from now. -/
def soonAfter (now : Time) : Time :=
  now + 48 * 60 * 60 * 1000

def reportDisputeBacklog (db : Db) (now : Time) : DisputeBacklogReport where
  «open» := db.countDisputes fun _ d => d.status == .OPEN
  needsResponse := db.countDisputes fun _ d => d.status == .NEEDS_RESPONSE
  underReview := db.countDisputes fun _ d => d.status == .UNDER_REVIEW
  lost := db.countDisputes fun _ d => d.status == .LOST
  requiresReview := db.countDisputes fun _ d => d.status == .REQUIRES_REVIEW
  evidenceDueWithin48Hours := db.countDisputes fun _ d =>
    isOpenDisputeStatus d.status && d.evidenceDueAt.any (· ≤ soonAfter now)

/-! ## §2 Deliveries -/

/-- A database to which dispute events are delivered, with the event that each record was
stored for and the events that were applied, in their order. -/
structure DisputeDeliveries where
  db : Db
  events : List (WebhookId × NormalizedDisputeWebhookEvent) := []
  applied : List (DisputeId × NormalizedDisputeWebhookEvent) := []

inductive DisputeDelivery
  | store (provider : PaymentProviderName) (event : NormalizedDisputeWebhookEvent)
      (fresh : WebhookId) (now : Time)
  | process (webhookId : WebhookId) (fresh : FreshDispute) (now : Time)

namespace DisputeDeliveries

/-- What an outcome adds to the applied events. -/
def appliedBy (sys : DisputeDeliveries) (webhookId : WebhookId) :
    Option DisputeProcessingOutcome → List (DisputeId × NormalizedDisputeWebhookEvent)
  | some (.OPENED id) | some (.APPLIED id _) =>
      (sys.events.lookup webhookId).toList.map fun event => (id, event)
  | _ => []

def step (sys : DisputeDeliveries) : DisputeDelivery → DisputeDeliveries
  | .store provider event fresh now =>
      match (storeVerifiedDisputeWebhook provider event fresh now).run sys.db with
      | .ok ((id, duplicate), db) =>
          { sys with
            db := db
            events := if duplicate then sys.events else sys.events ++ [(id, event)] }
      | .error _ => sys
  | .process webhookId fresh now =>
      match (processVerifiedDisputeRecord webhookId fresh now).run sys.db with
      | .ok (outcome, db) =>
          { sys with db := db, applied := sys.applied ++ sys.appliedBy webhookId outcome }
      | .error _ => sys

/-- Any number of deliveries, of any disputes and in any order. -/
def deliver (sys : DisputeDeliveries) (deliveries : List DisputeDelivery) : DisputeDeliveries :=
  deliveries.foldl step sys

/-- The event that opened the dispute. -/
def openingEvent (sys : DisputeDeliveries) (id : DisputeId) :
    Option NormalizedDisputeWebhookEvent :=
  (sys.applied.find? fun entry => entry.1 == id).map Prod.snd

/-- The latest deadline that was applied to the dispute. -/
def latestDeadline (sys : DisputeDeliveries) (id : DisputeId) : Option Time :=
  ((sys.applied.filter fun entry => entry.1 == id).filterMap fun entry =>
    entry.2.evidenceDueAt).getLast?

/-- Each dispute carries what its applied events say, and the report counts the deadlines. -/
structure DeadlinesReported (sys : DisputeDeliveries) : Prop where
  reason : ∀ id d, sys.db.disputes.lookup id = some d →
    (sys.openingEvent id).map (·.reasonCategory) = some d.reasonCategory
  deadline : ∀ id d, sys.db.disputes.lookup id = some d → d.evidenceDueAt = sys.latestDeadline id
  counted : ∀ now, (reportDisputeBacklog sys.db now).evidenceDueWithin48Hours =
    sys.db.countDisputes fun id d =>
      isOpenDisputeStatus d.status && (sys.latestDeadline id).any (· ≤ soonAfter now)

end DisputeDeliveries

/-! ## §3 What an outcome says about the disputes -/

section Outcomes

variable {s : Db} {input : DisputeEventInput} {fresh : FreshDispute}

/-- A row that was updated keeps its reason, and its deadline unless a later one is known. -/
def PaymentDispute.Updated (d d' : PaymentDispute) (deadline : Option Time) : Prop :=
  d'.reasonCategory = d.reasonCategory ∧ d'.evidenceDueAt = deadline.or d.evidenceDueAt

/-- The disputes after an event with this outcome. -/
def DisputeProcessingOutcome.Recorded (input : DisputeEventInput) (s s' : Db) :
    DisputeProcessingOutcome → Prop
  | .OPENED id => ∃ d, s'.disputes = s.disputes.insert id d ∧
      d.reasonCategory = input.reasonCategory ∧ d.evidenceDueAt = input.evidenceDueAt
  | .APPLIED id _ => ∃ d d', s.disputes.lookup id = some d ∧
      s'.disputes = s.disputes.insert id d' ∧ d.Updated d' input.evidenceDueAt
  | .REVIEW id _ => ∃ d d', s.disputes.lookup id = some d ∧
      s'.disputes = s.disputes.insert id d' ∧ d.Updated d' none
  | .IGNORED _ _ | .UNKNOWN_PAYMENT => s'.disputes = s.disputes

theorem ensures_openDispute_recorded {attemptId : AttemptId} {attempt : PaymentAttempt}
    {bookingId : Option BookingId} :
    Ensures (openDispute input fresh attemptId attempt bookingId) s fun applied s' =>
      applied.Recorded input s s' := by
  have houtcome : Ensures (openDispute input fresh attemptId attempt bookingId) s
      fun applied _ => applied = .OPENED fresh.disputeId := by
    have hlast : ∀ s : Db, Ensures (do
        recordDisputeLedgerAndConsequences
          (input.opened fresh.disputeId attemptId attempt bookingId)
        pure (DisputeProcessingOutcome.OPENED fresh.disputeId)) s
        fun applied _ => applied = .OPENED fresh.disputeId :=
      fun s => ensures_bind.mpr fun _ _ _ => ensures_pure.mpr rfl
    refine ensures_bind.mpr fun _ _ _ => ensures_bind.mpr fun _ _ _ => ?_
    refine ensures_bind.mpr fun _ _ _ => ensures_bind.mpr fun _ s₁ _ => ?_
    dsimp only
    split
    · exact ensures_bind.mpr fun _ s₂ _ => hlast s₂
    · exact hlast s₁
  refine (houtcome.and ensures_openDispute_books).mono ?_
  rintro applied s' ⟨rfl, -, hbooks⟩
  exact ⟨_, (congrArg DisputeBooks.disputes hbooks).trans DisputeConsequenceInput.disputes_books,
    rfl, rfl⟩

/-- **What an applied event does to its dispute**, by its outcome. -/
theorem ensures_applyDispute_recorded :
    Ensures (applyDisputeFromVerifiedEvent input fresh) s fun applied s' =>
      applied.Recorded input s s' := by
  refine ensures_bind.mpr (ensures_findMany.mpr ?_)
  split
  · exact ensures_pure.mpr rfl
  · refine ensures_bind.mpr (ensures_findMany.mpr (ensures_bind.mpr (ensures_lockMany.mpr ?_)))
    split
    · exact ensures_openDispute_recorded
    · next id _ _ =>
      refine ensures_bind.mpr (ensures_findOrThrow.mpr fun d hd => ?_)
      refine framed_linkDispute_books.framed_bind fun _ s₁ hlinked => ?_
      have hsame : s₁.disputes = s.disputes := congrArg DisputeBooks.disputes hlinked
      have hd₁ : s₁.disputes.lookup id = some d := by
        rw [hsame]
        exact hd
      split
      · refine framed_appendDisputeEvent_books.framed_bind fun _ s₂ hheard => ensures_pure.mpr ?_
        exact (congrArg DisputeBooks.disputes hheard).trans hsame
      · refine ensures_bind.mpr ((ensures_markDisputeUnderReview_books hd₁).mono
          fun _ s₂ hbooks => ensures_pure.mpr ?_)
        refine ⟨d, d.escalated, hd, ?_, rfl, rfl⟩
        rw [← hsame]
        exact congrArg DisputeBooks.disputes hbooks
      · next status outcome _ =>
        refine ensures_bind.mpr ((ensures_advanceDispute_books hd₁).mono
          fun _ s₂ hbooks => ensures_pure.mpr ?_)
        refine ⟨d, d.advanced input status outcome, hd, ?_, rfl, rfl⟩
        rw [← hsame]
        exact (congrArg DisputeBooks.disputes hbooks).trans DisputeConsequenceInput.disputes_books

/-- What processing a record does to the disputes and to the records. -/
structure DisputeProcessed (wid : WebhookId) (s s' : Db) (applied : DisputeProcessingOutcome) :
    Prop where
  recorded : ∃ input : DisputeEventInput, input.reasonCategory = .UNRECOGNIZED ∧
    input.evidenceDueAt = none ∧ applied.Recorded input s s'
  named : ∃ w, s.webhooks.lookup wid = some w ∧ w.providerDisputeId.isSome

/-- **The event is rebuilt without its reason and its deadline.** -/
theorem ensures_processedDispute_recorded {wid : WebhookId} {now : Time} :
    Ensures (processVerifiedDisputeRecord wid fresh now) s fun outcome s' =>
      match outcome with
      | none => s'.disputes = s.disputes ∧ s'.webhooks = s.webhooks
      | some applied => DisputeProcessed wid s s' applied := by
  refine ensures_runInTransaction (ensures_bind.mpr (ensures_lock.mpr ?_))
  refine ensures_bind.mpr (ensures_findOrThrow.mpr fun w hw => ?_)
  split
  · exact ensures_pure.mpr fun _ => ⟨rfl, rfl⟩
  · refine ensures_bind.mpr (ensures_require.mpr fun _ => ?_)
    split
    · next ref incoming href _ =>
      refine ensures_bind.mpr (ensures_applyDispute_recorded.mono fun applied s₁ hrecorded => ?_)
      refine ensures_bind.mpr (ensures_update.mpr fun _ _ _ => ensures_pure.mpr fun _ => ?_)
      refine ⟨⟨w.disputeInput wid ref incoming now, rfl, rfl, ?_⟩, w, hw, by rw [href]; rfl⟩
      cases applied <;> exact hrecorded
    · exact ensures_abort.mpr trivial

end Outcomes

/-! ## §4 What a run keeps -/

/-- No dispute is known, and no dispute event was ever stored. -/
structure Db.Unheard (db : Db) : Prop where
  disputes : ∀ id, db.disputes.lookup id = none
  records : ∀ id w, db.webhooks.lookup id = some w → w.providerDisputeId = none

namespace DisputeDeliveries

variable {sys : DisputeDeliveries}

/-- Disputes carry no reason and no deadline, and are those of the applied events. -/
structure Bare (sys : DisputeDeliveries) : Prop where
  bare : ∀ id d, sys.db.disputes.lookup id = some d →
    d.reasonCategory = .UNRECOGNIZED ∧ d.evidenceDueAt = none
  logged : ∀ id, (∃ event, (id, event) ∈ sys.applied) ↔ ∃ d, sys.db.disputes.lookup id = some d
  known : ∀ wid w, sys.db.webhooks.lookup wid = some w → w.providerDisputeId.isSome →
    ∃ event, sys.events.lookup wid = some event

theorem bare_start {db : Db} (h : db.Unheard) : Bare { db := db } where
  bare id d hd := nomatch (h.disputes id).symm.trans hd
  logged id := by
    constructor
    · rintro ⟨event, hmem⟩
      cases hmem
    · rintro ⟨d, hd⟩
      cases (h.disputes id).symm.trans hd
  known wid w hw hnamed := by
    rw [h.records wid w hw] at hnamed
    cases hnamed

theorem lookup_append_of_isSome {α : Type} {entries later : List (WebhookId × α)} {wid : WebhookId}
    {event : α} (h : entries.lookup wid = some event) :
    (entries ++ later).lookup wid = some event := by
  rw [List.lookup_append, h, Option.some_or]

theorem Bare.stored (hs : sys.Bare) (provider : PaymentProviderName)
    (event : NormalizedDisputeWebhookEvent) (fresh : WebhookId) (now : Time) :
    (sys.step (.store provider event fresh now)).Bare := by
  have hstore : Ensures (storeVerifiedDisputeWebhook provider event fresh now) sys.db
      fun result s' => s'.disputes = sys.db.disputes ∧
        ((result.2 = true ∧ s'.webhooks = sys.db.webhooks) ∨
          (result = (fresh, false) ∧ ∀ wid, wid ≠ fresh →
            s'.webhooks.lookup wid = sys.db.webhooks.lookup wid)) := by
    refine ensures_bind.mpr (ensures_findMany.mpr (ensures_bind.mpr (ensures_findMany.mpr ?_)))
    split
    · exact ensures_pure.mpr ⟨rfl, .inl ⟨rfl, rfl⟩⟩
    · refine ensures_bind.mpr (ensures_insert.mpr fun _ _ => ensures_pure.mpr ⟨rfl, .inr ⟨rfl, ?_⟩⟩)
      exact fun wid hne => AList.lookup_insert_ne hne
  unfold step
  dsimp only
  split
  · next id duplicate db hrun =>
    obtain ⟨hdisputes, hrecords⟩ := hstore _ _ hrun
    dsimp only at hdisputes hrecords
    refine ⟨?_, ?_, ?_⟩
    · dsimp only
      rw [hdisputes]
      exact hs.bare
    · dsimp only
      rw [hdisputes]
      exact hs.logged
    · dsimp only
      intro wid w hw hnamed
      rcases hrecords with ⟨rfl, hsame⟩ | ⟨heq, hothers⟩
      · rw [hsame] at hw
        exact hs.known wid w hw hnamed
      · cases heq
        by_cases hwid : wid = fresh
        · subst hwid
          cases hknown : sys.events.lookup wid with
          | some known => exact ⟨known, lookup_append_of_isSome hknown⟩
          | none => exact ⟨event, by simp [List.lookup_append, hknown]⟩
        · rw [hothers wid hwid] at hw
          obtain ⟨known, hknown⟩ := hs.known wid w hw hnamed
          exact ⟨known, lookup_append_of_isSome hknown⟩
  · exact hs

/-- A dispute that was opened or updated with nothing is as bare as before. -/
theorem Bare.bare_of_recorded (hs : sys.Bare) {input : DisputeEventInput} {s' : Db}
    {applied : DisputeProcessingOutcome} (hreason : input.reasonCategory = .UNRECOGNIZED)
    (hdeadline : input.evidenceDueAt = none) (h : applied.Recorded input sys.db s') :
    ∀ id d, s'.disputes.lookup id = some d →
      d.reasonCategory = .UNRECOGNIZED ∧ d.evidenceDueAt = none := by
  have hinsert : ∀ {k : DisputeId} {row : PaymentDispute},
      s'.disputes = sys.db.disputes.insert k row → row.reasonCategory = .UNRECOGNIZED →
      row.evidenceDueAt = none → ∀ id d, s'.disputes.lookup id = some d →
        d.reasonCategory = .UNRECOGNIZED ∧ d.evidenceDueAt = none := by
    intro k row hrows hrow hrow' id d hd
    rw [hrows] at hd
    by_cases hid : id = k
    · subst hid
      obtain rfl := Option.some.inj ((AList.lookup_insert _).symm.trans hd)
      exact ⟨hrow, hrow'⟩
    · exact hs.bare id d ((AList.lookup_insert_ne hid).symm.trans hd)
  have hupdate : ∀ {k : DisputeId} {d d' : PaymentDispute}, sys.db.disputes.lookup k = some d →
      s'.disputes = sys.db.disputes.insert k d' → d.Updated d' none →
      ∀ id d, s'.disputes.lookup id = some d →
        d.reasonCategory = .UNRECOGNIZED ∧ d.evidenceDueAt = none := by
    intro k d d' hd hrows hupdated
    obtain ⟨hold, hold'⟩ := hs.bare k d hd
    refine hinsert hrows (hupdated.1.trans hold) ?_
    rw [hupdated.2, hold', Option.none_or]
  cases applied with
  | OPENED id =>
    obtain ⟨d, hrows, hd, hd'⟩ := h
    exact hinsert hrows (hd.trans hreason) (hd'.trans hdeadline)
  | APPLIED id status =>
    obtain ⟨d, d', hd, hrows, hupdated⟩ := h
    rw [hdeadline] at hupdated
    exact hupdate hd hrows hupdated
  | REVIEW id code =>
    obtain ⟨d, d', hd, hrows, hupdated⟩ := h
    exact hupdate hd hrows hupdated
  | IGNORED id reason =>
    rw [show s'.disputes = sys.db.disputes from h]
    exact hs.bare
  | UNKNOWN_PAYMENT =>
    rw [show s'.disputes = sys.db.disputes from h]
    exact hs.bare

/-- The log names a dispute exactly when it is stored. -/
theorem Bare.logged_of_recorded (hs : sys.Bare) {input : DisputeEventInput} {s' : Db}
    {applied : DisputeProcessingOutcome} {wid : WebhookId} {event : NormalizedDisputeWebhookEvent}
    (hknown : sys.events.lookup wid = some event) (h : applied.Recorded input sys.db s')
    (id : DisputeId) :
    (∃ event, (id, event) ∈ sys.applied ++ sys.appliedBy wid (some applied)) ↔
      ∃ d, s'.disputes.lookup id = some d := by
  have hinsert : ∀ {k : DisputeId} {row : PaymentDispute},
      s'.disputes = sys.db.disputes.insert k row →
      ((∃ d, s'.disputes.lookup id = some d) ↔
        id = k ∨ ∃ d, sys.db.disputes.lookup id = some d) := by
    intro k row hrows
    rw [hrows]
    by_cases hid : id = k
    · subst hid
      exact ⟨fun _ => .inl rfl, fun _ => ⟨row, AList.lookup_insert _⟩⟩
    · rw [AList.lookup_insert_ne hid]
      exact ⟨.inr, fun h => h.resolve_left hid⟩
  have hadded : ∀ {k : DisputeId} {row : PaymentDispute},
      s'.disputes = sys.db.disputes.insert k row →
      ((∃ heard, (id, heard) ∈ sys.applied ++ [(k, event)]) ↔
        ∃ d, s'.disputes.lookup id = some d) := by
    intro k row hrows
    rw [hinsert hrows, ← hs.logged id]
    constructor
    · rintro ⟨event', hmem⟩
      rcases List.mem_append.mp hmem with hmem | hmem
      · exact .inr ⟨event', hmem⟩
      · exact .inl (congrArg Prod.fst (List.mem_singleton.mp hmem))
    · rintro (rfl | ⟨event', hmem⟩)
      · exact ⟨event, List.mem_append_right _ (List.mem_singleton_self _)⟩
      · exact ⟨event', List.mem_append_left _ hmem⟩
  have hkept : s'.disputes = sys.db.disputes →
      ((∃ event, (id, event) ∈ sys.applied ++ []) ↔ ∃ d, s'.disputes.lookup id = some d) := by
    intro hsame
    rw [List.append_nil, hsame]
    exact hs.logged id
  cases applied with
  | OPENED k =>
    obtain ⟨d, hrows, -⟩ := h
    have hone : sys.appliedBy wid (some (.OPENED k)) = [(k, event)] := by simp [appliedBy, hknown]
    rw [hone]
    exact hadded hrows
  | APPLIED k status =>
    obtain ⟨d, d', -, hrows, -⟩ := h
    have hone : sys.appliedBy wid (some (.APPLIED k status)) = [(k, event)] := by
      simp [appliedBy, hknown]
    rw [hone]
    exact hadded hrows
  | REVIEW k code =>
    obtain ⟨d, d', hd, hrows, -⟩ := h
    show (∃ event, (id, event) ∈ sys.applied ++ []) ↔ _
    rw [List.append_nil, hs.logged id, hinsert hrows]
    constructor
    · exact .inr
    · rintro (rfl | hstored)
      · exact ⟨d, hd⟩
      · exact hstored
  | IGNORED k reason => exact hkept h
  | UNKNOWN_PAYMENT => exact hkept h

theorem Bare.processed (hs : sys.Bare) (wid : WebhookId) (fresh : FreshDispute) (now : Time) :
    (sys.step (.process wid fresh now)).Bare := by
  unfold step
  dsimp only
  split
  · next outcome db hrun =>
    have hothers := ensures_processedDispute_otherRecords _ _ hrun
    have hrecorded := ensures_processedDispute_recorded _ _ hrun
    cases outcome with
    | none =>
      obtain ⟨hdisputes, hrecords⟩ := hrecorded
      refine ⟨?_, ?_, ?_⟩
      · dsimp only
        rw [hdisputes]
        exact hs.bare
      · intro id
        show (∃ event, (id, event) ∈ sys.applied ++ []) ↔ ∃ d, db.disputes.lookup id = some d
        rw [List.append_nil, hdisputes]
        exact hs.logged id
      · dsimp only
        rw [hrecords]
        exact hs.known
    | some applied =>
      obtain ⟨⟨input, hreason, hdeadline, hrecorded⟩, w, hw, hnamed⟩ := hrecorded
      obtain ⟨event, hknown⟩ := hs.known wid w hw hnamed
      refine ⟨hs.bare_of_recorded hreason hdeadline hrecorded,
        hs.logged_of_recorded hknown hrecorded, ?_⟩
      intro id w' hw' hnamed'
      by_cases hid : id = wid
      · subst hid
        exact ⟨event, hknown⟩
      · have hother := congrFun hothers id
        simp only [Db.otherRecords, if_neg hid] at hother
        exact hs.known id w' (hother.symm.trans hw') hnamed'
  · exact hs

/-- **In every run** disputes carry neither a reason nor a deadline. -/
theorem bare_deliver (hs : sys.Bare) (deliveries : List DisputeDelivery) :
    (sys.deliver deliveries).Bare := by
  induction deliveries generalizing sys with
  | nil => exact hs
  | cons delivery deliveries ih =>
    refine ih ?_
    cases delivery with
    | store provider event fresh now => exact hs.stored provider event fresh now
    | process webhookId fresh now => exact hs.processed webhookId fresh now

/-! ## §5 When the deadlines are reported -/

/-- Nothing was said that could be lost: each dispute was opened for no recognised reason, and
no applied event had a deadline. -/
def Unremarked (sys : DisputeDeliveries) : Prop :=
  (∀ id, ∀ event ∈ sys.openingEvent id, event.reasonCategory = .UNRECOGNIZED) ∧
    ∀ entry ∈ sys.applied, entry.2.evidenceDueAt = none

theorem Bare.reported_iff (hs : sys.Bare) :
    sys.DeadlinesReported ↔ sys.Unremarked := by
  have hopened : ∀ id d, sys.db.disputes.lookup id = some d →
      ∃ event, sys.openingEvent id = some event := by
    intro id d hd
    obtain ⟨event, hmem⟩ := (hs.logged id).mpr ⟨d, hd⟩
    have hfound : (sys.applied.find? fun entry => entry.1 == id).isSome := by
      rw [List.find?_isSome]
      exact ⟨_, hmem, beq_self_eq_true id⟩
    obtain ⟨entry, hentry⟩ := Option.isSome_iff_exists.mp hfound
    exact ⟨entry.2, by rw [openingEvent, hentry]; rfl⟩
  constructor
  · intro h
    refine ⟨fun id event hevent => ?_, fun entry hmem => ?_⟩
    · obtain ⟨entry, hentry, rfl⟩ := Option.map_eq_some_iff.mp hevent
      have hid : entry.1 = id := by simpa using List.find?_some hentry
      subst hid
      obtain ⟨d, hd⟩ := (hs.logged entry.1).mp ⟨entry.2, List.mem_of_find?_eq_some hentry⟩
      have hreason := h.reason entry.1 d hd
      rw [hevent, (hs.bare entry.1 d hd).1] at hreason
      exact Option.some.inj hreason
    · obtain ⟨d, hd⟩ := (hs.logged entry.1).mp ⟨entry.2, hmem⟩
      have hlatest := h.deadline entry.1 d hd
      rw [(hs.bare entry.1 d hd).2, latestDeadline, eq_comm, List.getLast?_eq_none_iff,
        List.filterMap_eq_nil_iff] at hlatest
      exact hlatest entry (List.mem_filter.mpr ⟨hmem, beq_self_eq_true _⟩)
  · rintro ⟨hreasons, hdeadlines⟩
    have hlatest : ∀ id, sys.latestDeadline id = none := by
      intro id
      rw [latestDeadline, List.getLast?_eq_none_iff, List.filterMap_eq_nil_iff]
      intro entry hentry
      exact hdeadlines entry (List.mem_filter.mp hentry).1
    refine ⟨fun id d hd => ?_, fun id d hd => ?_, fun now => ?_⟩
    · obtain ⟨event, hevent⟩ := hopened id d hd
      rw [hevent, (hs.bare id d hd).1]
      exact congrArg some (hreasons id event hevent)
    · rw [hlatest, (hs.bare id d hd).2]
    · unfold reportDisputeBacklog Db.countDisputes
      have hnone : sys.db.disputes.select (fun id d => isOpenDisputeStatus d.status &&
          (sys.latestDeadline id).any (· ≤ soonAfter now)) = [] := by
        rw [Table.select_eq_nil]
        intro id d _
        simp [hlatest]
      have hbare : sys.db.disputes.select (fun _ d => isOpenDisputeStatus d.status &&
          d.evidenceDueAt.any (· ≤ soonAfter now)) = [] := by
        rw [Table.select_eq_nil]
        intro id d hd
        simp [(hs.bare id d hd).2]
      dsimp only
      rw [hnone, hbare]

/-- **When the deadlines are reported.** After any run of dispute events, the disputes and the
report agree with the applied events exactly when these said nothing. -/
theorem deadlinesReported_iff {db : Db} (h : db.Unheard) (deliveries : List DisputeDelivery) :
    (deliver { db := db } deliveries).DeadlinesReported ↔
      (deliver { db := db } deliveries).Unremarked :=
  (bare_deliver (bare_start h) deliveries).reported_iff

theorem unheard_capturedPayment : capturedPayment.Unheard where
  disputes id := AList.lookup_empty id
  records id w hw := by
    cases (AList.lookup_empty id).symm.trans hw

/-- A dispute for fraud is opened; evidence is due a day later. -/
def urgentDispute : List DisputeDelivery :=
  [.store .STRIPE
      { providerEventId := 1, providerIntentId := 7, providerDisputeId := 5,
        status := .NEEDS_RESPONSE
        reasonCategory := .FRAUDULENT, amountMinor := 1000, currency := .USD
        occurredAt := some 2000, evidenceDueAt := some 86402000 } 9 2100,
    .process 9 { disputeId := 1, publicReference := 1 } 2200]

/-- A dispute of which the provider reports neither a reason nor a deadline. -/
def plainDispute : List DisputeDelivery :=
  [.store .STRIPE
      { providerEventId := 1, providerIntentId := 7, providerDisputeId := 5,
        status := .NEEDS_RESPONSE
        amountMinor := 1000, currency := .USD, occurredAt := some 2000 } 9 2100,
    .process 9 { disputeId := 1, publicReference := 1 } 2200]

theorem plainDispute_reported :
    (deliver { db := capturedPayment } plainDispute).db.disputes.keys = [1] ∧
      (deliver { db := capturedPayment } plainDispute).DeadlinesReported := by
  refine ⟨by decide +kernel,
    (deadlinesReported_iff unheard_capturedPayment plainDispute).mpr ⟨?_, ?_⟩⟩
  · intro id event hevent
    obtain ⟨entry, hentry, rfl⟩ := Option.map_eq_some_iff.mp hevent
    have hall : ∀ entry ∈ (deliver { db := capturedPayment } plainDispute).applied,
        entry.2.reasonCategory = .UNRECOGNIZED := by
      decide +kernel
    exact hall entry (List.mem_of_find?_eq_some hentry)
  · decide +kernel

/-- The deadline is applied and lost: the report counts no dispute. -/
theorem urgentDispute_unreported :
    (deliver { db := capturedPayment } urgentDispute).latestDeadline 1 = some 86402000 ∧
      (reportDisputeBacklog (deliver { db := capturedPayment } urgentDispute).db
        2300).evidenceDueWithin48Hours = 0 ∧
      ¬(deliver { db := capturedPayment } urgentDispute).DeadlinesReported := by
  refine ⟨by decide +kernel, by decide +kernel, fun h => ?_⟩
  have hcount := h.counted 2300
  revert hcount
  decide +kernel

end DisputeDeliveries

end SeatFlow
