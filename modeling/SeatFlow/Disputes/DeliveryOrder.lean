import Mathlib.Data.Finset.Order
import SeatFlow.Disputes.DisputeCommits
import SeatFlow.Disputes.LostDisputes
import SeatFlow.Refunds.WebhookReplay

/-!
# Delivery order of dispute events

The status that a dispute ends with when its events are delivered in any order and any
number of times. `DisputeProgress` says what one event makes of a dispute, and the
deliveries of verified events to the database follow it. The decision sees the current
and the incoming status but no time, so the event that is delivered last counts, not the
one that is latest for the provider.
-/

namespace SeatFlow

open Relational Program Entity

/-! ## §1 Deliveries -/

/-- One delivery of a dispute event, with the identifiers that are generated for it. -/
structure DisputeArrival where
  event : NormalizedDisputeWebhookEvent
  freshRecord : WebhookId
  fresh : FreshDispute
  now : Time

/-- `processPaymentWebhook` for a dispute event: it is stored and, also when it was stored
before, processed. -/
def Db.deliverDispute (db : Db) (provider : PaymentProviderName) (arrival : DisputeArrival) : Db :=
  match (storeVerifiedDisputeWebhook provider arrival.event arrival.freshRecord
      arrival.now).run db with
  | .ok ((id, _), db') => (processVerifiedDisputeRecord id arrival.fresh arrival.now).commit db'
  | .error _ => db

def Db.deliverDisputes (provider : PaymentProviderName) : Db → List DisputeArrival → Db
  | db, [] => db
  | db, arrival :: arrivals =>
      (db.deliverDispute provider arrival).deliverDisputes provider arrivals

/-- The generated identifiers are not in use, and the clock is not behind the provider's. -/
structure DisputeArrival.Proper (arrival : DisputeArrival) (db : Db) : Prop where
  record : db.webhooks.lookup arrival.freshRecord = none
  dispute : db.disputes.lookup arrival.fresh.disputeId = none
  reference :
      db.disputes.any (fun _ d => d.publicReference == arrival.fresh.publicReference) = false
  occurred : arrival.event.occurredAt.getD arrival.now ≤ arrival.now

/-- Proper deliveries one after another, from a time on. -/
def ProperDeliveries (provider : PaymentProviderName) : Time → Db → List DisputeArrival → Prop
  | _, _, [] => True
  | clock, db, arrival :: arrivals =>
      clock ≤ arrival.now ∧ arrival.Proper db ∧
        ProperDeliveries provider arrival.now (db.deliverDispute provider arrival) arrivals

/-- The status and the outcome of a provider's dispute. -/
def Db.disputeState (db : Db) (provider : PaymentProviderName) (ref : ProviderRef) :
    Option (DisputeStatus × Option DisputeOutcome) :=
  (db.disputeNamed provider ref).map fun found => (found.2.status, found.2.outcome)

/-! ## §2 Events of one dispute -/

/-- What a provider says about one dispute: events of one payment with equal amounts, at
different times, at most one of which ends the dispute. -/
structure DisputeHistory where
  provider : PaymentProviderName
  intent : ProviderRef
  ref : ProviderRef
  amountMinor : Money
  currency : Currency
  events : List NormalizedDisputeWebhookEvent
  intents : ∀ e ∈ events, e.providerIntentId = intent
  refs : ∀ e ∈ events, e.providerDisputeId = ref
  amounts : ∀ e ∈ events, e.amountMinor = amountMinor
  currencies : ∀ e ∈ events, e.currency = currency
  timed : ∀ e ∈ events, e.occurredAt.isSome = true
  distinct : events.Pairwise fun e e' =>
    e.providerEventId ≠ e'.providerEventId ∧ e.occurredAt ≠ e'.occurredAt
  normalized : ∀ e ∈ events, e.status ≠ .REQUIRES_REVIEW
  oneTerminal : events.Pairwise fun e e' =>
    ¬(isTerminalDisputeStatus e.status = true ∧ isTerminalDisputeStatus e'.status = true)

namespace DisputeHistory

variable {history : DisputeHistory} {e e' : NormalizedDisputeWebhookEvent}

/-- An event is known by its identity. -/
theorem eq_of_id (he : e ∈ history.events) (he' : e' ∈ history.events)
    (hid : e.providerEventId = e'.providerEventId) : e = e' := by
  by_contra hne
  have : Std.Symm fun e e' : NormalizedDisputeWebhookEvent =>
      e.providerEventId ≠ e'.providerEventId := ⟨fun _ _ h => h.symm⟩
  exact (history.distinct.imp And.left).forall he he' hne hid

theorem eq_of_terminal (he : e ∈ history.events) (he' : e' ∈ history.events)
    (hterminal : isTerminalDisputeStatus e.status = true)
    (hterminal' : isTerminalDisputeStatus e'.status = true) : e = e' := by
  by_contra hne
  have : Std.Symm fun e e' : NormalizedDisputeWebhookEvent =>
      ¬(isTerminalDisputeStatus e.status = true ∧ isTerminalDisputeStatus e'.status = true) :=
    ⟨fun _ _ h hboth => h hboth.symm⟩
  exact history.oneTerminal.forall he he' hne ⟨hterminal, hterminal'⟩

end DisputeHistory

/-! ## §3 What the events come to -/

/-- A dispute as far as its events were applied. -/
structure DisputeProgress where
  status : Option DisputeStatus := none
  applied : List ProviderRef := []

namespace DisputeProgress

/-- `PaymentDispute_lifecycle_check` has no outcome for a closed dispute: only one that is
terminal already hears of it. -/
def admits (progress : DisputeProgress) (incoming : DisputeStatus) : Bool :=
  incoming != .CLOSED || progress.status.any isTerminalDisputeStatus

def next (progress : DisputeProgress) (incoming : DisputeStatus) : DisputeStatus :=
  match progress.status with
  | some current => if isTerminalDisputeStatus current then current else incoming
  | none => incoming

/-- One delivery of an event: an event is applied once, and rejected ones stay open. -/
def hear (progress : DisputeProgress) (e : NormalizedDisputeWebhookEvent) : DisputeProgress :=
  if e.providerEventId ∈ progress.applied then progress
  else if progress.admits e.status then
    { status := some (progress.next e.status)
      applied := e.providerEventId :: progress.applied }
  else progress

def hearAll (events : List NormalizedDisputeWebhookEvent) : DisputeProgress :=
  events.foldl hear {}

variable {history : DisputeHistory} {progress : DisputeProgress}
  {e : NormalizedDisputeWebhookEvent} {events : List NormalizedDisputeWebhookEvent}

theorem next_of_terminal {current : DisputeStatus} (hstatus : progress.status = some current)
    (hterminal : isTerminalDisputeStatus current = true) (incoming : DisputeStatus) :
    progress.next incoming = current := by
  unfold next
  rw [hstatus]
  exact if_pos hterminal

theorem next_of_open (h : progress.status.any isTerminalDisputeStatus = false)
    (incoming : DisputeStatus) : progress.next incoming = incoming := by
  unfold next
  split
  · next current hstatus =>
    rw [hstatus, Option.any_some] at h
    rw [if_neg (by simp [h])]
  · rfl

theorem applied_subset_hear : progress.applied ⊆ (progress.hear e).applied := by
  intro id hid
  unfold hear
  split_ifs
  · exact hid
  · exact List.mem_cons_of_mem _ hid
  · exact hid

/-- An event that is not rejected is applied. -/
theorem mem_applied_hear (h : e.status ≠ .CLOSED) :
    e.providerEventId ∈ (progress.hear e).applied := by
  have hadmits : progress.admits e.status = true := by simp [admits, h]
  unfold hear
  split_ifs with hheard
  · exact hheard
  · exact List.mem_cons_self

/-- The status is that of an applied event, and the terminal event has the last word. -/
structure Grounded (history : DisputeHistory) (progress : DisputeProgress) : Prop where
  origin : ∀ current, progress.status = some current → current ≠ .CLOSED ∧
    ∃ e ∈ history.events, e.status = current ∧ e.providerEventId ∈ progress.applied
  started : ∀ e ∈ history.events, e.providerEventId ∈ progress.applied → progress.status ≠ none
  concluded : ∀ e ∈ history.events, e.providerEventId ∈ progress.applied →
    isTerminalDisputeStatus e.status = true → progress.status = some e.status

theorem grounded_start : Grounded history {} where
  origin _ h := nomatch h
  started _ _ h := nomatch h
  concluded _ _ h := nomatch h

/-- A terminal status is that of an event that was applied. -/
theorem Grounded.mem_applied (hg : progress.Grounded history) (he : e ∈ history.events)
    {current : DisputeStatus} (hstatus : progress.status = some current)
    (hterminal : isTerminalDisputeStatus current = true)
    (hterminal' : isTerminalDisputeStatus e.status = true) :
    e.providerEventId ∈ progress.applied := by
  obtain ⟨-, e', he', rfl, happlied⟩ := hg.origin current hstatus
  rwa [history.eq_of_terminal he he' hterminal' hterminal]

/-- **One delivery** keeps the progress grounded. -/
theorem Grounded.hear (hg : progress.Grounded history) (he : e ∈ history.events) :
    (progress.hear e).Grounded history := by
  unfold DisputeProgress.hear
  split_ifs with hheard hadmits
  · exact hg
  · have hcases : (∃ current, progress.status = some current ∧
          isTerminalDisputeStatus current = true ∧ progress.next e.status = current) ∨
        (e.status ≠ .CLOSED ∧ progress.next e.status = e.status ∧
          progress.status.any isTerminalDisputeStatus = false) := by
      cases hany : progress.status.any isTerminalDisputeStatus with
      | true =>
        obtain ⟨current, hstatus, hterminal⟩ := (Option.any_eq_true _ _).mp hany
        exact .inl ⟨current, hstatus, hterminal, next_of_terminal hstatus hterminal _⟩
      | false =>
        refine .inr ⟨?_, next_of_open hany _, rfl⟩
        simpa [admits, hany] using hadmits
    refine ⟨?_, fun _ _ _ => Option.some_ne_none _, ?_⟩
    · rintro current ⟨⟩
      rcases hcases with ⟨current, hstatus, -, hnext⟩ | ⟨hclosed, hnext, -⟩
      · rw [hnext]
        obtain ⟨hclosed, e', he', horigin, happlied⟩ := hg.origin current hstatus
        exact ⟨hclosed, e', he', horigin, List.mem_cons_of_mem _ happlied⟩
      · rw [hnext]
        exact ⟨hclosed, e, he, rfl, List.mem_cons_self⟩
    · intro e' he' happlied hterminal'
      refine congrArg some ?_
      rcases List.mem_cons.mp happlied with hid | hold
      · cases history.eq_of_id he' he hid
        rcases hcases with ⟨current, hstatus, hterminal, -⟩ | ⟨-, hnext, -⟩
        · exact absurd (hg.mem_applied he hstatus hterminal hterminal') hheard
        · exact hnext
      · exact next_of_terminal (hg.concluded e' he' hold hterminal') hterminal' _
  · exact hg

theorem applied_subset_foldl (progress : DisputeProgress)
    (events : List NormalizedDisputeWebhookEvent) :
    progress.applied ⊆ (events.foldl DisputeProgress.hear progress).applied := by
  induction events generalizing progress with
  | nil => exact fun _ hid => hid
  | cons e events ih => exact fun _ hid => ih _ (applied_subset_hear hid)

/-- **Every delivery order** keeps the progress grounded. -/
theorem grounded_hearAll (hsub : ∀ e ∈ events, e ∈ history.events) :
    (hearAll events).Grounded history := by
  have hrun : ∀ (events : List NormalizedDisputeWebhookEvent) (progress : DisputeProgress),
      progress.Grounded history → (∀ e ∈ events, e ∈ history.events) →
        (events.foldl DisputeProgress.hear progress).Grounded history := by
    intro events
    induction events with
    | nil => exact fun _ hg _ => hg
    | cons e events ih =>
      intro progress hg hsub
      exact ih _ (hg.hear (hsub e List.mem_cons_self)) fun e' he' =>
        hsub e' (List.mem_cons_of_mem _ he')
  exact hrun events {} grounded_start hsub

theorem mem_applied_hearAll (he : e ∈ events) (h : e.status ≠ .CLOSED) :
    e.providerEventId ∈ (hearAll events).applied := by
  obtain ⟨before, after, rfl⟩ := List.append_of_mem he
  rw [hearAll, List.foldl_append, List.foldl_cons]
  exact applied_subset_foldl _ after (mem_applied_hear h)

/-- Only what was delivered is applied. -/
theorem exists_of_mem_applied {id : ProviderRef} (h : id ∈ (hearAll events).applied) :
    ∃ e ∈ events, e.providerEventId = id := by
  have hrun : ∀ (events : List NormalizedDisputeWebhookEvent) (progress : DisputeProgress),
      id ∈ (events.foldl DisputeProgress.hear progress).applied →
        id ∈ progress.applied ∨ ∃ e ∈ events, e.providerEventId = id := by
    intro events
    induction events with
    | nil => exact fun _ h => .inl h
    | cons e events ih =>
      intro progress h
      rcases ih _ h with hold | ⟨e', he', hid⟩
      · unfold DisputeProgress.hear at hold
        split_ifs at hold
        · exact .inl hold
        · rcases List.mem_cons.mp hold with hid | hold
          · exact .inr ⟨e, List.mem_cons_self, hid.symm⟩
          · exact .inl hold
        · exact .inl hold
      · exact .inr ⟨e', List.mem_cons_of_mem _ he', hid⟩
  rcases hrun events {} h with hnone | hsome
  · cases hnone
  · exact hsome

end DisputeProgress

namespace DisputeHistory

variable {history : DisputeHistory} {e : NormalizedDisputeWebhookEvent}
  {events events' : List NormalizedDisputeWebhookEvent}

/-- The dispute was won or lost. -/
def Concluded (history : DisputeHistory) : Prop :=
  ∃ e ∈ history.events, e.status = .WON ∨ e.status = .LOST

/-- Nothing but one status is ever applied. -/
def Uniform (history : DisputeHistory) : Prop :=
  ∀ e ∈ history.events, ∀ e' ∈ history.events, e.status ≠ .CLOSED → e'.status ≠ .CLOSED →
    e.status = e'.status

/-- The events of the dispute, each at least once. -/
structure Covers (history : DisputeHistory) (events : List NormalizedDisputeWebhookEvent) :
    Prop where
  only : ∀ e ∈ events, e ∈ history.events
  all : ∀ e ∈ history.events, e ∈ events

theorem status_eq_of_concluded (h : history.Concluded) (hcovers : history.Covers events)
    (hcovers' : history.Covers events') :
    (DisputeProgress.hearAll events).status = (DisputeProgress.hearAll events').status := by
  obtain ⟨e, he, hwon⟩ := h
  have hclosed : e.status ≠ .CLOSED := by
    rcases hwon with h | h <;> simp [h]
  have hterminal : isTerminalDisputeStatus e.status = true := by
    rcases hwon with h | h <;> rw [h] <;> rfl
  have hend : ∀ {events}, history.Covers events →
      (DisputeProgress.hearAll events).status = some e.status := fun hcovers =>
    (DisputeProgress.grounded_hearAll hcovers.only).concluded e he
      (DisputeProgress.mem_applied_hearAll (hcovers.all e he) hclosed) hterminal
  rw [hend hcovers, hend hcovers']

theorem status_eq_of_uniform (h : history.Uniform) (hcovers : history.Covers events)
    (hcovers' : history.Covers events') :
    (DisputeProgress.hearAll events).status = (DisputeProgress.hearAll events').status := by
  have hg := DisputeProgress.grounded_hearAll hcovers.only
  have hg' := DisputeProgress.grounded_hearAll hcovers'.only
  -- what one order applies, the other does too, and there is one status
  have hstarted : ∀ {events}, history.Covers events → ∀ e ∈ history.events, e.status ≠ .CLOSED →
      (DisputeProgress.hearAll events).status = some e.status := by
    intro events hcovers e he hclosed
    have hg := DisputeProgress.grounded_hearAll hcovers.only
    have happlied := DisputeProgress.mem_applied_hearAll (hcovers.all e he) hclosed
    obtain ⟨current, hcurrent⟩ := Option.ne_none_iff_exists'.mp (hg.started e he happlied)
    obtain ⟨hopen, e', he', rfl, -⟩ := hg.origin current hcurrent
    rw [hcurrent, h e' he' e he hopen hclosed]
  cases hstatus : (DisputeProgress.hearAll events).status with
  | some current =>
    obtain ⟨hclosed, e, he, rfl, -⟩ := hg.origin current hstatus
    exact (hstarted hcovers' e he hclosed).symm
  | none =>
    cases hstatus' : (DisputeProgress.hearAll events').status with
    | none => rfl
    | some current =>
      obtain ⟨hclosed, e, he, rfl, -⟩ := hg'.origin current hstatus'
      rw [hstarted hcovers e he hclosed] at hstatus
      cases hstatus

/-- The events with one of them at the end. -/
def endingWith (history : DisputeHistory) (e : NormalizedDisputeWebhookEvent) :
    List NormalizedDisputeWebhookEvent :=
  history.events.filter (fun e' => e'.providerEventId ≠ e.providerEventId) ++ [e]

theorem covers_endingWith (he : e ∈ history.events) : history.Covers (history.endingWith e) where
  only e' h := by
    rcases List.mem_append.mp h with h | h
    · exact (List.mem_filter.mp h).1
    · rw [List.mem_singleton.mp h]
      exact he
  all e' he' := by
    by_cases hid : e'.providerEventId = e.providerEventId
    · rw [history.eq_of_id he' he hid]
      exact List.mem_append_right _ (List.mem_singleton_self e)
    · exact List.mem_append_left _ (List.mem_filter.mpr ⟨he', by simpa using hid⟩)

/-- **The last event counts** when the dispute is neither won nor lost. -/
theorem status_endingWith (h : ¬history.Concluded) (hclosed : e.status ≠ .CLOSED) :
    (DisputeProgress.hearAll (history.endingWith e)).status = some e.status := by
  let events := history.events.filter fun e' => e'.providerEventId ≠ e.providerEventId
  have hg : (DisputeProgress.hearAll events).Grounded history :=
    DisputeProgress.grounded_hearAll fun e' he' => (List.mem_filter.mp he').1
  have hnew : e.providerEventId ∉ (DisputeProgress.hearAll events).applied := by
    intro happlied
    obtain ⟨e', he', hid⟩ := DisputeProgress.exists_of_mem_applied happlied
    have hother := (List.mem_filter.mp he').2
    simp [hid] at hother
  have hopen : (DisputeProgress.hearAll events).status.any isTerminalDisputeStatus = false := by
    cases hstatus : (DisputeProgress.hearAll events).status with
    | none => rfl
    | some current =>
      obtain ⟨hcurrent, e', he', rfl, -⟩ := hg.origin current hstatus
      have hwon : ¬(e'.status = .WON ∨ e'.status = .LOST) := fun hwon => h ⟨e', he', hwon⟩
      rw [Option.any_some]
      cases hcase : e'.status <;> simp_all [isTerminalDisputeStatus]
  have hadmits : (DisputeProgress.hearAll events).admits e.status = true := by
    simp [DisputeProgress.admits, hclosed]
  rw [endingWith, DisputeProgress.hearAll, List.foldl_append, List.foldl_cons, List.foldl_nil]
  show ((DisputeProgress.hearAll events).hear e).status = _
  rw [DisputeProgress.hear, if_neg hnew, if_pos hadmits]
  exact congrArg some (DisputeProgress.next_of_open hopen _)

end DisputeHistory

/-! ## §4 Records -/

section Records

variable {db s : Db} {provider : PaymentProviderName} {event : NormalizedDisputeWebhookEvent}
  {wid : WebhookId} {w w' : PaymentWebhookEvent} {fresh : FreshDispute} {now : Time}

/-- The record says what the event says. -/
structure PaymentWebhookEvent.Reports (w : PaymentWebhookEvent)
    (event : NormalizedDisputeWebhookEvent) : Prop where
  category : w.eventCategory = .DISPUTE
  intent : w.providerIntentId = event.providerIntentId
  ref : w.providerDisputeId = some event.providerDisputeId
  status : w.normalizedDisputeStatus = some event.status
  amount : w.amountMinor = event.amountMinor
  currency : w.currency = event.currency
  occurred : w.providerOccurredAt = event.occurredAt

theorem PaymentWebhookEvent.Reports.continues (h : w.Reports event) (hsame : w.Continues w') :
    w'.Reports event := by
  obtain ⟨⟨-, -, hcategory, hintent, -, -, -, hstatus, -, href, hamount, hcurrency, -, -,
    htime⟩, -⟩ :=
    hsame
  exact ⟨hcategory.trans h.category, hintent.trans h.intent, href.trans h.ref,
    hstatus.trans h.status, hamount.trans h.amount, hcurrency.trans h.currency,
    htime.trans h.occurred⟩

/-- The identity of a provider's event. -/
def PaymentWebhookEvent.Identified (w : PaymentWebhookEvent) (provider : PaymentProviderName)
    (id : ProviderRef) : Prop :=
  w.provider = provider ∧ w.providerEventId = id

/-- What storing an event does: its record is there, or a new one is added. -/
inductive StoredEvent (provider : PaymentProviderName) (event : NormalizedDisputeWebhookEvent)
    (fresh : WebhookId) (db s : Db) (id : WebhookId) : Prop
  | known (w : PaymentWebhookEvent) (same : s = db) (row : db.webhooks.lookup id = some w)
      (identified : w.Identified provider event.providerEventId)
  | added (w : PaymentWebhookEvent) (new : id = fresh) (absent : db.webhooks.lookup fresh = none)
      (row : s = { db with webhooks := db.webhooks.insert fresh w })
      (unknown : ∀ id' w', db.webhooks.lookup id' = some w' →
        ¬w'.Identified provider event.providerEventId)
      (identified : w.Identified provider event.providerEventId) (reports : w.Reports event)
      (opened : w.processingStatus.isFinal = false)

/-- **An event is stored once.** -/
theorem ensures_storeVerifiedDisputeWebhook :
    Ensures (storeVerifiedDisputeWebhook provider event wid now) db fun result s =>
      StoredEvent provider event wid db s result.1 := by
  refine ensures_bind.mpr (ensures_findMany.mpr (ensures_bind.mpr (ensures_findMany.mpr ?_)))
  split
  · next id w hhead =>
    obtain ⟨hrow, hsame⟩ := Table.mem_select.mp (List.mem_of_head? hhead)
    refine ensures_pure.mpr (.known w rfl hrow ?_)
    simpa [PaymentWebhookEvent.Identified] using hsame
  · next hnone =>
    refine ensures_bind.mpr (ensures_insert.mpr fun habsent _ => ensures_pure.mpr ?_)
    refine .added _ rfl habsent rfl ?_ ⟨rfl, rfl⟩ ⟨rfl, rfl, rfl, rfl, rfl, rfl, rfl⟩ rfl
    intro id w hrow hsame
    have hout := Table.select_eq_nil.mp (List.head?_eq_none_iff.mp hnone) id w hrow
    simp [hsame.1, hsame.2] at hout

theorem commits_storeVerifiedDisputeWebhook (hamount : 0 ≤ event.amountMinor)
    (hfresh : db.webhooks.lookup wid = none) :
    Commits (storeVerifiedDisputeWebhook provider event wid now) db fun _ _ => True := by
  refine commits_bind.mpr (commits_findMany.mpr (commits_bind.mpr (commits_findMany.mpr ?_)))
  split
  · exact commits_pure.mpr trivial
  · next hnone =>
    refine commits_bind.mpr (commits_insert.mpr ⟨hfresh, ?_, commits_pure.mpr trivial⟩)
    refine (paymentWebhookEventConstraints.validate_iff db wid none _).mpr
      ⟨⟨rfl, hamount, rfl, rfl⟩, fun id w hrow _ hsame => ?_, trivial⟩
    have hout := Table.select_eq_nil.mp (List.head?_eq_none_iff.mp hnone) id w hrow
    simp [hsame.1, hsame.2] at hout

theorem disputeWrites_keepsRecords (wid : WebhookId) : DisputeWrites wid Db.KeepsRecords where
  opened := fun _ _ => steps_insert fun _ _ _ => .of_eq rfl
  advanced := fun _ _ _ _ => steps_update fun _ _ _ _ => .of_eq rfl
  history := fun _ _ => .of_eq rfl
  outbox := fun _ _ => steps_insertNew fun _ _ _ => .of_eq rfl
  queue := fun trigger s => by
    refine ensures_perform.mpr ?_
    rintro eff ⟨⟩
    exact .single (.of_eq rfl)
  ledger := fun _ _ => steps_require.bind fun _ => steps_insertNew fun _ _ _ => .of_eq rfl
  webhook := fun _ _ => steps_update fun _ _ hrow hvalid =>
    .insert hrow (PaymentWebhookEvent.continues_of_validate hvalid)
  booking := fun _ _ _ => steps_update fun _ _ _ _ => .of_eq rfl
  admission := revoking_of_free (fun _ _ => .of_eq rfl) fun _ _ => .of_eq rfl

/-- Processing a dispute event keeps the envelopes and the outcomes of all records. -/
theorem keepsRecords_processVerifiedDisputeRecord (wid : WebhookId) (fresh : FreshDispute)
    (now : Time) (db : Db) :
    db.KeepsRecords ((processVerifiedDisputeRecord wid fresh now).commit db) := by
  refine keepsRecords_of_steps (Steps.commit ?_ db)
  exact steps_processVerifiedDisputeRecord (disputeWrites_keepsRecords wid)
    (fun _ => steps_require.bind fun _ => steps_insertNew fun _ _ _ => .of_eq rfl)
    (fun _ _ => steps_update fun _ _ _ _ => .of_eq rfl) (committing_of_queue fun _ => .of_eq rfl)
    fresh now

/-- A transaction that commits closes the record. -/
theorem ensures_processedDispute_closes :
    Ensures (processVerifiedDisputeRecord wid fresh now) s fun _ s' => s'.Closed wid := by
  refine ensures_runInTransaction (ensures_bind.mpr (ensures_lock.mpr ?_))
  refine ensures_bind.mpr (ensures_findOrThrow.mpr fun w hw => ?_)
  split
  · next hfinal => exact ensures_pure.mpr fun _ => ⟨w, hw, hfinal⟩
  · refine ensures_bind.mpr (ensures_require.mpr fun _ => ?_)
    split
    · refine ensures_bind.mpr fun applied s₁ _ => ensures_bind.mpr (ensures_update.mpr ?_)
      refine fun w₁ _ _ => ensures_pure.mpr fun _ => ⟨_, AList.lookup_insert _, ?_⟩
      cases applied <;> rfl
    · exact ensures_abort.mpr trivial

/-- A record that stays open was rejected, and nothing changed. -/
theorem commit_of_notClosed
    (h : ¬((processVerifiedDisputeRecord wid fresh now).commit s).Closed wid) :
    (processVerifiedDisputeRecord wid fresh now).commit s = s := by
  cases hrun : (processVerifiedDisputeRecord wid fresh now).run s with
  | error e => simp [Program.commit, hrun]
  | ok result =>
    obtain ⟨outcome, s'⟩ := result
    rw [commit_of_run hrun] at h
    exact absurd (ensures_processedDispute_closes _ _ hrun) h

/-- The dispute with an external identity is the only one. -/
theorem Db.disputeNamed_of_lookup (hs : s.Sound) {id : DisputeId} {d : PaymentDispute}
    (hd : s.disputes.lookup id = some d) :
    s.disputeNamed d.provider d.providerDisputeId = some (id, d) := by
  unfold Db.disputeNamed
  rw [Table.select_eq_singleton hd (by simp) fun id' d' hd' hsame => ?_]
  · rfl
  · by_contra hne
    have hapart := hs.disputes.apart id d id' d' hd hd' (Ne.symm hne)
    simp only [Bool.and_eq_true, beq_iff_eq] at hsame
    exact hapart.external ⟨hsame.1.symm, hsame.2.symm⟩

end Records

/-! ## §5 One delivery -/

namespace DisputeHistory

/-- The dispute can be recorded for the payment that its events name. -/
def Recordable (history : DisputeHistory) (db : Db) : Prop :=
  ∃ p a, db.paymentNamed history.intent = some (p, a) ∧ a.provider = history.provider ∧
    0 < history.amountMinor ∧ history.amountMinor ≤ a.amountMinor ∧ history.currency = a.currency

/-- Nothing of the dispute has been delivered. -/
structure Unheard (history : DisputeHistory) (db : Db) : Prop where
  dispute : db.disputeNamed history.provider history.ref = none
  records : ∀ e ∈ history.events, ∀ wid w, db.webhooks.lookup wid = some w →
    ¬w.Identified history.provider e.providerEventId

end DisputeHistory

/-- The database has the dispute as far as the events were applied. -/
structure DisputeProgress.Stored (progress : DisputeProgress) (history : DisputeHistory)
    (clock : Time) (db : Db) : Prop where
  absent : progress.status = none → db.disputeNamed history.provider history.ref = none
  present : ∀ status, progress.status = some status →
    ∃ id d, db.disputeNamed history.provider history.ref = some (id, d) ∧ d.status = status ∧
      d.outcome = outcomeForTerminalStatus status ∧ d.openedAt ≤ clock
  reports : ∀ e ∈ history.events, ∀ wid w, db.webhooks.lookup wid = some w →
    w.Identified history.provider e.providerEventId → w.Reports e
  closed : ∀ e ∈ history.events, ∀ wid w, db.webhooks.lookup wid = some w →
    w.Identified history.provider e.providerEventId →
      (w.processingStatus.isFinal = true ↔ e.providerEventId ∈ progress.applied)
  recorded : ∀ e ∈ history.events, e.providerEventId ∈ progress.applied →
    ∃ wid w, db.webhooks.lookup wid = some w ∧ w.Identified history.provider e.providerEventId

section Delivery

variable {sys : FinancialSystem} {db s : Db} {history : DisputeHistory}
  {progress : DisputeProgress} {clock : Time} {arrival : DisputeArrival} {wid : WebhookId}
  {w : PaymentWebhookEvent} {fresh : FreshDispute} {now : Time}

theorem DisputeProgress.Stored.disputeState (h : progress.Stored history clock db) :
    db.disputeState history.provider history.ref =
      progress.status.map fun status => (status, outcomeForTerminalStatus status) := by
  unfold Db.disputeState
  cases hstatus : progress.status with
  | none => rw [h.absent hstatus]; rfl
  | some status =>
    obtain ⟨id, d, hnamed, rfl, houtcome, -⟩ := h.present status hstatus
    rw [hnamed, Option.map_some, Option.map_some, houtcome]

theorem DisputeProgress.Stored.later (h : progress.Stored history clock db) {clock' : Time}
    (hclock : clock ≤ clock') : progress.Stored history clock' db := by
  refine { h with present := fun status hstatus => ?_ }
  obtain ⟨id, d, hnamed, hd, houtcome, hopened⟩ := h.present status hstatus
  exact ⟨id, d, hnamed, hd, houtcome, hopened.trans hclock⟩

/-- A new record of an event that was not delivered before. -/
theorem DisputeProgress.Stored.inserted (h : progress.Stored history clock db)
    {e : NormalizedDisputeWebhookEvent} (he : e ∈ history.events)
    (hfresh : db.webhooks.lookup wid = none)
    (hnew : ∀ id w, db.webhooks.lookup id = some w →
      ¬w.Identified history.provider e.providerEventId)
    (hid : w.Identified history.provider e.providerEventId) (hreports : w.Reports e)
    (hopen : w.processingStatus.isFinal = false) :
    progress.Stored history clock { db with webhooks := db.webhooks.insert wid w } := by
  have hcases : ∀ e' ∈ history.events, ∀ wid' w',
      (db.webhooks.insert wid w).lookup wid' = some w' →
      w'.Identified history.provider e'.providerEventId →
      (e' = e ∧ w' = w) ∨ db.webhooks.lookup wid' = some w' := by
    intro e' he' wid' w' hrow hid'
    rcases Table.wrote_insert.cases hrow with ⟨-, rfl⟩ | ⟨-, hold⟩
    · exact .inl ⟨history.eq_of_id he' he (hid'.2.symm.trans hid.2), rfl⟩
    · exact .inr hold
  refine { h with reports := ?_, closed := ?_, recorded := ?_ }
  · intro e' he' wid' w' hrow hid'
    rcases hcases e' he' wid' w' hrow hid' with ⟨rfl, rfl⟩ | hold
    · exact hreports
    · exact h.reports e' he' wid' w' hold hid'
  · intro e' he' wid' w' hrow hid'
    rcases hcases e' he' wid' w' hrow hid' with ⟨rfl, rfl⟩ | hold
    · refine iff_of_false (by simp [hopen]) fun happlied => ?_
      obtain ⟨wid₀, w₀, hrow₀, hid₀⟩ := h.recorded e' he happlied
      exact hnew wid₀ w₀ hrow₀ hid₀
    · exact h.closed e' he' wid' w' hold hid'
  · intro e' he' happlied
    obtain ⟨wid₀, w₀, hrow₀, hid₀⟩ := h.recorded e' he' happlied
    refine ⟨wid₀, w₀, (AList.lookup_insert_ne ?_).trans hrow₀, hid₀⟩
    rintro rfl
    cases hfresh.symm.trans hrow₀

/-- **Which events are rejected.** -/
theorem DisputeProgress.Stored.processable_iff (h : progress.Stored history clock db)
    (hg : progress.Grounded history) (hrecordable : history.Recordable db)
    {e : NormalizedDisputeWebhookEvent}
    (he : e ∈ history.events) (hrow : db.webhooks.lookup wid = some w)
    (hid : w.Identified history.provider e.providerEventId)
    (hdispute : db.disputes.lookup fresh.disputeId = none)
    (hreference : db.disputes.any (fun _ d => d.publicReference == fresh.publicReference) = false)
    (hoccurred : e.occurredAt.getD now ≤ now) (hclock : clock ≤ now) :
    w.Processable wid db fresh now ↔ progress.admits e.status = true := by
  obtain ⟨p, a, hpayment, hprovider, hpositive, hcovered, hcurrency⟩ := hrecordable
  have hreports := h.reports e he wid w hrow hid
  let input := w.disputeInput wid history.ref e.status now
  have hinput : w.Processable wid db fresh now ↔ input.Processable db fresh := by
    have href : w.providerDisputeId = some history.ref := by rw [hreports.ref, history.refs e he]
    constructor
    · intro hprocessable
      exact hprocessable _ href _ hreports.status
    · rintro hprocessable ref href' incoming hincoming'
      cases Option.some.inj (href.symm.trans href')
      cases Option.some.inj (hreports.status.symm.trans hincoming')
      exact hprocessable
  have hintent : input.providerIntentId = history.intent :=
    hreports.intent.trans (history.intents e he)
  rw [hinput, DisputeEventInput.Processable, hintent, hpayment]
  dsimp only
  rw [hprovider]
  cases hstatus : progress.status with
  | none =>
    rw [show db.disputeNamed history.provider input.providerDisputeId = none from h.absent hstatus]
    have hadmits : progress.admits e.status = true ↔ e.status ≠ .CLOSED := by
      simp [DisputeProgress.admits, hstatus]
    rw [hadmits]
    constructor
    · exact fun hopens => hopens.outcome
    · intro hclosed
      have hamount : input.amountMinor = history.amountMinor :=
        hreports.amount.trans (history.amounts e he)
      refine ⟨hdispute, hreference, hamount ▸ hpositive, hamount ▸ hcovered,
        (hreports.currency.trans (history.currencies e he)).trans hcurrency, hclosed, fun _ => ?_⟩
      show w.providerOccurredAt.getD now ≤ now
      rw [hreports.occurred]
      exact hoccurred
  | some status =>
    obtain ⟨id, d, hnamed, rfl, -, hopened⟩ := h.present status hstatus
    rw [show db.disputeNamed history.provider input.providerDisputeId = some (id, d) from hnamed]
    have hadmits : progress.admits e.status = true ↔
        (isOpenDisputeStatus d.status = true → e.status ≠ .CLOSED) := by
      -- no event of the dispute asks for a review
      obtain ⟨-, e', he', hsame, -⟩ := hg.origin d.status hstatus
      have hnormalized := history.normalized e' he'
      rw [hsame] at hnormalized
      rw [DisputeProgress.admits, hstatus, Option.any_some]
      cases hcase : d.status <;>
        simp_all [isOpenDisputeStatus, isTerminalDisputeStatus]
    rw [hadmits]
    constructor
    · exact fun hcontinues => hcontinues.outcome
    · exact fun hclosed => ⟨hclosed, fun _ _ => hopened.trans hclock⟩

/-- A record that has an outcome is left alone. -/
theorem commit_of_final (hidle : db.deferred = []) (hrow : db.webhooks.lookup wid = some w)
    (hfinal : w.processingStatus.isFinal = true) :
    (processVerifiedDisputeRecord wid fresh now).commit db = db := by
  have hsame : Ensures (processVerifiedDisputeRecord wid fresh now) db fun _ s' => s' = db := by
    refine ensures_runInTransaction (ensures_bind.mpr (ensures_lock.mpr ?_))
    refine ensures_bind.mpr (ensures_findOrThrow.mpr fun w' hrow' => ?_)
    cases Option.some.inj (hrow.symm.trans hrow')
    rw [if_pos hfinal]
    refine ensures_pure.mpr fun _ => ?_
    rw [← hidle]
  exact Ensures.commit (Q := fun s' : Db => s' = db) hsame rfl

/-- The dispute that an event finds. -/
theorem DisputeProgress.Stored.status_of_named (h : progress.Stored history clock db)
    (hg : progress.Grounded history) {id : DisputeId} {d : PaymentDispute}
    (hnamed : db.disputeNamed history.provider history.ref = some (id, d)) :
    progress.status = some d.status ∧ d.status ≠ .REQUIRES_REVIEW ∧
      d.outcome = outcomeForTerminalStatus d.status ∧ d.openedAt ≤ clock := by
  cases hstatus : progress.status with
  | none => cases (h.absent hstatus).symm.trans hnamed
  | some status =>
    obtain ⟨id', d', hnamed', rfl, houtcome, hopened⟩ := h.present status hstatus
    cases hnamed.symm.trans hnamed'
    obtain ⟨-, e', he', hsame, -⟩ := hg.origin _ hstatus
    exact ⟨rfl, hsame ▸ history.normalized e' he', houtcome, hopened⟩

/-- A dispute that was just written is found. -/
theorem Db.disputeNamed_of_wrote (hs : s.Sound) {id : DisputeId} {d : PaymentDispute}
    (hrows : s.disputes = db.disputes.insert id d) (hprovider : d.provider = history.provider)
    (href : d.providerDisputeId = history.ref) :
    s.disputeNamed history.provider history.ref = some (id, d) := by
  rw [← hprovider, ← href]
  refine Db.disputeNamed_of_lookup hs ?_
  rw [hrows]
  exact AList.lookup_insert _

/-- What is ignored changes nothing. -/
theorem DisputeProgress.next_of_ignored (progress : DisputeProgress)
    {status incoming : DisputeStatus} {reason : Code} (hstatus : progress.status = some status)
    (hreview : status ≠ .REQUIRES_REVIEW)
    (hdecision : decideDisputeTransition status incoming = .ignore reason) :
    progress.next incoming = status := by
  cases hterminal : isTerminalDisputeStatus status with
  | true => exact DisputeProgress.next_of_terminal hstatus hterminal _
  | false =>
    rw [DisputeProgress.next_of_open (by rw [hstatus, Option.any_some, hterminal])]
    rw [decideDisputeTransition, if_neg hreview] at hdecision
    split_ifs at hdecision with hequal _ hended
    · exact hequal.symm
    · cases hterminal.symm.trans hended

/-- **What applying an event makes of the dispute.** -/
theorem DisputeProgress.Stored.applied (h : progress.Stored history clock db)
    (hg : progress.Grounded history) (hs : s.Sound) {e : NormalizedDisputeWebhookEvent}
    (he : e ∈ history.events) (hnew : e.providerEventId ∉ progress.applied)
    {p : AttemptId} {a : PaymentAttempt} (hprovider : a.provider = history.provider)
    (hheard : db.Hears wid w history.ref e.status p a)
    (hoccurred : w.providerOccurredAt = e.occurredAt) (hbefore : e.occurredAt.getD now ≤ now)
    (hclock : clock ≤ now) (heffect : DisputeEffect db s wid fresh now) :
    ∃ id d, s.disputeNamed history.provider history.ref = some (id, d) ∧
      d.status = progress.next e.status ∧
      d.outcome = outcomeForTerminalStatus (progress.next e.status) ∧ d.openedAt ≤ now := by
  cases heffect with
  | quiet hbooks hignored =>
    obtain ⟨id, d, reason, hnamed, hdecision⟩ := hignored w _ _ p a hheard
    rw [hprovider] at hnamed
    obtain ⟨hstatus, hreview, houtcome, hopened⟩ := h.status_of_named hg hnamed
    have hnext := progress.next_of_ignored hstatus hreview hdecision
    refine ⟨id, d, ?_, hnext.symm, hnext ▸ houtcome, hopened.trans hclock⟩
    rw [← hnamed, Db.disputeNamed, show s.disputes = db.disputes from
      congrArg DisputeBooks.disputes hbooks]
    rfl
  | opened w' ref' incoming' p' a' bookingId hheard' hclosed hunnamed hbooking habsent hbooks =>
    obtain ⟨rfl, rfl, rfl, rfl⟩ := hheard.unique hheard'
    have hstatus : progress.status = none := by
      by_contra hsome
      obtain ⟨status, hsome⟩ := Option.ne_none_iff_exists'.mp hsome
      obtain ⟨id, d, hnamed, -⟩ := h.present status hsome
      rw [hprovider, hnamed] at hunnamed
      cases hunnamed
    have hnext : progress.next e.status = e.status :=
      DisputeProgress.next_of_open (by rw [hstatus]; rfl) _
    rw [hnext]
    have hrows := (congrArg DisputeBooks.disputes hbooks).trans
      DisputeConsequenceInput.disputes_books
    refine ⟨fresh.disputeId, _, Db.disputeNamed_of_wrote hs hrows hprovider rfl, rfl, rfl, ?_⟩
    show w'.providerOccurredAt.getD now ≤ now
    rw [hoccurred]
    exact hbefore
  | escalated w' ref' incoming' p' a' id d code hheard' hclosed hnamed hdecision hbooks =>
    obtain ⟨rfl, rfl, rfl, rfl⟩ := hheard.unique hheard'
    rw [hprovider] at hnamed
    obtain ⟨hstatus, hreview, -, -⟩ := h.status_of_named hg hnamed
    -- only a second terminal event is reviewed
    have hnormalized := history.normalized e he
    rw [decideDisputeTransition, if_neg hreview] at hdecision
    split_ifs at hdecision with hequal hterminal hterminal'
    exact absurd (hg.mem_applied he hstatus hterminal hterminal') hnew
  | advanced w' ref' incoming' p' a' id d outcome hheard' hclosed hnamed hdecision hbooks =>
    obtain ⟨rfl, rfl, rfl, rfl⟩ := hheard.unique hheard'
    obtain ⟨hd, hd', hd''⟩ := Db.lookup_of_disputeNamed hnamed
    rw [hprovider] at hnamed
    obtain ⟨hstatus, -, -, hopened⟩ := h.status_of_named hg hnamed
    obtain ⟨hopen, -, rfl⟩ := open_of_apply hdecision
    have hnext : progress.next e.status = e.status := by
      refine DisputeProgress.next_of_open ?_ _
      rw [hstatus, Option.any_some]
      cases hcase : d.status <;> simp_all [isOpenDisputeStatus, isTerminalDisputeStatus]
    rw [hnext]
    exact ⟨id, _, Db.disputeNamed_of_wrote hs ((congrArg DisputeBooks.disputes hbooks).trans
      DisputeConsequenceInput.disputes_books) (hd'.trans hprovider) hd'', rfl, rfl,
      hopened.trans hclock⟩

/-- The records after an event was applied. -/
theorem DisputeProgress.Stored.closed_records (h : progress.Stored history clock db) (hs : db.Sound)
    {e : NormalizedDisputeWebhookEvent} (he : e ∈ history.events)
    (hrow : db.webhooks.lookup wid = some w) (hid : w.Identified history.provider e.providerEventId)
    (hkeeps : db.KeepsRecords s) (hothers : s.otherRecords wid = db.otherRecords wid)
    (hclosed : s.Closed wid) :
    (∀ e' ∈ history.events, ∀ wid' w', s.webhooks.lookup wid' = some w' →
        w'.Identified history.provider e'.providerEventId → w'.Reports e' ∧
          (w'.processingStatus.isFinal = true ↔
            e'.providerEventId ∈ e.providerEventId :: progress.applied)) ∧
      ∀ e' ∈ history.events, e'.providerEventId ∈ e.providerEventId :: progress.applied →
        ∃ wid' w', s.webhooks.lookup wid' = some w' ∧
          w'.Identified history.provider e'.providerEventId := by
  constructor
  · intro e' he' wid' w' hrow' hid'
    obtain ⟨w₀, hrow₀, hcontinues⟩ := hkeeps.back wid' w' hrow'
    have hid₀ : w₀.Identified history.provider e'.providerEventId :=
      ⟨hcontinues.1.1.symm.trans hid'.1, hcontinues.1.2.1.symm.trans hid'.2⟩
    refine ⟨(h.reports e' he' wid' w₀ hrow₀ hid₀).continues hcontinues, ?_⟩
    by_cases hwid : wid' = wid
    · subst hwid
      obtain ⟨w₁, hrow₁, hfinal⟩ := hclosed
      cases Option.some.inj (hrow'.symm.trans hrow₁)
      cases Option.some.inj (hrow.symm.trans hrow₀)
      rw [history.eq_of_id he' he (hid₀.2.symm.trans hid.2)]
      exact iff_of_true hfinal List.mem_cons_self
    · have hother := congrFun hothers wid'
      simp only [Db.otherRecords, if_neg hwid] at hother
      cases Option.some.inj ((hother.symm.trans hrow').symm.trans hrow₀)
      rw [h.closed e' he' wid' w' hrow₀ hid', List.mem_cons, or_iff_right]
      intro hevent
      refine hs.webhooks.apart wid w wid' w' hrow hrow₀ (Ne.symm hwid) ⟨?_, ?_⟩
      · rw [hid.1, hid'.1]
      · rw [hid.2, hid'.2, hevent]
  · intro e' he' happlied
    have hold : ∃ wid' w', db.webhooks.lookup wid' = some w' ∧
        w'.Identified history.provider e'.providerEventId := by
      rcases List.mem_cons.mp happlied with hevent | hold
      · exact ⟨wid, w, hrow, hid.1, hid.2.trans hevent.symm⟩
      · exact h.recorded e' he' hold
    obtain ⟨wid', w', hrow', hid'⟩ := hold
    obtain ⟨w₁, hrow₁⟩ := hkeeps.forth wid' w' hrow'
    obtain ⟨w₀, hrow₀, hcontinues⟩ := hkeeps.back wid' w₁ hrow₁
    cases Option.some.inj (hrow'.symm.trans hrow₀)
    exact ⟨wid', w₁, hrow₁, hcontinues.1.1.trans hid'.1, hcontinues.1.2.1.trans hid'.2⟩

/-- **Processing a record** follows the progress of the dispute. -/
theorem DisputeProgress.Stored.processed (h : progress.Stored history clock sys.db)
    (hg : progress.Grounded history) (hs : Platform.Reachable sys)
    (hrecordable : history.Recordable sys.db) {e : NormalizedDisputeWebhookEvent}
    (he : e ∈ history.events) (hrow : sys.db.webhooks.lookup wid = some w)
    (hid : w.Identified history.provider e.providerEventId)
    (hdispute : sys.db.disputes.lookup fresh.disputeId = none)
    (hreference : sys.db.disputes.any
      (fun _ d => d.publicReference == fresh.publicReference) = false)
    (hoccurred : e.occurredAt.getD now ≤ now) (hclock : clock ≤ now)
    (hafter : ((processVerifiedDisputeRecord wid fresh now).commit sys.db).Sound) :
    (progress.hear e).Stored history now
      ((processVerifiedDisputeRecord wid fresh now).commit sys.db) := by
  have hreports := h.reports e he wid w hrow hid
  have hstatus := h.closed e he wid w hrow hid
  unfold DisputeProgress.hear
  split_ifs with hheard hadmits
  · rw [commit_of_final hs.consistent.idle hrow (hstatus.mpr hheard)]
    exact h.later hclock
  · have hopen : w.processingStatus.isFinal = false := by simpa [hheard] using hstatus
    have hclosed := (Platform.processedDispute_closed_iff hs fresh now hrow hopen
      hreports.category).mpr ((h.processable_iff hg hrecordable he hrow hid hdispute hreference
        hoccurred hclock).mpr hadmits)
    -- a closed record was committed with its effect
    cases hrun : (processVerifiedDisputeRecord wid fresh now).run sys.db with
    | error error =>
      rw [show (processVerifiedDisputeRecord wid fresh now).commit sys.db = sys.db by
        simp [Program.commit, hrun]] at hclosed
      obtain ⟨w', hrow', hfinal⟩ := hclosed
      cases Option.some.inj (hrow.symm.trans hrow')
      rw [hopen] at hfinal
      cases hfinal
    | ok result =>
      obtain ⟨outcome, s⟩ := result
      have hkeeps := keepsRecords_processVerifiedDisputeRecord wid fresh now sys.db
      rw [commit_of_run hrun] at hclosed hafter hkeeps ⊢
      obtain ⟨p, a, hpayment, hprovider, -⟩ := hrecordable
      have hintent := hreports.intent.trans (history.intents e he)
      have href := hreports.ref.trans (congrArg some (history.refs e he))
      obtain ⟨id, d, hnamed, hd, houtcome, hopened⟩ := h.applied hg hafter he hheard hprovider
        ⟨hrow, hopen, href, hreports.status, hintent ▸ hpayment⟩ hreports.occurred hoccurred hclock
        (ensures_processedDispute_effect _ _ hrun)
      obtain ⟨hreported, hrecorded⟩ := h.closed_records hs.consistent.sound he hrow hid hkeeps
        (ensures_processedDispute_otherRecords _ _ hrun) hclosed
      refine ⟨fun hnone => absurd hnone (Option.some_ne_none _), ?_,
        fun e' he' wid' w' hrow' hid' => (hreported e' he' wid' w' hrow' hid').1,
        fun e' he' wid' w' hrow' hid' => (hreported e' he' wid' w' hrow' hid').2, hrecorded⟩
      rintro status ⟨⟩
      exact ⟨id, d, hnamed, hd, houtcome, hopened⟩
  · have hopen : w.processingStatus.isFinal = false := by simpa [hheard] using hstatus
    have hrejected : ¬((processVerifiedDisputeRecord wid fresh now).commit sys.db).Closed wid := by
      rw [Platform.processedDispute_closed_iff hs fresh now hrow hopen hreports.category,
        h.processable_iff hg hrecordable he hrow hid hdispute hreference hoccurred hclock]
      exact hadmits
    rw [commit_of_notClosed hrejected]
    exact h.later hclock

/-- The two transactions of a delivery. -/
theorem deliverDispute_of_stored {provider : PaymentProviderName} {id : WebhookId}
    {duplicate : Bool}
    (hrun : (storeVerifiedDisputeWebhook provider arrival.event arrival.freshRecord
      arrival.now).run db = .ok ((id, duplicate), s)) :
    db.deliverDispute provider arrival =
      (processVerifiedDisputeRecord id arrival.fresh arrival.now).commit s := by
  rw [Db.deliverDispute, hrun]

/-- Storing and processing an event are steps of the platform. -/
theorem Platform.Reachable.stored (hs : Platform.Reachable sys) {provider : PaymentProviderName}
    {event : NormalizedDisputeWebhookEvent} {result : WebhookId × Bool}
    (hrun : (storeVerifiedDisputeWebhook provider event wid now).run sys.db = .ok (result, s)) :
    Platform.Reachable (sys.withDb s) := by
  rw [← commit_of_run hrun]
  exact hs.step (a := .financial (.storeDispute provider event wid now)) trivial rfl

theorem Platform.Reachable.processed (hs : Platform.Reachable sys) (wid : WebhookId)
    (fresh : FreshDispute) (now : Time) :
    Platform.Reachable (sys.withDb ((processVerifiedDisputeRecord wid fresh now).commit sys.db)) :=
  hs.step (a := .financial (.processDispute wid fresh now)) trivial rfl

/-- The payment that an intent names stays the same. -/
theorem Db.paymentNamed_congr (h : s.attempts = db.attempts) (intent : ProviderRef) :
    s.paymentNamed intent = db.paymentNamed intent := by
  rw [Db.paymentNamed, h]
  rfl

theorem DisputeHistory.Recordable.congr (h : history.Recordable db)
    (hattempts : s.attempts = db.attempts) : history.Recordable s := by
  obtain ⟨p, a, hpayment, hrest⟩ := h
  exact ⟨p, a, (Db.paymentNamed_congr hattempts _).trans hpayment, hrest⟩

/-- **One delivery** follows the progress of the dispute. -/
theorem DisputeProgress.Stored.delivered (h : progress.Stored history clock sys.db)
    (hg : progress.Grounded history) (hs : Platform.Reachable sys)
    (hrecordable : history.Recordable sys.db) (he : arrival.event ∈ history.events)
    (hproper : arrival.Proper sys.db) (hclock : clock ≤ arrival.now) :
    ∃ sys', Platform.Reachable sys' ∧ sys'.db = sys.db.deliverDispute history.provider arrival ∧
      history.Recordable sys'.db ∧
      (progress.hear arrival.event).Stored history arrival.now sys'.db := by
  have hamount : 0 ≤ arrival.event.amountMinor := by
    obtain ⟨p, a, -, -, hpositive, -⟩ := hrecordable
    rw [history.amounts _ he]
    exact hpositive.le
  have hcommits : Commits (storeVerifiedDisputeWebhook history.provider arrival.event
      arrival.freshRecord arrival.now) sys.db fun _ _ => True :=
    commits_storeVerifiedDisputeWebhook hamount hproper.record
  obtain ⟨⟨id, duplicate⟩, s, hrun, -⟩ := hcommits
  have hreach := hs.stored hrun
  rw [deliverDispute_of_stored hrun]
  have hafter := hreach.processed id arrival.fresh arrival.now
  have hrecord : ∃ w, s.webhooks.lookup id = some w ∧
      w.Identified history.provider arrival.event.providerEventId ∧ s.disputes = sys.db.disputes ∧
      s.attempts = sys.db.attempts ∧ progress.Stored history clock s := by
    cases ensures_storeVerifiedDisputeWebhook _ _ hrun with
    | known w hsame hrow hid =>
      cases hsame
      exact ⟨w, hrow, hid, rfl, rfl, h⟩
    | added w hnew habsent hrow hunknown hid hreports hopen =>
      cases hnew
      cases hrow
      exact ⟨w, AList.lookup_insert _, hid, rfl, rfl,
        h.inserted he habsent hunknown hid hreports hopen⟩
  obtain ⟨w, hrow, hid, hdisputes, hattempts, hstored⟩ := hrecord
  refine ⟨_, hafter, rfl, ?_, ?_⟩
  · refine hrecordable.congr (Eq.trans ?_ hattempts)
    have htables : ((processVerifiedDisputeRecord id arrival.fresh arrival.now).commit
        s).refundTables = s.refundTables :=
      ensures_processedDispute_refundTables.commit rfl
    exact congrArg Prod.snd htables
  · replace hstored : progress.Stored history clock (sys.withDb s).db := hstored
    refine DisputeProgress.Stored.processed hstored hg hreach
      (hrecordable.congr hattempts) he hrow hid ?_ ?_ hproper.occurred hclock
      hafter.consistent.sound
    · exact hdisputes ▸ hproper.dispute
    · exact hdisputes ▸ hproper.reference

/-- The records of the events say what the events say. -/
def DisputeHistory.Reported (history : DisputeHistory) (db : Db) : Prop :=
  ∀ e ∈ history.events, ∀ wid w, db.webhooks.lookup wid = some w →
    w.Identified history.provider e.providerEventId → w.Reports e

/-- **A dispute that cannot be recorded** stays unknown. -/
theorem unnamed_processed (hs : Platform.Reachable sys) (hrecordable : ¬history.Recordable sys.db)
    (hunnamed : sys.db.disputeNamed history.provider history.ref = none)
    {e : NormalizedDisputeWebhookEvent} (he : e ∈ history.events)
    (hrow : sys.db.webhooks.lookup wid = some w) (hreports : w.Reports e) :
    ((processVerifiedDisputeRecord wid fresh now).commit sys.db).disputeNamed history.provider
      history.ref = none := by
  have hkept : ∀ {s : Db} {id : DisputeId} {d : PaymentDispute},
      s.disputes = sys.db.disputes.insert id d → d.provider ≠ history.provider →
      s.disputeNamed history.provider history.ref = none := by
    intro s id d hrows hother
    rw [Db.disputeNamed_eq_none] at hunnamed ⊢
    intro id' d' hd'
    rw [hrows] at hd'
    rcases Table.wrote_insert.cases hd' with ⟨-, rfl⟩ | ⟨-, hold⟩
    · exact fun hsame => hother hsame.1
    · exact hunnamed id' d' hold
  have href := hreports.ref.trans (congrArg some (history.refs e he))
  -- a known dispute of this payment is one of another provider
  have hforeign : ∀ {w' ref' incoming p a id d}, sys.db.Hears wid w' ref' incoming p a →
      sys.db.disputeNamed a.provider ref' = some (id, d) → d.provider ≠ history.provider := by
    intro w' ref' incoming p a id d hheard hnamed hprovider
    cases Option.some.inj (hrow.symm.trans hheard.record)
    cases Option.some.inj (href.symm.trans hheard.reference)
    rw [← (Db.lookup_of_disputeNamed hnamed).2.1, hprovider, hunnamed] at hnamed
    cases hnamed
  have heffect : Ensures (processVerifiedDisputeRecord wid fresh now) sys.db fun _ s =>
      s.disputeNamed history.provider history.ref = none := by
    intro outcome s hrun
    cases ensures_processedDispute_effect _ _ hrun with
    | quiet hbooks _ =>
      rw [← hunnamed, Db.disputeNamed, show s.disputes = sys.db.disputes from
        congrArg DisputeBooks.disputes hbooks]
      rfl
    | opened w' ref' incoming p a bookingId hheard hclosed hunnamed' hbooking habsent hbooks =>
      refine hkept ((congrArg DisputeBooks.disputes hbooks).trans
        DisputeConsequenceInput.disputes_books) fun hprovider => hrecordable ?_
      replace hprovider : a.provider = history.provider := hprovider
      cases Option.some.inj (hrow.symm.trans hheard.record)
      -- what is closed was processable, so the dispute could be opened
      have hprocessable := (Platform.processedDispute_closed_iff hs fresh now hrow hheard.opened
        hreports.category).mp (by rwa [commit_of_run hrun])
      have hopens := hprocessable ref' hheard.reference incoming hheard.incoming
      rw [DisputeEventInput.Processable,
        show (w.disputeInput wid ref' incoming now).providerIntentId
        = w.providerIntentId from rfl, hheard.payment] at hopens
      dsimp only at hopens
      rw [show sys.db.disputeNamed a.provider
        (w.disputeInput wid ref' incoming now).providerDisputeId = none from hunnamed'] at hopens
      have hamount := hreports.amount.trans (history.amounts e he)
      refine ⟨p, a, ?_, hprovider, hamount ▸ hopens.positive, hamount ▸ hopens.covered, ?_⟩
      · rw [← hheard.payment, hreports.intent, history.intents e he]
      · exact (hreports.currency.trans (history.currencies e he)).symm.trans hopens.currency
    | escalated w' ref' incoming p a id d code hheard hclosed hnamed hdecision hbooks =>
      have hother := hforeign hheard hnamed
      exact hkept (congrArg DisputeBooks.disputes hbooks) hother
    | advanced w' ref' incoming p a id d outcome hheard hclosed hnamed hdecision hbooks =>
      have hother := hforeign hheard hnamed
      exact hkept ((congrArg DisputeBooks.disputes hbooks).trans
        DisputeConsequenceInput.disputes_books) hother
  exact heffect.commit hunnamed

/-- One delivery of an event whose dispute cannot be recorded. -/
theorem unnamed_delivered (hs : Platform.Reachable sys) (hrecordable : ¬history.Recordable sys.db)
    (hunnamed : sys.db.disputeNamed history.provider history.ref = none)
    (hreported : history.Reported sys.db) (he : arrival.event ∈ history.events) :
    ∃ sys', Platform.Reachable sys' ∧ sys'.db = sys.db.deliverDispute history.provider arrival ∧
      ¬history.Recordable sys'.db ∧
      sys'.db.disputeNamed history.provider history.ref = none ∧ history.Reported sys'.db := by
  cases hrun : (storeVerifiedDisputeWebhook history.provider arrival.event arrival.freshRecord
      arrival.now).run sys.db with
  | error error =>
    refine ⟨sys, hs, ?_, hrecordable, hunnamed, hreported⟩
    rw [Db.deliverDispute, hrun]
  | ok result =>
    obtain ⟨⟨id, duplicate⟩, s⟩ := result
    have hreach := hs.stored hrun
    rw [deliverDispute_of_stored hrun]
    have hrecord : ∃ w, s.webhooks.lookup id = some w ∧ w.Reports arrival.event ∧
        s.disputes = sys.db.disputes ∧ s.attempts = sys.db.attempts ∧ history.Reported s := by
      cases ensures_storeVerifiedDisputeWebhook _ _ hrun with
      | known w hsame hrow hid =>
        cases hsame
        exact ⟨w, hrow, hreported _ he id w hrow hid, rfl, rfl, hreported⟩
      | added w hnew habsent hrow hunknown hid hreports hopen =>
        cases hnew
        cases hrow
        refine ⟨w, AList.lookup_insert _, hreports, rfl, rfl, fun e' he' wid' w' hrow' hid' => ?_⟩
        rcases Table.wrote_insert.cases hrow' with ⟨-, rfl⟩ | ⟨-, hold⟩
        · rwa [history.eq_of_id he' he (hid'.2.symm.trans hid.2)]
        · exact hreported e' he' wid' w' hold hid'
    obtain ⟨w, hrow, hreports, hdisputes, hattempts, hreported'⟩ := hrecord
    have hunrecordable : ¬history.Recordable s := fun h => hrecordable (h.congr hattempts.symm)
    have hunnamed' : s.disputeNamed history.provider history.ref = none := by
      rw [← hunnamed, Db.disputeNamed, hdisputes]
      rfl
    have htables : ((processVerifiedDisputeRecord id arrival.fresh arrival.now).commit
        s).refundTables = s.refundTables :=
      ensures_processedDispute_refundTables.commit rfl
    refine ⟨_, hreach.processed id arrival.fresh arrival.now, rfl, fun h => hunrecordable ?_,
      unnamed_processed hreach hunrecordable hunnamed' he hrow hreports, ?_⟩
    · exact h.congr (congrArg Prod.snd htables).symm
    · intro e' he' wid' w' hrow' hid'
      obtain ⟨w₀, hrow₀, hcontinues⟩ :=
        (keepsRecords_processVerifiedDisputeRecord id arrival.fresh arrival.now s).back
          wid' w' hrow'
      exact (hreported' e' he' wid' w₀ hrow₀ ⟨hcontinues.1.1.symm.trans hid'.1,
        hcontinues.1.2.1.symm.trans hid'.2⟩).continues hcontinues

end Delivery

/-! ## §6 All orders -/

section Orders

variable {sys : FinancialSystem} {db : Db} {history : DisputeHistory}

/-- **Any run of deliveries** follows the progress of the dispute. -/
theorem stored_deliverDisputes {progress : DisputeProgress} {clock : Time}
    {arrivals : List DisputeArrival} (h : progress.Stored history clock sys.db)
    (hg : progress.Grounded history) (hs : Platform.Reachable sys)
    (hrecordable : history.Recordable sys.db)
    (hevents : ∀ arrival ∈ arrivals, arrival.event ∈ history.events)
    (hproper : ProperDeliveries history.provider clock sys.db arrivals) :
    ∃ clock', ((arrivals.map (·.event)).foldl DisputeProgress.hear progress).Stored history clock'
      (sys.db.deliverDisputes history.provider arrivals) := by
  induction arrivals generalizing sys progress clock with
  | nil => exact ⟨clock, h⟩
  | cons arrival arrivals ih =>
    obtain ⟨hclock, harrival, hrest⟩ := hproper
    have he := hevents arrival List.mem_cons_self
    obtain ⟨sys', hs', hdb, hrecordable', h'⟩ := h.delivered hg hs hrecordable he harrival hclock
    rw [← hdb] at hrest
    obtain ⟨clock', hfinal⟩ := ih h' (hg.hear he) hs' hrecordable'
      (fun a ha => hevents a (List.mem_cons_of_mem _ ha)) hrest
    refine ⟨clock', ?_⟩
    rw [Db.deliverDisputes, ← hdb]
    exact hfinal

theorem unnamed_deliverDisputes {arrivals : List DisputeArrival} (hs : Platform.Reachable sys)
    (hrecordable : ¬history.Recordable sys.db)
    (hunnamed : sys.db.disputeNamed history.provider history.ref = none)
    (hreported : history.Reported sys.db)
    (hevents : ∀ arrival ∈ arrivals, arrival.event ∈ history.events) :
    (sys.db.deliverDisputes history.provider arrivals).disputeNamed history.provider history.ref =
      none := by
  induction arrivals generalizing sys with
  | nil => exact hunnamed
  | cons arrival arrivals ih =>
    obtain ⟨sys', hs', hdb, hrecordable', hunnamed', hreported'⟩ :=
      unnamed_delivered hs hrecordable hunnamed hreported (hevents arrival List.mem_cons_self)
    rw [Db.deliverDisputes, ← hdb]
    exact ih hs' hrecordable' hunnamed' hreported'
      fun a ha => hevents a (List.mem_cons_of_mem _ ha)

/-- Unused identifiers can always be generated. -/
theorem exists_proper (event : NormalizedDisputeWebhookEvent) {now : Time}
    (hoccurred : event.occurredAt.getD now ≤ now) (db : Db) :
    ∃ arrival : DisputeArrival, arrival.event = event ∧ arrival.now = now ∧ arrival.Proper db := by
  have hunused : ∀ ids : List Nat, ∃ id, id ∉ ids := fun ids => by
    obtain ⟨id, hid⟩ := Infinite.exists_notMem_finset ids.toFinset
    exact ⟨id, fun hmem => hid (List.mem_toFinset.mpr hmem)⟩
  obtain ⟨record, hrecord⟩ := hunused db.webhooks.keys
  obtain ⟨dispute, hdispute⟩ := hunused db.disputes.keys
  obtain ⟨reference, hreference⟩ := hunused (db.disputes.rows.map fun row => row.2.publicReference)
  refine ⟨{ event := event, freshRecord := record, now := now
            fresh := { disputeId := dispute, publicReference := reference } }, rfl, rfl, ?_⟩
  refine ⟨AList.lookup_eq_none.mpr hrecord, AList.lookup_eq_none.mpr hdispute, ?_, hoccurred⟩
  rw [Bool.eq_false_iff]
  intro hany
  obtain ⟨id, d, hd, hsame⟩ := Table.any_eq_true.mp hany
  exact hreference (List.mem_map.mpr ⟨(id, d), Table.mem_rows.mpr hd, eq_of_beq hsame⟩)

/-- Events can be delivered in any order. -/
theorem exists_properDeliveries (provider : PaymentProviderName) (now : Time)
    {events : List NormalizedDisputeWebhookEvent}
    (hoccurred : ∀ e ∈ events, e.occurredAt.getD now ≤ now) (db : Db) :
    ∃ arrivals : List DisputeArrival, arrivals.map (·.event) = events ∧
      ProperDeliveries provider now db arrivals := by
  induction events generalizing db with
  | nil => exact ⟨[], rfl, trivial⟩
  | cons e events ih =>
    obtain ⟨arrival, rfl, hnow, hproper⟩ := exists_proper e (hoccurred e List.mem_cons_self) db
    obtain ⟨arrivals, rfl, hrest⟩ := ih (fun e' he' => hoccurred e' (List.mem_cons_of_mem _ he'))
      (db.deliverDispute provider arrival)
    refine ⟨arrival :: arrivals, rfl, hnow.ge, hproper, ?_⟩
    rw [hnow]
    exact hrest

namespace DisputeHistory

/-- Every event of the dispute is delivered, in some order and any number of times. -/
structure Delivery (history : DisputeHistory) (db : Db)
    (arrivals : List DisputeArrival) : Prop where
  covers : history.Covers (arrivals.map (·.event))
  proper : ∃ clock, ProperDeliveries history.provider clock db arrivals

/-- All orders of delivery, the provider's own among them, end with one status and outcome. -/
def OrderIndependent (history : DisputeHistory) (db : Db) : Prop :=
  ∀ arrivals arrivals', history.Delivery db arrivals → history.Delivery db arrivals' →
    (db.deliverDisputes history.provider arrivals).disputeState history.provider history.ref =
      (db.deliverDisputes history.provider arrivals').disputeState history.provider history.ref

theorem Unheard.stored (h : history.Unheard db) (clock : Time) :
    DisputeProgress.Stored {} history clock db where
  absent _ := h.dispute
  present _ hstatus := nomatch hstatus
  reports e he wid w hrow hid := absurd hid (h.records e he wid w hrow)
  closed e he wid w hrow hid := absurd hid (h.records e he wid w hrow)
  recorded _ _ happlied := nomatch happlied

/-- What is delivered ends as the progress of the dispute says. -/
theorem disputeState_delivered (hs : Platform.Reachable sys) (h : history.Unheard sys.db)
    (hrecordable : history.Recordable sys.db) {arrivals : List DisputeArrival}
    (hdelivery : history.Delivery sys.db arrivals) :
    (sys.db.deliverDisputes history.provider arrivals).disputeState history.provider history.ref =
      (DisputeProgress.hearAll (arrivals.map (·.event))).status.map fun status =>
        (status, outcomeForTerminalStatus status) := by
  obtain ⟨clock, hproper⟩ := hdelivery.proper
  obtain ⟨clock', hstored⟩ := stored_deliverDisputes (h.stored clock)
    DisputeProgress.grounded_start hs hrecordable
    (fun a ha => hdelivery.covers.only _ (List.mem_map_of_mem ha)) hproper
  exact hstored.disputeState

/-- **When the delivery order does not matter.** In every reachable state that knows nothing of
the dispute yet, all orders of delivery agree exactly when the dispute cannot be recorded, was
won or lost, or has one status only. -/
theorem orderIndependent_iff (hs : Platform.Reachable sys) (h : history.Unheard sys.db) :
    history.OrderIndependent sys.db ↔
      ¬history.Recordable sys.db ∨ history.Concluded ∨ history.Uniform := by
  constructor
  · intro hindependent
    by_contra hnone
    rw [not_or, not_or, not_not] at hnone
    obtain ⟨hrecordable, hopen, hmixed⟩ := hnone
    unfold Uniform at hmixed
    push Not at hmixed
    obtain ⟨e, he, e', he', hclosed, hclosed', hne⟩ := hmixed
    -- a time when everything has happened
    obtain ⟨now, hnow⟩ : ∃ now : Time, ∀ e ∈ history.events, e.occurredAt.getD now ≤ now := by
      obtain ⟨now, hnow⟩ := (history.events.filterMap (·.occurredAt)).toFinset.exists_le
      refine ⟨now, fun e he => ?_⟩
      cases htime : e.occurredAt with
      | none => exact le_refl now
      | some time =>
        exact hnow time (List.mem_toFinset.mpr (List.mem_filterMap.mpr ⟨e, he, htime⟩))
    have hlast : ∀ e ∈ history.events, e.status ≠ .CLOSED → ∃ arrivals,
        history.Delivery sys.db arrivals ∧
          (sys.db.deliverDisputes history.provider arrivals).disputeState history.provider
            history.ref = some (e.status, outcomeForTerminalStatus e.status) := by
      intro e he hclosed
      have hcovers := covers_endingWith he
      obtain ⟨arrivals, hevents, hproper⟩ := exists_properDeliveries history.provider now
        (fun e' he' => hnow e' (hcovers.only e' he')) sys.db
      have hdelivery : history.Delivery sys.db arrivals := ⟨hevents ▸ hcovers, now, hproper⟩
      refine ⟨arrivals, hdelivery, ?_⟩
      rw [disputeState_delivered hs h hrecordable hdelivery, hevents,
        status_endingWith hopen hclosed]
      rfl
    obtain ⟨arrivals, hdelivery, hstate⟩ := hlast e he hclosed
    obtain ⟨arrivals', hdelivery', hstate'⟩ := hlast e' he' hclosed'
    have hequal := hindependent arrivals arrivals' hdelivery hdelivery'
    rw [hstate, hstate'] at hequal
    exact hne (congrArg Prod.fst (Option.some.inj hequal))
  · intro hcondition arrivals arrivals' hdelivery hdelivery'
    by_cases hrecordable : history.Recordable sys.db
    · rw [disputeState_delivered hs h hrecordable hdelivery,
        disputeState_delivered hs h hrecordable hdelivery']
      refine congrArg (Option.map _) ?_
      rcases hcondition with hnot | hconcluded | huniform
      · exact absurd hrecordable hnot
      · exact status_eq_of_concluded hconcluded hdelivery.covers hdelivery'.covers
      · exact status_eq_of_uniform huniform hdelivery.covers hdelivery'.covers
    · have hnone : ∀ arrivals, history.Delivery sys.db arrivals →
          (sys.db.deliverDisputes history.provider arrivals).disputeState history.provider
            history.ref = none := by
        intro arrivals hdelivery
        rw [Db.disputeState, unnamed_deliverDisputes hs hrecordable h.dispute
          (fun e he wid w hrow hid => absurd hid (h.records e he wid w hrow))
          fun a ha => hdelivery.covers.only _ (List.mem_map_of_mem ha)]
        rfl
      rw [hnone arrivals hdelivery, hnone arrivals' hdelivery']

/-- What a provider says about the captured payment, at one time. -/
def capturedEvent (id : ProviderRef) (status : DisputeStatus) (time : Time) :
    NormalizedDisputeWebhookEvent :=
  { providerEventId := id, providerIntentId := 7, providerDisputeId := 5, status := status
    amountMinor := 1000, currency := .USD, occurredAt := some time }

/-- A dispute of the captured payment is opened and then comes to another status. -/
def capturedDispute (status : DisputeStatus) (h : status ≠ .REQUIRES_REVIEW) :
    DisputeHistory where
  provider := .STRIPE
  intent := 7
  ref := 5
  amountMinor := 1000
  currency := .USD
  events := [capturedEvent 1 .OPEN 2000, capturedEvent 2 status 2100]
  intents := by simp [capturedEvent]
  refs := by simp [capturedEvent]
  amounts := by simp [capturedEvent]
  currencies := by simp [capturedEvent]
  timed := by simp [capturedEvent]
  distinct := by simp [capturedEvent]
  normalized := by simp [capturedEvent, h]
  oneTerminal := by simp [capturedEvent, isTerminalDisputeStatus]

theorem unheard_capturedDispute (status : DisputeStatus) (h : status ≠ .REQUIRES_REVIEW) :
    (capturedDispute status h).Unheard FinancialSystem.capturedFinances.db where
  dispute := rfl
  records _ _ wid _ hw := nomatch (AList.lookup_empty wid).symm.trans hw

/-- In whatever order its events arrive, a dispute that is won ends as won. -/
theorem orderIndependent_won :
    (capturedDispute .WON (by decide)).Recordable FinancialSystem.capturedFinances.db ∧
      (capturedDispute .WON (by decide)).OrderIndependent FinancialSystem.capturedFinances.db := by
  constructor
  · have hpayment : (FinancialSystem.capturedFinances.db.paymentNamed 7).any (fun found =>
        found.2.provider == .STRIPE && found.2.amountMinor == 1000 && found.2.currency == .USD) =
          true := by
      decide +kernel
    obtain ⟨⟨p, a⟩, hnamed, hall⟩ := (Option.any_eq_true _ _).mp hpayment
    simp only [Bool.and_eq_true, beq_iff_eq] at hall
    obtain ⟨⟨hprovider, hamount⟩, hcurrency⟩ := hall
    exact ⟨p, a, hnamed, hprovider, by decide, hamount.ge, hcurrency.symm⟩
  · refine (orderIndependent_iff Platform.capturedFinances_reachable
      (unheard_capturedDispute .WON (by decide))).mpr (.inr (.inl ?_))
    exact ⟨capturedEvent 2 .WON 2100, by simp [capturedDispute], .inl rfl⟩

/-- Two deliveries, one after the other. -/
def twoArrivals (first second : NormalizedDisputeWebhookEvent) : List DisputeArrival :=
  [{ event := first, freshRecord := 9, fresh := { disputeId := 1, publicReference := 1 }
     now := 2200 },
    { event := second, freshRecord := 10, fresh := { disputeId := 2, publicReference := 2 }
      now := 2300 }]

/-- The review is reported before the dispute's opening: the dispute ends as opened. -/
theorem orderDependent_underReview :
    (capturedDispute .UNDER_REVIEW (by decide)).Unheard FinancialSystem.capturedFinances.db ∧
      ¬(capturedDispute .UNDER_REVIEW (by decide)).OrderIndependent
        FinancialSystem.capturedFinances.db := by
  refine ⟨unheard_capturedDispute .UNDER_REVIEW (by decide), fun h => ?_⟩
  let opens := capturedEvent 1 .OPEN 2000
  let moves := capturedEvent 2 .UNDER_REVIEW 2100
  have hinOrder : (capturedDispute .UNDER_REVIEW (by decide)).Delivery
      FinancialSystem.capturedFinances.db (twoArrivals opens moves) := by
    refine ⟨⟨fun _ h => h, fun _ h => h⟩, 0, by decide, ⟨rfl, rfl, rfl, by decide⟩, by decide,
      ⟨?_, ?_, ?_, by decide⟩, trivial⟩ <;> decide +kernel
  have hlate : (capturedDispute .UNDER_REVIEW (by decide)).Delivery
      FinancialSystem.capturedFinances.db (twoArrivals moves opens) := by
    refine ⟨⟨?_, ?_⟩, 0, by decide, ⟨rfl, rfl, rfl, by decide⟩, by decide,
      ⟨?_, ?_, ?_, by decide⟩, trivial⟩
    · intro e he
      simpa [twoArrivals, capturedDispute, or_comm] using he
    · intro e he
      simpa [twoArrivals, capturedDispute, or_comm] using he
    all_goals decide +kernel
  have hequal := h _ _ hinOrder hlate
  revert hequal
  decide +kernel

end DisputeHistory

end Orders

end SeatFlow
