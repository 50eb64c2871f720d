import SeatFlow.Commerce.CommerceWrites
import SeatFlow.Commerce.WebhookWrites
import SeatFlow.Refunds.OverRefund
import SeatFlow.Disputes.DisputeService
import SeatFlow.Relational.Queue

/-!
# Replaying stuck webhooks

`reconcileUnprocessedWebhooks` of `reconciliation-service` takes the oldest verified records
without an outcome and processes the payments among them again. The batch is cut before the
other categories are left out, and what fails keeps its place, so a payment can count on being
attempted only when fewer than a batch of other records are as old.
-/

namespace SeatFlow

open Relational Program Entity

/-! ## §1 The replay -/

structure WebhookReplayOptions where
  batchSize : Nat := 50
  olderThanSeconds : Int := 60

structure WebhookReplayResult where
  inspected : Nat
  reprocessed : Nat
  failed : Nat
  deriving DecidableEq

/-- A verified record without an outcome. -/
def PaymentWebhookEvent.unprocessed (w : PaymentWebhookEvent) : Bool :=
  w.signatureStatus == .VERIFIED &&
    (w.processingStatus == .RECEIVED || w.processingStatus == .FAILED)

def replayCutoff (options : WebhookReplayOptions) (now : Time) : Time :=
  now - options.olderThanSeconds * 1000

/-- What the query selects. -/
def PaymentWebhookEvent.stuck (options : WebhookReplayOptions) (now : Time)
    (w : PaymentWebhookEvent) : Bool :=
  w.unprocessed && decide (w.receivedAt ≤ replayCutoff options now)

/-- A batch that the query may return: it sorts by the time of receipt, and records received
at one time come in any order. -/
def StuckWebhooks (options : WebhookReplayOptions) (now : Time) (db : Db)
    (stuck : List (WebhookId × PaymentWebhookEvent)) : Prop :=
  ∃ queue : List (WebhookId × PaymentWebhookEvent),
    queue.Perm (db.webhooks.select fun _ w => w.stuck options now) ∧
    queue.Pairwise (fun a b => a.2.receivedAt ≤ b.2.receivedAt) ∧
    stuck = queue.take options.batchSize

/-- A call: the batch that its query has returned, the ids generated for new bookings, and
the records whose transactions fail by themselves, whatever they would do. -/
structure ReplayCall where
  now : Time
  stuck : List (WebhookId × PaymentWebhookEvent)
  fresh : WebhookId → FreshBooking
  aborted : WebhookId → Bool

/-- One `processVerifiedWebhookRecord` of the call, and whether it throws. -/
def ReplayCall.process (call : ReplayCall) (id : WebhookId) (db : Db) : Bool × Db :=
  if call.aborted id then (true, (markWebhookRetryable id).commit db)
  else
    let throws :=
      match (processInTransaction id (call.fresh id) call.now).run db with
      | .ok _ => false
      | .error _ => true
    (throws, processVerifiedWebhookRecord id (call.fresh id) call.now db)

/-- The loop over the batch. -/
def replayRecords (call : ReplayCall) :
    List (WebhookId × PaymentWebhookEvent) → WebhookReplayResult → Db → WebhookReplayResult × Db
  | [], result, db => (result, db)
  | (id, webhook) :: rest, result, db =>
      if webhook.eventCategory ≠ .PAYMENT then replayRecords call rest result db
      else
        let (throws, db) := call.process id db
        let result :=
          if throws then { result with failed := result.failed + 1 }
          else { result with reprocessed := result.reprocessed + 1 }
        replayRecords call rest result db

def reconcileUnprocessedWebhooks (call : ReplayCall) (db : Db) : WebhookReplayResult × Db :=
  let inspected := call.stuck.length
  replayRecords call call.stuck { inspected := inspected, reprocessed := 0, failed := 0 } db

/-- One call after another. -/
structure Replay (options : WebhookReplayOptions) (db : Db) where
  call : Nat → ReplayCall
  state : Nat → Db
  start : state 0 = db
  selects : ∀ n, StuckWebhooks options (call n).now (state n) (call n).stuck
  steps : ∀ n, state (n + 1) = (reconcileUnprocessedWebhooks (call n) (state n)).2

/-- Call `n` processes the record. -/
def Replay.Attempts {options : WebhookReplayOptions} {db : Db} (replay : Replay options db)
    (n : Nat) (id : WebhookId) : Prop :=
  ∃ w, (id, w) ∈ (replay.call n).stuck ∧ w.eventCategory = .PAYMENT

/-! ## §2 What processing leaves of the records -/

/-- The later version of a record: the envelope is the same, and an outcome is kept. -/
def PaymentWebhookEvent.Continues (w w' : PaymentWebhookEvent) : Prop :=
  SameEnvelope w w' ∧ (w.processingStatus.isFinal → w'.processingStatus = w.processingStatus)

/-- Records are neither created nor deleted, and each continues. -/
structure Db.KeepsRecords (s s' : Db) : Prop where
  back : ∀ id w', s'.webhooks.lookup id = some w' →
    ∃ w, s.webhooks.lookup id = some w ∧ w.Continues w'
  forth : ∀ id w, s.webhooks.lookup id = some w → ∃ w', s'.webhooks.lookup id = some w'

variable {s s' s'' : Db}

theorem PaymentWebhookEvent.continues_refl (w : PaymentWebhookEvent) : w.Continues w :=
  ⟨⟨rfl, rfl, rfl, rfl, rfl, rfl, rfl, rfl, rfl, rfl, rfl, rfl, rfl, rfl, rfl⟩, fun _ => rfl⟩

theorem PaymentWebhookEvent.Continues.trans {w w' w'' : PaymentWebhookEvent}
    (h : w.Continues w') (h' : w'.Continues w'') : w.Continues w'' := by
  refine ⟨SameEnvelope.trans h.1 h'.1, fun hfinal => ?_⟩
  have hkept := h.2 hfinal
  rw [← hkept] at hfinal ⊢
  exact h'.2 hfinal

theorem PaymentWebhookEvent.continues_of_validate {db : Db} {id : WebhookId}
    {old new : PaymentWebhookEvent} (h : validate db id (some old) new = .ok ()) :
    old.Continues new := by
  refine ⟨sameEnvelope_of_validate h, fun hfinal => ?_⟩
  simp only [validate, protectEnvelope, Except.bind_unit_eq_ok, check_eq_ok] at h
  exact h.2.2.2.2.2.2.2.2 hfinal

theorem Db.KeepsRecords.of_eq (h : s'.webhooks = s.webhooks) : s.KeepsRecords s' where
  back id w' hw' := ⟨w', by rw [← h]; exact hw', w'.continues_refl⟩
  forth id w hw := ⟨w, by rw [h]; exact hw⟩

theorem Db.KeepsRecords.trans (h : s.KeepsRecords s') (h' : s'.KeepsRecords s'') :
    s.KeepsRecords s'' where
  back id w'' hw'' := by
    obtain ⟨w', hw', hlast⟩ := h'.back id w'' hw''
    obtain ⟨w, hw, hfirst⟩ := h.back id w' hw'
    exact ⟨w, hw, hfirst.trans hlast⟩
  forth id w hw := by
    obtain ⟨w', hw'⟩ := h.forth id w hw
    exact h'.forth id w' hw'

theorem Db.KeepsRecords.insert {id : WebhookId} {old new : PaymentWebhookEvent}
    (hold : s.webhooks.lookup id = some old) (h : old.Continues new) :
    s.KeepsRecords { s with webhooks := s.webhooks.insert id new } where
  back k w' hw' := by
    by_cases hk : k = id
    · subst hk
      obtain rfl := Option.some.inj ((AList.lookup_insert _).symm.trans hw')
      exact ⟨old, hold, h⟩
    · exact ⟨w', (AList.lookup_insert_ne hk).symm.trans hw', w'.continues_refl⟩
  forth k w hw := by
    by_cases hk : k = id
    · subst hk
      exact ⟨new, AList.lookup_insert _⟩
    · exact ⟨w, (AList.lookup_insert_ne hk).trans hw⟩

theorem Db.KeepsRecords.updates {p : WebhookId → PaymentWebhookEvent → Bool}
    {f : WebhookId → PaymentWebhookEvent → PaymentWebhookEvent}
    (h : ∀ id w, s.webhooks.lookup id = some w → p id w = true → w.Continues (f id w)) :
    s.KeepsRecords { s with webhooks := s.webhooks.putAll (s.webhooks.updates p f) } where
  back k w' hw' := by
    replace hw' := (Table.lookup_putAll_updates p f s.webhooks k).symm.trans hw'
    obtain ⟨w, hw, rfl⟩ := Option.map_eq_some_iff.mp hw'
    refine ⟨w, hw, ?_⟩
    split
    · next hp => exact h k w hw hp
    · exact w.continues_refl
  forth k w hw := by
    refine ⟨if p k w then f k w else w, (Table.lookup_putAll_updates p f s.webhooks k).trans ?_⟩
    rw [hw]
    rfl

theorem keepsRecords_of_steps (h : Relation.ReflTransGen Db.KeepsRecords s s') :
    s.KeepsRecords s' := by
  induction h with
  | refl => exact .of_eq rfl
  | tail _ hlast ih => exact ih.trans hlast

theorem paymentWrites_keepsRecords : PaymentWrites (fun _ => True) Db.KeepsRecords where
  hold := fun _ _ _ _ => .of_eq rfl
  holds := fun _ _ _ _ => .of_eq rfl
  inventory := fun _ _ _ _ => .of_eq rfl
  order := fun _ _ _ _ => steps_update fun _ _ _ _ => .of_eq rfl
  attempt := fun _ _ _ _ _ => steps_update fun _ _ _ _ => .of_eq rfl
  webhook := fun _ _ _ _ => steps_update fun _ _ hrow hvalid =>
    .insert hrow (PaymentWebhookEvent.continues_of_validate hvalid)
  booking := fun _ _ _ => steps_insert fun _ _ _ => .of_eq rfl
  bookingSeats := fun _ _ _ => steps_update fun _ _ _ _ => .of_eq rfl
  issuance := fun _ _ _ _ => .of_eq rfl
  outbox := fun _ _ _ _ => .of_eq rfl
  queue := fun trigger s => by
    refine ensures_perform.mpr ?_
    rintro eff ⟨⟩
    exact .single (.of_eq rfl)

/-- Processing a record keeps the envelopes and the outcomes of all. -/
theorem keepsRecords_processVerifiedWebhookRecord (wid : WebhookId) (fresh : FreshBooking)
    (now : Time) (db : Db) : db.KeepsRecords (processVerifiedWebhookRecord wid fresh now db) := by
  refine keepsRecords_of_steps ?_
  have hprocess := paymentWrites_keepsRecords.ensures_processInTransaction (s := db)
    (committing_of_queue fun _ => .of_eq rfl) wid fresh now fun _ _ _ _ => trivial
  unfold processVerifiedWebhookRecord
  split
  · next db' hrun => exact hprocess _ _ hrun
  · exact .refl
  · refine ((?_ : Steps Db.KeepsRecords _).bind fun _ => steps_pure).commit db
    exact steps_updateMany fun s hvalid => .updates fun k w hrow hp =>
      PaymentWebhookEvent.continues_of_validate (hvalid k w hrow hp)

theorem keepsRecords_markWebhookRetryable (wid : WebhookId) (db : Db) :
    db.KeepsRecords ((markWebhookRetryable wid).commit db) := by
  refine keepsRecords_of_steps (Steps.commit ?_ db)
  refine Steps.bind (steps_updateMany fun s hvalid => ?_) fun _ => steps_pure
  exact .updates fun k w hrow hp => PaymentWebhookEvent.continues_of_validate (hvalid k w hrow hp)

theorem lookup_webhooks_markWebhookRetryable {wid id : WebhookId} (hid : id ≠ wid) (db : Db) :
    ((markWebhookRetryable wid).commit db).webhooks.lookup id = db.webhooks.lookup id := by
  refine Ensures.commit (Q := fun s' : Db => s'.webhooks.lookup id = db.webhooks.lookup id) ?_ rfl
  refine ensures_bind.mpr (ensures_updateMany.mpr fun _ => ensures_pure.mpr ?_)
  refine (Table.lookup_putAll_updates _ _ db.webhooks id).trans ?_
  simp [hid]

theorem ReplayCall.keepsRecords_process (call : ReplayCall) (id : WebhookId) (db : Db) :
    db.KeepsRecords (call.process id db).2 := by
  unfold process
  split
  · exact keepsRecords_markWebhookRetryable id db
  · exact keepsRecords_processVerifiedWebhookRecord id (call.fresh id) call.now db

theorem ReplayCall.lookup_webhooks_process {wid id : WebhookId} (hid : id ≠ wid)
    (call : ReplayCall) (db : Db) :
    (call.process wid db).2.webhooks.lookup id = db.webhooks.lookup id := by
  unfold process
  split
  · exact lookup_webhooks_markWebhookRetryable hid db
  · exact lookup_webhooks_processed hid _ _ db

/-- The loop keeps the envelopes and outcomes too, and leaves what it does not process. -/
theorem replayRecords_records (call : ReplayCall) (batch : List (WebhookId × PaymentWebhookEvent))
    (result : WebhookReplayResult) (db : Db) :
    db.KeepsRecords (replayRecords call batch result db).2 ∧
      ∀ id, (∀ w, (id, w) ∈ batch → w.eventCategory ≠ .PAYMENT) →
        (replayRecords call batch result db).2.webhooks.lookup id = db.webhooks.lookup id := by
  induction batch generalizing result db with
  | nil => exact ⟨.of_eq rfl, fun _ _ => rfl⟩
  | cons record rest ih =>
      obtain ⟨wid, webhook⟩ := record
      rw [replayRecords]
      split
      · obtain ⟨hkeeps, hothers⟩ := ih result db
        exact ⟨hkeeps, fun id hid => hothers id fun w hw => hid w (List.mem_cons_of_mem _ hw)⟩
      · rename_i hpayment
        obtain ⟨hkeeps, hothers⟩ := ih _ (call.process wid db).2
        refine ⟨(call.keepsRecords_process wid db).trans hkeeps, fun id hid => ?_⟩
        have hne : id ≠ wid := by
          rintro rfl
          exact hpayment (hid webhook List.mem_cons_self)
        exact (hothers id fun w hw => hid w (List.mem_cons_of_mem _ hw)).trans
          (call.lookup_webhooks_process hne db)

/-! ## §3 The older records -/

theorem PaymentWebhookEvent.unprocessed_iff {w : PaymentWebhookEvent} :
    w.unprocessed ↔ w.signatureStatus = .VERIFIED ∧ ¬w.processingStatus.isFinal := by
  unfold unprocessed
  cases w.processingStatus <;> simp [PaymentWebhookProcessingStatus.isFinal]

theorem PaymentWebhookEvent.stuck_iff {options : WebhookReplayOptions} {now : Time}
    {w : PaymentWebhookEvent} :
    w.stuck options now = true ↔ w.unprocessed ∧ w.receivedAt ≤ replayCutoff options now := by
  simp [stuck]

/-- The other unprocessed records, of whatever category, that were received by a time. -/
def Db.olderUnprocessed (db : Db) (x : WebhookId) (received : Time) : Set WebhookId :=
  {id | id ≠ x ∧ ∃ w, db.webhooks.lookup id = some w ∧ w.unprocessed ∧ w.receivedAt ≤ received}

/-- Those that the replay skips, received earlier. -/
def Db.skippedBefore (db : Db) (received : Time) : Set WebhookId :=
  {id | ∃ w, db.webhooks.lookup id = some w ∧ w.unprocessed ∧ w.eventCategory ≠ .PAYMENT ∧
    w.receivedAt < received}

variable {x : WebhookId} {w : PaymentWebhookEvent} {received now : Time} {db : Db}
  {options : WebhookReplayOptions} {queue before after : List (WebhookId × PaymentWebhookEvent)}

theorem Db.finite_olderUnprocessed : (db.olderUnprocessed x received).Finite := by
  refine db.webhooks.keys.toFinset.finite_toSet.subset ?_
  rintro id ⟨-, w, hrow, -⟩
  exact List.mem_toFinset.mpr (AList.mem_keys.mp (AList.lookup_isSome.mp (by rw [hrow]; rfl)))

/-- An outcome is final and a receipt time fixed, so no record joins the older ones. -/
theorem Db.KeepsRecords.olderUnprocessed_subset (h : s.KeepsRecords s') :
    s'.olderUnprocessed x received ⊆ s.olderUnprocessed x received := by
  rintro id ⟨hne, r', hrow', hopen', hearlier⟩
  obtain ⟨r, hrow, hsame, houtcome⟩ := h.back id r' hrow'
  obtain ⟨-, -, -, -, -, -, -, -, -, -, -, -, hsignature, hreceived, -⟩ := hsame
  obtain ⟨hverified, hopen⟩ := PaymentWebhookEvent.unprocessed_iff.mp hopen'
  refine ⟨hne, r, hrow, PaymentWebhookEvent.unprocessed_iff.mpr ⟨?_, fun hfinal => ?_⟩, ?_⟩
  · rw [← hsignature, hverified]
  · exact hopen ((houtcome hfinal).symm ▸ hfinal)
  · rwa [← hreceived]

theorem mem_queue (hperm : queue.Perm (db.webhooks.select fun _ w => w.stuck options now)) :
    (x, w) ∈ queue ↔
      db.webhooks.lookup x = some w ∧ w.unprocessed ∧ w.receivedAt ≤ replayCutoff options now := by
  rw [hperm.mem_iff, Table.mem_select, PaymentWebhookEvent.stuck_iff]

theorem nodup_queue (hperm : queue.Perm (db.webhooks.select fun _ w => w.stuck options now)) :
    (queue.map Prod.fst).Nodup :=
  (hperm.map Prod.fst).nodup_iff.mpr
    (db.webhooks.nodup_rows_fst.sublist (List.filter_sublist.map Prod.fst))

/-- What stands before a record is unprocessed and was received no later. -/
theorem length_before_le (hperm : queue.Perm (db.webhooks.select fun _ w => w.stuck options now))
    (hsorted : queue.Pairwise fun a b => a.2.receivedAt ≤ b.2.receivedAt)
    (hsplit : queue = before ++ (x, w) :: after) :
    before.length ≤ (db.olderUnprocessed x w.receivedAt).ncard := by
  have hnodup := nodup_queue hperm
  rw [hsplit, List.map_append, List.map_cons, List.nodup_append] at hnodup
  refine length_le_ncard hnodup.1 Db.finite_olderUnprocessed fun e he => ?_
  have hqueued : e ∈ queue := by
    rw [hsplit]
    exact List.mem_append_left _ he
  obtain ⟨hrow, hopen, -⟩ := (mem_queue hperm).mp hqueued
  rw [hsplit, List.pairwise_append] at hsorted
  refine ⟨fun heq => ?_, e.2, hrow, hopen, hsorted.2.2 e he _ List.mem_cons_self⟩
  exact hnodup.2.2 e.1 (List.mem_map_of_mem he) x List.mem_cons_self heq

/-- A stuck record is in every batch if fewer than a batch of others are as old. -/
theorem mem_of_fewOlder {stuck : List (WebhookId × PaymentWebhookEvent)}
    (hstuck : StuckWebhooks options now db stuck) (hrow : db.webhooks.lookup x = some w)
    (hopen : w.unprocessed) (hdue : w.receivedAt ≤ replayCutoff options now)
    (hfew : (db.olderUnprocessed x w.receivedAt).ncard < options.batchSize) : (x, w) ∈ stuck := by
  obtain ⟨queue, hperm, hsorted, rfl⟩ := hstuck
  obtain ⟨before, after, hsplit⟩ := List.append_of_mem ((mem_queue hperm).mpr ⟨hrow, hopen, hdue⟩)
  exact mem_take_of_length_lt hsplit
    (Nat.lt_of_le_of_lt (length_before_le hperm hsorted hsplit) hfew)

/-- A record is in no batch if a batch of records stands before it. -/
theorem notMem_of_manyBefore {S : Set WebhookId}
    (hperm : queue.Perm (db.webhooks.select fun _ w => w.stuck options now))
    (hmany : options.batchSize ≤ S.ncard)
    (hS : ∀ before after, queue = before ++ (x, w) :: after → ∀ id ∈ S, ∃ r, (id, r) ∈ before) :
    (x, w) ∉ queue.take options.batchSize := by
  intro htake
  obtain ⟨before, after, hsplit⟩ := List.append_of_mem (List.mem_of_mem_take htake)
  have hfew := length_lt_of_mem_take ((nodup_queue hperm).of_map _) hsplit htake
  have hcount : S.ncard ≤ before.length := ncard_le_length (hS before after hsplit)
  omega

/-! ## §4 Progress -/

namespace Replay

variable (replay : Replay options db)

theorem keepsRecords {n m : Nat} (h : n ≤ m) :
    (replay.state n).KeepsRecords (replay.state m) := by
  induction h with
  | refl => exact .of_eq rfl
  | step _ ih =>
      refine ih.trans ?_
      rw [replay.steps]
      exact (replayRecords_records _ _ _ _).1

/-- A record keeps its time of receipt. -/
theorem receivedAt (hrow : db.webhooks.lookup x = some w) {n : Nat} {r : PaymentWebhookEvent}
    (hr : (replay.state n).webhooks.lookup x = some r) : r.receivedAt = w.receivedAt := by
  obtain ⟨w₀, hrow₀, hsame, -⟩ := (replay.keepsRecords (Nat.zero_le n)).back x r hr
  rw [replay.start] at hrow₀
  obtain rfl := Option.some.inj (hrow.symm.trans hrow₀)
  obtain ⟨-, -, -, -, -, -, -, -, -, -, -, -, -, hreceived, -⟩ := hsame
  exact hreceived

/-- What has not been attempted is as it was. -/
theorem lookup_of_notAttempted (hrow : db.webhooks.lookup x = some w) {n : Nat}
    (h : ∀ m < n, ¬replay.Attempts m x) : (replay.state n).webhooks.lookup x = some w := by
  induction n with
  | zero => rwa [replay.start]
  | succ n ih =>
      rw [replay.steps]
      refine Eq.trans ?_ (ih fun m hm => h m (Nat.lt_succ_of_lt hm))
      exact (replayRecords_records _ _ _ _).2 x fun w' hmem hpayment =>
        h n (Nat.lt_succ_self n) ⟨w', hmem, hpayment⟩

/-- The replay skips what is no payment. -/
theorem lookup_of_category (hrow : db.webhooks.lookup x = some w)
    (hcategory : w.eventCategory ≠ .PAYMENT) (n : Nat) :
    (replay.state n).webhooks.lookup x = some w := by
  induction n with
  | zero => rwa [replay.start]
  | succ n ih =>
      rw [replay.steps]
      refine Eq.trans ((replayRecords_records _ _ _ _).2 x fun w' hmem hpayment => ?_) ih
      obtain ⟨queue, hperm, -, hstuck⟩ := replay.selects n
      have hrow' := ((mem_queue hperm).mp (List.mem_of_mem_take (hstuck ▸ hmem))).1
      obtain rfl := Option.some.inj (hrow'.symm.trans ih)
      exact hcategory hpayment

theorem attempts_of_fewOlder (hrow : db.webhooks.lookup x = some w)
    (hpayment : w.eventCategory = .PAYMENT) (hopen : w.unprocessed) {n : Nat}
    (hdue : w.receivedAt ≤ replayCutoff options (replay.call n).now)
    (hfew : (db.olderUnprocessed x w.receivedAt).ncard < options.batchSize) :
    ∃ m, replay.Attempts m x := by
  by_contra hnever
  have hrow' := replay.lookup_of_notAttempted hrow (n := n) fun m _ hm => hnever ⟨m, hm⟩
  refine hnever ⟨n, w, mem_of_fewOlder (replay.selects n) hrow' hopen hdue ?_, hpayment⟩
  have hsubset : (replay.state n).olderUnprocessed x w.receivedAt ⊆
      (replay.state 0).olderUnprocessed x w.receivedAt :=
    (replay.keepsRecords (Nat.zero_le n)).olderUnprocessed_subset
  rw [replay.start] at hsubset
  exact Nat.lt_of_le_of_lt (Set.ncard_le_ncard hsubset Db.finite_olderUnprocessed) hfew

/-- **Starvation.** What a batch of older records without a payment stands before is attempted
by no call of any replay. -/
theorem starved_of_skipped (hrow : db.webhooks.lookup x = some w)
    (hmany : options.batchSize ≤ (db.skippedBefore w.receivedAt).ncard) (n : Nat) :
    ¬replay.Attempts n x := by
  rintro ⟨w', hmem, -⟩
  obtain ⟨queue, hperm, hsorted, hstuck⟩ := replay.selects n
  rw [hstuck] at hmem
  obtain ⟨hrow', -, hdue⟩ := (mem_queue hperm).mp (List.mem_of_mem_take hmem)
  refine notMem_of_manyBefore hperm hmany (fun before after hsplit id hid => ?_) hmem
  obtain ⟨v, hv, hopen, hcategory, hearlier⟩ := hid
  rw [← replay.receivedAt hrow hrow'] at hearlier
  have hqueued : (id, v) ∈ queue := (mem_queue hperm).mpr
    ⟨replay.lookup_of_category hv hcategory n, hopen, (le_of_lt hearlier).trans hdue⟩
  rw [hsplit, List.pairwise_append, List.pairwise_cons] at hsorted
  rw [hsplit, List.mem_append, List.mem_cons] at hqueued
  rcases hqueued with hbefore | heq | hafter
  · exact ⟨v, hbefore⟩
  · obtain ⟨-, rfl⟩ := Prod.mk.inj heq
    exact absurd hearlier (lt_irrefl _)
  · exact absurd hearlier (not_lt_of_ge (hsorted.2.1.1 (id, v) hafter))

end Replay

/-! ## §5 The replay in which everything fails -/

/-- By the time of receipt, and `x` last among the records of its time. -/
def LastOfItsTime (x : WebhookId) (a b : WebhookId × PaymentWebhookEvent) : Prop :=
  a.2.receivedAt < b.2.receivedAt ∨ (a.2.receivedAt = b.2.receivedAt ∧ (a.1 = x → b.1 = x))

instance (x : WebhookId) (a b : WebhookId × PaymentWebhookEvent) :
    Decidable (LastOfItsTime x a b) :=
  inferInstanceAs (Decidable (_ ∨ _))

theorem lastOfItsTime_trans {a b c : WebhookId × PaymentWebhookEvent}
    (hab : LastOfItsTime x a b) (hbc : LastOfItsTime x b c) : LastOfItsTime x a c := by
  rcases hab with hlt | ⟨heq, hlast⟩
  · rcases hbc with hlt' | ⟨heq', -⟩
    · exact .inl (hlt.trans hlt')
    · exact .inl (heq' ▸ hlt)
  · rcases hbc with hlt' | ⟨heq', hlast'⟩
    · exact .inl (heq ▸ hlt')
    · exact .inr ⟨heq.trans heq', hlast' ∘ hlast⟩

theorem lastOfItsTime_total (a b : WebhookId × PaymentWebhookEvent) :
    LastOfItsTime x a b ∨ LastOfItsTime x b a := by
  rcases lt_trichotomy a.2.receivedAt b.2.receivedAt with hlt | heq | hgt
  · exact .inl (.inl hlt)
  · by_cases hx : b.1 = x
    · exact .inl (.inr ⟨heq, fun _ => hx⟩)
    · exact .inr (.inr ⟨heq.symm, fun hb => absurd hb hx⟩)
  · exact .inr (.inl hgt)

def starvingQueue (options : WebhookReplayOptions) (now : Time) (x : WebhookId) (db : Db) :
    List (WebhookId × PaymentWebhookEvent) :=
  (db.webhooks.select fun _ w => w.stuck options now).insertionSort (LastOfItsTime x)

theorem pairwise_starvingQueue : (starvingQueue options now x db).Pairwise (LastOfItsTime x) := by
  have : @Std.Total (WebhookId × PaymentWebhookEvent) (LastOfItsTime x) := ⟨lastOfItsTime_total⟩
  have : IsTrans (WebhookId × PaymentWebhookEvent) (LastOfItsTime x) :=
    ⟨fun _ _ _ => lastOfItsTime_trans⟩
  exact List.pairwise_insertionSort (LastOfItsTime x) _

/-- Every transaction fails. -/
def abortingCall (options : WebhookReplayOptions) (now : Time) (x : WebhookId) (db : Db) :
    ReplayCall :=
  { now := now
    stuck := (starvingQueue options now x db).take options.batchSize
    fresh :=
      fun id => { bookingId := id, publicReference := id, seatId := fun inventory => inventory }
    aborted := fun _ => true }

def afterAborts (options : WebhookReplayOptions) (now : Time) (x : WebhookId) (db : Db) : Nat → Db
  | 0 => db
  | n + 1 =>
      let state := afterAborts options now x db n
      (reconcileUnprocessedWebhooks (abortingCall options now x state) state).2

theorem isStuck_starvingQueue : StuckWebhooks options now db
    ((starvingQueue options now x db).take options.batchSize) := by
  refine ⟨_, List.perm_insertionSort _ _, pairwise_starvingQueue.imp fun h => ?_, rfl⟩
  rcases h with hlt | ⟨heq, -⟩
  · exact le_of_lt hlt
  · exact le_of_eq heq

def abortingReplay (options : WebhookReplayOptions) (now : Time) (x : WebhookId) (db : Db) :
    Replay options db where
  call n := abortingCall options now x (afterAborts options now x db n)
  state := afterAborts options now x db
  start := rfl
  selects := fun _ => isStuck_starvingQueue
  steps := fun _ => rfl

/-- Unprocessed records wait on in their places. -/
def Db.KeepsWaiting (s s' : Db) : Prop :=
  ∀ id w, s.webhooks.lookup id = some w → w.unprocessed →
    ∃ w', s'.webhooks.lookup id = some w' ∧ w'.unprocessed ∧ w'.receivedAt = w.receivedAt

theorem Db.KeepsWaiting.trans (h : s.KeepsWaiting s') (h' : s'.KeepsWaiting s'') :
    s.KeepsWaiting s'' := by
  intro id w hrow hopen
  obtain ⟨w', hrow', hopen', hreceived⟩ := h id w hrow hopen
  obtain ⟨w'', hrow'', hopen'', hreceived'⟩ := h' id w' hrow' hopen'
  exact ⟨w'', hrow'', hopen'', hreceived'.trans hreceived⟩

theorem Db.KeepsWaiting.olderUnprocessed_subset (h : s.KeepsWaiting s') :
    s.olderUnprocessed x received ⊆ s'.olderUnprocessed x received := by
  rintro id ⟨hne, w, hrow, hopen, hearlier⟩
  obtain ⟨w', hrow', hopen', hreceived⟩ := h id w hrow hopen
  exact ⟨hne, w', hrow', hopen', hreceived ▸ hearlier⟩

theorem keepsWaiting_markWebhookRetryable (wid : WebhookId) (db : Db) :
    db.KeepsWaiting ((markWebhookRetryable wid).commit db) := by
  intro id w hrow hopen
  refine Ensures.commit
    (Q := fun s' : Db => ∃ w', s'.webhooks.lookup id = some w' ∧ w'.unprocessed ∧
    w'.receivedAt = w.receivedAt) ?_ ⟨w, hrow, hopen, rfl⟩
  refine ensures_bind.mpr (ensures_updateMany.mpr fun _ => ensures_pure.mpr ?_)
  have hlook := Table.lookup_putAll_updates
    (fun id w => id == wid && (w.processingStatus == .RECEIVED || w.processingStatus == .FAILED))
    (fun _ w => w.retryable) db.webhooks id
  rw [hrow, Option.map_some] at hlook
  refine ⟨_, hlook, ?_⟩
  split
  · have hverified := (PaymentWebhookEvent.unprocessed_iff.mp hopen).1
    exact ⟨by simp [PaymentWebhookEvent.unprocessed, PaymentWebhookEvent.retryable, hverified], rfl⟩
  · exact ⟨hopen, rfl⟩

theorem keepsWaiting_replayRecords {call : ReplayCall} (haborted : ∀ id, call.aborted id = true)
    (batch : List (WebhookId × PaymentWebhookEvent)) (result : WebhookReplayResult) (db : Db) :
    db.KeepsWaiting (replayRecords call batch result db).2 := by
  induction batch generalizing result db with
  | nil => exact fun id w hrow hopen => ⟨w, hrow, hopen, rfl⟩
  | cons record rest ih =>
      obtain ⟨wid, webhook⟩ := record
      rw [replayRecords]
      split
      · exact ih result db
      · have hfirst : db.KeepsWaiting (call.process wid db).2 := by
          unfold ReplayCall.process
          rw [if_pos (haborted wid)]
          exact keepsWaiting_markWebhookRetryable wid db
        exact hfirst.trans (ih _ (call.process wid db).2)

theorem keepsWaiting_afterAborts (n : Nat) :
    db.KeepsWaiting (afterAborts options now x db n) := by
  induction n with
  | zero => exact fun id w hrow hopen => ⟨w, hrow, hopen, rfl⟩
  | succ n ih => exact ih.trans (keepsWaiting_replayRecords (fun _ => rfl) _ _ _)

theorem starved_of_manyOlder (hrow : db.webhooks.lookup x = some w)
    (hmany : options.batchSize ≤ (db.olderUnprocessed x w.receivedAt).ncard) (n : Nat) :
    ¬(abortingReplay options now x db).Attempts n x := by
  rintro ⟨w', hmem, -⟩
  let state := afterAborts options now x db n
  have hperm : (starvingQueue options now x state).Perm
      (state.webhooks.select fun _ w => w.stuck options now) := List.perm_insertionSort _ _
  obtain ⟨hrow', -, hdue⟩ := (mem_queue hperm).mp (List.mem_of_mem_take hmem)
  have hreceived := (abortingReplay options now x db).receivedAt hrow (n := n) hrow'
  have hsorted : (starvingQueue options now x state).Pairwise (LastOfItsTime x) :=
    pairwise_starvingQueue
  have hmany' : options.batchSize ≤ (state.olderUnprocessed x w.receivedAt).ncard :=
    hmany.trans (Set.ncard_le_ncard (keepsWaiting_afterAborts n).olderUnprocessed_subset
      Db.finite_olderUnprocessed)
  refine notMem_of_manyBefore hperm hmany' (fun before after hsplit id hid => ?_) hmem
  obtain ⟨hne, v, hv, hopen, hearlier⟩ := hid
  rw [← hreceived] at hearlier
  have hqueued := (mem_queue hperm).mpr ⟨hv, hopen, hearlier.trans hdue⟩
  rw [hsplit, List.pairwise_append, List.pairwise_cons] at hsorted
  rw [hsplit, List.mem_append, List.mem_cons] at hqueued
  rcases hqueued with hbefore | heq | hafter
  · exact ⟨v, hbefore⟩
  · exact absurd (Prod.mk.inj heq).1 hne
  · rcases hsorted.2.1.1 (id, v) hafter with hlt | ⟨-, hlast⟩
    · exact absurd hlt (not_lt_of_ge hearlier)
    · exact absurd (hlast rfl) hne

/-- **Progress of the replay.** A stuck payment is attempted in every replay in which it comes
to be due, whatever the database does with the other records, exactly when fewer than a batch
of other unprocessed records, of whatever category, were received no later. -/
theorem attempted_iff_fewOlder (hrow : db.webhooks.lookup x = some w)
    (hpayment : w.eventCategory = .PAYMENT) (hopen : w.unprocessed) :
    (∀ replay : Replay options db,
      (∃ n, w.receivedAt ≤ replayCutoff options (replay.call n).now) →
        ∃ n, replay.Attempts n x) ↔
      (db.olderUnprocessed x w.receivedAt).ncard < options.batchSize := by
  constructor
  · intro hattempted
    by_contra hmany
    let now := w.receivedAt + options.olderThanSeconds * 1000
    have hdue : w.receivedAt ≤ replayCutoff options now :=
      le_of_eq (Int.add_sub_cancel w.receivedAt _).symm
    obtain ⟨n, hn⟩ := hattempted (abortingReplay options now x db) ⟨0, hdue⟩
    exact starved_of_manyOlder hrow (Nat.not_lt.mp hmany) n hn
  · rintro hfew replay ⟨n, hdue⟩
    exact replay.attempts_of_fewOlder hrow hpayment hopen hdue hfew

/-! ## §6 A starved payment -/

/-- A dispute event and, later, a payment event were stored and not processed. -/
def starvedBacklog : Db :=
  (storeVerifiedWebhook .STRIPE
    { providerEventId := 2, providerIntentId := 7, status := .SUCCEEDED, amountMinor := 1000
      currency := .USD, occurredAt := none } 2 200).commit <|
  (storeVerifiedDisputeWebhook .STRIPE
    { providerEventId := 1, providerDisputeId := 5, providerIntentId := 7, status := .OPEN
      amountMinor := 1000, currency := .USD, occurredAt := some 90 } 1 100).commit capturedPayment

def starvedPayment : PaymentWebhookEvent :=
  { provider := .STRIPE, providerEventId := 2, providerIntentId := 7, paymentAttemptId := some 1
    normalizedStatus := some .SUCCEEDED, amountMinor := 1000, currency := .USD, receivedAt := 200 }

theorem lookup_starvedPayment : starvedBacklog.webhooks.lookup 2 = some starvedPayment := by
  decide +kernel

/-- With batches of two the payment is attempted in every replay in which it comes to be due,
and there are such replays. -/
theorem attempted_of_pairs :
    (∃ replay : Replay { batchSize := 2 } starvedBacklog,
      200 ≤ replayCutoff { batchSize := 2 } (replay.call 0).now) ∧
      ∀ replay : Replay { batchSize := 2 } starvedBacklog,
        (∃ n, 200 ≤ replayCutoff { batchSize := 2 } (replay.call n).now) →
          ∃ n, replay.Attempts n 2 := by
  constructor
  · refine ⟨abortingReplay _ 100000 2 _, ?_⟩
    show 200 ≤ replayCutoff { batchSize := 2 } 100000
    decide
  · refine (attempted_iff_fewOlder lookup_starvedPayment rfl rfl).mpr ?_
    have hone : starvedBacklog.olderUnprocessed 2 200 ⊆ {1} := by
      rintro id ⟨hne, w, hrow, -⟩
      have hkeys :=
        Table.forall_lookup (t := starvedBacklog.webhooks) (p := fun id _ => id = 1 ∨ id = 2)
          (by decide +kernel) id w hrow
      exact hkeys.resolve_right hne
    refine Nat.lt_of_le_of_lt (Set.ncard_le_ncard hone (Set.finite_singleton 1)) ?_
    rw [Set.ncard_singleton]
    decide

/-- With batches of one the older dispute event fills every batch of every replay. -/
theorem starved_of_singles :
    ∃ w, starvedBacklog.webhooks.lookup 2 = some w ∧ w.eventCategory = .PAYMENT ∧
      w.unprocessed = true ∧
      (∃ replay : Replay { batchSize := 1 } starvedBacklog, ∀ n,
        w.receivedAt ≤ replayCutoff { batchSize := 1 } (replay.call n).now) ∧
      ∀ replay : Replay { batchSize := 1 } starvedBacklog, ∀ n, ¬replay.Attempts n 2 := by
  refine ⟨starvedPayment, lookup_starvedPayment, rfl, rfl,
    ⟨abortingReplay _ 100000 2 _, fun n => ?_⟩, fun replay n => ?_⟩
  · show starvedPayment.receivedAt ≤ replayCutoff { batchSize := 1 } 100000
    decide
  refine replay.starved_of_skipped lookup_starvedPayment ?_ n
  have hdispute : (starvedBacklog.webhooks.lookup 1).any (fun dispute => dispute.unprocessed &&
      dispute.eventCategory != .PAYMENT && decide (dispute.receivedAt < 200)) = true := by
    decide +kernel
  obtain ⟨dispute, hrow, hskipped⟩ := (Option.any_eq_true _ _).mp hdispute
  simp only [Bool.and_eq_true, bne_iff_ne, decide_eq_true_eq] at hskipped
  refine (Set.ncard_pos ?_).mpr ⟨1, dispute, hrow, hskipped.1.1, hskipped.1.2, hskipped.2⟩
  have hfinite : (starvedBacklog.olderUnprocessed 2 200).Finite := Db.finite_olderUnprocessed
  refine hfinite.subset ?_
  rintro id ⟨w, hid, hopen, hcategory, hearlier⟩
  refine ⟨fun heq => ?_, w, hid, hopen, le_of_lt hearlier⟩
  subst heq
  obtain rfl := Option.some.inj (lookup_starvedPayment.symm.trans hid)
  exact hcategory rfl

end SeatFlow
