import SeatFlow.Database.Coherence
import SeatFlow.Relational.Steps

/-!
# Sound databases

What PostgreSQL guarantees of a stored state, whatever transactions led to it:
every row satisfies its constraints and its ancestry. `DbStep` is one admitted
write of any modelled service, and every one of them keeps the state sound. A
service's transactions are then shown to take only such steps, once each, and
what they find in the database satisfies its constraints.
-/

namespace SeatFlow

open Relational Program

/-! ## §1 What updates keep -/

/-- The terms of a payment: what nothing changes, and that a capture stays. -/
structure PaymentAttempt.SameTerms (old new : PaymentAttempt) : Prop where
  identity : PaymentAttempt.SameIdentity old new
  captured : old.status = .SUCCEEDED → new.status = .SUCCEEDED

theorem PaymentAttempt.sameTerms_refl (a : PaymentAttempt) : PaymentAttempt.SameTerms a a :=
  ⟨by simp [PaymentAttempt.SameIdentity], fun h => h⟩

theorem PaymentAttempt.sameTerms_of_protect {old new : PaymentAttempt}
    (h : PaymentAttempt.protectIdentity old new = .ok ()) : PaymentAttempt.SameTerms old new := by
  simp only [PaymentAttempt.protectIdentity, Except.bind_unit_eq_ok, check_eq_ok] at h
  refine ⟨h.1, fun hstatus => ?_⟩
  rw [h.2.2 (by rw [hstatus]; rfl), hstatus]

theorem SeatHold.sameIdentity_refl (h : SeatHold) : SeatHold.SameIdentity h h := by
  simp [SeatHold.SameIdentity]

theorem SeatHold.sameIdentity_of_protect {old new : SeatHold}
    (h : SeatHold.protectIdentity old new = .ok ()) : SeatHold.SameIdentity old new := by
  simp only [SeatHold.protectIdentity, Except.bind_unit_eq_ok, check_eq_ok] at h
  exact h.1

theorem CheckoutOrder.sameIdentity_refl (o : CheckoutOrder) : CheckoutOrder.SameIdentity o o := by
  simp [CheckoutOrder.SameIdentity]

theorem CheckoutOrder.sameIdentity_of_protect {old new : CheckoutOrder}
    (h : CheckoutOrder.protectIdentity old new = .ok ()) : CheckoutOrder.SameIdentity old new := by
  simp only [CheckoutOrder.protectIdentity, Except.bind_unit_eq_ok, check_eq_ok] at h
  exact h.1

theorem Booking.sameSnapshot_refl (b : Booking) : Booking.SameSnapshot b b := by
  simp [Booking.SameSnapshot]

theorem Booking.sameSnapshot_of_protect {old new : Booking}
    (h : Booking.protectSnapshot old new = .ok ()) : Booking.SameSnapshot old new := by
  simp only [Booking.protectSnapshot, Except.bind_unit_eq_ok, check_eq_ok] at h
  exact h.1

theorem Refund.sameIdentity_of_protect {old new : Refund}
    (h : Refund.protectIdentity old new = .ok ()) : Refund.SameIdentity old new := by
  simp only [Refund.protectIdentity, Except.bind_unit_eq_ok, check_eq_ok] at h
  exact h.1

def EventSession.SameEvent (old new : EventSession) : Prop :=
  new.eventId = old.eventId

theorem EventSession.sameEvent_refl (x : EventSession) : EventSession.SameEvent x x := rfl

/-- The rows that the ancestry triggers look up are still there. -/
structure Db.Keeps (s s' : Db) : Prop where
  events : s'.events = s.events
  sessions : s.sessions.Keeps EventSession.SameEvent s'.sessions
  holds : s.holds.Keeps SeatHold.SameIdentity s'.holds
  orders : s.orders.Keeps CheckoutOrder.SameIdentity s'.orders
  attempts : s.attempts.Keeps PaymentAttempt.SameTerms s'.attempts
  bookings : s.bookings.Keeps Booking.SameSnapshot s'.bookings

variable {s s' : Db}

theorem Db.Keeps.enforceOrder (h : s.Keeps s') {a : PaymentAttempt}
    (ha : PaymentAttempt.enforceOrder s a = .ok ()) :
    PaymentAttempt.enforceOrder s' a = .ok () := by
  simp only [PaymentAttempt.enforceOrder, check_eq_ok, Option.map_eq_some_iff] at ha ⊢
  obtain ⟨o, ho, hterms⟩ := ha
  obtain ⟨o', ho', hsame⟩ := h.orders _ o ho
  refine ⟨o', ho', ?_⟩
  obtain ⟨-, -, -, -, -, -, hcurrency, -, htotal, -⟩ := hsame
  rw [htotal, hcurrency, hterms]

theorem Db.Keeps.bookingOrder (h : s.Keeps s') {b : Booking}
    (hb : Booking.enforceOrder s b = .ok ()) : Booking.enforceOrder s' b = .ok () := by
  simp only [Booking.enforceOrder, check_eq_ok, Option.map_eq_some_iff] at hb ⊢
  obtain ⟨o, ho, hterms⟩ := hb
  obtain ⟨o', ho', hsame⟩ := h.orders _ o ho
  refine ⟨o', ho', ?_⟩
  obtain ⟨-, huser, horganization, hevent, hsession, -, hcurrency, -, htotal, -⟩ := hsame
  rw [huser, horganization, hevent, hsession, hcurrency, htotal, hterms]

theorem Db.Keeps.orderAncestry (h : s.Keeps s') {o : CheckoutOrder}
    (ho : CheckoutOrder.enforceAncestry s o = .ok ()) :
    CheckoutOrder.enforceAncestry s' o = .ok () := by
  simp only [CheckoutOrder.enforceAncestry, Except.bind_unit_eq_ok, check_eq_ok,
    Option.map_eq_some_iff] at ho ⊢
  obtain ⟨⟨hold, hhold, hcustomer⟩, ⟨⟨session, hsession, hevent⟩, horganization⟩, hexpiry⟩ := ho
  obtain ⟨hold', hhold', hsame⟩ := h.holds _ hold hhold
  obtain ⟨session', hsession', hevent'⟩ := h.sessions _ session hsession
  obtain ⟨hs, hu, -, -, he, -⟩ := hsame
  refine ⟨⟨hold', hhold', by rw [hs, hu, hcustomer]⟩,
    ⟨⟨session', hsession', Eq.trans hevent' hevent⟩, by rw [h.events]; exact horganization⟩, ?_⟩
  rintro hold₁ hhold₁
  cases Option.some.inj (hhold'.symm.trans hhold₁)
  rw [he]
  exact hexpiry hold hhold

theorem Db.Keeps.refundAncestry (h : s.Keeps s') {r : Refund}
    (hr : Refund.enforceAncestry s r = .ok ()) : Refund.enforceAncestry s' r = .ok () := by
  simp only [Refund.enforceAncestry, Except.bind_unit_eq_ok, check_eq_ok,
    Option.map_eq_some_iff] at hr ⊢
  obtain ⟨⟨⟨a, ha, horder⟩, b, hb, hborder⟩, ⟨a₁, ha₁, hstatus⟩, ⟨a₂, ha₂, hcurrency⟩,
    ⟨a₃, ha₃, hprovider⟩, hamount⟩ := hr
  cases Option.some.inj (ha.symm.trans ha₁)
  cases Option.some.inj (ha.symm.trans ha₂)
  cases Option.some.inj (ha.symm.trans ha₃)
  obtain ⟨a', ha', hsame⟩ := h.attempts _ a ha
  obtain ⟨b', hb', hsnapshot⟩ := h.bookings _ b hb
  obtain ⟨ho, hp, -, hm, hc, -⟩ := hsame.identity
  obtain ⟨-, hbo, -⟩ := hsnapshot
  refine ⟨⟨⟨a', ha', ho.trans horder⟩, b', hb', hbo.trans hborder⟩,
    ⟨a', ha', hsame.captured hstatus⟩, ⟨a', ha', hc.trans hcurrency⟩,
    ⟨a', ha', hp.trans hprovider⟩, ?_⟩
  rintro a₁ ha₁
  cases Option.some.inj (ha'.symm.trans ha₁)
  rw [hm]
  exact hamount a ha

theorem Db.Keeps.disputeAncestry (h : s.Keeps s') {d : PaymentDispute}
    (hd : PaymentDispute.enforceAncestry s d = .ok ()) :
    PaymentDispute.enforceAncestry s' d = .ok () := by
  simp only [PaymentDispute.enforceAncestry, Except.bind_unit_eq_ok, check_eq_ok,
    Option.map_eq_some_iff] at hd ⊢
  obtain ⟨⟨a, ha, horder⟩, ⟨a₁, ha₁, hprovider⟩, ⟨a₂, ha₂, hcurrency⟩, hamount, hbooking⟩ := hd
  cases Option.some.inj (ha.symm.trans ha₁)
  cases Option.some.inj (ha.symm.trans ha₂)
  obtain ⟨a', ha', hsame⟩ := h.attempts _ a ha
  obtain ⟨ho, hp, -, hm, hc, -⟩ := hsame.identity
  refine ⟨⟨a', ha', ho.trans horder⟩, ⟨a', ha', hp.trans hprovider⟩,
    ⟨a', ha', hc.trans hcurrency⟩, ?_, fun id hid => ?_⟩
  · rintro a₁ ha₁
    cases Option.some.inj (ha'.symm.trans ha₁)
    rw [hm]
    exact hamount a ha
  · obtain ⟨b, hb, hborder⟩ := hbooking id hid
    obtain ⟨b', hb', hsnapshot⟩ := h.bookings _ b hb
    exact ⟨b', hb', hsnapshot.2.1.trans hborder⟩

/-! ## §2 Steps -/

/-- The payment of a provider's intent. -/
def Db.intentPayment (db : Db) (provider : PaymentProviderName) (intent : ProviderRef) :
    Option AttemptId :=
  ((db.attempts.select fun _ a => a.provider == provider && a.providerIntentId == some intent)
    |>.head?).map Prod.fst

/-- A record as an event is stored: open, linked to no refund and no dispute, and to the
payment that its provider's intent names. -/
structure Db.Receives (db : Db) (w : PaymentWebhookEvent) : Prop where
  received : w.processingStatus = .RECEIVED
  refund : w.refundId = none
  dispute : w.disputeId = none
  payment : w.paymentAttemptId = db.intentPayment w.provider w.providerIntentId

/-- One admitted write of a modelled service. Rows that are nested in their
parent's (`items`, `seats`) are written in one constructor, their parent's own columns
in another. -/
inductive DbStep : Db → Db → Prop
  | other {s s' : Db} (hevents : s'.events = s.events) (hsessions : s'.sessions = s.sessions)
      (hinventory : s'.inventory = s.inventory) (hholds : s'.holds = s.holds)
      (horders : s'.orders = s.orders) (hattempts : s'.attempts = s.attempts)
      (hwebhooks : s'.webhooks = s.webhooks) (hbookings : s'.bookings = s.bookings)
      (hrefunds : s'.refunds = s.refunds) (htickets : s'.tickets = s.tickets)
      (hcredentials : s'.credentials = s.credentials) (hdisputes : s'.disputes = s.disputes) :
      DbStep s s'
  | session {s : Db} (id : SessionId) (x x' : EventSession) (hlook : s.sessions.lookup id = some x)
      (hevent : EventSession.SameEvent x x') :
      DbStep s { s with sessions := s.sessions.insert id x' }
  | inventory {s : Db} (p : InventoryId → SessionSeatInventory → Bool)
      (f : InventoryId → SessionSeatInventory → SessionSeatInventory)
      (hvalid : ∀ k row, s.inventory.lookup k = some row → p k row = true →
        Prisma.sessionSeatInventory.validate s k (some row) (f k row) = .ok ()) :
      DbStep s { s with inventory := s.inventory.putAll (s.inventory.updates p f) }
  | hold {s : Db} (id : HoldId) (new : SeatHold)
      (hvalid : SeatHold.validate s id (s.holds.lookup id) new = .ok ()) :
      DbStep s { s with holds := s.holds.insert id new }
  | holds {s : Db} (p : HoldId → SeatHold → Bool) (f : HoldId → SeatHold → SeatHold)
      (hvalid : ∀ k h, s.holds.lookup k = some h → p k h = true →
        SeatHold.validate s k (some h) (f k h) = .ok ()) :
      DbStep s { s with holds := s.holds.putAll (s.holds.updates p f) }
  | holdItems {s : Db} (id : HoldId) (h : SeatHold) (items : List SeatHoldItem)
      (hlook : s.holds.lookup id = some h) :
      DbStep s { s with holds := s.holds.insert id { h with items := items } }
  | order {s : Db} (id : OrderId) (new : CheckoutOrder)
      (hvalid : CheckoutOrder.validate s id (s.orders.lookup id) new = .ok ()) :
      DbStep s { s with orders := s.orders.insert id new }
  | orders {s : Db} (p : OrderId → CheckoutOrder → Bool)
      (f : OrderId → CheckoutOrder → CheckoutOrder)
      (hvalid : ∀ k o, s.orders.lookup k = some o → p k o = true →
        CheckoutOrder.validate s k (some o) (f k o) = .ok ()) :
      DbStep s { s with orders := s.orders.putAll (s.orders.updates p f) }
  | orderItems {s : Db} (id : OrderId) (o : CheckoutOrder) (items : List CheckoutOrderItem)
      (hlook : s.orders.lookup id = some o) :
      DbStep s { s with orders := s.orders.insert id { o with items := items } }
  | attempt {s : Db} (id : AttemptId) (new : PaymentAttempt)
      (hvalid : PaymentAttempt.validate s id (s.attempts.lookup id) new = .ok ()) :
      DbStep s { s with attempts := s.attempts.insert id new }
  | webhook {s : Db} (id : WebhookId) (new : PaymentWebhookEvent)
      (hreceived : s.webhooks.lookup id = none → s.Receives new)
      (hvalid : PaymentWebhookEvent.validate s id (s.webhooks.lookup id) new = .ok ()) :
      DbStep s { s with webhooks := s.webhooks.insert id new }
  | webhooks {s : Db} (p : WebhookId → PaymentWebhookEvent → Bool)
      (f : WebhookId → PaymentWebhookEvent → PaymentWebhookEvent)
      (hvalid : ∀ k w, s.webhooks.lookup k = some w → p k w = true →
        PaymentWebhookEvent.validate s k (some w) (f k w) = .ok ()) :
      DbStep s { s with webhooks := s.webhooks.putAll (s.webhooks.updates p f) }
  | booking {s : Db} (id : BookingId) (new : Booking)
      (hvalid : Booking.validate s id (s.bookings.lookup id) new = .ok ()) :
      DbStep s { s with bookings := s.bookings.insert id new }
  | bookingSeats {s : Db} (id : BookingId) (b : Booking) (seats : List BookingSeat)
      (hlook : s.bookings.lookup id = some b)
      (hvalid : BookingSeat.validate s id (some b) { b with seats := b.seats ++ seats } = .ok ()) :
      DbStep s { s with bookings := s.bookings.insert id { b with seats := b.seats ++ seats } }
  | refund {s : Db} (id : RefundId) (new : Refund)
      (hvalid : Refund.validate s id (s.refunds.lookup id) new = .ok ()) :
      DbStep s { s with refunds := s.refunds.insert id new }
  | refundSeats {s : Db} (id : RefundId) (r : Refund) (seats : List RefundSeat)
      (hlook : s.refunds.lookup id = some r)
      (hvalid : RefundSeat.validate s id (some r) { r with seats := r.seats ++ seats } = .ok ()) :
      DbStep s { s with refunds := s.refunds.insert id { r with seats := r.seats ++ seats } }
  | dispute {s : Db} (id : DisputeId) (new : PaymentDispute)
      (hbooking : ∀ d, s.disputes.lookup id = some d → new.bookingId = d.bookingId)
      (hvalid : PaymentDispute.validate s id (s.disputes.lookup id) new = .ok ()) :
      DbStep s { s with disputes := s.disputes.insert id new }
  | ticket {s : Db} (id : TicketId) (new : Ticket)
      (hvalid : Ticket.validate s id (s.tickets.lookup id) new = .ok ()) :
      DbStep s { s with tickets := s.tickets.insert id new }
  | credential {s : Db} (id : CredentialId) (new : TicketCredential)
      (hvalid : TicketCredential.validate s id (s.credentials.lookup id) new = .ok ()) :
      DbStep s { s with credentials := s.credentials.insert id new }
  | credentials {s : Db} (p : CredentialId → TicketCredential → Bool)
      (f : CredentialId → TicketCredential → TicketCredential)
      (hclosed : ∀ k c, s.credentials.lookup k = some c → p k c = true → (f k c).status ≠ .ACTIVE ∧
        (f k c).replacementCredentialId = c.replacementCredentialId)
      (hvalid : ∀ k c, s.credentials.lookup k = some c → p k c = true →
        TicketCredential.validate s k (some c) (f k c) = .ok ()) :
      DbStep s { s with credentials := s.credentials.putAll (s.credentials.updates p f) }

/-- An update of a stored record. -/
theorem DbStep.updatedWebhook {id : WebhookId} {w new : PaymentWebhookEvent}
    (hlook : s.webhooks.lookup id = some w)
    (hvalid : PaymentWebhookEvent.validate s id (some w) new = .ok ()) :
    DbStep s { s with webhooks := s.webhooks.insert id new } := by
  refine .webhook id new (fun habsent => ?_) (by rwa [hlook])
  rw [hlook] at habsent
  cases habsent

/-- A batch of updates as a mapping of the rows. -/
theorem mapped_select {κ ρ : Type} [DecidableEq κ] {t : Table κ ρ} {same : ρ → ρ → Prop}
    {p : κ → ρ → Bool} {f : κ → ρ → ρ} (hrefl : ∀ r, same r r)
    (hsame : ∀ k r, t.lookup k = some r → p k r = true → same r (f k r)) :
    t.Keeps same (t.putAll (t.updates p f)) := by
  refine (Table.mapped_updates p f t).keeps fun k r hr => ?_
  split
  · exact hsame k r hr ‹_›
  · exact hrefl r

theorem DbStep.keeps (h : DbStep s s') : s.Keeps s' := by
  have hsessions := Table.keeps_refl EventSession.sameEvent_refl s.sessions
  have hholds := Table.keeps_refl SeatHold.sameIdentity_refl s.holds
  have horders := Table.keeps_refl CheckoutOrder.sameIdentity_refl s.orders
  have hattempts := Table.keeps_refl PaymentAttempt.sameTerms_refl s.attempts
  have hbookings := Table.keeps_refl Booking.sameSnapshot_refl s.bookings
  cases h with
  | other hevents hsessions' _ hholds' horders' hattempts' _ hbookings' _ _ _ _ =>
      refine ⟨hevents, ?_, ?_, ?_, ?_, ?_⟩
      · rwa [hsessions']
      · rwa [hholds']
      · rwa [horders']
      · rwa [hattempts']
      · rwa [hbookings']
  | session id x x' hlook hevent =>
      refine ⟨rfl, Table.keeps_insert EventSession.sameEvent_refl fun r hr => ?_,
        hholds, horders, hattempts,
        hbookings⟩
      cases Option.some.inj (hlook.symm.trans hr)
      exact hevent
  | hold id new hvalid =>
      refine ⟨rfl, hsessions, Table.keeps_insert SeatHold.sameIdentity_refl fun r hr => ?_, horders,
        hattempts, hbookings⟩
      rw [hr] at hvalid
      exact SeatHold.sameIdentity_of_protect (seatHoldConstraints.keep_of_validate hvalid)
  | holds p f hvalid =>
      refine ⟨rfl, hsessions, mapped_select SeatHold.sameIdentity_refl fun k r hr hp => ?_, horders,
        hattempts, hbookings⟩
      exact SeatHold.sameIdentity_of_protect
        (seatHoldConstraints.keep_of_validate (hvalid k r hr hp))
  | holdItems id h items hlook =>
      refine ⟨rfl, hsessions, Table.keeps_insert SeatHold.sameIdentity_refl fun r hr => ?_, horders,
        hattempts, hbookings⟩
      cases Option.some.inj (hlook.symm.trans hr)
      exact h.sameIdentity_refl
  | order id new hvalid =>
      refine ⟨rfl, hsessions, hholds, Table.keeps_insert CheckoutOrder.sameIdentity_refl
        fun r hr => ?_, hattempts, hbookings⟩
      rw [hr] at hvalid
      exact CheckoutOrder.sameIdentity_of_protect (checkoutOrderConstraints.keep_of_validate hvalid)
  | orders p f hvalid =>
      refine ⟨rfl, hsessions, hholds, mapped_select CheckoutOrder.sameIdentity_refl
        fun k r hr hp => ?_, hattempts, hbookings⟩
      exact CheckoutOrder.sameIdentity_of_protect
        (checkoutOrderConstraints.keep_of_validate (hvalid k r hr hp))
  | orderItems id o items hlook =>
      refine ⟨rfl, hsessions, hholds, Table.keeps_insert CheckoutOrder.sameIdentity_refl
        fun r hr => ?_, hattempts, hbookings⟩
      cases Option.some.inj (hlook.symm.trans hr)
      exact o.sameIdentity_refl
  | attempt id new hvalid =>
      refine ⟨rfl, hsessions, hholds, horders, Table.keeps_insert PaymentAttempt.sameTerms_refl
        fun r hr => ?_, hbookings⟩
      rw [hr] at hvalid
      exact PaymentAttempt.sameTerms_of_protect (paymentAttemptConstraints.keep_of_validate hvalid)
  | booking id new hvalid =>
      refine ⟨rfl, hsessions, hholds, horders, hattempts,
        Table.keeps_insert Booking.sameSnapshot_refl fun r hr => ?_⟩
      rw [hr] at hvalid
      exact Booking.sameSnapshot_of_protect (bookingConstraints.keep_of_validate hvalid)
  | bookingSeats id b seats hlook _ =>
      refine ⟨rfl, hsessions, hholds, horders, hattempts,
        Table.keeps_insert Booking.sameSnapshot_refl fun r hr => ?_⟩
      cases Option.some.inj (hlook.symm.trans hr)
      exact b.sameSnapshot_refl
  | _ => exact ⟨rfl, hsessions, hholds, horders, hattempts, hbookings⟩

/-! ## §3 Soundness -/

/-- Every stored row satisfies its constraints and its ancestry. -/
structure Db.Sound (db : Db) : Prop where
  inventory : sessionSeatInventoryConstraints.Coherent db
  holds : seatHoldConstraints.Coherent db
  orders : checkoutOrderConstraints.Coherent db
  attempts : paymentAttemptConstraints.Coherent db
  webhooks : paymentWebhookEventConstraints.Coherent db
  bookings : bookingConstraints.Coherent db
  refunds : refundConstraints.Coherent db
  tickets : ticketConstraints.Coherent db
  credentials : ticketCredentialConstraints.Coherent db
  disputes : paymentDisputeConstraints.Coherent db
  orderAncestry : ∀ id o, db.orders.lookup id = some o →
    CheckoutOrder.enforceAncestry db o = .ok ()
  attemptOrder : ∀ id a, db.attempts.lookup id = some a → PaymentAttempt.enforceOrder db a = .ok ()
  bookingOrder : ∀ id b, db.bookings.lookup id = some b → Booking.enforceOrder db b = .ok ()
  refundAncestry : ∀ id r, db.refunds.lookup id = some r → Refund.enforceAncestry db r = .ok ()
  disputeAncestry : ∀ id d, db.disputes.lookup id = some d →
    PaymentDispute.enforceAncestry db d = .ok ()

/-- A batch of admitted updates that keep what the unique indexes look at. -/
theorem coherent_updates {τ ρ : Type} [DecidableEq τ] {E : Model τ ρ} {C : E.Constraints}
    {p : τ → ρ → Bool} {f : τ → ρ → ρ} (hs : C.Coherent s)
    (hvalid : ∀ k r, (E.get s).lookup k = some r → p k r = true →
      E.validate s k (some r) (f k r) = .ok ())
    (hkeep : ∀ k r new x, C.keep s k r new → C.apart r x → C.apart new x) :
    Table.Coherent C.ok C.apart ((E.get s).putAll ((E.get s).updates p f)) := by
  refine Table.Coherent.mapped hs C.symm (Table.mapped_updates p f _) (fun k r hr => ?_)
    fun k r x hr hapart => ?_
  · split
    · exact C.ok_of_validate (hvalid k r hr ‹_›)
    · exact hs.row k r hr
  · split
    · exact hkeep k r _ x (C.keep_of_validate (hvalid k r hr ‹_›)) hapart
    · exact hapart

/-- Rewriting a row in columns that no constraint looks at. -/
theorem coherent_same {τ ρ : Type} [DecidableEq τ] {E : Model τ ρ} {C : E.Constraints}
    {id : τ} {r new : ρ} (hs : C.Coherent s) (hlook : (E.get s).lookup id = some r)
    (hok : C.ok r → C.ok new) (hsame : ∀ x, C.apart x r → C.apart x new) :
    Table.Coherent C.ok C.apart ((E.get s).insert id new) :=
  hs.insert C.symm (hok (hs.row id r hlook)) fun k x hx hne =>
    hsame x (hs.apart k x id r hx hlook hne)

theorem DbStep.inventory_coherent (hs : s.Sound) (h : DbStep s s') :
    sessionSeatInventoryConstraints.Coherent s' := by
  cases h with
  | other _ _ hinventory =>
      exact sessionSeatInventoryConstraints.coherent_congr hinventory hs.inventory
  | inventory p f hvalid =>
      refine coherent_updates (E := Prisma.sessionSeatInventory) hs.inventory hvalid
        fun k row new x hkeep hapart => ?_
      simp only [sessionSeatInventoryConstraints, SessionSeatInventory.protectSnapshot,
        Except.bind_unit_eq_ok, check_eq_ok, SessionSeatInventory.snapshot, Prod.mk.injEq] at hkeep
      rintro ⟨hsession, hseat⟩
      exact hapart ⟨hkeep.1.1.symm.trans hsession, hkeep.1.2.1.symm.trans hseat⟩
  | _ => exact hs.inventory

theorem DbStep.holds_coherent (hs : s.Sound) (h : DbStep s s') :
    seatHoldConstraints.Coherent s' := by
  cases h with
  | other _ _ _ hholds => exact seatHoldConstraints.coherent_congr hholds hs.holds
  | hold id new hvalid => exact seatHoldConstraints.coherent_insert hs.holds hvalid
  | holds p f hvalid =>
      refine coherent_updates (E := Prisma.seatHold) hs.holds hvalid
        fun k h new x hkeep hapart => ?_
      simp only [seatHoldConstraints, SeatHold.protectIdentity, Except.bind_unit_eq_ok,
        check_eq_ok] at hkeep
      obtain ⟨⟨hsession, huser, htoken, hkey, -⟩, hterminal⟩ := hkeep
      refine ⟨by rw [htoken]; exact hapart.token, ?_, ?_⟩
      · rw [hsession, huser, hkey]
        exact hapart.key
      · rintro ⟨hactive, hrest⟩
        refine hapart.active ⟨?_, by rwa [hsession, huser] at hrest⟩
        by_contra hold
        exact hold ((hterminal hold).symm.trans hactive)
  | holdItems id h items hlook =>
      exact coherent_same (E := Prisma.seatHold) hs.holds hlook (fun hok => ⟨hok.1, hok.2⟩)
        fun x hapart => ⟨hapart.1, hapart.2, hapart.3⟩
  | _ => exact hs.holds

theorem DbStep.orders_coherent (hs : s.Sound) (h : DbStep s s') :
    checkoutOrderConstraints.Coherent s' := by
  cases h with
  | other _ _ _ _ horders => exact checkoutOrderConstraints.coherent_congr horders hs.orders
  | order id new hvalid => exact checkoutOrderConstraints.coherent_insert hs.orders hvalid
  | orders p f hvalid =>
      refine coherent_updates (E := Prisma.checkoutOrder) hs.orders hvalid
        fun k o new x hkeep hapart => ?_
      obtain ⟨hreference, -, -, -, -, hhold, -⟩ := CheckoutOrder.sameIdentity_of_protect hkeep
      exact ⟨by rw [hreference]; exact hapart.reference, by rw [hhold]; exact hapart.hold⟩
  | orderItems id o items hlook =>
      exact coherent_same (E := Prisma.checkoutOrder) hs.orders hlook
        (fun hok => ⟨hok.1, hok.2, hok.3, hok.4⟩) fun x hapart => ⟨hapart.1, hapart.2⟩
  | _ => exact hs.orders

theorem DbStep.webhooks_coherent (hs : s.Sound) (h : DbStep s s') :
    paymentWebhookEventConstraints.Coherent s' := by
  cases h with
  | other _ _ _ _ _ _ hwebhooks =>
      exact paymentWebhookEventConstraints.coherent_congr hwebhooks hs.webhooks
  | webhook id new _ hvalid =>
      exact paymentWebhookEventConstraints.coherent_insert hs.webhooks hvalid
  | webhooks p f hvalid =>
      refine coherent_updates (E := Prisma.paymentWebhookEvent) hs.webhooks hvalid
        fun k w new x hkeep hapart => ?_
      simp only [paymentWebhookEventConstraints, PaymentWebhookEvent.protectEnvelope,
        Except.bind_unit_eq_ok, check_eq_ok] at hkeep
      obtain ⟨⟨hprovider, hevent, -⟩, -⟩ := hkeep
      rintro ⟨hp, he⟩
      exact hapart ⟨hprovider.symm.trans hp, hevent.symm.trans he⟩
  | _ => exact hs.webhooks

theorem DbStep.bookings_coherent (hs : s.Sound) (h : DbStep s s') :
    bookingConstraints.Coherent s' := by
  cases h with
  | other _ _ _ _ _ _ _ hbookings => exact bookingConstraints.coherent_congr hbookings hs.bookings
  | booking id new hvalid => exact bookingConstraints.coherent_insert hs.bookings hvalid
  | bookingSeats id b seats hlook _ =>
      exact coherent_same (E := Prisma.booking) hs.bookings hlook
        (fun hok => ⟨hok.1, hok.2, hok.3⟩) fun x hapart => ⟨hapart.1, hapart.2⟩
  | _ => exact hs.bookings

theorem DbStep.refunds_coherent (hs : s.Sound) (h : DbStep s s') :
    refundConstraints.Coherent s' := by
  cases h with
  | other _ _ _ _ _ _ _ _ hrefunds => exact refundConstraints.coherent_congr hrefunds hs.refunds
  | refund id new hvalid => exact refundConstraints.coherent_insert hs.refunds hvalid
  | refundSeats id r seats hlook _ =>
      exact coherent_same (E := Prisma.refund) hs.refunds hlook
        (fun hok => ⟨hok.1, hok.2, hok.3, hok.4, hok.5⟩) fun x hapart =>
          ⟨hapart.1, hapart.2, hapart.3⟩
  | _ => exact hs.refunds

theorem DbStep.attempts_coherent (hs : s.Sound) (h : DbStep s s') :
    paymentAttemptConstraints.Coherent s' := by
  cases h with
  | other _ _ _ _ _ hattempts =>
      exact paymentAttemptConstraints.coherent_congr hattempts hs.attempts
  | attempt id new hvalid => exact paymentAttemptConstraints.coherent_insert hs.attempts hvalid
  | _ => exact hs.attempts

theorem DbStep.tickets_coherent (hs : s.Sound) (h : DbStep s s') :
    ticketConstraints.Coherent s' := by
  cases h with
  | other _ _ _ _ _ _ _ _ _ htickets => exact ticketConstraints.coherent_congr htickets hs.tickets
  | ticket id new hvalid => exact ticketConstraints.coherent_insert hs.tickets hvalid
  | _ => exact hs.tickets

theorem DbStep.credentials_coherent (hs : s.Sound) (h : DbStep s s') :
    ticketCredentialConstraints.Coherent s' := by
  cases h with
  | other _ _ _ _ _ _ _ _ _ _ hcredentials =>
      exact ticketCredentialConstraints.coherent_congr hcredentials hs.credentials
  | credential id new hvalid =>
      exact ticketCredentialConstraints.coherent_insert hs.credentials hvalid
  | credentials p f hclosed hvalid =>
      have hvalid' : ∀ k c, s.credentials.lookup k = some c → p k c = true →
          Prisma.ticketCredential.validate s k (some c) (f k c) = .ok () := hvalid
      -- a batch only closes credentials, so it cannot make two of them live
      refine Table.Coherent.mapped hs.credentials ticketCredentialConstraints.symm
        (Table.mapped_updates p f s.credentials) (fun k c hc => ?_) fun k c x hc hapart => ?_
      · split
        · exact ticketCredentialConstraints.ok_of_validate (hvalid' k c hc ‹_›)
        · exact hs.credentials.row k c hc
      · split
        · rename_i hp
          have hkeep := ticketCredentialConstraints.keep_of_validate (hvalid' k c hc hp)
          simp only [ticketCredentialConstraints, TicketCredential.protectHistory,
            Except.bind_unit_eq_ok, check_eq_ok] at hkeep
          obtain ⟨⟨hticket, hversion, hhash, -⟩, -, -⟩ := hkeep
          obtain ⟨hstatus, hreplacement⟩ := hclosed k c hc hp
          exact
            { hash := by rw [hhash]; exact hapart.hash
              replacement := by rw [hreplacement]; exact hapart.replacement
              version := by rw [hticket, hversion]; exact hapart.version
              active := fun hboth => hstatus hboth.1 }
        · exact hapart
  | _ => exact hs.credentials

theorem DbStep.disputes_coherent (hs : s.Sound) (h : DbStep s s') :
    paymentDisputeConstraints.Coherent s' := by
  cases h with
  | other _ _ _ _ _ _ _ _ _ _ _ hdisputes =>
      exact paymentDisputeConstraints.coherent_congr hdisputes hs.disputes
  | dispute id new _ hvalid => exact paymentDisputeConstraints.coherent_insert hs.disputes hvalid
  | _ => exact hs.disputes

/-- The order of a row after a step, as the state before the step has it. -/
theorem DbStep.attempt_order (hs : s.Sound) (h : DbStep s s') {id : AttemptId} {a : PaymentAttempt}
    (hlook : s'.attempts.lookup id = some a) : PaymentAttempt.enforceOrder s a = .ok () := by
  cases h with
  | other _ _ _ _ _ hattempts => exact hs.attemptOrder id a (hattempts ▸ hlook)
  | attempt aid new hvalid =>
      rcases Table.wrote_insert.cases hlook with ⟨rfl, rfl⟩ | ⟨-, hsame⟩
      · cases hold : s.attempts.lookup id with
        | none =>
            rw [hold] at hvalid
            exact paymentAttemptConstraints.start_of_validate hvalid
        | some old =>
            rw [hold] at hvalid
            have hterms := PaymentAttempt.sameTerms_of_protect
              (paymentAttemptConstraints.keep_of_validate hvalid)
            obtain ⟨horder, -, -, hamount, hcurrency, -⟩ := hterms.identity
            have horderOf := hs.attemptOrder id old hold
            simp only [PaymentAttempt.enforceOrder, check_eq_ok] at horderOf ⊢
            rwa [horder, hamount, hcurrency]
      · exact hs.attemptOrder id a hsame
  | _ => exact hs.attemptOrder id a hlook

theorem DbStep.booking_order (hs : s.Sound) (h : DbStep s s') {id : BookingId} {b : Booking}
    (hlook : s'.bookings.lookup id = some b) : Booking.enforceOrder s b = .ok () := by
  cases h with
  | other _ _ _ _ _ _ _ hbookings => exact hs.bookingOrder id b (hbookings ▸ hlook)
  | booking bid new hvalid =>
      rcases Table.wrote_insert.cases hlook with ⟨rfl, rfl⟩ | ⟨-, hsame⟩
      · cases hold : s.bookings.lookup id with
        | none =>
            rw [hold] at hvalid
            exact bookingConstraints.start_of_validate hvalid
        | some old =>
            rw [hold] at hvalid
            obtain ⟨-, horder, huser, horganization, hevent, hsession, hcurrency, htotal, -⟩ :=
              Booking.sameSnapshot_of_protect (bookingConstraints.keep_of_validate hvalid)
            have horderOf := hs.bookingOrder id old hold
            simp only [Booking.enforceOrder, check_eq_ok] at horderOf ⊢
            rwa [horder, huser, horganization, hevent, hsession, hcurrency, htotal]
      · exact hs.bookingOrder id b hsame
  | bookingSeats bid old seats hold _ =>
      rcases Table.wrote_insert.cases hlook with ⟨rfl, rfl⟩ | ⟨-, hsame⟩
      · exact hs.bookingOrder _ old hold
      · exact hs.bookingOrder id b hsame
  | _ => exact hs.bookingOrder id b hlook

theorem CheckoutOrder.ancestry_of_sameIdentity {old new : CheckoutOrder}
    (hsame : CheckoutOrder.SameIdentity old new)
    (h : CheckoutOrder.enforceAncestry s old = .ok ()) :
    CheckoutOrder.enforceAncestry s new = .ok () := by
  obtain ⟨-, huser, horganization, hevent, hsession, hhold, -, -, -, -, hexpires, -⟩ := hsame
  simp only [CheckoutOrder.enforceAncestry, Except.bind_unit_eq_ok, check_eq_ok] at h ⊢
  rwa [huser, horganization, hevent, hsession, hhold, hexpires]

theorem DbStep.order_ancestry (hs : s.Sound) (h : DbStep s s') {id : OrderId} {o : CheckoutOrder}
    (hlook : s'.orders.lookup id = some o) : CheckoutOrder.enforceAncestry s o = .ok () := by
  cases h with
  | other _ _ _ _ horders => exact hs.orderAncestry id o (horders ▸ hlook)
  | order oid new hvalid =>
      rcases Table.wrote_insert.cases hlook with ⟨rfl, rfl⟩ | ⟨-, hsame⟩
      · cases hold : s.orders.lookup id with
        | none =>
            rw [hold] at hvalid
            exact checkoutOrderConstraints.start_of_validate hvalid
        | some old =>
            rw [hold] at hvalid
            exact CheckoutOrder.ancestry_of_sameIdentity (CheckoutOrder.sameIdentity_of_protect
              (checkoutOrderConstraints.keep_of_validate hvalid)) (hs.orderAncestry id old hold)
      · exact hs.orderAncestry id o hsame
  | orders p f hvalid =>
      obtain ⟨old, hold, rfl⟩ := (Table.mapped_updates p f s.orders).cases hlook
      split
      · exact CheckoutOrder.ancestry_of_sameIdentity (CheckoutOrder.sameIdentity_of_protect
          (checkoutOrderConstraints.keep_of_validate (hvalid id old hold ‹_›)))
          (hs.orderAncestry id old hold)
      · exact hs.orderAncestry id old hold
  | orderItems oid old items hold =>
      rcases Table.wrote_insert.cases hlook with ⟨rfl, rfl⟩ | ⟨-, hsame⟩
      · exact hs.orderAncestry _ old hold
      · exact hs.orderAncestry id o hsame
  | _ => exact hs.orderAncestry id o hlook

theorem DbStep.refund_ancestry (hs : s.Sound) (h : DbStep s s') {id : RefundId} {r : Refund}
    (hlook : s'.refunds.lookup id = some r) : Refund.enforceAncestry s r = .ok () := by
  cases h with
  | other _ _ _ _ _ _ _ _ hrefunds => exact hs.refundAncestry id r (hrefunds ▸ hlook)
  | refund rid new hvalid =>
      rcases Table.wrote_insert.cases hlook with ⟨rfl, rfl⟩ | ⟨-, hsame⟩
      · cases hold : s.refunds.lookup id with
        | none =>
            rw [hold] at hvalid
            exact refundConstraints.start_of_validate hvalid
        | some old =>
            rw [hold] at hvalid
            obtain ⟨-, horder, hattempt, hbooking, -, -, -, hamount, hcurrency, hprovider, -⟩ :=
              Refund.sameIdentity_of_protect (refundConstraints.keep_of_validate hvalid)
            have hancestry := hs.refundAncestry id old hold
            simp only [Refund.enforceAncestry, Except.bind_unit_eq_ok, check_eq_ok] at hancestry ⊢
            rwa [horder, hattempt, hbooking, hamount, hcurrency, hprovider]
      · exact hs.refundAncestry id r hsame
  | refundSeats rid old seats hold _ =>
      rcases Table.wrote_insert.cases hlook with ⟨rfl, rfl⟩ | ⟨-, hsame⟩
      · exact hs.refundAncestry _ old hold
      · exact hs.refundAncestry id r hsame
  | _ => exact hs.refundAncestry id r hlook

theorem DbStep.dispute_ancestry (hs : s.Sound) (h : DbStep s s') {id : DisputeId}
    {d : PaymentDispute} (hlook : s'.disputes.lookup id = some d) :
    PaymentDispute.enforceAncestry s d = .ok () := by
  cases h with
  | other _ _ _ _ _ _ _ _ _ _ _ hdisputes => exact hs.disputeAncestry id d (hdisputes ▸ hlook)
  | dispute did new hbooking hvalid =>
      rcases Table.wrote_insert.cases hlook with ⟨rfl, rfl⟩ | ⟨-, hsame⟩
      · cases hold : s.disputes.lookup id with
        | none =>
            rw [hold] at hvalid
            exact paymentDisputeConstraints.start_of_validate hvalid
        | some old =>
            rw [hold] at hvalid
            have hkeep := paymentDisputeConstraints.keep_of_validate hvalid
            simp only [paymentDisputeConstraints, PaymentDispute.protectIdentity,
              Except.bind_unit_eq_ok, check_eq_ok] at hkeep
            obtain ⟨-, hattempt, horder, hprovider, -, hamount, hcurrency, -⟩ := hkeep.1
            have hancestry := hs.disputeAncestry id old hold
            simp only [PaymentDispute.enforceAncestry, Except.bind_unit_eq_ok, check_eq_ok]
              at hancestry ⊢
            rwa [hattempt, horder, hprovider, hamount, hcurrency, hbooking old hold]
      · exact hs.disputeAncestry id d hsame
  | _ => exact hs.disputeAncestry id d hlook

/-- **Soundness.** Every admitted write keeps the database sound. -/
theorem Db.Sound.step (hs : s.Sound) (h : DbStep s s') : s'.Sound where
  inventory := h.inventory_coherent hs
  holds := h.holds_coherent hs
  orders := h.orders_coherent hs
  attempts := h.attempts_coherent hs
  webhooks := h.webhooks_coherent hs
  bookings := h.bookings_coherent hs
  refunds := h.refunds_coherent hs
  tickets := h.tickets_coherent hs
  credentials := h.credentials_coherent hs
  disputes := h.disputes_coherent hs
  orderAncestry := fun _ _ hlook => h.keeps.orderAncestry (h.order_ancestry hs hlook)
  attemptOrder := fun _ _ hlook => h.keeps.enforceOrder (h.attempt_order hs hlook)
  bookingOrder := fun _ _ hlook => h.keeps.bookingOrder (h.booking_order hs hlook)
  refundAncestry := fun _ _ hlook => h.keeps.refundAncestry (h.refund_ancestry hs hlook)
  disputeAncestry := fun _ _ hlook => h.keeps.disputeAncestry (h.dispute_ancestry hs hlook)

/-! ## §4 Deferred triggers -/

/-- The columns that `Refund_verify_seat_total` reads. -/
def Refund.seatColumns (r : Refund) : List RefundSeat × RefundScope × Money :=
  (r.seats, r.scope, r.requestedAmountMinor)

/-- The columns that `CheckoutOrder_verify_totals` reads. -/
def CheckoutOrder.totalColumns (o : CheckoutOrder) : List CheckoutOrderItem × Money × Currency :=
  (o.items, o.totalMinor, o.currency)

/-- What an attempt has refunded and reserved. -/
def PaymentAttempt.totals (a : PaymentAttempt) : Money × Money :=
  (a.refundedMinor, a.inFlightRefundMinor)

/-- What a record is linked to. -/
def PaymentWebhookEvent.links (w : PaymentWebhookEvent) : Option RefundId × Option DisputeId :=
  (w.refundId, w.disputeId)

theorem verifySeatTotal_congr {id : RefundId}
    (h : (s'.refunds.lookup id).map Refund.seatColumns
      = (s.refunds.lookup id).map Refund.seatColumns) :
    Refund.verifySeatTotal s' id = Refund.verifySeatTotal s id := by
  unfold Refund.verifySeatTotal
  cases hold : s.refunds.lookup id with
  | none =>
      rw [hold, Option.map_none, Option.map_eq_none_iff] at h
      rw [h]
  | some r =>
      rw [hold] at h
      obtain ⟨r', hr', hcolumns⟩ := Option.map_eq_some_iff.mp h
      simp only [Refund.seatColumns, Prod.mk.injEq] at hcolumns
      obtain ⟨hseats, hscope, hamount⟩ := hcolumns
      simp only [hr', hseats, hscope, hamount]

theorem verifyTotals_congr {id : OrderId}
    (h : (s'.orders.lookup id).map CheckoutOrder.totalColumns
      = (s.orders.lookup id).map CheckoutOrder.totalColumns) :
    CheckoutOrder.verifyTotals s' id = CheckoutOrder.verifyTotals s id := by
  unfold CheckoutOrder.verifyTotals
  cases hold : s.orders.lookup id with
  | none =>
      rw [hold, Option.map_none, Option.map_eq_none_iff] at h
      rw [h]
  | some o =>
      rw [hold] at h
      obtain ⟨o', ho', hcolumns⟩ := Option.map_eq_some_iff.mp h
      simp only [CheckoutOrder.totalColumns, Prod.mk.injEq] at hcolumns
      obtain ⟨hitems, htotal, hcurrency⟩ := hcolumns
      simp only [ho', hitems, htotal, hcurrency]

/-- Rewriting a row in columns that `key` does not look at. -/
theorem map_lookup_insert {κ ρ γ : Type} [DecidableEq κ] {t : Table κ ρ} {key : ρ → γ} {k : κ}
    {r new : ρ} (hlook : t.lookup k = some r) (hkey : key new = key r) (k' : κ) :
    ((t.insert k new).lookup k').map key = (t.lookup k').map key := by
  rw [Table.lookup_insert_ite]
  split
  · rename_i hk
    rw [hk, hlook, Option.map_some, Option.map_some, hkey]
  · rfl

/-- A state inside a transaction: sound, and a total that is not right has its
trigger queued. -/
structure Db.Regular (db : Db) : Prop where
  sound : db.Sound
  seatTotals : ∀ id, Refund.verifySeatTotal db id = .ok () ∨
    DeferredTrigger.verifyRefundSeatTotal id ∈ db.deferred
  orderTotals : ∀ id, CheckoutOrder.verifyTotals db id = .ok () ∨
    DeferredTrigger.verifyOrderTotals id ∈ db.deferred

/-- A state between transactions. -/
structure Db.Consistent (db : Db) : Prop where
  sound : db.Sound
  idle : db.deferred = []
  seatTotals : ∀ id, Refund.verifySeatTotal db id = .ok ()
  orderTotals : ∀ id, CheckoutOrder.verifyTotals db id = .ok ()

theorem Db.Consistent.regular (hs : s.Consistent) : s.Regular :=
  ⟨hs.sound, fun id => .inl (hs.seatTotals id), fun id => .inl (hs.orderTotals id)⟩

/-- An admitted write that touches no total. -/
theorem Db.Regular.step (hs : s.Regular) (h : DbStep s s')
    (hrefunds : ∀ id, (s'.refunds.lookup id).map Refund.seatColumns
      = (s.refunds.lookup id).map Refund.seatColumns)
    (horders : ∀ id, (s'.orders.lookup id).map CheckoutOrder.totalColumns
      = (s.orders.lookup id).map CheckoutOrder.totalColumns)
    (hdeferred : s'.deferred = s.deferred) : s'.Regular where
  sound := hs.sound.step h
  seatTotals := fun id => by
    rw [verifySeatTotal_congr (hrefunds id), hdeferred]
    exact hs.seatTotals id
  orderTotals := fun id => by
    rw [verifyTotals_congr (horders id), hdeferred]
    exact hs.orderTotals id

theorem Db.Sound.queue (hs : s.Sound) (queue : List DeferredTrigger) :
    Db.Sound { s with deferred := queue } :=
  hs.step (.other rfl rfl rfl rfl rfl rfl rfl rfl rfl rfl rfl rfl)

theorem Db.Regular.queue (hs : s.Regular) (trigger : DeferredTrigger) :
    Db.Regular { s with deferred := trigger :: s.deferred } where
  sound := hs.sound.queue _
  seatTotals := fun id => (hs.seatTotals id).imp_right (List.mem_cons_of_mem _)
  orderTotals := fun id => (hs.orderTotals id).imp_right (List.mem_cons_of_mem _)

/-- **Commit.** A regular state whose queued triggers pass is committed consistent. -/
theorem Db.Regular.commit (hs : s.Regular)
    (hchecked : checkAll (DeferredTrigger.check s) s.deferred = .ok ()) :
    Db.Consistent { s with deferred := [] } := by
  rw [checkAll_eq_ok] at hchecked
  exact
    { sound := hs.sound.queue []
      idle := rfl
      seatTotals := fun id => (hs.seatTotals id).elim (fun h => h) (hchecked _)
      orderTotals := fun id => (hs.orderTotals id).elim (fun h => h) (hchecked _) }

/-! ## §5 Transactions -/

/-- What a body did by steps, and its queued triggers accept, is by steps between
transactions. -/
def Committing (step whole : Db → Db → Prop) : Prop :=
  ∀ s s', Relation.ReflTransGen step s s' →
    checkAll (DeferredTrigger.check s') s'.deferred = .ok () →
      Relation.ReflTransGen whole s { s' with deferred := [] }

theorem Committing.ensures {step whole : Db → Db → Prop} (hcommit : Committing step whole)
    {α : Type} {body : Sql α}
    (hbody : body.Ensures s fun _ s' => Relation.ReflTransGen step s s') :
    (runInTransaction body).Ensures s fun _ s' => Relation.ReflTransGen whole s s' :=
  ensures_runInTransaction (hbody.mono fun _ s' hsteps hchecked => hcommit s s' hsteps hchecked)

theorem Committing.steps {step whole : Db → Db → Prop} (hcommit : Committing step whole)
    {α : Type} {body : Sql α} (hbody : body.Steps step) : (runInTransaction body).Steps whole :=
  fun s => hcommit.ensures (steps_iff_ensures.mp hbody s)

/-- Storing a verified event of a category is a step. -/
def Storing (category : PaymentWebhookEventCategory) (step : Db → Db → Prop) : Prop :=
  ∀ (s : Db) id w, s.Receives w → w.eventCategory = category → s.webhooks.lookup id = none →
    PaymentWebhookEvent.validate s id none w = .ok () →
      step s { s with webhooks := s.webhooks.insert id w }

/-- The insertion of a record, as the text that stores it has come to it. -/
theorem Storing.ensures {category : PaymentWebhookEventCategory} {step : Db → Db → Prop}
    (hstoring : Storing category step) {s : Db} {id : WebhookId} {w : PaymentWebhookEvent}
    {result : WebhookId × Bool} (hreceives : s.Receives w)
    (hcategory : w.eventCategory = category) :
    Ensures (do Prisma.paymentWebhookEvent.insert id w; pure result) s fun _ s' =>
      Relation.ReflTransGen step s s' :=
  ensures_bind.mpr (Entity.ensures_insert.mpr fun habsent hvalid =>
    ensures_pure.mpr (.single (hstoring s id w hreceives hcategory habsent hvalid)))

/-- A relation that does not look at the queue of deferred triggers. -/
theorem committing_of_queue {step : Db → Db → Prop}
    (hqueue : ∀ s, step s { s with deferred := [] }) : Committing step step :=
  fun _ s' hsteps _ => hsteps.tail (hqueue s')

/-- Between regular states and consistent ones. -/
theorem committing_consistent : Committing (Keeping Db.Regular) (Keeping Db.Consistent) := by
  intro s s' hsteps hchecked
  refine .single fun hs => ?_
  have hregular : s'.Regular := by
    clear hchecked
    induction hsteps with
    | refl => exact hs.regular
    | tail _ hstep ih => exact hstep ih
  exact hregular.commit hchecked

end SeatFlow
