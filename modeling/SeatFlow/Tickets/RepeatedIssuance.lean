import Mathlib.Data.List.Perm.Subperm
import SeatFlow.Database.Coherence
import SeatFlow.Tickets.IssuanceService

/-!
# Issuing tickets again

Issuance is retried until it has gone through, over whatever earlier attempts, scans, revocations
and refunds have left of the booking's tickets. The loop over the seats always goes through: it
leaves a ticket at every seat and a live credential with every live ticket. What follows counts
the live credentials of the whole booking, and so rejects a booking with a ticket that is used or
revoked and has none.
-/

namespace SeatFlow

open Relational Program

/-! ## §1 Bookings and their tickets -/

/-- The ticket has a live credential. -/
def Db.Admits (db : Db) (ticketId : TicketId) : Prop :=
  ∃ k c, db.credentials.lookup k = some c ∧ c.ticketId = ticketId ∧ c.status = .ACTIVE

/-- A confirmed booking with its tickets and credentials, as the schema and the services keep
them. -/
structure Db.Confirmed (db : Db) (bookingId : BookingId) (booking : Booking) : Prop where
  found : db.bookings.lookup bookingId = some booking
  status : booking.status = .CONFIRMED
  seats : (booking.seats.map (·.id)).Nodup
  tickets : ticketConstraints.Coherent db
  credentials : ticketCredentialConstraints.Coherent db
  home : ∀ k t, db.tickets.lookup k = some t →
    (t.bookingId = bookingId ↔ ∃ seat ∈ booking.seats, seat.id = t.bookingSeatId)
  derived : ∀ k c, db.credentials.lookup k = some c → ∃ t,
    db.tickets.lookup c.ticketId = some t ∧ c.credentialHash = .derived t.publicReference c.version

variable {db db' : Db} {bookingId : BookingId} {booking : Booking}

/-- A seat has one ticket. -/
theorem Db.Confirmed.seat_unique (h : db.Confirmed bookingId booking) {k k' : TicketId}
    {t t' : Ticket} (hk : db.tickets.lookup k = some t) (hk' : db.tickets.lookup k' = some t')
    (hseat : t.bookingSeatId = t'.bookingSeatId) : k = k' := by
  by_contra hne
  exact (h.tickets.apart k t k' t' hk hk' hne).seat hseat

/-- A ticket has one live credential. -/
theorem Db.Confirmed.live_unique (h : db.Confirmed bookingId booking) {k k' : CredentialId}
    {c c' : TicketCredential} (hk : db.credentials.lookup k = some c)
    (hk' : db.credentials.lookup k' = some c') (hc : c.status = .ACTIVE) (hc' : c'.status = .ACTIVE)
    (hticket : c.ticketId = c'.ticketId) : k = k' := by
  by_contra hne
  exact (h.credentials.apart k c k' c' hk hk' hne).active ⟨hc, hc', hticket⟩

/-- What is generated for these seats is not in use, and differs from seat to seat. -/
structure FreshTickets.UnusedTickets (fresh : FreshTickets) (db : Db) (seats : List BookingSeat) :
    Prop where
  ticketId : ∀ seat ∈ seats, db.tickets.lookup (fresh.ticketId seat.id) = none
  ticketId_inj : ∀ seat ∈ seats, ∀ other ∈ seats,
    fresh.ticketId seat.id = fresh.ticketId other.id → seat.id = other.id
  reference : ∀ seat ∈ seats, ∀ k t, db.tickets.lookup k = some t →
    t.publicReference ≠ fresh.publicReference seat.id
  reference_inj : ∀ seat ∈ seats, ∀ other ∈ seats,
    fresh.publicReference seat.id = fresh.publicReference other.id → seat.id = other.id

structure FreshTickets.UnusedCredentials (fresh : FreshTickets) (db : Db)
    (seats : List BookingSeat) : Prop where
  credentialId : ∀ seat ∈ seats, db.credentials.lookup (fresh.credentialId seat.id) = none
  credentialId_inj : ∀ seat ∈ seats, ∀ other ∈ seats,
    fresh.credentialId seat.id = fresh.credentialId other.id → seat.id = other.id

/-- Every seat has its ticket, which has a live credential if it is live. -/
def Db.Complete (db : Db) (seats : List BookingSeat) : Prop :=
  ∀ seat ∈ seats, ∃ k t, db.tickets.lookup k = some t ∧ t.bookingSeatId = seat.id ∧
    (t.status = .ACTIVE → db.Admits k)

/-! ## §2 The count -/

/-- The tickets of a complete booking are one for each seat. -/
theorem Db.Confirmed.length_tickets (h : db.Confirmed bookingId booking)
    (hcomplete : db.Complete booking.seats) :
    (db.tickets.select fun _ t => t.bookingId == bookingId).length = booking.seats.length := by
  have hkeys := Table.nodup_select_fst (fun _ t => t.bookingId == bookingId) db.tickets
  have hnodup : ((db.tickets.select fun _ t => t.bookingId == bookingId).map
      fun e : TicketId × Ticket => e.2.bookingSeatId).Nodup := by
    refine List.Nodup.map_on (fun e he e' he' hseat => ?_) (List.Nodup.of_map _ hkeys)
    obtain ⟨hlook, -⟩ := Table.mem_select.mp he
    obtain ⟨hlook', -⟩ := Table.mem_select.mp he'
    have hid := h.seat_unique hlook hlook' hseat
    rw [hid] at hlook
    exact Prod.ext hid (Option.some.inj (hlook.symm.trans hlook'))
  have hperm : ((db.tickets.select fun _ t => t.bookingId == bookingId).map
      fun e : TicketId × Ticket => e.2.bookingSeatId).Perm (booking.seats.map (·.id)) := by
    refine (List.perm_ext_iff_of_nodup hnodup h.seats).mpr fun seatId => ?_
    constructor
    · intro hmem
      obtain ⟨e, he, rfl⟩ := List.mem_map.mp hmem
      obtain ⟨hlook, hbooking⟩ := Table.mem_select.mp he
      obtain ⟨seat, hseat, hid⟩ := (h.home e.1 e.2 hlook).mp (beq_iff_eq.mp hbooking)
      exact List.mem_map.mpr ⟨seat, hseat, hid⟩
    · intro hmem
      obtain ⟨seat, hseat, rfl⟩ := List.mem_map.mp hmem
      obtain ⟨k, t, hlook, hid, -⟩ := hcomplete seat hseat
      refine List.mem_map.mpr ⟨(k, t), Table.mem_select.mpr ⟨hlook, beq_iff_eq.mpr ?_⟩, hid⟩
      exact (h.home k t hlook).mpr ⟨seat, hseat, hid.symm⟩
  simpa using hperm.length_eq

/-- There are as many live credentials as tickets if and only if every ticket has one. -/
theorem Db.Confirmed.length_live (h : db.Confirmed bookingId booking) :
    (db.liveCredentials bookingId).length =
        (db.tickets.select fun _ t => t.bookingId == bookingId).length ↔
      ∀ k t, db.tickets.lookup k = some t → t.bookingId = bookingId → db.Admits k := by
  have hkeys := Table.nodup_select_fst (fun _ t => t.bookingId == bookingId) db.tickets
  have hlive : ∀ e ∈ db.liveCredentials bookingId, db.credentials.lookup e.1 = some e.2 ∧
      e.2.status = .ACTIVE ∧ ∃ t, db.tickets.lookup e.2.ticketId = some t ∧
        t.bookingId = bookingId := by
    intro e he
    obtain ⟨hlook, hp⟩ := Table.mem_select.mp he
    obtain ⟨hactive, hticket⟩ := Bool.and_eq_true_iff.mp hp
    obtain ⟨t, ht, hbooking⟩ := (Option.any_eq_true _ _).mp hticket
    exact ⟨hlook, beq_iff_eq.mp hactive, t, ht, beq_iff_eq.mp hbooking⟩
  have hnodup : ((db.liveCredentials bookingId).map
      fun e : CredentialId × TicketCredential => e.2.ticketId).Nodup := by
    refine List.Nodup.map_on (fun e he e' he' hticket => ?_)
      (List.Nodup.of_map _ (Table.nodup_select_fst _ db.credentials))
    obtain ⟨hlook, hactive, -⟩ := hlive e he
    obtain ⟨hlook', hactive', -⟩ := hlive e' he'
    have hid := h.live_unique hlook hlook' hactive hactive' hticket
    rw [hid] at hlook
    exact Prod.ext hid (Option.some.inj (hlook.symm.trans hlook'))
  have hsubset : ((db.liveCredentials bookingId).map
      fun e : CredentialId × TicketCredential => e.2.ticketId) ⊆
      (db.tickets.select fun _ t => t.bookingId == bookingId).map Prod.fst := by
    intro k hk
    obtain ⟨e, he, rfl⟩ := List.mem_map.mp hk
    obtain ⟨-, -, t, ht, hbooking⟩ := hlive e he
    exact List.mem_map.mpr ⟨(_, t), Table.mem_select.mpr ⟨ht, beq_iff_eq.mpr hbooking⟩, rfl⟩
  have hsubperm := List.subperm_of_subset hnodup hsubset
  constructor
  · intro hlength k t hlook hbooking
    -- as many as there are tickets, so none is left out
    have hperm := hsubperm.perm_of_length_le (by simp [hlength])
    have hmem : k ∈ (db.tickets.select fun _ t => t.bookingId == bookingId).map Prod.fst :=
      List.mem_map.mpr ⟨(k, t), Table.mem_select.mpr ⟨hlook, beq_iff_eq.mpr hbooking⟩, rfl⟩
    obtain ⟨e, he, hid⟩ := List.mem_map.mp (hperm.mem_iff.mpr hmem)
    obtain ⟨hcredential, hactive, -⟩ := hlive e he
    exact ⟨e.1, e.2, hcredential, hid, hactive⟩
  · intro hall
    have hsuperset : (db.tickets.select fun _ t => t.bookingId == bookingId).map Prod.fst ⊆
        (db.liveCredentials bookingId).map
          fun e : CredentialId × TicketCredential => e.2.ticketId := by
      intro k hk
      obtain ⟨e, he, rfl⟩ := List.mem_map.mp hk
      obtain ⟨hlook, hbooking⟩ := Table.mem_select.mp he
      obtain ⟨id, c, hc, hticket, hactive⟩ := hall e.1 e.2 hlook (beq_iff_eq.mp hbooking)
      refine List.mem_map.mpr ⟨(id, c), Table.mem_select.mpr ⟨hc, ?_⟩, hticket⟩
      rw [Bool.and_eq_true, hticket, hlook]
      exact ⟨beq_iff_eq.mpr hactive, hbooking⟩
    have hperm := hsubperm.antisymm (List.subperm_of_subset hkeys hsuperset)
    simpa using hperm.length_eq

/-! ## §3 The loop -/

/-- What the loop has left of `db` when `ticketless` are still to get their tickets and `waiting`
their credentials. -/
structure Issuing (db : Db) (bookingId : BookingId) (booking : Booking) (fresh : FreshTickets)
    (ticketless waiting : List BookingSeat) (db' : Db) : Prop where
  confirmed : db'.Confirmed bookingId booking
  unusedTickets : fresh.UnusedTickets db' ticketless
  unusedCredentials : fresh.UnusedCredentials db' waiting
  ticketsKept : ∀ k t, db.tickets.lookup k = some t → db'.tickets.lookup k = some t
  credentialsKept : ∀ k c, db.credentials.lookup k = some c → db'.credentials.lookup k = some c
  ticketsNew : ∀ k t, db'.tickets.lookup k = some t →
    db.tickets.lookup k = some t ∨ t.status = .ACTIVE
  credentialsNew : ∀ k c, db'.credentials.lookup k = some c →
    db.credentials.lookup k = some c ∨
      ∃ t, db'.tickets.lookup c.ticketId = some t ∧ t.status = .ACTIVE
  done : ∀ seat ∈ booking.seats, seat ∈ waiting ∨ ∃ k t, db'.tickets.lookup k = some t ∧
    t.bookingSeatId = seat.id ∧ (t.status = .ACTIVE → db'.Admits k)
  deferred : ∀ trigger ∈ db'.deferred, ∃ k c, trigger = .verifyCredentialReplacement k ∧
    db'.credentials.lookup k = some c ∧ c.status = .ACTIVE

variable {fresh : FreshTickets} {now : Time} {seat : BookingSeat}
  {ticketless waiting todo : List BookingSeat}

theorem FreshTickets.UnusedTickets.tail (h : fresh.UnusedTickets db (seat :: todo)) :
    fresh.UnusedTickets db todo where
  ticketId := fun s hs => h.ticketId s (List.mem_cons_of_mem _ hs)
  ticketId_inj := fun s hs s' hs' =>
    h.ticketId_inj s (List.mem_cons_of_mem _ hs) s' (List.mem_cons_of_mem _ hs')
  reference := fun s hs => h.reference s (List.mem_cons_of_mem _ hs)
  reference_inj := fun s hs s' hs' =>
    h.reference_inj s (List.mem_cons_of_mem _ hs) s' (List.mem_cons_of_mem _ hs')

theorem FreshTickets.UnusedCredentials.tail (h : fresh.UnusedCredentials db (seat :: todo)) :
    fresh.UnusedCredentials db todo where
  credentialId := fun s hs => h.credentialId s (List.mem_cons_of_mem _ hs)
  credentialId_inj := fun s hs s' hs' =>
    h.credentialId_inj s (List.mem_cons_of_mem _ hs) s' (List.mem_cons_of_mem _ hs')

/-- A ticket can be inserted at a seat that has none. -/
theorem Db.Confirmed.validate_ticket (h : db.Confirmed bookingId booking)
    (hunused : fresh.UnusedTickets db (seat :: todo)) (hseat : seat ∈ booking.seats)
    (hnone : ∀ k t, db.tickets.lookup k = some t → t.bookingSeatId ≠ seat.id) :
    Prisma.ticket.validate db (fresh.ticketId seat.id) none
      (booking.ticket bookingId seat (fresh.publicReference seat.id) now) = .ok () := by
  refine (ticketConstraints.validate_iff db _ none _).mpr ⟨rfl, fun k t hlook _ => ?_, ?_⟩
  · exact ⟨hunused.reference seat List.mem_cons_self k t hlook, hnone k t hlook⟩
  · refine check_eq_ok.mpr ⟨booking, h.found, h.status, ?_, rfl, rfl, rfl, rfl⟩
    exact List.any_eq_true.mpr ⟨seat, hseat, beq_self_eq_true _⟩

/-- Inserting the ticket of a seat that has none. -/
theorem Issuing.ticketed (h : Issuing db bookingId booking fresh (seat :: ticketless) waiting db')
    (hseats : ((seat :: ticketless).map (·.id)).Nodup) (hseat : seat ∈ booking.seats)
    (hnone : ∀ k t, db'.tickets.lookup k = some t → t.bookingSeatId ≠ seat.id) :
    Issuing db bookingId booking fresh ticketless waiting
      { db' with
        tickets := db'.tickets.insert (fresh.ticketId seat.id)
          (booking.ticket bookingId seat (fresh.publicReference seat.id) now) } := by
  have habsent := h.unusedTickets.ticketId seat List.mem_cons_self
  have hkept : ∀ k t, db'.tickets.lookup k = some t →
      (db'.tickets.insert (fresh.ticketId seat.id)
        (booking.ticket bookingId seat (fresh.publicReference seat.id) now)).lookup k = some t := by
    intro k t hlook
    rw [AList.lookup_insert_ne]
    · exact hlook
    · rintro rfl
      rw [habsent] at hlook
      cases hlook
  have hother : ∀ other ∈ ticketless, seat.id ≠ other.id := by
    intro other hmem hid
    rw [List.map_cons, List.nodup_cons] at hseats
    exact hseats.1 (List.mem_map.mpr ⟨other, hmem, hid.symm⟩)
  constructor
  · exact
      { found := h.confirmed.found
        status := h.confirmed.status
        seats := h.confirmed.seats
        tickets := ticketConstraints.coherent_insert h.confirmed.tickets
          (h.confirmed.validate_ticket h.unusedTickets hseat hnone)
        credentials := h.confirmed.credentials
        home := by
          intro k t hlook
          rcases Table.wrote_insert.cases hlook with ⟨rfl, rfl⟩ | ⟨-, hold⟩
          · exact ⟨fun _ => ⟨seat, hseat, rfl⟩, fun _ => rfl⟩
          · exact h.confirmed.home k t hold
        derived := by
          intro k c hlook
          obtain ⟨t, ht, hhash⟩ := h.confirmed.derived k c hlook
          exact ⟨t, hkept _ t ht, hhash⟩ }
  · have htail := h.unusedTickets.tail
    refine
      { htail with
        ticketId := fun other hmem => ?_
        reference := fun other hmem k t hlook => ?_ }
    · show (db'.tickets.insert _ _).lookup _ = none
      rw [AList.lookup_insert_ne]
      · exact htail.ticketId other hmem
      · intro hid
        exact hother other hmem (h.unusedTickets.ticketId_inj seat List.mem_cons_self other
          (List.mem_cons_of_mem _ hmem) hid.symm)
    · rcases Table.wrote_insert.cases hlook with ⟨rfl, rfl⟩ | ⟨-, hold⟩
      · intro href
        exact hother other hmem (h.unusedTickets.reference_inj seat List.mem_cons_self other
          (List.mem_cons_of_mem _ hmem) href)
      · exact htail.reference other hmem k t hold
  · exact { h.unusedCredentials with credentialId := h.unusedCredentials.credentialId }
  · exact fun k t hlook => hkept k t (h.ticketsKept k t hlook)
  · exact h.credentialsKept
  · intro k t hlook
    rcases Table.wrote_insert.cases hlook with ⟨rfl, rfl⟩ | ⟨-, hold⟩
    · exact .inr rfl
    · exact h.ticketsNew k t hold
  · intro k c hlook
    rcases h.credentialsNew k c hlook with hold | ⟨t, ht, hactive⟩
    · exact .inl hold
    · exact .inr ⟨t, hkept _ t ht, hactive⟩
  · intro other hmem
    rcases h.done other hmem with hwaiting | ⟨k, t, hlook, hid, hadmits⟩
    · exact .inl hwaiting
    · exact .inr ⟨k, t, hkept k t hlook, hid, hadmits⟩
  · exact h.deferred

/-- A seat has its ticket, or gets one. -/
theorem Issuing.commits_issueTicket
    (h : Issuing db bookingId booking fresh (seat :: ticketless) waiting db')
    (hseats : ((seat :: ticketless).map (·.id)).Nodup) (hseat : seat ∈ booking.seats) :
    Commits (issueTicket bookingId booking fresh now seat) db' fun r db'' =>
      Issuing db bookingId booking fresh ticketless waiting db'' ∧
        db''.tickets.lookup r.1 = some r.2.1 ∧ r.2.1.bookingSeatId = seat.id := by
  unfold issueTicket
  refine commits_bind.mpr (Entity.commits_findMany.mpr ?_)
  cases hhead : ((Prisma.ticket.get db').select fun _ t => t.bookingSeatId == seat.id).head? with
  | some e =>
      obtain ⟨hlook, hid⟩ := Table.mem_select.mp (List.mem_of_head? hhead)
      refine commits_pure.mpr ⟨?_, hlook, beq_iff_eq.mp hid⟩
      exact { h with unusedTickets := h.unusedTickets.tail }
  | none =>
      have hnone : ∀ k t, db'.tickets.lookup k = some t → t.bookingSeatId ≠ seat.id := by
        intro k t hlook hid
        have hempty := List.head?_eq_none_iff.mp hhead
        have hmem : (k, t) ∈ (Prisma.ticket.get db').select fun _ t => t.bookingSeatId == seat.id :=
          Table.mem_select.mpr ⟨hlook, beq_iff_eq.mpr hid⟩
        rw [hempty] at hmem
        cases hmem
      refine commits_bind.mpr (Entity.commits_insert.mpr
        ⟨h.unusedTickets.ticketId seat List.mem_cons_self,
          h.confirmed.validate_ticket h.unusedTickets hseat hnone, commits_pure.mpr ?_⟩)
      exact ⟨h.ticketed hseats hseat hnone, AList.lookup_insert _, rfl⟩

theorem le_foldr_max {l : List Nat} {n : Nat} (h : n ∈ l) : n ≤ l.foldr max 0 := by
  induction l with
  | nil => cases h
  | cons m l ih =>
      rw [List.foldr_cons]
      rcases List.mem_cons.mp h with rfl | h
      · exact Nat.le_max_left _ _
      · exact Nat.le_trans (ih h) (Nat.le_max_right _ _)

/-- A next credential can be inserted for a ticket without a live one. -/
theorem Db.Confirmed.validate_credential (h : db.Confirmed bookingId booking)
    (credentialId : CredentialId) (now : Time) {ticketId : TicketId} {ticket : Ticket}
    {version : Nat}
    (hticket : db.tickets.lookup ticketId = some ticket)
    (hnone : ¬ db.Admits ticketId)
    (hversion : ∀ k c, db.credentials.lookup k = some c → c.ticketId = ticketId →
      c.version < version) (hpositive : 1 ≤ version) :
    Prisma.ticketCredential.validate db credentialId none
      (ticket.credential ticketId version now) = .ok () := by
  refine (ticketCredentialConstraints.validate_iff db _ none _).mpr
    ⟨⟨hpositive, rfl⟩, fun k c hlook _ => ?_, trivial⟩
  refine ⟨fun hhash => ?_, fun id hboth => ?_, fun hsame => ?_, fun hlive => ?_⟩
  · -- the text of a credential tells its ticket and version
    obtain ⟨t, ht, hderived⟩ := h.derived k c hlook
    obtain ⟨href, hnumber⟩ := CredentialToken.derived.inj (hderived.symm.trans hhash)
    have hid : c.ticketId = ticketId := by
      by_contra hne
      exact (h.tickets.apart _ t _ ticket ht hticket hne).reference href
    have hlt := hversion k c hlook hid
    omega
  · cases hboth.2
  · have hlt := hversion k c hlook hsame.1
    exact absurd hsame.2 (Nat.ne_of_lt hlt)
  · exact hnone ⟨k, c, hlook, hlive.2.2, hlive.1⟩

theorem Db.Admits.insert {ticketId : TicketId} {credentialId : CredentialId}
    {new : TicketCredential} (h : db.Admits ticketId)
    (habsent : db.credentials.lookup credentialId = none) :
    ({ db with credentials := db.credentials.insert credentialId new } : Db).Admits ticketId := by
  obtain ⟨k, c, hlook, hticket, hactive⟩ := h
  refine ⟨k, c, ?_, hticket, hactive⟩
  show (db.credentials.insert _ _).lookup k = _
  rw [AList.lookup_insert_ne]
  · exact hlook
  · rintro rfl
    rw [habsent] at hlook
    cases hlook

/-- The seat whose ticket has what it should have waits no longer. -/
theorem Issuing.settle
    (h : Issuing db bookingId booking fresh ticketless (seat :: waiting) db')
    {ticketId : TicketId} {ticket : Ticket} (hticket : db'.tickets.lookup ticketId = some ticket)
    (hseat : ticket.bookingSeatId = seat.id)
    (hadmits : ticket.status = .ACTIVE → db'.Admits ticketId) :
    Issuing db bookingId booking fresh ticketless waiting db' :=
  { h with
    unusedCredentials := h.unusedCredentials.tail
    done := fun other hmem => by
      rcases h.done other hmem with hwaiting | hdone
      · rcases List.mem_cons.mp hwaiting with rfl | hwaiting
        · exact .inr ⟨ticketId, ticket, hticket, hseat, hadmits⟩
        · exact .inl hwaiting
      · exact .inr hdone }

/-- Inserting the next credential of a live ticket that has none. -/
theorem Issuing.credentialed
    (h : Issuing db bookingId booking fresh ticketless (seat :: waiting) db')
    (hseats : ((seat :: waiting).map (·.id)).Nodup) {ticketId : TicketId} {ticket : Ticket}
    {version : Nat} (hticket : db'.tickets.lookup ticketId = some ticket)
    (hseat : ticket.bookingSeatId = seat.id) (hactive : ticket.status = .ACTIVE)
    (hvalid : Prisma.ticketCredential.validate db' (fresh.credentialId seat.id) none
      (ticket.credential ticketId version now) = .ok ()) :
    Issuing db bookingId booking fresh ticketless waiting
      { db' with
        credentials := db'.credentials.insert (fresh.credentialId seat.id)
          (ticket.credential ticketId version now)
        deferred :=
          .verifyCredentialReplacement (fresh.credentialId seat.id) :: db'.deferred } := by
  have habsent := h.unusedCredentials.credentialId seat List.mem_cons_self
  have hkept : ∀ k c, db'.credentials.lookup k = some c →
      (db'.credentials.insert (fresh.credentialId seat.id)
        (ticket.credential ticketId version now)).lookup k = some c := by
    intro k c hlook
    rw [AList.lookup_insert_ne]
    · exact hlook
    · rintro rfl
      rw [habsent] at hlook
      cases hlook
  have hadmits : ({ db' with
      credentials := db'.credentials.insert (fresh.credentialId seat.id)
        (ticket.credential ticketId version now) } : Db).Admits ticketId :=
    ⟨_, _, AList.lookup_insert _, rfl, rfl⟩
  constructor
  · exact
      { found := h.confirmed.found
        status := h.confirmed.status
        seats := h.confirmed.seats
        tickets := h.confirmed.tickets
        credentials := ticketCredentialConstraints.coherent_insert h.confirmed.credentials hvalid
        home := h.confirmed.home
        derived := by
          intro k c hlook
          rcases Table.wrote_insert.cases hlook with ⟨rfl, rfl⟩ | ⟨-, hold⟩
          · exact ⟨ticket, hticket, rfl⟩
          · exact h.confirmed.derived k c hold }
  · exact { h.unusedTickets with ticketId := h.unusedTickets.ticketId }
  · refine { h.unusedCredentials.tail with credentialId := fun other hmem => ?_ }
    show (db'.credentials.insert _ _).lookup _ = none
    rw [AList.lookup_insert_ne]
    · exact h.unusedCredentials.tail.credentialId other hmem
    · intro hid
      rw [List.map_cons, List.nodup_cons] at hseats
      exact hseats.1 (List.mem_map.mpr ⟨other, hmem, h.unusedCredentials.credentialId_inj other
        (List.mem_cons_of_mem _ hmem) seat List.mem_cons_self hid⟩)
  · exact h.ticketsKept
  · exact fun k c hlook => hkept k c (h.credentialsKept k c hlook)
  · exact h.ticketsNew
  · intro k c hlook
    rcases Table.wrote_insert.cases hlook with ⟨rfl, rfl⟩ | ⟨-, hold⟩
    · exact .inr ⟨ticket, hticket, hactive⟩
    · exact h.credentialsNew k c hold
  · intro other hmem
    rcases h.done other hmem with hwaiting | ⟨k, t, hlook, hid, hlive⟩
    · rcases List.mem_cons.mp hwaiting with rfl | hwaiting
      · exact .inr ⟨ticketId, ticket, hticket, hseat, fun _ => hadmits⟩
      · exact .inl hwaiting
    · exact .inr ⟨k, t, hlook, hid, fun hlive' => (hlive hlive').insert habsent⟩
  · intro trigger hmem
    rcases List.mem_cons.mp hmem with rfl | hmem
    · exact ⟨_, _, rfl, AList.lookup_insert _, rfl⟩
    · obtain ⟨k, c, htrigger, hlook, hlive⟩ := h.deferred trigger hmem
      exact ⟨k, c, htrigger, hkept k c hlook, hlive⟩

/-- A live ticket has a live credential, or gets one. -/
theorem Issuing.commits_issueCredential
    (h : Issuing db bookingId booking fresh ticketless (seat :: waiting) db')
    (hseats : ((seat :: waiting).map (·.id)).Nodup) {ticketId : TicketId} {ticket : Ticket}
    (hticket : db'.tickets.lookup ticketId = some ticket) (hseat : ticket.bookingSeatId = seat.id) :
    Commits (issueCredential (fresh.credentialId seat.id) ticketId ticket now) db' fun _ db'' =>
      Issuing db bookingId booking fresh ticketless waiting db'' := by
  have hadmits : (Prisma.ticketCredential.get db').select (fun _ c =>
      c.ticketId == ticketId && c.status == .ACTIVE) ≠ [] → db'.Admits ticketId := by
    intro hne
    obtain ⟨e, he⟩ := List.exists_mem_of_ne_nil _ hne
    obtain ⟨hlook, hp⟩ := Table.mem_select.mp he
    obtain ⟨hid, hactive⟩ := Bool.and_eq_true_iff.mp hp
    exact ⟨e.1, e.2, hlook, beq_iff_eq.mp hid, beq_iff_eq.mp hactive⟩
  unfold issueCredential
  refine commits_bind.mpr (Entity.commits_findMany.mpr ?_)
  split
  · next hissue =>
      obtain ⟨hempty, hactive⟩ := hissue
      have hnone : ¬ db'.Admits ticketId := by
        rintro ⟨k, c, hlook, hid, hlive⟩
        refine List.eq_nil_iff_forall_not_mem.mp hempty (k, c) (Table.mem_select.mpr ⟨hlook, ?_⟩)
        rw [Bool.and_eq_true]
        exact ⟨beq_iff_eq.mpr hid, beq_iff_eq.mpr hlive⟩
      refine commits_bind.mpr (Entity.commits_findMany.mpr (commits_bind.mpr ?_))
      have hversion : ∀ k c, db'.credentials.lookup k = some c → c.ticketId = ticketId →
          c.version < (((Prisma.ticketCredential.get db').select fun _ c =>
            c.ticketId == ticketId).map fun e => e.2.version).foldr max 0 + 1 := by
        intro k c hlook hid
        refine Nat.lt_succ_of_le (le_foldr_max (List.mem_map.mpr ⟨(k, c), ?_, rfl⟩))
        exact Table.mem_select.mpr ⟨hlook, beq_iff_eq.mpr hid⟩
      have hvalid := h.confirmed.validate_credential (fresh.credentialId seat.id) now hticket
        hnone hversion (Nat.le_add_left 1 _)
      unfold createCredential
      refine commits_bind.mpr (Entity.commits_insert.mpr
        ⟨h.unusedCredentials.credentialId seat List.mem_cons_self, hvalid, ?_⟩)
      refine commits_perform.mpr ⟨_, rfl, commits_pure.mpr ?_⟩
      exact h.credentialed hseats hticket hseat hactive hvalid
  · next hkeep =>
      refine commits_pure.mpr (h.settle hticket hseat fun hactive => hadmits fun hempty => ?_)
      exact hkeep ⟨hempty, hactive⟩

/-- The loop goes through. -/
theorem Issuing.commits_issueSeats (h : Issuing db bookingId booking fresh todo todo db')
    (hseats : (todo.map (·.id)).Nodup) (hsubset : todo ⊆ booking.seats) :
    Commits (issueSeats bookingId booking fresh now todo) db' fun _ db'' =>
      Issuing db bookingId booking fresh [] [] db'' := by
  induction todo generalizing db' with
  | nil => exact commits_pure.mpr h
  | cons seat todo ih =>
      have htail : (todo.map (·.id)).Nodup := by
        rw [List.map_cons, List.nodup_cons] at hseats
        exact hseats.2
      unfold issueSeats
      refine commits_bind.mpr (Commits.mono
        (h.commits_issueTicket hseats (hsubset List.mem_cons_self)) ?_)
      rintro ⟨ticketId, ticket, issued⟩ db₁ ⟨h₁, hticket, hseat⟩
      refine commits_bind.mpr (Commits.mono (h₁.commits_issueCredential hseats hticket hseat) ?_)
      intro created db₂ h₂
      refine commits_bind.mpr (Commits.mono (ih h₂ htail fun other hmem =>
        hsubset (List.mem_cons_of_mem _ hmem)) ?_)
      exact fun rest db₃ h₃ => commits_pure.mpr h₃

/-! ## §4 The transaction -/

/-- A booking whose tickets are to be issued, and what has been generated for them. -/
structure Issuable (db : Db) (bookingId : BookingId) (booking : Booking) (fresh : FreshTickets) :
    Prop where
  confirmed : db.Confirmed bookingId booking
  unusedTickets : fresh.UnusedTickets db booking.seats
  unusedCredentials : fresh.UnusedCredentials db booking.seats
  idle : db.deferred = []

theorem Issuable.start (h : Issuable db bookingId booking fresh) (hperm : todo.Perm booking.seats) :
    Issuing db bookingId booking fresh todo todo db where
  confirmed := h.confirmed
  unusedTickets :=
    { ticketId := fun s hs => h.unusedTickets.ticketId s (hperm.mem_iff.mp hs)
      ticketId_inj := fun s hs s' hs' =>
        h.unusedTickets.ticketId_inj s (hperm.mem_iff.mp hs) s' (hperm.mem_iff.mp hs')
      reference := fun s hs => h.unusedTickets.reference s (hperm.mem_iff.mp hs)
      reference_inj := fun s hs s' hs' =>
        h.unusedTickets.reference_inj s (hperm.mem_iff.mp hs) s' (hperm.mem_iff.mp hs') }
  unusedCredentials :=
    { credentialId := fun s hs => h.unusedCredentials.credentialId s (hperm.mem_iff.mp hs)
      credentialId_inj := fun s hs s' hs' =>
        h.unusedCredentials.credentialId_inj s (hperm.mem_iff.mp hs) s' (hperm.mem_iff.mp hs') }
  ticketsKept := fun _ _ hlook => hlook
  credentialsKept := fun _ _ hlook => hlook
  ticketsNew := fun _ _ hlook => .inl hlook
  credentialsNew := fun _ _ hlook => .inl hlook
  done := fun _ hmem => .inl (hperm.mem_iff.mpr hmem)
  deferred := fun trigger hmem => by
    rw [h.idle] at hmem
    cases hmem

/-- The tickets that stay without a live credential are those that the loop passes by. -/
def Db.Unadmitted (db : Db) (bookingId : BookingId) : Prop :=
  ∃ k t, db.tickets.lookup k = some t ∧ t.bookingId = bookingId ∧ t.status ≠ .ACTIVE ∧
    ¬ db.Admits k

theorem Issuing.complete (h : Issuing db bookingId booking fresh [] [] db') :
    db'.Complete booking.seats := by
  intro seat hmem
  rcases h.done seat hmem with hwaiting | hdone
  · cases hwaiting
  · exact hdone

theorem Issuing.admits_iff (h : Issuing db bookingId booking fresh [] [] db') :
    (∀ k t, db'.tickets.lookup k = some t → t.bookingId = bookingId → db'.Admits k) ↔
      ¬ db.Unadmitted bookingId := by
  constructor
  · rintro hall ⟨k, t, hlook, hbooking, hended, hnone⟩
    have hlook' := h.ticketsKept k t hlook
    obtain ⟨id, c, hc, hticket, hactive⟩ := hall k t hlook' hbooking
    rcases h.credentialsNew id c hc with hold | ⟨t', ht', hlive⟩
    · exact hnone ⟨id, c, hold, hticket, hactive⟩
    · rw [hticket] at ht'
      cases Option.some.inj (hlook'.symm.trans ht')
      exact hended hlive
  · intro hnot k t hlook hbooking
    by_cases hactive : t.status = .ACTIVE
    · obtain ⟨seat, hseat, hid⟩ := (h.confirmed.home k t hlook).mp hbooking
      obtain ⟨k', t', hlook', hid', hadmits⟩ := h.complete seat hseat
      have hk := h.confirmed.seat_unique hlook hlook' (hid.symm.trans hid'.symm)
      subst hk
      cases Option.some.inj (hlook.symm.trans hlook')
      exact hadmits hactive
    · rcases h.ticketsNew k t hlook with hold | hlive
      · by_contra hnone
        refine hnot ⟨k, t, hold, hbooking, hactive, fun hadmits => hnone ?_⟩
        obtain ⟨id, c, hc, hticket, hlive⟩ := hadmits
        exact ⟨id, c, h.credentialsKept id c hc, hticket, hlive⟩
      · exact absurd hlive hactive

/-- The check after the loop. -/
theorem Issuing.counted_iff (h : Issuing db bookingId booking fresh [] [] db') :
    (((Prisma.ticket.get db').select fun _ t => t.bookingId == bookingId).length =
        booking.seats.length ∧ (db'.liveCredentials bookingId).length = booking.seats.length) ↔
      ¬ db.Unadmitted bookingId := by
  have htickets : ((Prisma.ticket.get db').select fun _ t => t.bookingId == bookingId).length =
      booking.seats.length := h.confirmed.length_tickets h.complete
  rw [← h.admits_iff, ← h.confirmed.length_live]
  constructor
  · rintro ⟨-, hlive⟩
    exact hlive.trans htickets.symm
  · intro hlive
    exact ⟨htickets, hlive.trans htickets⟩

theorem Issuing.checked (h : Issuing db bookingId booking fresh [] [] db') :
    checkAll (DeferredTrigger.check db') db'.deferred = .ok () := by
  refine checkAll_eq_ok.mpr fun trigger hmem => ?_
  obtain ⟨k, c, rfl, hlook, hactive⟩ := h.deferred trigger hmem
  refine check_eq_ok.mpr fun c' hc' hreplaced => ?_
  cases Option.some.inj (hlook.symm.trans hc')
  rw [hactive] at hreplaced
  cases hreplaced

/-- The body goes through if and only if there are seats and no ticket stays unadmitted. -/
theorem Issuable.commits_issueBookingTickets (h : Issuable db bookingId booking fresh)
    (now : Time) :
    ∃ result db', Issuing db bookingId booking fresh [] [] db' ∧
      ∀ Q : IssuanceResult → Db → Prop,
        Commits (issueBookingTicketsInTransaction bookingId fresh now) db Q ↔
          booking.seats ≠ [] ∧ ¬ db.Unadmitted bookingId ∧ Q result db' := by
  have hperm := List.perm_insertionSort (fun a b : BookingSeat => a.id ≤ b.id) booking.seats
  obtain ⟨counts, db', hrun, hissuing⟩ : Commits (issueSeats bookingId booking fresh now _) _ _ :=
    (h.start hperm).commits_issueSeats
      ((hperm.map _).nodup_iff.mpr h.confirmed.seats) fun _ hmem => hperm.mem_iff.mp hmem
  have hfound : (Prisma.booking.get db).lookup bookingId = some booking := h.confirmed.found
  refine ⟨{ total := ((Prisma.ticket.get db').select fun _ t => t.bookingId == bookingId).length
            issued := counts.1
            credentialsCreated := counts.2 }, db', hissuing, fun Q => ?_⟩
  unfold issueBookingTicketsInTransaction
  simp only [commits_bind, Entity.commits_findOrThrow, commits_require]
  constructor
  · rintro ⟨b, hb, ⟨-, hseats⟩, counts', db₁, hrun', htail⟩
    cases Option.some.inj (hfound.symm.trans hb)
    cases hrun.symm.trans hrun'
    simp only [Entity.commits_findMany, commits_read, commits_pure] at htail
    exact ⟨hseats, hissuing.counted_iff.mp htail.1, htail.2⟩
  · rintro ⟨hseats, hnone, hQ⟩
    refine ⟨booking, hfound, ⟨h.confirmed.status, hseats⟩, counts, db', hrun, ?_⟩
    simp only [Entity.commits_findMany, commits_read, commits_pure]
    exact ⟨hissuing.counted_iff.mpr hnone, hQ⟩

/-! ## §5 Once and again -/

/-- Issuing a complete seat changes nothing. -/
theorem commits_issueSeats_complete (hcomplete : db.Complete todo)
    (hunique : ∀ k t k' t', db.tickets.lookup k = some t → db.tickets.lookup k' = some t' →
      t.bookingSeatId = t'.bookingSeatId → k = k') :
    Commits (issueSeats bookingId booking fresh now todo) db fun _ db' => db' = db := by
  induction todo with
  | nil => exact commits_pure.mpr rfl
  | cons seat todo ih =>
      obtain ⟨k, t, hlook, hid, hadmits⟩ := hcomplete seat List.mem_cons_self
      have htail := ih fun other hmem => hcomplete other (List.mem_cons_of_mem _ hmem)
      have htickets : (Prisma.ticket.get db).select (fun _ t => t.bookingSeatId == seat.id) =
          [(k, t)] := by
        refine Table.select_eq_singleton hlook (beq_iff_eq.mpr hid) fun k' t' hlook' hid' => ?_
        exact hunique k' t' k t hlook' hlook ((beq_iff_eq.mp hid').trans hid.symm)
      have hkeep : ¬ ((Prisma.ticketCredential.get db).select (fun _ c =>
          c.ticketId == k && c.status == .ACTIVE) = [] ∧ t.status = .ACTIVE) := by
        rintro ⟨hempty, hactive⟩
        obtain ⟨id, c, hc, hticket, hlive⟩ := hadmits hactive
        refine List.eq_nil_iff_forall_not_mem.mp hempty (id, c) (Table.mem_select.mpr ⟨hc, ?_⟩)
        rw [Bool.and_eq_true]
        exact ⟨beq_iff_eq.mpr hticket, beq_iff_eq.mpr hlive⟩
      unfold issueSeats issueTicket
      refine commits_bind.mpr (commits_bind.mpr (Entity.commits_findMany.mpr ?_))
      rw [htickets]
      refine commits_pure.mpr (commits_bind.mpr ?_)
      unfold issueCredential
      refine commits_bind.mpr (Entity.commits_findMany.mpr ?_)
      rw [if_neg hkeep]
      refine commits_pure.mpr (commits_bind.mpr (htail.mono ?_))
      rintro rest db' rfl
      exact commits_pure.mpr rfl

/-- What issuing the tickets of a booking should leave. -/
structure Db.Issued (db db' : Db) (bookingId : BookingId) (booking : Booking) : Prop where
  /-- One ticket at every seat, and no others. -/
  tickets : ∀ seat ∈ booking.seats, ∃ k t, db'.tickets.lookup k = some t ∧
    t.bookingId = bookingId ∧ t.bookingSeatId = seat.id ∧
    ∀ k' t', db'.tickets.lookup k' = some t' → t'.bookingSeatId = seat.id → k' = k
  others : ∀ k t, db'.tickets.lookup k = some t → t.bookingId = bookingId →
    ∃ seat ∈ booking.seats, seat.id = t.bookingSeatId
  statuses : ∀ k t, db.tickets.lookup k = some t →
    ∃ t', db'.tickets.lookup k = some t' ∧ t'.status = t.status
  /-- One live credential with every live ticket. -/
  credentials : ∀ k t, db'.tickets.lookup k = some t → t.bookingId = bookingId →
    t.status = .ACTIVE → ∃ id c, db'.credentials.lookup id = some c ∧ c.ticketId = k ∧
      c.status = .ACTIVE ∧ ∀ id' c', db'.credentials.lookup id' = some c' → c'.ticketId = k →
        c'.status = .ACTIVE → id' = id
  /-- A repetition goes through and changes nothing. -/
  again : ∀ fresh now, Commits (runInTransaction
    (issueBookingTicketsInTransaction bookingId fresh now)) db' fun _ db'' => db'' = db'

theorem Issuing.issued (h : Issuing db bookingId booking fresh [] [] db')
    (hseats : booking.seats ≠ []) (hnone : ¬ db.Unadmitted bookingId) :
    db.Issued { db' with deferred := [] } bookingId booking where
  tickets := by
    intro seat hseat
    obtain ⟨k, t, hlook, hid, -⟩ := h.complete seat hseat
    refine ⟨k, t, hlook, (h.confirmed.home k t hlook).mpr ⟨seat, hseat, hid.symm⟩, hid, ?_⟩
    exact fun k' t' hlook' hid' => h.confirmed.seat_unique hlook' hlook (hid'.trans hid.symm)
  others := fun k t hlook hbooking => (h.confirmed.home k t hlook).mp hbooking
  statuses := fun k t hlook => ⟨t, h.ticketsKept k t hlook, rfl⟩
  credentials := by
    intro k t hlook hbooking _
    obtain ⟨id, c, hc, hticket, hlive⟩ := h.admits_iff.mpr hnone k t hlook hbooking
    refine ⟨id, c, hc, hticket, hlive, fun id' c' hc' hticket' hlive' => ?_⟩
    exact h.confirmed.live_unique hc' hc hlive' hlive (hticket'.trans hticket.symm)
  again := by
    intro fresh' now
    have hcomplete : Db.Complete { db' with deferred := [] }
        (booking.seats.insertionSort fun a b => a.id ≤ b.id) :=
      fun seat hmem => h.complete seat ((List.mem_insertionSort _).mp hmem)
    refine commits_runInTransaction (commits_bind.mpr
      (Entity.commits_findOrThrow.mpr ⟨booking, h.confirmed.found, commits_bind.mpr ?_⟩))
    refine commits_require.mpr ⟨⟨h.confirmed.status, hseats⟩, commits_bind.mpr ?_⟩
    refine (commits_issueSeats_complete hcomplete fun k t k' t' hk hk' =>
      h.confirmed.seat_unique hk hk').mono ?_
    rintro counts _ rfl
    refine commits_bind.mpr (Entity.commits_findMany.mpr (commits_bind.mpr (commits_read.mpr ?_)))
    exact commits_bind.mpr (commits_require.mpr
      ⟨h.counted_iff.mpr hnone, commits_pure.mpr ⟨rfl, rfl⟩⟩)

/-- **Issuing the tickets of a booking** goes through, leaves what it should, and changes nothing
when it is repeated, if and only if the booking has seats and each of its tickets that is used or
revoked still has a live credential. -/
theorem issuance_repeatable (h : Issuable db bookingId booking fresh) (now : Time) :
    Commits (runInTransaction (issueBookingTicketsInTransaction bookingId fresh now)) db
        (fun _ db' => db.Issued db' bookingId booking) ↔
      booking.seats ≠ [] ∧ ∀ k t, db.tickets.lookup k = some t → t.bookingId = bookingId →
        t.status ≠ .ACTIVE → db.Admits k := by
  obtain ⟨result, db', hissuing, hbody⟩ := h.commits_issueBookingTickets now
  have hunadmitted : ¬ db.Unadmitted bookingId ↔ ∀ k t, db.tickets.lookup k = some t →
      t.bookingId = bookingId → t.status ≠ .ACTIVE → db.Admits k := by
    simp only [Db.Unadmitted, not_exists, not_and, not_not]
  constructor
  · intro hcommits
    have hopened := (hbody _).mp (commits_bind.mp hcommits)
    exact ⟨hopened.1, hunadmitted.mp hopened.2.1⟩
  · rintro ⟨hseats, hall⟩
    have hnone := hunadmitted.mpr hall
    refine commits_runInTransaction ((hbody _).mpr ⟨hseats, hnone, hissuing.checked, ?_⟩)
    exact hissuing.issued hseats hnone

section Matinee

def matineeSeat (id : BookingSeatId) : BookingSeat where
  id := id
  inventoryId := id
  sessionId := 1
  seatId := id
  sectionId := 1
  priceTierId := 1
  priceMinor := 1500
  currency := .EUR

/-- A booking of two seats. -/
def matineeBooking : Booking where
  publicReference := 1
  orderId := 1
  userId := 1
  organizationId := 1
  eventId := 1
  sessionId := 1
  currency := .EUR
  totalMinor := 3000
  confirmedAt := 0
  createdAt := 0
  seats := [matineeSeat 1, matineeSeat 2]

def matineeTicket (id : TicketId) : Ticket :=
  matineeBooking.ticket 1 (matineeSeat id) (id + 6) 0

/-- Both seats have their tickets, which have no credentials yet. -/
def matinee (ticket : Ticket) : Db :=
  { bookings := (∅ : Table BookingId Booking).insert 1 matineeBooking
    tickets := ((∅ : Table TicketId Ticket).insert 2 (matineeTicket 2)).insert 1 ticket }

/-- An administrator has revoked the ticket before its credential was issued. -/
def revokedTicket : Ticket :=
  { matineeTicket 1 with status := .REVOKED, revokedAt := some 5, revocationReason := some "LOST" }

def matineeFresh : FreshTickets where
  ticketId seatId := seatId + 10
  publicReference seatId := seatId + 10
  credentialId seatId := seatId + 10

theorem matinee_tickets {ticket : Ticket} {k : TicketId} {t : Ticket}
    (hlook : (matinee ticket).tickets.lookup k = some t) :
    (k = 1 ∧ t = ticket) ∨ (k = 2 ∧ t = matineeTicket 2) := by
  rcases Table.wrote_insert.cases hlook with hnew | ⟨-, hold⟩
  · exact .inl hnew
  · rcases Table.wrote_insert.cases hold with hnew | ⟨-, hnone⟩
    · exact .inr hnew
    · simp at hnone

theorem matinee_issuable {ticket : Ticket} (hcheck : ticket.lifecycleCheck = true)
    (hbooking : ticket.bookingId = 1) (hseat : ticket.bookingSeatId = 1)
    (href : ticket.publicReference = 7) :
    Issuable (matinee ticket) 1 matineeBooking matineeFresh := by
  have hcredential : ∀ k c, (matinee ticket).credentials.lookup k ≠ some c := by
    intro k c hlook
    simp [matinee] at hlook
  have hapart : Ticket.Apart ticket (matineeTicket 2) := by
    constructor
    · rw [href]
      decide
    · rw [hseat]
      decide
  refine ⟨⟨rfl, rfl, by decide, ⟨?_, ?_⟩, ⟨?_, ?_⟩, ?_, ?_⟩, ⟨?_, ?_, ?_, ?_⟩, ⟨?_, ?_⟩, rfl⟩
  · intro k t hlook
    rcases matinee_tickets hlook with ⟨-, rfl⟩ | ⟨-, rfl⟩
    · exact hcheck
    · exact (by decide : (matineeTicket 2).lifecycleCheck = true)
  · intro k t k' t' hlook hlook' hne
    rcases matinee_tickets hlook with ⟨rfl, rfl⟩ | ⟨rfl, rfl⟩ <;>
      rcases matinee_tickets hlook' with ⟨rfl, rfl⟩ | ⟨rfl, rfl⟩
    · exact absurd rfl hne
    · exact hapart
    · exact ticketConstraints.symm _ _ hapart
    · exact absurd rfl hne
  · exact fun k c hlook => absurd hlook (hcredential k c)
  · exact fun k c k' c' hlook => absurd hlook (hcredential k c)
  · intro k t hlook
    rcases matinee_tickets hlook with ⟨-, rfl⟩ | ⟨-, rfl⟩
    · rw [hbooking, hseat]
      exact ⟨fun _ => ⟨matineeSeat 1, List.mem_cons_self, rfl⟩, fun _ => rfl⟩
    · decide
  · exact fun k c hlook => absurd hlook (hcredential k c)
  · intro seat hmem
    cases hlook : (matinee ticket).tickets.lookup (matineeFresh.ticketId seat.id) with
    | some t =>
      rcases matinee_tickets hlook with ⟨hid, -⟩ | ⟨hid, -⟩
      · exact absurd hid (Nat.succ_succ_ne_one _)
      · exact absurd (Nat.succ.inj (Nat.succ.inj hid)) (Nat.succ_ne_zero _)
    | none => rfl
  · decide
  · intro seat hmem k t hlook
    rcases matinee_tickets hlook with ⟨-, rfl⟩ | ⟨-, rfl⟩
    · rw [href]
      revert seat
      decide
    · revert seat
      decide
  · decide
  · exact fun seat _ => rfl
  · decide

/-- Both tickets get their credentials. -/
theorem issuance_repeatable_backfilled :
    Commits (runInTransaction (issueBookingTicketsInTransaction 1 matineeFresh 1))
      (matinee (matineeTicket 1))
      (fun _ db' => (matinee (matineeTicket 1)).Issued db' 1 matineeBooking) :=
  (issuance_repeatable (matinee_issuable (by decide) rfl rfl rfl) 1).mpr
    ⟨by decide, fun k t hlook _ hstatus => by
      rcases matinee_tickets hlook with ⟨-, rfl⟩ | ⟨-, rfl⟩
      · exact absurd rfl hstatus
      · exact absurd rfl hstatus⟩

/-- After the revocation, the other ticket never gets its credential. -/
theorem issuance_incomplete_after_revocation :
    Issuable (matinee revokedTicket) 1 matineeBooking matineeFresh ∧
      (runInTransaction (issueBookingTicketsInTransaction 1 matineeFresh 1)).run
        (matinee revokedTicket) = .error (.domain "TICKET_ISSUANCE_INCOMPLETE") :=
  ⟨matinee_issuable (by decide) rfl rfl rfl, by rfl⟩

end Matinee

end SeatFlow
