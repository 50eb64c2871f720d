import SeatFlow.Collections.Results
import SeatFlow.Outbox.DeliveryRetries
import SeatFlow.Tickets.IssuanceService

/-!
# Redeeming download grants

`consumeBookingPdfGrant`: a redemption finds the grant by its token, locks it, compares its expiry
with the start of the transaction, reads the booking, its tickets and their credentials, each in a
statement of its own, renders the document and marks the grant as used. Any number of redemptions
run at once, at read committed, while the rest of the database changes in any way and time goes
on. The titles, names and labels in the document are descriptive text and left out.
-/

namespace SeatFlow

open Relational

abbrev GrantId := Nat
abbrev DownloadId := Nat

/-! ## §1 Grants -/

inductive TicketDownloadGrantPurpose
  | BOOKING_PDF
  deriving DecidableEq

/-- A token as `generateDownloadGrantToken` or `deriveDownloadGrantToken` makes it. -/
inductive DownloadToken
  | generated (random : Reference)
  | derived (token : DownloadGrantToken)
  deriving DecidableEq

/-- The whole row. `tokenHash` is a keyed hash, which is only compared: it is known by its token. -/
structure DownloadGrant extends TicketDownloadGrant where
  tokenHash : DownloadToken
  purpose : TicketDownloadGrantPurpose := .BOOKING_PDF
  usedAt : Option Time := none
  revokedAt : Option Time := none
  deriving DecidableEq

/-- The `CHECK` constraints. -/
def DownloadGrant.checks (grant : DownloadGrant) : Bool :=
  grant.createdAt < grant.expiresAt && !(grant.usedAt.isSome && grant.revokedAt.isSome)

/-- The trigger `TicketDownloadGrant_protect_history`. -/
def DownloadGrant.protectHistory (old new : DownloadGrant) : Except Failure Unit := do
  ensure (new.bookingId = old.bookingId ∧ new.userId = old.userId ∧ new.tokenHash = old.tokenHash ∧
      new.purpose = old.purpose ∧ new.expiresAt = old.expiresAt ∧ new.createdAt = old.createdAt)
    (.constraint "Download grant identity is immutable")
  ensure ((old.usedAt = none ∧ old.revokedAt = none) ∨
      (new.usedAt = old.usedAt ∧ new.revokedAt = old.revokedAt))
    (.constraint "A terminal download grant cannot be replayed or changed")

def isDownloadGrantUsable (grant : DownloadGrant) (now : Time) : Bool :=
  grant.usedAt.isNone && grant.revokedAt.isNone && now < grant.expiresAt

/-- `(EXTRACT(EPOCH FROM CURRENT_TIMESTAMP) * 1000)::bigint`, of an instant in microseconds after
1970: a half is rounded up. -/
def epochMilliseconds (microseconds : Time) : Time :=
  (microseconds + 500) / 1000

/-- Who is found to be in time started in time. -/
theorem lt_of_epochMilliseconds_lt {microseconds milliseconds : Int}
    (h : epochMilliseconds microseconds < milliseconds) : microseconds < milliseconds * 1000 := by
  have hdiv : (microseconds + 500) / 1000 < milliseconds := h
  omega

/-! ## §2 The document -/

structure TicketPdfEntry where
  ticketReference : Reference
  status : TicketStatus
  credential : Option CredentialToken
  deriving DecidableEq

structure TicketPdfView where
  bookingReference : Reference
  tickets : List TicketPdfEntry
  deriving DecidableEq

/-- `tickets` of `loadBookingForPdf`. -/
def ticketsForPdf (db : Db) (bookingId : BookingId) : List (TicketId × Ticket) :=
  db.tickets.select fun _ ticket => ticket.bookingId = bookingId

/-- `credentials` of `loadBookingForPdf`: the live one with the highest version. -/
def credentialForPdf (db : Db) (ticketId : TicketId) : Option TicketCredential :=
  ((db.credentials.ordered (fun _ c => c.ticketId = ticketId && c.status == .ACTIVE)
    fun c => OrderDual.toDual c.version).head?).map Prod.snd

def pdfEntry (ticket : Ticket) (stored : Option TicketCredential) : Except Failure TicketPdfEntry :=
  if ticket.status = .ACTIVE then
    match stored with
    | none => .error (.domain "TICKET_CREDENTIAL_NOT_AVAILABLE")
    | some stored =>
        let credential := CredentialToken.derived ticket.publicReference stored.version
        if stored.credentialHash = credential then
          .ok
            { ticketReference := ticket.publicReference
              status := ticket.status
              credential := some credential }
        else .error (.domain "TICKET_CREDENTIAL_INTEGRITY_FAILURE")
  else
    .ok { ticketReference := ticket.publicReference, status := ticket.status, credential := none }

def buildPdfView (booking : Booking) (tickets : List (TicketId × Ticket))
    (stored : TicketId → Option TicketCredential) : Except Failure TicketPdfView := do
  let entries ← tickets.mapM fun e => pdfEntry e.2 (stored e.1)
  pure { bookingReference := booking.publicReference, tickets := entries }

/-! ## §3 Redemptions -/

/-- How far a redemption has come. From `locked` on it holds the lock of its grant. -/
inductive RedemptionStage
  | begun
  | found (id : GrantId)
  | locked (id : GrantId)
  | usable (id : GrantId) (grant : DownloadGrant)
  | booked (id : GrantId) (grant : DownloadGrant) (booking : Booking)
  | ticketed (id : GrantId) (grant : DownloadGrant) (booking : Booking)
      (tickets : List (TicketId × Ticket))
  | rendered (id : GrantId) (grant : DownloadGrant) (view : TicketPdfView)
  | ended

def RedemptionStage.holds : RedemptionStage → Option GrantId
  | .begun | .found _ | .ended => none
  | .locked id | .usable id _ | .booked id _ _ | .ticketed id _ _ _ | .rendered id _ _ => some id

structure Redemption where
  userId : UserId
  token : DownloadToken
  startedAt : Time
  stage : RedemptionStage := .begun

/-- What the log records: the committed database as a statement found it, and how it ended. -/
inductive GrantEvent
  | began (redemption : DownloadId) (userId : UserId) (startedAt : Time)
  | locked (redemption : DownloadId) (id : GrantId)
  | readBooking (redemption : DownloadId) (db : Db)
  | readTickets (redemption : DownloadId) (db : Db)
  | readCredentials (redemption : DownloadId) (db : Db)
  | redeemed (redemption : DownloadId) (id : GrantId) (token : DownloadToken)
      (view : TicketPdfView)
  | failed (redemption : DownloadId)

structure GrantSystem where
  clock : Time
  db : Db
  grants : Table GrantId DownloadGrant
  redemptions : Table DownloadId Redemption := ∅
  log : List GrantEvent := []

/-- `next` is the redemption's next statement, `fail` a failure in which it has no part: of the
rendering, of its process or of its connection. -/
inductive GrantAction
  | begin (redemption : DownloadId) (userId : UserId) (token : DownloadToken)
  | next (redemption : DownloadId)
  | fail (redemption : DownloadId)
  | issue (id : GrantId) (grant : DownloadGrant)
  | change (db : Db)
  | tick (clock : Time)

namespace GrantSystem

def logs (sys : GrantSystem) (event : GrantEvent) : GrantSystem :=
  { sys with log := sys.log ++ [event] }

def moves (sys : GrantSystem) (r : DownloadId) (redemption : Redemption)
    (stage : RedemptionStage) : GrantSystem :=
  { sys with redemptions := sys.redemptions.insert r { redemption with stage := stage } }

/-- `null` or an exception: nothing is written. -/
def fails (sys : GrantSystem) (r : DownloadId) (redemption : Redemption) : GrantSystem :=
  (sys.moves r redemption .ended).logs (.failed r)

def Held (sys : GrantSystem) (id : GrantId) : Bool :=
  sys.redemptions.any fun _ redemption => redemption.stage.holds = some id

/-- The final `UPDATE` and the commit; between the two nothing can come but a failure. -/
def redeem (sys : GrantSystem) (r : DownloadId) (redemption : Redemption) (id : GrantId)
    (view : TicketPdfView) : GrantSystem :=
  match sys.grants.lookup id with
  | none => sys.fails r redemption
  | some old =>
      let new := { old with usedAt := some (epochMilliseconds redemption.startedAt) }
      match old.protectHistory new with
      | .error _ => sys.fails r redemption
      | .ok _ =>
          if new.checks then
            { sys.moves r redemption .ended with grants := sys.grants.insert id new }.logs
              (.redeemed r id redemption.token view)
          else sys.fails r redemption

/-- The next statement of a redemption; `none` while it waits for the lock, and at its end. -/
def next (sys : GrantSystem) (r : DownloadId) (redemption : Redemption) : Option GrantSystem :=
  match redemption.stage with
  | .begun =>
      match sys.grants.select fun _ grant => grant.tokenHash = redemption.token with
      | [] => some (sys.fails r redemption)
      | (id, candidate) :: _ =>
          if candidate.userId = redemption.userId then some (sys.moves r redemption (.found id))
          else some (sys.fails r redemption)
  | .found id =>
      if sys.Held id then none
      else
        match sys.grants.lookup id with
        | none => some (sys.fails r redemption)
        | some grant =>
            if grant.userId = redemption.userId then
              some ((sys.moves r redemption (.locked id)).logs (.locked r id))
            else some (sys.fails r redemption)
  | .locked id =>
      match sys.grants.lookup id with
      | none => some (sys.fails r redemption)
      | some grant =>
          if grant.purpose ≠ .BOOKING_PDF ∨
              isDownloadGrantUsable grant (epochMilliseconds redemption.startedAt) = false then
            some (sys.fails r redemption)
          else some (sys.moves r redemption (.usable id grant))
  | .usable id grant =>
      match sys.db.bookings.lookup grant.bookingId with
      | none => some (sys.fails r redemption)
      | some booking =>
          some ((sys.moves r redemption (.booked id grant booking)).logs (.readBooking r sys.db))
  | .booked id grant booking =>
      some ((sys.moves r redemption
        (.ticketed id grant booking (ticketsForPdf sys.db grant.bookingId))).logs
          (.readTickets r sys.db))
  | .ticketed id grant booking tickets =>
      if booking.userId ≠ redemption.userId ∨ booking.status ≠ .CONFIRMED then
        some ((sys.logs (.readCredentials r sys.db)).fails r redemption)
      else
        match buildPdfView booking tickets (credentialForPdf sys.db) with
        | .error _ => some ((sys.logs (.readCredentials r sys.db)).fails r redemption)
        | .ok view =>
            some ((sys.moves r redemption (.rendered id grant view)).logs
              (.readCredentials r sys.db))
  | .rendered id _ view => some (sys.redeem r redemption id view)
  | .ended => none

/-- One step. Grants are only added and redeemed; the rest of the database may be changed to
anything by the others. -/
def step (sys : GrantSystem) : GrantAction → Option GrantSystem
  | .begin r userId token =>
      match sys.redemptions.lookup r with
      | none =>
          some ({ sys with
            redemptions := sys.redemptions.insert r
              { userId := userId, token := token, startedAt := sys.clock } }.logs
            (.began r userId sys.clock))
      | some _ => none
  | .next r =>
      match sys.redemptions.lookup r with
      | some redemption => sys.next r redemption
      | none => none
  | .fail r =>
      match sys.redemptions.lookup r with
      | some redemption =>
          match redemption.stage with
          | .ended => none
          | _ => some (sys.fails r redemption)
      | none => none
  | .issue id grant =>
      match sys.grants.lookup id with
      | none =>
          if grant.checks && grant.usedAt.isNone && grant.revokedAt.isNone &&
              !sys.grants.any fun _ other => other.tokenHash = grant.tokenHash then
            some { sys with grants := sys.grants.insert id grant }
          else none
      | some _ => none
  | .change db => some { sys with db := db }
  | .tick clock => some { sys with clock := clock }

variable {sys sys' : GrantSystem} {action : GrantAction} {r : DownloadId}
  {redemption : Redemption} {id : GrantId} {grant : DownloadGrant}

/-- The trigger and the constraints let an unused grant be marked. -/
theorem redeem_eq (hrow : sys.grants.lookup id = some grant) (hchecks : grant.checks = true)
    (hunused : grant.usedAt = none) (hunrevoked : grant.revokedAt = none) (view : TicketPdfView) :
    sys.redeem r redemption id view =
      { sys.moves r redemption .ended with
        grants := sys.grants.insert id
          { grant with usedAt := some (epochMilliseconds redemption.startedAt) } }.logs
        (.redeemed r id redemption.token view) := by
  have htrigger : grant.protectHistory
      { grant with usedAt := some (epochMilliseconds redemption.startedAt) } = .ok () := by
    simp [DownloadGrant.protectHistory, hunused, hunrevoked]
  have hkept : DownloadGrant.checks
      { grant with usedAt := some (epochMilliseconds redemption.startedAt) } = true := by
    simp only [DownloadGrant.checks, Bool.and_eq_true] at hchecks ⊢
    exact ⟨hchecks.1, by simp [hunrevoked]⟩
  unfold redeem
  simp only [hrow, htrigger, hkept, if_true]

/-- What a step does. -/
inductive Step (sys : GrantSystem) : GrantSystem → Prop
  | begin (r : DownloadId) (userId : UserId) (token : DownloadToken)
      (hnew : sys.redemptions.lookup r = none) :
      Step sys ({ sys with
        redemptions := sys.redemptions.insert r
          { userId := userId, token := token, startedAt := sys.clock } }.logs
        (.began r userId sys.clock))
  | find (r : DownloadId) (redemption : Redemption) (id : GrantId) (grant : DownloadGrant)
      (hlook : sys.redemptions.lookup r = some redemption) (hstage : redemption.stage = .begun)
      (hrow : sys.grants.lookup id = some grant) (htoken : grant.tokenHash = redemption.token) :
      Step sys (sys.moves r redemption (.found id))
  | lock (r : DownloadId) (redemption : Redemption) (id : GrantId)
      (hlook : sys.redemptions.lookup r = some redemption) (hstage : redemption.stage = .found id)
      (hfree : sys.Held id = false) :
      Step sys ((sys.moves r redemption (.locked id)).logs (.locked r id))
  | check (r : DownloadId) (redemption : Redemption) (id : GrantId) (grant : DownloadGrant)
      (hlook : sys.redemptions.lookup r = some redemption) (hstage : redemption.stage = .locked id)
      (hrow : sys.grants.lookup id = some grant)
      (husable : isDownloadGrantUsable grant (epochMilliseconds redemption.startedAt) = true) :
      Step sys (sys.moves r redemption (.usable id grant))
  | readBooking (r : DownloadId) (redemption : Redemption) (id : GrantId) (grant : DownloadGrant)
      (booking : Booking) (hlook : sys.redemptions.lookup r = some redemption)
      (hstage : redemption.stage = .usable id grant)
      (hbooking : sys.db.bookings.lookup grant.bookingId = some booking) :
      Step sys ((sys.moves r redemption (.booked id grant booking)).logs (.readBooking r sys.db))
  | readTickets (r : DownloadId) (redemption : Redemption) (id : GrantId) (grant : DownloadGrant)
      (booking : Booking) (hlook : sys.redemptions.lookup r = some redemption)
      (hstage : redemption.stage = .booked id grant booking) :
      Step sys ((sys.moves r redemption
        (.ticketed id grant booking (ticketsForPdf sys.db grant.bookingId))).logs
          (.readTickets r sys.db))
  | build (r : DownloadId) (redemption : Redemption) (id : GrantId) (grant : DownloadGrant)
      (booking : Booking) (tickets : List (TicketId × Ticket)) (view : TicketPdfView)
      (hlook : sys.redemptions.lookup r = some redemption)
      (hstage : redemption.stage = .ticketed id grant booking tickets)
      (howner : booking.userId = redemption.userId) (hconfirmed : booking.status = .CONFIRMED)
      (hview : buildPdfView booking tickets (credentialForPdf sys.db) = .ok view) :
      Step sys ((sys.moves r redemption (.rendered id grant view)).logs (.readCredentials r sys.db))
  | reject (r : DownloadId) (redemption : Redemption)
      (hlook : sys.redemptions.lookup r = some redemption) :
      Step sys ((sys.logs (.readCredentials r sys.db)).fails r redemption)
  | redeem (r : DownloadId) (redemption : Redemption) (id : GrantId) (grant : DownloadGrant)
      (view : TicketPdfView) (hlook : sys.redemptions.lookup r = some redemption)
      (hstage : redemption.stage = .rendered id grant view) :
      Step sys (sys.redeem r redemption id view)
  | fail (r : DownloadId) (redemption : Redemption)
      (hlook : sys.redemptions.lookup r = some redemption) :
      Step sys (sys.fails r redemption)
  | issue (id : GrantId) (grant : DownloadGrant) (hnew : sys.grants.lookup id = none)
      (hchecks : grant.checks = true) (hunused : grant.usedAt = none)
      (htoken : ∀ k other, sys.grants.lookup k = some other → other.tokenHash ≠ grant.tokenHash) :
      Step sys { sys with grants := sys.grants.insert id grant }
  | change (db : Db) : Step sys { sys with db := db }
  | tick (clock : Time) : Step sys { sys with clock := clock }

theorem next_cases (hlook : sys.redemptions.lookup r = some redemption)
    (h : sys.next r redemption = some sys') : Step sys sys' := by
  unfold next at h
  split at h
  · rename_i hstage
    split at h
    · cases h
      exact .fail r redemption hlook
    · rename_i id candidate rest hcandidates
      split at h
      · cases h
        have hmem : (id, candidate) ∈ sys.grants.select fun _ grant =>
            grant.tokenHash = redemption.token := hcandidates ▸ List.mem_cons_self
        obtain ⟨hrow, htoken⟩ := Table.mem_select.mp hmem
        exact .find r redemption id candidate hlook hstage hrow (of_decide_eq_true htoken)
      · cases h
        exact .fail r redemption hlook
  · rename_i id hstage
    split at h
    · cases h
    · rename_i hfree
      split at h
      · cases h
        exact .fail r redemption hlook
      · split at h
        · cases h
          exact .lock r redemption id hlook hstage (by simpa using hfree)
        · cases h
          exact .fail r redemption hlook
  · rename_i id hstage
    split at h
    · cases h
      exact .fail r redemption hlook
    · rename_i grant hrow
      split at h
      · cases h
        exact .fail r redemption hlook
      · rename_i husable
        cases h
        exact .check r redemption id grant hlook hstage hrow (by simpa using (not_or.mp husable).2)
  · rename_i id grant hstage
    split at h
    · cases h
      exact .fail r redemption hlook
    · rename_i booking hbooking
      cases h
      exact .readBooking r redemption id grant booking hlook hstage hbooking
  · rename_i id grant booking hstage
    cases h
    exact .readTickets r redemption id grant booking hlook hstage
  · rename_i id grant booking tickets hstage
    split at h
    · cases h
      exact .reject r redemption hlook
    · rename_i hguard
      obtain ⟨howner, hconfirmed⟩ := not_or.mp hguard
      split at h
      · cases h
        exact .reject r redemption hlook
      · rename_i view hview
        cases h
        exact .build r redemption id grant booking tickets view hlook hstage (not_not.mp howner)
          (not_not.mp hconfirmed) hview
  · rename_i id grant view hstage
    cases h
    exact .redeem r redemption id grant view hlook hstage
  · cases h

theorem step_cases (h : step sys action = some sys') : Step sys sys' := by
  cases action with
  | begin r userId token =>
      simp only [step] at h
      split at h
      · rename_i hnew
        cases h
        exact .begin r userId token hnew
      · cases h
  | next r =>
      simp only [step] at h
      split at h
      · rename_i redemption hlook
        exact next_cases hlook h
      · cases h
  | fail r =>
      simp only [step] at h
      split at h
      · rename_i redemption hlook
        split at h
        · cases h
        · cases h
          exact .fail r redemption hlook
      · cases h
  | issue id grant =>
      simp only [step] at h
      split at h
      · rename_i hnew
        split at h
        · rename_i hguard
          cases h
          simp only [Bool.and_eq_true, Option.isNone_iff_eq_none, Bool.not_eq_true',
            Table.any_eq_false] at hguard
          obtain ⟨⟨⟨hchecks, hunused⟩, -⟩, htoken⟩ := hguard
          exact .issue id grant hnew hchecks hunused fun k other hother =>
            of_decide_eq_false (htoken k other hother)
        · cases h
      · cases h
  | change db =>
      cases h
      exact .change db
  | tick clock =>
      cases h
      exact .tick clock

/-! ## §4 What a redemption relies on -/

/-- The event was logged since the redemption locked the grant. -/
def ReadSince (log : List GrantEvent) (r : DownloadId) (id : GrantId) (event : GrantEvent) : Prop :=
  ∃ before between, log = before ++ .locked r id :: between ∧ event ∈ between

/-- The booking was read as the user's. -/
def BookingRead (log : List GrantEvent) (r : DownloadId) (id : GrantId) (grant : DownloadGrant)
    (booking : Booking) : Prop :=
  ∃ db, ReadSince log r id (.readBooking r db) ∧ db.bookings.lookup grant.bookingId = some booking

/-- The tickets were read. -/
def TicketsRead (log : List GrantEvent) (r : DownloadId) (id : GrantId) (grant : DownloadGrant)
    (tickets : List (TicketId × Ticket)) : Prop :=
  ∃ db, ReadSince log r id (.readTickets r db) ∧ tickets = ticketsForPdf db grant.bookingId

/-- What can be scanned of the document: the credential was read as the live one of a ticket, and
the ticket as live. -/
def CredentialRead (log : List GrantEvent) (r : DownloadId) (id : GrantId) (grant : DownloadGrant)
    (entry : TicketPdfEntry) (token : CredentialToken) : Prop :=
  ∃ db db' ticketId ticket k credential,
    ReadSince log r id (.readTickets r db) ∧ db.tickets.lookup ticketId = some ticket ∧
    ticket.bookingId = grant.bookingId ∧ ticket.publicReference = entry.ticketReference ∧
    ticket.status = .ACTIVE ∧
    ReadSince log r id (.readCredentials r db') ∧ db'.credentials.lookup k = some credential ∧
    credential.ticketId = ticketId ∧ credential.status = .ACTIVE ∧
    credential.credentialHash = token

def ViewRead (log : List GrantEvent) (r : DownloadId) (id : GrantId) (grant : DownloadGrant)
    (userId : UserId) (view : TicketPdfView) : Prop :=
  (∃ booking, BookingRead log r id grant booking ∧ booking.userId = userId ∧
    booking.status = .CONFIRMED) ∧
  ∀ entry ∈ view.tickets, ∀ token, entry.credential = some token →
    CredentialRead log r id grant entry token

/-- The grant that a redemption has locked, as it was found usable. -/
structure Usable (grants : Table GrantId DownloadGrant) (log : List GrantEvent) (r : DownloadId)
    (redemption : Redemption) (id : GrantId) (grant : DownloadGrant) : Prop where
  locked : .locked r id ∈ log
  row : grants.lookup id = some grant
  token : grant.tokenHash = redemption.token
  unused : grant.usedAt = none
  unrevoked : grant.revokedAt = none
  unexpired : epochMilliseconds redemption.startedAt < grant.expiresAt

/-- The grant has the token that was presented. -/
def Presented (grants : Table GrantId DownloadGrant) (redemption : Redemption) (id : GrantId) :
    Prop :=
  ∃ grant, grants.lookup id = some grant ∧ grant.tokenHash = redemption.token

/-- What a redemption relies on at each stage. -/
def Relies (grants : Table GrantId DownloadGrant) (log : List GrantEvent) (r : DownloadId)
    (redemption : Redemption) : Prop :=
  match redemption.stage with
  | .begun | .ended => True
  | .found id => Presented grants redemption id
  | .locked id => .locked r id ∈ log ∧ Presented grants redemption id
  | .usable id grant => Usable grants log r redemption id grant
  | .booked id grant booking =>
      Usable grants log r redemption id grant ∧ BookingRead log r id grant booking
  | .ticketed id grant booking tickets =>
      Usable grants log r redemption id grant ∧ BookingRead log r id grant booking ∧
        TicketsRead log r id grant tickets
  | .rendered id grant view =>
      Usable grants log r redemption id grant ∧ ViewRead log r id grant redemption.userId view

variable {log later : List GrantEvent}

theorem ReadSince.append {event : GrantEvent} (h : ReadSince log r id event)
    (later : List GrantEvent) : ReadSince (log ++ later) r id event := by
  obtain ⟨before, between, rfl, hmem⟩ := h
  exact ⟨before, between ++ later, by simp, List.mem_append_left _ hmem⟩

theorem readSince_last {event : GrantEvent} (h : .locked r id ∈ log) :
    ReadSince (log ++ [event]) r id event := by
  obtain ⟨before, between, rfl⟩ := List.append_of_mem h
  exact ⟨before, between ++ [event], by simp, by simp⟩

theorem BookingRead.append {booking : Booking} (h : BookingRead log r id grant booking)
    (later : List GrantEvent) : BookingRead (log ++ later) r id grant booking := by
  obtain ⟨db, hread, hlook⟩ := h
  exact ⟨db, hread.append later, hlook⟩

theorem TicketsRead.append {tickets : List (TicketId × Ticket)}
    (h : TicketsRead log r id grant tickets) (later : List GrantEvent) :
    TicketsRead (log ++ later) r id grant tickets := by
  obtain ⟨db, hread, htickets⟩ := h
  exact ⟨db, hread.append later, htickets⟩

theorem ViewRead.append {userId : UserId} {view : TicketPdfView}
    (h : ViewRead log r id grant userId view) (later : List GrantEvent) :
    ViewRead (log ++ later) r id grant userId view := by
  obtain ⟨⟨booking, hread, howner, hconfirmed⟩, hentries⟩ := h
  refine ⟨⟨booking, hread.append later, howner, hconfirmed⟩, fun entry hentry token htoken => ?_⟩
  obtain ⟨db, db', ticketId, ticket, k, credential, htickets, hticket, hbooking, href, hlive,
    hcredentials, hrest⟩ := hentries entry hentry token htoken
  exact ⟨db, db', ticketId, ticket, k, credential, htickets.append later, hticket, hbooking, href,
    hlive, hcredentials.append later, hrest⟩

/-- More is logged, and the grants that matter stay. -/
theorem Relies.kept {grants grants' : Table GrantId DownloadGrant}
    (h : Relies grants log r redemption) (later : List GrantEvent)
    (hgrants : ∀ id grant, grants.lookup id = some grant →
      grants'.lookup id = some grant ∨ (redemption.stage.holds ≠ some id ∧
        ∃ grant', grants'.lookup id = some grant' ∧ grant'.tokenHash = grant.tokenHash)) :
    Relies grants' (log ++ later) r redemption := by
  have husable : ∀ {id grant}, Usable grants log r redemption id grant →
      redemption.stage.holds = some id → Usable grants' (log ++ later) r redemption id grant := by
    intro id grant husable hheld
    exact
      { husable with
        locked := List.mem_append_left _ husable.locked
        row := (hgrants id grant husable.row).resolve_right fun hother => hother.1 hheld }
  have hpresented : ∀ {id}, Presented grants redemption id → Presented grants' redemption id := by
    rintro id ⟨grant, hold, htoken⟩
    rcases hgrants id grant hold with hsame | ⟨-, grant', hnew, hsame⟩
    · exact ⟨grant, hsame, htoken⟩
    · exact ⟨grant', hnew, hsame.trans htoken⟩
  cases hstage : redemption.stage with
  | begun => simp only [Relies, hstage]
  | ended => simp only [Relies, hstage]
  | found id =>
      simp only [Relies, hstage] at h ⊢
      exact hpresented h
  | locked id =>
      simp only [Relies, hstage] at h ⊢
      exact ⟨List.mem_append_left _ h.1, hpresented h.2⟩
  | usable id grant =>
      simp only [Relies, hstage] at h ⊢
      exact husable h (by rw [hstage]; rfl)
  | booked id grant booking =>
      simp only [Relies, hstage] at h ⊢
      exact ⟨husable h.1 (by rw [hstage]; rfl), h.2.append later⟩
  | ticketed id grant booking tickets =>
      simp only [Relies, hstage] at h ⊢
      exact ⟨husable h.1 (by rw [hstage]; rfl), h.2.1.append later, h.2.2.append later⟩
  | rendered id grant view =>
      simp only [Relies, hstage] at h ⊢
      exact ⟨husable h.1 (by rw [hstage]; rfl), h.2.append later⟩

/-! ## §5 Steps -/

/-- Why a redemption went through, and that the token was not redeemed again. -/
structure Redeemed (grants : Table GrantId DownloadGrant) (before after : List GrantEvent)
    (r : DownloadId) (id : GrantId) (token : DownloadToken) (view : TicketPdfView) : Prop where
  last : ∀ r' id' view', .redeemed r' id' token view' ∉ after
  grounds : ∃ grant userId startedAt, grants.lookup id = some grant ∧ grant.tokenHash = token ∧
    .began r userId startedAt ∈ before ∧ startedAt < grant.expiresAt * 1000 ∧
    ViewRead before r id grant userId view

/-- What holds of every state that is reached from these grants. -/
structure Sound (initial : Table GrantId DownloadGrant) (sys : GrantSystem) : Prop where
  distinct : ∀ k k' grant grant', sys.grants.lookup k = some grant →
    sys.grants.lookup k' = some grant' → grant.tokenHash = grant'.tokenHash → k = k'
  checks : ∀ id grant, sys.grants.lookup id = some grant → grant.checks = true
  alone : ∀ r r' redemption redemption' id, sys.redemptions.lookup r = some redemption →
    sys.redemptions.lookup r' = some redemption' → redemption.stage.holds = some id →
      redemption'.stage.holds = some id → r = r'
  began : ∀ r redemption, sys.redemptions.lookup r = some redemption →
    .began r redemption.userId redemption.startedAt ∈ sys.log
  relies : ∀ r redemption, sys.redemptions.lookup r = some redemption →
    Relies sys.grants sys.log r redemption
  spent : ∀ r id token view, .redeemed r id token view ∈ sys.log →
    ∃ grant, sys.grants.lookup id = some grant ∧ grant.usedAt ≠ none ∧ grant.tokenHash = token
  used : ∀ id grant, sys.grants.lookup id = some grant → grant.usedAt ≠ none →
    (∃ old, initial.lookup id = some old ∧ old.usedAt ≠ none) ∨
      ∃ r token view, .redeemed r id token view ∈ sys.log
  redeemed : ∀ before after r id token view,
    sys.log = before ++ .redeemed r id token view :: after →
      Redeemed sys.grants before after r id token view

variable {initial : Table GrantId DownloadGrant}

/-- The new grants have the old ones among them, as far as a success has looked at them. -/
def Keeps (grants grants' : Table GrantId DownloadGrant) : Prop :=
  ∀ id grant, grants.lookup id = some grant → ∃ grant', grants'.lookup id = some grant' ∧
    grant'.toTicketDownloadGrant = grant.toTicketDownloadGrant ∧
    grant'.tokenHash = grant.tokenHash

theorem Redeemed.kept {grants grants' : Table GrantId DownloadGrant}
    {before after : List GrantEvent} {token : DownloadToken} {view : TicketPdfView}
    (h : Redeemed grants before after r id token view) (hkeeps : Keeps grants grants')
    (hlater : ∀ r' id' view', .redeemed r' id' token view' ∉ later) :
    Redeemed grants' before (after ++ later) r id token view where
  last := by
    intro r' id' view' hmem
    rcases List.mem_append.mp hmem with hold | hnew
    · exact h.last r' id' view' hold
    · exact hlater r' id' view' hnew
  grounds := by
    obtain ⟨grant, userId, startedAt, hrow, htoken, hbegan, hunexpired, hview⟩ := h.grounds
    obtain ⟨grant', hrow', hsame, htoken'⟩ := hkeeps id grant hrow
    refine ⟨grant', userId, startedAt, hrow', htoken'.trans htoken, hbegan, ?_, ?_⟩
    · rw [hsame]
      exact hunexpired
    · unfold ViewRead BookingRead CredentialRead at hview ⊢
      rw [hsame]
      exact hview

/-- None of the events is a success. -/
def Quiet (later : List GrantEvent) : Prop :=
  ∀ r id token view, .redeemed r id token view ∉ later

/-- Splitting a log that has grown quietly at a success. -/
theorem split_quiet {before after : List GrantEvent} {token : DownloadToken} {view : TicketPdfView}
    (hquiet : Quiet later)
    (hlog : log ++ later = before ++ .redeemed r id token view :: after) :
    ∃ after', after = after' ++ later ∧ log = before ++ .redeemed r id token view :: after' := by
  rcases List.append_eq_append_iff.mp hlog with ⟨mid, -, hlater⟩ | ⟨mid, hlog', hrest⟩
  · exact absurd (hlater ▸ List.mem_append_right _ List.mem_cons_self) (hquiet r id token view)
  · cases mid with
    | nil =>
        rw [List.nil_append] at hrest
        exact absurd (hrest ▸ List.mem_cons_self) (hquiet r id token view)
    | cons event mid =>
        cases hrest
        exact ⟨mid, rfl, hlog'⟩

/-- Redemptions go on, and grants are added, while nothing is redeemed. -/
theorem Sound.quiet (h : Sound initial sys) {redemptions : Table DownloadId Redemption}
    {grants : Table GrantId DownloadGrant} (hquiet : Quiet later)
    (hgrants : ∀ id grant, sys.grants.lookup id = some grant → grants.lookup id = some grant)
    (hnew : ∀ id grant, grants.lookup id = some grant → sys.grants.lookup id = some grant ∨
      (grant.checks = true ∧ grant.usedAt = none ∧
        ∀ k other, grants.lookup k = some other → other.tokenHash = grant.tokenHash → k = id))
    (halone : ∀ r r' redemption redemption' id, redemptions.lookup r = some redemption →
      redemptions.lookup r' = some redemption' → redemption.stage.holds = some id →
        redemption'.stage.holds = some id → r = r')
    (hredemptions : ∀ r redemption, redemptions.lookup r = some redemption →
      sys.redemptions.lookup r = some redemption ∨
        (.began r redemption.userId redemption.startedAt ∈ sys.log ++ later ∧
          Relies grants (sys.log ++ later) r redemption))
    (clock : Time) (db : Db) :
    Sound initial { clock, db, grants, redemptions, log := sys.log ++ later } where
  distinct := by
    intro k k' grant grant' hk hk' htoken
    rcases hnew k grant hk with hold | ⟨-, -, honly⟩
    · rcases hnew k' grant' hk' with hold' | ⟨-, -, honly⟩
      · exact h.distinct k k' grant grant' hold hold' htoken
      · exact honly k grant hk htoken
    · exact (honly k' grant' hk' htoken.symm).symm
  checks := by
    intro id grant hrow
    rcases hnew id grant hrow with hold | ⟨hchecks, -, -⟩
    · exact h.checks id grant hold
    · exact hchecks
  alone := halone
  began := by
    intro r redemption hlook
    rcases hredemptions r redemption hlook with hold | ⟨hbegan, -⟩
    · exact List.mem_append_left _ (h.began r redemption hold)
    · exact hbegan
  relies := by
    intro r redemption hlook
    rcases hredemptions r redemption hlook with hold | ⟨-, hrelies⟩
    · exact (h.relies r redemption hold).kept later
        fun id grant hrow => .inl (hgrants id grant hrow)
    · exact hrelies
  spent := by
    intro r id token view hmem
    have hold := (List.mem_append.mp hmem).resolve_right (hquiet r id token view)
    obtain ⟨grant, hrow, hrest⟩ := h.spent r id token view hold
    exact ⟨grant, hgrants id grant hrow, hrest⟩
  used := by
    intro id grant hrow hused
    rcases hnew id grant hrow with hold | ⟨-, hunused, -⟩
    · rcases h.used id grant hold hused with hbefore | ⟨r, token, view, hmem⟩
      · exact .inl hbefore
      · exact .inr ⟨r, token, view, List.mem_append_left _ hmem⟩
    · exact absurd hunused hused
  redeemed := by
    intro before after r id token view hlog
    obtain ⟨after', rfl, hold⟩ := split_quiet hquiet hlog
    refine (h.redeemed before after' r id token view hold).kept (fun id grant hrow => ?_)
      fun r' id' view' => hquiet r' id' token view'
    exact ⟨grant, hgrants id grant hrow, rfl, rfl⟩

/-- A redemption comes to a stage. -/
theorem Sound.moves (h : Sound initial sys) (hlook : sys.redemptions.lookup r = some redemption)
    {stage : RedemptionStage} (hquiet : Quiet later)
    (halone : ∀ id, stage.holds = some id → ∀ r' redemption',
      sys.redemptions.lookup r' = some redemption' → redemption'.stage.holds = some id → r' = r)
    (hrelies : Relies sys.grants (sys.log ++ later) r { redemption with stage := stage }) :
    Sound initial { sys.moves r redemption stage with log := sys.log ++ later } := by
  refine h.quiet hquiet (fun _ _ hrow => hrow) (fun _ _ hrow => .inl hrow) ?_ ?_ _ _
  · intro r₁ r₂ redemption₁ redemption₂ id h₁ h₂ hold₁ hold₂
    rcases Table.wrote_insert.cases h₁ with ⟨rfl, rfl⟩ | ⟨-, hsame₁⟩
    · rcases Table.wrote_insert.cases h₂ with ⟨rfl, rfl⟩ | ⟨-, hsame₂⟩
      · rfl
      · exact (halone id hold₁ r₂ redemption₂ hsame₂ hold₂).symm
    · rcases Table.wrote_insert.cases h₂ with ⟨rfl, rfl⟩ | ⟨-, hsame₂⟩
      · exact halone id hold₂ r₁ redemption₁ hsame₁ hold₁
      · exact h.alone r₁ r₂ redemption₁ redemption₂ id hsame₁ hsame₂ hold₁ hold₂
  · intro r' redemption' hlook'
    rcases Table.wrote_insert.cases hlook' with ⟨rfl, rfl⟩ | ⟨-, hsame⟩
    · exact .inr ⟨List.mem_append_left _ (h.began r' redemption hlook), hrelies⟩
    · exact .inl hsame

/-- A redemption that had the lock keeps it. -/
theorem Sound.moves_held (h : Sound initial sys)
    (hlook : sys.redemptions.lookup r = some redemption) {stage : RedemptionStage}
    (hquiet : Quiet later) (hheld : stage.holds = redemption.stage.holds)
    (hrelies : Relies sys.grants (sys.log ++ later) r { redemption with stage := stage }) :
    Sound initial { sys.moves r redemption stage with log := sys.log ++ later } := by
  refine h.moves hlook hquiet (fun id hstage r' redemption' hlook' hheld' => ?_) hrelies
  exact h.alone r' r redemption' redemption id hlook' hlook hheld' (hheld ▸ hstage)

theorem Sound.fails (h : Sound initial sys) (hlook : sys.redemptions.lookup r = some redemption) :
    Sound initial (sys.fails r redemption) :=
  h.moves hlook (fun _ _ _ _ => by simp) (fun _ hstage => by cases hstage) trivial

/-- Nothing moves but the log. -/
theorem Sound.logs (h : Sound initial sys) {event : GrantEvent} (hquiet : Quiet [event]) :
    Sound initial (sys.logs event) :=
  h.quiet hquiet (fun _ _ hrow => hrow) (fun _ _ hrow => .inl hrow) h.alone
    (fun _ _ hlook => .inl hlook) _ _

theorem credentialForPdf_spec {db : Db} {ticketId : TicketId} {c : TicketCredential}
    (h : credentialForPdf db ticketId = some c) :
    ∃ k, db.credentials.lookup k = some c ∧ c.ticketId = ticketId ∧ c.status = .ACTIVE := by
  unfold credentialForPdf at h
  obtain ⟨⟨k, c'⟩, hhead, rfl⟩ := Option.map_eq_some_iff.mp h
  obtain ⟨hrow, hp⟩ := Table.mem_ordered.mp (List.mem_of_mem_head? hhead)
  simp only [Bool.and_eq_true, decide_eq_true_eq, beq_iff_eq] at hp
  exact ⟨k, hrow, hp⟩

/-- An entry can be scanned only if its ticket is live and its live credential is intact. -/
theorem pdfEntry_credential {ticket : Ticket} {stored : Option TicketCredential}
    {entry : TicketPdfEntry} {token : CredentialToken} (h : pdfEntry ticket stored = .ok entry)
    (htoken : entry.credential = some token) :
    entry.ticketReference = ticket.publicReference ∧ ticket.status = .ACTIVE ∧
      ∃ c, stored = some c ∧ c.credentialHash = token := by
  unfold pdfEntry at h
  split at h
  · rename_i hlive
    split at h
    · cases h
    · rename_i c
      dsimp only at h
      split at h
      · rename_i hintact
        cases h
        cases htoken
        exact ⟨rfl, hlive, c, rfl, hintact⟩
      · cases h
  · cases h
    cases htoken

/-- The document is built from what was read since the grant was locked. -/
theorem viewRead_built {booking : Booking} {tickets : List (TicketId × Ticket)}
    {view : TicketPdfView} {userId : UserId} {db : Db} (hlocked : .locked r id ∈ log)
    (hbooking : BookingRead log r id grant booking) (htickets : TicketsRead log r id grant tickets)
    (howner : booking.userId = userId) (hconfirmed : booking.status = .CONFIRMED)
    (hview : buildPdfView booking tickets (credentialForPdf db) = .ok view) :
    ViewRead (log ++ [.readCredentials r db]) r id grant userId view := by
  unfold buildPdfView at hview
  obtain ⟨entries, hentries, hview⟩ := Except.bind_eq_ok.mp hview
  cases hview
  refine ⟨⟨booking, hbooking.append _, howner, hconfirmed⟩, fun entry hentry token htoken => ?_⟩
  obtain ⟨⟨ticketId, ticket⟩, hmem, hpdf⟩ := Results.mem_of_mapM hentries hentry
  obtain ⟨href, hlive, c, hstored, hhash⟩ := pdfEntry_credential hpdf htoken
  obtain ⟨k, hrow, hticket, hactive⟩ := credentialForPdf_spec hstored
  obtain ⟨db', hread, rfl⟩ := htickets
  obtain ⟨hticketRow, hhome⟩ := Table.mem_select.mp hmem
  exact ⟨db', db, ticketId, ticket, k, c, hread.append _, hticketRow, of_decide_eq_true hhome,
    href.symm, hlive, readSince_last hlocked, hrow, hticket, hactive, hhash⟩

theorem held_iff : sys.Held id = false ↔
    ∀ r redemption, sys.redemptions.lookup r = some redemption →
      redemption.stage.holds ≠ some id := by
  unfold Held
  rw [Table.any_eq_false]
  simp

section Used

variable {usedAt : Option Int} {grants' : Table GrantId DownloadGrant}

/-- A grant that is marked keeps all but its mark. -/
theorem keeps_of_used (hrow : sys.grants.lookup id = some grant)
    (hwrote : sys.grants.Wrote id { grant with usedAt := usedAt } grants') :
    Keeps sys.grants grants' := by
  intro k row hlook
  by_cases hk : k = id
  · subst hk
    cases hrow.symm.trans hlook
    exact ⟨_, hwrote.lookup_self, rfl, rfl⟩
  · exact ⟨row, (hwrote.lookup_ne hk).trans hlook, rfl, rfl⟩

/-- The token of an unused grant has not been redeemed: its grant would be used. -/
theorem Sound.unredeemed (h : Sound initial sys)
    (husable : Usable sys.grants sys.log r redemption id grant) (r' : DownloadId) (id' : GrantId)
    (view : TicketPdfView) : .redeemed r' id' redemption.token view ∉ sys.log := by
  intro hmem
  obtain ⟨spent, hspent, hused, htoken⟩ := h.spent r' id' redemption.token view hmem
  cases h.distinct id' id spent grant hspent husable.row (htoken.trans husable.token.symm)
  cases hspent.symm.trans husable.row
  exact hused husable.unused

theorem Sound.distinct_of_used (h : Sound initial sys) (hrow : sys.grants.lookup id = some grant)
    (hwrote : sys.grants.Wrote id { grant with usedAt := usedAt } grants') {k k' : GrantId}
    {row row' : DownloadGrant} (hk : grants'.lookup k = some row)
    (hk' : grants'.lookup k' = some row') (htoken : row.tokenHash = row'.tokenHash) : k = k' := by
  have hold : ∀ k row, grants'.lookup k = some row →
      ∃ old, sys.grants.lookup k = some old ∧ old.tokenHash = row.tokenHash := by
    intro k row hlook
    rcases hwrote.cases hlook with ⟨rfl, rfl⟩ | ⟨-, hsame⟩
    · exact ⟨grant, hrow, rfl⟩
    · exact ⟨row, hsame, rfl⟩
  obtain ⟨old, hlook, hsame⟩ := hold k row hk
  obtain ⟨old', hlook', hsame'⟩ := hold k' row' hk'
  exact h.distinct k k' old old' hlook hlook' (hsame.trans (htoken.trans hsame'.symm))

/-- Nobody else relies on the mark, as nobody else holds the grant. -/
theorem Sound.relies_of_used (h : Sound initial sys)
    (hlook : sys.redemptions.lookup r = some redemption)
    (hheld : redemption.stage.holds = some id) (hrow : sys.grants.lookup id = some grant)
    (hwrote : sys.grants.Wrote id { grant with usedAt := usedAt } grants') {r' : DownloadId}
    {other : Redemption} (hother : sys.redemptions.lookup r' = some other) (hne : r' ≠ r) :
    Relies grants' (sys.log ++ later) r' other := by
  refine (h.relies r' other hother).kept _ fun k row hold => ?_
  by_cases hk : k = id
  · subst hk
    obtain ⟨row', hrow', -, htoken⟩ := keeps_of_used hrow hwrote k row hold
    refine .inr ⟨fun hheld' => hne ?_, row', hrow', htoken⟩
    exact h.alone r' r other redemption k hother hlook hheld' hheld
  · exact .inl ((hwrote.lookup_ne hk).trans hold)

end Used

/-- The grant is marked as used, and its token goes with it. -/
theorem Sound.redeems (h : Sound initial sys) (hlook : sys.redemptions.lookup r = some redemption)
    {view : TicketPdfView} (hstage : redemption.stage = .rendered id grant view) :
    Sound initial (sys.redeem r redemption id view) := by
  obtain ⟨husable, hview⟩ : Usable sys.grants sys.log r redemption id grant ∧
      ViewRead sys.log r id grant redemption.userId view := by
    have hrelies := h.relies r redemption hlook
    simpa only [Relies, hstage] using hrelies
  have hheld : redemption.stage.holds = some id := by rw [hstage]; rfl
  rw [redeem_eq husable.row (h.checks id grant husable.row) husable.unused husable.unrevoked]
  have hwrote : sys.grants.Wrote id
      { grant with usedAt := some (epochMilliseconds redemption.startedAt) } (sys.grants.insert id
        { grant with usedAt := some (epochMilliseconds redemption.startedAt) }) :=
    Table.wrote_insert
  have hended : sys.redemptions.Wrote r { redemption with stage := .ended }
      (sys.moves r redemption .ended).redemptions := Table.wrote_insert
  constructor
  · exact fun _ _ _ _ hk hk' htoken => h.distinct_of_used husable.row hwrote hk hk' htoken
  · intro k row hrow
    rcases hwrote.cases hrow with ⟨rfl, rfl⟩ | ⟨-, hold⟩
    · have hchecks := h.checks k grant husable.row
      simp only [DownloadGrant.checks, Bool.and_eq_true] at hchecks ⊢
      exact ⟨hchecks.1, by simp [husable.unrevoked]⟩
    · exact h.checks k row hold
  · intro r₁ r₂ redemption₁ redemption₂ id' h₁ h₂ hold₁ hold₂
    rcases hended.cases h₁ with ⟨rfl, rfl⟩ | ⟨-, hsame₁⟩
    · cases hold₁
    · rcases hended.cases h₂ with ⟨rfl, rfl⟩ | ⟨-, hsame₂⟩
      · cases hold₂
      · exact h.alone r₁ r₂ redemption₁ redemption₂ id' hsame₁ hsame₂ hold₁ hold₂
  · intro r' redemption' hlook'
    rcases hended.cases hlook' with ⟨rfl, rfl⟩ | ⟨-, hsame⟩
    · exact List.mem_append_left _ (h.began r' redemption hlook)
    · exact List.mem_append_left _ (h.began r' redemption' hsame)
  · intro r' redemption' hlook'
    rcases hended.cases hlook' with ⟨rfl, rfl⟩ | ⟨hne, hsame⟩
    · trivial
    · exact h.relies_of_used hlook hheld husable.row hwrote hsame hne
  · intro r' id' token view' hmem
    rcases List.mem_append.mp hmem with hold | hnew
    · obtain ⟨spent, hspent, hused, htoken⟩ := h.spent r' id' token view' hold
      have hid : id' ≠ id := by
        rintro rfl
        cases hspent.symm.trans husable.row
        exact hused husable.unused
      exact ⟨spent, (hwrote.lookup_ne hid).trans hspent, hused, htoken⟩
    · cases List.mem_singleton.mp hnew
      exact ⟨_, hwrote.lookup_self, by simp, husable.token⟩
  · intro k row hrow hused
    rcases hwrote.cases hrow with ⟨rfl, rfl⟩ | ⟨-, hold⟩
    · exact .inr ⟨r, redemption.token, view, List.mem_append_right _ List.mem_cons_self⟩
    · rcases h.used k row hold hused with hbefore | ⟨r', token, view', hmem⟩
      · exact .inl hbefore
      · exact .inr ⟨r', token, view', List.mem_append_left _ hmem⟩
  · intro before after r' id' token view' hlog
    rcases split_log hlog with ⟨rfl, hlast, rfl⟩ | ⟨after', rfl, hold⟩
    · cases hlast
      refine ⟨fun _ _ _ => List.not_mem_nil, ?_⟩
      refine ⟨_, redemption.userId, redemption.startedAt, hwrote.lookup_self, husable.token,
        h.began r redemption hlook, ?_, hview⟩
      exact lt_of_epochMilliseconds_lt husable.unexpired
    · refine (h.redeemed before after' r' id' token view' hold).kept
        (keeps_of_used husable.row hwrote) ?_
      intro r₁ id₁ view₁ hmem
      cases List.mem_singleton.mp hmem
      replace hold : sys.log = before ++ .redeemed r' id' redemption.token view' :: after' := hold
      exact h.unredeemed husable r' id' view' (by simp [hold])

theorem quiet_singleton {event : GrantEvent}
    (h : ∀ r id token view, event ≠ .redeemed r id token view) : Quiet [event] :=
  fun r id token view hmem => h r id token view (List.mem_singleton.mp hmem).symm

theorem Sound.begins (h : Sound initial sys) (r : DownloadId) (userId : UserId)
    (token : DownloadToken) :
    Sound initial ({ sys with
      redemptions := sys.redemptions.insert r
        { userId := userId, token := token, startedAt := sys.clock } }.logs
      (.began r userId sys.clock)) := by
  refine h.quiet (quiet_singleton fun _ _ _ _ => by simp) (fun _ _ hrow => hrow)
    (fun _ _ hrow => .inl hrow) ?_ ?_ _ _
  · intro r₁ r₂ redemption₁ redemption₂ id h₁ h₂ hold₁ hold₂
    rcases Table.wrote_insert.cases h₁ with ⟨rfl, rfl⟩ | ⟨-, hsame₁⟩
    · cases hold₁
    · rcases Table.wrote_insert.cases h₂ with ⟨rfl, rfl⟩ | ⟨-, hsame₂⟩
      · cases hold₂
      · exact h.alone r₁ r₂ redemption₁ redemption₂ id hsame₁ hsame₂ hold₁ hold₂
  · intro r' redemption' hlook
    rcases Table.wrote_insert.cases hlook with ⟨rfl, rfl⟩ | ⟨-, hsame⟩
    · exact .inr ⟨List.mem_append_right _ List.mem_cons_self, trivial⟩
    · exact .inl hsame

theorem Sound.issues (h : Sound initial sys) {id : GrantId} {grant : DownloadGrant}
    (hnew : sys.grants.lookup id = none) (hchecks : grant.checks = true)
    (hunused : grant.usedAt = none)
    (htoken : ∀ k other, sys.grants.lookup k = some other → other.tokenHash ≠ grant.tokenHash) :
    Sound initial { sys with grants := sys.grants.insert id grant } := by
  have hadded : Sound initial
      { sys with grants := sys.grants.insert id grant, log := sys.log ++ [] } := by
    refine h.quiet (fun _ _ _ _ => List.not_mem_nil) (fun k row hrow => ?_)
      (fun k row hrow => ?_) h.alone (fun _ _ hlook => .inl hlook) _ _
    · refine (Table.wrote_insert.lookup_ne fun hk => ?_).trans hrow
      rw [hk, hnew] at hrow
      cases hrow
    · rcases Table.wrote_insert.cases hrow with ⟨rfl, rfl⟩ | ⟨-, hold⟩
      · refine .inr ⟨hchecks, hunused, fun k' other hother hsame => ?_⟩
        rcases Table.wrote_insert.cases hother with ⟨rfl, -⟩ | ⟨-, hold⟩
        · rfl
        · exact absurd hsame (htoken k' other hold)
      · exact .inl hold
  rw [List.append_nil] at hadded
  exact hadded

theorem Step.sound (hstep : Step sys sys') (h : Sound initial sys) : Sound initial sys' := by
  cases hstep with
  | begin r userId token hnew => exact h.begins r userId token
  | find r redemption id grant hlook hstage hrow htoken =>
      have hmoved := h.moves hlook (fun _ _ _ _ => List.not_mem_nil)
        (fun _ hholds => by cases hholds)
        (show Relies sys.grants (sys.log ++ []) r { redemption with stage := .found id } from
          ⟨grant, hrow, htoken⟩)
      rw [List.append_nil] at hmoved
      exact hmoved
  | lock r redemption id hlook hstage hfree =>
      refine h.moves hlook (quiet_singleton fun _ _ _ _ => by simp) ?_ ?_
      · rintro id' ⟨⟩ r' redemption' hlook' hheld
        exact absurd hheld (held_iff.mp hfree r' redemption' hlook')
      · have hrelies := h.relies r redemption hlook
        simp only [Relies, hstage] at hrelies
        exact ⟨List.mem_append_right _ List.mem_cons_self, hrelies⟩
  | check r redemption id grant hlook hstage hrow husable =>
      have hrelies := h.relies r redemption hlook
      simp only [Relies, hstage] at hrelies
      obtain ⟨hlocked, grant', hrow', htoken⟩ := hrelies
      cases hrow.symm.trans hrow'
      simp only [isDownloadGrantUsable, Bool.and_eq_true, Option.isNone_iff_eq_none,
        decide_eq_true_eq] at husable
      obtain ⟨⟨hunused, hunrevoked⟩, hunexpired⟩ := husable
      have hmoved := h.moves_held hlook (fun _ _ _ _ => List.not_mem_nil) (by rw [hstage]; rfl)
        (show Relies sys.grants (sys.log ++ []) r { redemption with stage := .usable id grant } from
          ⟨List.mem_append_left _ hlocked, hrow, htoken, hunused, hunrevoked, hunexpired⟩)
      rw [List.append_nil] at hmoved
      exact hmoved
  | readBooking r redemption id grant booking hlook hstage hbooking =>
      have hrelies := h.relies r redemption hlook
      simp only [Relies, hstage] at hrelies
      refine h.moves_held hlook (quiet_singleton fun _ _ _ _ => by simp) (by rw [hstage]; rfl) ?_
      exact ⟨{ hrelies with locked := List.mem_append_left _ hrelies.locked }, sys.db,
        readSince_last hrelies.locked, hbooking⟩
  | readTickets r redemption id grant booking hlook hstage =>
      have hrelies := h.relies r redemption hlook
      simp only [Relies, hstage] at hrelies
      obtain ⟨husable, hbooking⟩ := hrelies
      refine h.moves_held hlook (quiet_singleton fun _ _ _ _ => by simp) (by rw [hstage]; rfl) ?_
      exact ⟨{ husable with locked := List.mem_append_left _ husable.locked }, hbooking.append _,
        sys.db, readSince_last husable.locked, rfl⟩
  | build r redemption id grant booking tickets view hlook hstage howner hconfirmed hview =>
      have hrelies := h.relies r redemption hlook
      simp only [Relies, hstage] at hrelies
      obtain ⟨husable, hbooking, htickets⟩ := hrelies
      refine h.moves_held hlook (quiet_singleton fun _ _ _ _ => by simp) (by rw [hstage]; rfl) ?_
      exact ⟨{ husable with locked := List.mem_append_left _ husable.locked },
        viewRead_built husable.locked hbooking htickets howner hconfirmed hview⟩
  | reject r redemption hlook =>
      exact (h.logs (quiet_singleton fun _ _ _ _ => by simp)).fails hlook
  | redeem r redemption id grant view hlook hstage => exact h.redeems hlook hstage
  | fail r redemption hlook => exact h.fails hlook
  | issue id grant hnew hchecks hunused htoken => exact h.issues hnew hchecks hunused htoken
  | change db =>
      exact ⟨h.distinct, h.checks, h.alone, h.began, h.relies, h.spent, h.used, h.redeemed⟩
  | tick clock =>
      exact ⟨h.distinct, h.checks, h.alone, h.began, h.relies, h.spent, h.used, h.redeemed⟩

/-- **Download grants.** In every run from grants with tokens of their own: a redemption that goes
through started before the grant's expiry, has read the booking as confirmed and each credential
that can be scanned as the live one of its ticket, all since it locked the grant, and the token is
not redeemed again. A grant of which no redemption has gone through is as unused as it was. -/
theorem download_grant_single_use {start : GrantSystem}
    (hdistinct : ∀ k k' grant grant', start.grants.lookup k = some grant →
      start.grants.lookup k' = some grant' → grant.tokenHash = grant'.tokenHash → k = k')
    (hchecks : ∀ id grant, start.grants.lookup id = some grant → grant.checks = true)
    (hidle : start.redemptions = ∅) (hlog : start.log = [])
    (hreach : Reaches step (fun _ _ => True) start sys) :
    (∀ before after r id token view, sys.log = before ++ .redeemed r id token view :: after →
      Redeemed sys.grants before after r id token view) ∧
    ∀ id grant, sys.grants.lookup id = some grant →
      (∀ r token view, .redeemed r id token view ∉ sys.log) → grant.usedAt ≠ none →
        ∃ old, start.grants.lookup id = some old ∧ old.usedAt ≠ none := by
  have hstart : Sound start.grants start := by
    have hnone : ∀ r redemption, start.redemptions.lookup r ≠ some redemption := by
      intro r redemption hlook
      rw [hidle] at hlook
      cases hlook
    refine ⟨hdistinct, hchecks, ?_, ?_, ?_, ?_, ?_, ?_⟩
    · exact fun r r' redemption redemption' id hlook => absurd hlook (hnone r redemption)
    · exact fun r redemption hlook => absurd hlook (hnone r redemption)
    · exact fun r redemption hlook => absurd hlook (hnone r redemption)
    · intro r id token view hmem
      rw [hlog] at hmem
      cases hmem
    · exact fun id grant hrow hused => .inl ⟨grant, hrow, hused⟩
    · intro before after r id token view hsplit
      rw [hlog] at hsplit
      simp at hsplit
  have hsound : Sound start.grants sys :=
    hreach.invariant hstart fun _ _ _ _ hstep h => (step_cases hstep).sound h
  refine ⟨hsound.redeemed, fun id grant hrow hnone hused => ?_⟩
  rcases hsound.used id grant hrow hused with hbefore | ⟨r, token, view, hmem⟩
  · exact hbefore
  · exact absurd hmem (hnone r token view)

section Download

def recitalSeat : BookingSeat where
  id := 1
  inventoryId := 1
  sessionId := 1
  seatId := 1
  sectionId := 1
  priceTierId := 1
  priceMinor := 1500
  currency := .EUR

def recitalBooking : Booking where
  publicReference := 1
  orderId := 1
  userId := 1
  organizationId := 1
  eventId := 1
  sessionId := 1
  currency := .EUR
  totalMinor := 1500
  confirmedAt := 0
  createdAt := 0
  seats := [recitalSeat]

/-- A booking whose ticket has a credential, and a grant of ten minutes. -/
def recital : GrantSystem where
  clock := 1000
  db :=
    { bookings := (∅ : Table BookingId Booking).insert 1 recitalBooking
      tickets := (∅ : Table TicketId Ticket).insert 1 (recitalBooking.ticket 1 recitalSeat 7 0)
      credentials := (∅ : Table CredentialId TicketCredential).insert 1
        { ticketId := 1, version := 1, credentialHash := .derived 7 1, issuedAt := 0 } }
  grants := (∅ : Table GrantId DownloadGrant).insert 1
    { bookingId := 1, userId := 1, expiresAt := 600000, createdAt := 0, tokenHash := .generated 9 }

/-- Two redemptions at once: the second waits for the first. -/
def recitalActions : List GrantAction :=
  [.begin 1 1 (.generated 9), .begin 2 1 (.generated 9), .next 1, .next 2, .next 1, .next 1,
    .next 1, .next 1, .next 1, .next 1, .next 2, .next 2]

def recitalView : TicketPdfView where
  bookingReference := 1
  tickets := [{ ticketReference := 7, status := .ACTIVE, credential := some (.derived 7 1) }]

/-- The first goes through, and the second finds the grant used. -/
theorem download_grant_single_use_recital :
    ∃ sys before after, Reaches step (fun _ _ => True) recital sys ∧
      sys.log = before ++ .redeemed 1 1 (.generated 9) recitalView :: after ∧
      Redeemed sys.grants before after 1 1 (.generated 9) recitalView := by
  have hexecuted : (execute step recitalActions recital).map GrantSystem.log = some
      ([.began 1 1 1000, .began 2 1 1000, .locked 1 1, .readBooking 1 recital.db,
        .readTickets 1 recital.db, .readCredentials 1 recital.db] ++
        .redeemed 1 1 (.generated 9) recitalView :: [.locked 2 1, .failed 2]) := rfl
  obtain ⟨sys, hrun, hlog⟩ := Option.map_eq_some_iff.mp hexecuted
  have hreach := reaches_of_execute hrun fun _ _ _ => trivial
  refine ⟨sys, _, _, hreach, hlog, (download_grant_single_use ?_ ?_ rfl rfl hreach).1 _ _ 1 1 _ _
    hlog⟩
  · intro k k' grant grant' hk hk' _
    rcases Table.wrote_insert.cases hk with ⟨rfl, -⟩ | ⟨-, hnone⟩
    · rcases Table.wrote_insert.cases hk' with ⟨rfl, -⟩ | ⟨-, hnone⟩
      · rfl
      · cases hnone
    · cases hnone
  · exact Table.forall_lookup (by decide)

end Download

end GrantSystem

end SeatFlow
