import SeatFlow.Collections.Results
import SeatFlow.Commerce.HoldConfiguration
import SeatFlow.Commerce.SeatAgreement
import SeatFlow.Platform.PlatformSystem
import SeatFlow.SeatMaps.DraftEditor
import SeatFlow.Text.CodeUnits
import SeatFlow.Text.Words
import SeatFlow.Tickets.DownloadGrants

/-!
# Booking documents

`consumeBookingPdfGrant` on its own, with the texts that the document prints and with its
rendering: one page a ticket, drawn in a font that has the WinAnsi characters only. The guard of
the document counts tickets, the configuration of holds counts seats, and the input schemas let
any character through; where they disagree, a booking that was paid for has no document.
-/

namespace SeatFlow

open Relational Text

/-! ## §1 Texts -/

/-- `normalizedText` of the event and venue schemas. -/
def normalizedText (path : String) (minimum maximum : Nat) (raw : String) :
    Except (List SchemaIssue) String :=
  let value := compactText raw
  match lengthIssues path value minimum maximum with
  | [] => .ok value
  | issues => .error issues

theorem length_le_of_normalizedText {path raw value : String} {minimum maximum : Nat}
    (h : normalizedText path minimum maximum raw = .ok value) : utf16Length value ≤ maximum := by
  unfold normalizedText at h
  cases hissues : lengthIssues path (compactText raw) minimum maximum with
  | cons issue issues =>
      simp only [hissues, reduceCtorEq] at h
  | nil =>
      simp only [hissues, Except.ok.injEq] at h
      simp only [lengthIssues, List.append_eq_nil_iff, ite_eq_right_iff] at hissues
      rw [← h]
      by_contra hlong
      have himpossible := hissues.2 (Nat.lt_of_not_le hlong)
      cases himpossible

/-- An event at its venue, as the input schemas let it through. -/
structure EventTexts where
  eventTitle : String
  startAt : Time
  timeZone : String
  venueName : String
  venueCity : String
  spaceName : String
  title_accepted : ∃ raw, normalizedText "title" 3 160 raw = .ok eventTitle
  venue_accepted : ∃ raw, normalizedText "name" 2 120 raw = .ok venueName
  city_accepted : ∃ raw, normalizedText "city" 2 100 raw = .ok venueCity
  space_accepted : ∃ raw, normalizedText "name" 2 120 raw = .ok spaceName

/-- A booked seat, as the input schemas let it through. -/
structure SeatTexts [Casing] where
  sectionName : String
  sectionCode : String
  rowLabel : String
  seatLabel : String
  tierName : String
  section_accepted :
      ∃ raw, sectionInputSchema raw = .ok { name := sectionName, code := sectionCode }
  row_accepted : ∃ raw, rowInputSchema raw = .ok { label := rowLabel }
  seat_accepted : ∃ raw input, seatInputSchema raw = .ok input ∧ input.label = seatLabel
  tier_accepted : ∃ raw, normalizedText "name" 1 80 raw = .ok tierName

/-- Printable ASCII. -/
def isPlain (c : Char) : Bool :=
  0x20 ≤ c.toNat && c.toNat ≤ 0x7E

/-- What a page takes from elsewhere: an instant in the time zone of the venue, by the platform's
`Intl.DateTimeFormat`, public references, which are generated in base64url, and the `drawText` of
pdf-lib in Helvetica, which throws on what is not in WinAnsi and on nothing else. -/
structure Printing where
  formatDateTime : Time → String → String
  referenceText : Reference → String
  drawText : List Nat → Except Failure Unit
  formatDateTime_plain : ∀ startAt timeZone, ∀ c ∈ (formatDateTime startAt timeZone).toList,
    isPlain c = true
  referenceText_plain : ∀ reference, ∀ c ∈ (referenceText reference).toList, isPlain c = true
  drawText_eq_ok : ∀ units, drawText units = .ok () ↔ WinAnsi units

/-! ## §2 Drawn texts -/

/-- `[\r\n\t]`. -/
def isBreak (c : Char) : Bool :=
  ['\r', '\n', '\t'].contains c

/-- `value.replace(/[\r\n\t]+/g, " ").trim()`, in code units. -/
def normalized (value : String) : List Nat :=
  utf16 (trim (String.ofList (replaceRuns (fun c => !isBreak c) ' ' false value.toList)))

/-- The text is cut at a code unit, and an ellipsis put in the place of the rest. -/
def fitText (value : String) (maximum : Nat) : List Nat :=
  if maximum < (normalized value).length then (normalized value).take (maximum - 1) ++ [0x2026]
  else normalized value

/-- What a page shows of a text: all of it, or what comes before the ellipsis. -/
def shown (value : String) (maximum : Nat) : List Nat :=
  if maximum < (normalized value).length then (normalized value).take (maximum - 1)
  else normalized value

theorem winAnsi_fitText {value : String} {maximum : Nat} :
    WinAnsi (fitText value maximum) ↔ WinAnsi (shown value maximum) := by
  unfold fitText shown
  split
  · rw [winAnsi_append]
    exact and_iff_left (by decide)
  · rfl

theorem isWinAnsi_of_isPlain {c : Char} (h : isPlain c = true) : isWinAnsi c.toNat = true := by
  simp only [isPlain, isWinAnsi, Bool.or_eq_true] at h ⊢
  exact .inl (.inl h)

/-- Normalising puts nothing but blanks in. -/
theorem winAnsi_shown_of_isPlain {value : String} (h : ∀ c ∈ value.toList, isPlain c = true)
    (maximum : Nat) : WinAnsi (shown value maximum) := by
  have hwhole : WinAnsi (normalized value) := by
    refine winAnsi_utf16.mpr fun c hc => isWinAnsi_of_isPlain ?_
    have hreplaced := mem_trim hc
    rw [String.toList_ofList] at hreplaced
    rcases mem_replaceRuns hreplaced with hmem | rfl
    · exact h c hmem
    · decide
  unfold shown
  split
  · exact fun u hu => hwhole u (List.mem_of_mem_take hu)
  · exact hwhole

theorem isPlain_toString {n : Nat} : ∀ c ∈ (toString n).toList, isPlain c = true := by
  intro c hc
  have hdigit : c.isDigit = true :=
    Nat.isDigit_of_mem_toDigits (b := 10) (n := n) (by decide) (by decide) (by simpa using hc)
  simp only [Char.isDigit, Bool.and_eq_true, decide_eq_true_eq] at hdigit
  simp only [isPlain, Bool.and_eq_true, decide_eq_true_eq]
  obtain ⟨hlow, hhigh⟩ := hdigit
  have hlow' : (48 : UInt32).toNat ≤ c.val.toNat := hlow
  have hhigh' : c.val.toNat ≤ (57 : UInt32).toNat := hhigh
  exact ⟨Nat.le_trans (by decide) hlow', Nat.le_trans hhigh' (by decide)⟩

theorem winAnsi_pageNumber (page pages : Nat) :
    WinAnsi (utf16 ("Page " ++ toString page ++ " of " ++ toString pages)) := by
  have hnumber : ∀ n : Nat, WinAnsi (utf16 (toString n)) := fun n =>
    winAnsi_utf16.mpr fun c hc => isWinAnsi_of_isPlain (isPlain_toString c hc)
  rw [winAnsi_utf16_append, winAnsi_utf16_append, winAnsi_utf16_append]
  exact ⟨⟨⟨by decide, hnumber page⟩, by decide⟩, hnumber pages⟩

/-! ## §3 Rendering -/

section Rendering

variable [Casing]

structure PrintedTicket extends TicketPdfEntry where
  texts : SeatTexts

/-- The whole of `TicketPdfView`. -/
structure PrintedPdfView where
  bookingReference : Reference
  event : EventTexts
  tickets : List PrintedTicket

def assertTicketPdfViewIsBounded (view : PrintedPdfView) : Except Failure Unit := do
  ensure (1 ≤ view.tickets.length ∧ view.tickets.length ≤ 8)
    (.domain "Ticket PDF must contain between one and eight tickets.")
  let values := [view.event.eventTitle, view.event.venueName, view.event.venueCity,
    view.event.spaceName]
  ensure (∀ value ∈ values, utf16Length value ≤ 200)
    (.domain "Ticket PDF content exceeds its safe bound.")

def EventTexts.placeLine (event : EventTexts) : String :=
  event.venueName ++ " · " ++ event.spaceName ++ " · " ++ event.venueCity

def SeatTexts.seatLine (texts : SeatTexts) : String :=
  texts.sectionName ++ " · Row " ++ texts.rowLabel ++ " · Seat " ++ texts.seatLabel

def TicketStatus.text : TicketStatus → String
  | .ACTIVE => "ACTIVE"
  | .REVOKED => "REVOKED"
  | .USED => "USED"

/-- `status.toLowerCase()`. -/
def TicketStatus.lowerText : TicketStatus → String
  | .ACTIVE => "active"
  | .REVOKED => "revoked"
  | .USED => "used"

/-- The texts of a page in the order in which they are drawn. -/
def pageTexts (printing : Printing) (view : PrintedPdfView) (ticket : PrintedTicket)
    (pageCount : Nat) : List (List Nat) :=
  [utf16 "SEATFLOW",
    fitText view.event.eventTitle 48,
    fitText (printing.formatDateTime view.event.startAt view.event.timeZone) 58,
    fitText view.event.placeLine 64,
    utf16 "YOUR SEAT",
    fitText ticket.texts.seatLine 52,
    fitText ticket.texts.tierName 50] ++
  (match ticket.credential with
    | some _ => []
    | none =>
        [utf16 "QR UNAVAILABLE", utf16 ("This ticket is " ++ ticket.status.lowerText ++ ".")]) ++
  [utf16 "Ticket " ++ fitText (printing.referenceText ticket.ticketReference) 80,
    utf16 ("Status: " ++ ticket.status.text),
    utf16 "Present this QR at entry. Network validation is authoritative.",
    utf16 "Do not share this ticket. A replaced, revoked, or used credential is rejected.",
    utf16 ("Page " ++ toString pageCount ++ " of " ++ toString view.tickets.length)]

/-- A page: its texts, and the credential in its QR image. -/
structure PdfPage where
  texts : List (List Nat)
  qr : Option CredentialToken
  deriving DecidableEq

structure PdfDocument where
  title : List Nat
  pages : List PdfPage
  deriving DecidableEq

def drawPage (printing : Printing) (view : PrintedPdfView) (ticket : PrintedTicket)
    (pageCount : Nat) : Except Failure PdfPage := do
  let texts := pageTexts printing view ticket pageCount
  let _ ← texts.mapM printing.drawText
  pure { texts := texts, qr := ticket.credential }

def renderBookingTicketPdf (printing : Printing) (view : PrintedPdfView) :
    Except Failure PdfDocument := do
  assertTicketPdfViewIsBounded view
  let pages ← view.tickets.zipIdx.mapM fun e => drawPage printing view e.1 (e.2 + 1)
  pure { title := fitText view.event.eventTitle 72 ++ utf16 " tickets", pages := pages }

variable (printing : Printing) {view : PrintedPdfView} {ticket : PrintedTicket}

/-- The texts of a page that organisers write are drawn. -/
structure Legible (event : EventTexts) (texts : SeatTexts) : Prop where
  title : WinAnsi (shown event.eventTitle 48)
  place : WinAnsi (shown event.placeLine 64)
  seat : WinAnsi (shown texts.seatLine 52)
  tier : WinAnsi (shown texts.tierName 50)

/-- The other texts of a page can always be drawn. -/
theorem pageTexts_winAnsi_iff (pageCount : Nat) :
    (∀ text ∈ pageTexts printing view ticket pageCount, WinAnsi text) ↔
      Legible view.event ticket.texts := by
  have hlabel :
      WinAnsi (shown (printing.formatDateTime view.event.startAt view.event.timeZone) 58) :=
    winAnsi_shown_of_isPlain (printing.formatDateTime_plain _ _) 58
  have hreference : WinAnsi (shown (printing.referenceText ticket.ticketReference) 80) :=
    winAnsi_shown_of_isPlain (printing.referenceText_plain _) 80
  have hticket : WinAnsi (utf16 "Ticket ") := by decide
  have hstatus : WinAnsi (utf16 ("Status: " ++ ticket.status.text)) := by
    cases ticket.status <;> decide
  have hgone : ∀ text ∈ (match ticket.credential with
      | some _ => []
      | none => [utf16 "QR UNAVAILABLE",
          utf16 ("This ticket is " ++ ticket.status.lowerText ++ ".")]), WinAnsi text := by
    cases ticket.credential with
    | some credential => exact List.forall_mem_nil _
    | none =>
        refine List.forall_mem_cons.mpr ⟨by decide, List.forall_mem_singleton.mpr ?_⟩
        cases ticket.status <;> decide
  unfold pageTexts
  simp only [List.forall_mem_append, List.forall_mem_cons, winAnsi_append, winAnsi_fitText]
  constructor
  · rintro ⟨⟨⟨-, htitle, -, hplace, -, hseat, htier, -⟩, -⟩, -⟩
    exact ⟨htitle, hplace, hseat, htier⟩
  · rintro ⟨htitle, hplace, hseat, htier⟩
    refine ⟨⟨⟨by decide, htitle, hlabel, hplace, by decide, hseat, htier, ?_⟩, hgone⟩,
      ⟨hticket, hreference⟩, hstatus, by decide, by decide, winAnsi_pageNumber _ _, ?_⟩
    · exact List.forall_mem_nil _
    · exact List.forall_mem_nil _

theorem exists_drawPage_iff {pageCount : Nat} :
    (∃ page, drawPage printing view ticket pageCount = .ok page) ↔
      Legible view.event ticket.texts := by
  rw [← pageTexts_winAnsi_iff printing pageCount]
  constructor
  · rintro ⟨page, h⟩ text htext
    obtain ⟨units, hunits, -⟩ := Except.bind_eq_ok.mp h
    obtain ⟨⟨⟩, hdrawn⟩ := Results.exists_mapM_eq_ok_iff.mp ⟨units, hunits⟩ text htext
    exact (printing.drawText_eq_ok text).mp hdrawn
  · intro h
    obtain ⟨units, hunits⟩ := Results.exists_mapM_eq_ok_iff.mpr fun text htext =>
      ⟨(), (printing.drawText_eq_ok text).mpr (h text htext)⟩
    exact ⟨_, Except.bind_eq_ok.mpr ⟨units, hunits, rfl⟩⟩

/-- The texts that an accepted event has are within the guard's bound. -/
theorem bounded_iff : assertTicketPdfViewIsBounded view = .ok () ↔
    1 ≤ view.tickets.length ∧ view.tickets.length ≤ 8 := by
  have htexts : ∀ value ∈ [view.event.eventTitle, view.event.venueName, view.event.venueCity,
      view.event.spaceName], utf16Length value ≤ 200 := by
    obtain ⟨_, htitle⟩ := view.event.title_accepted
    obtain ⟨_, hvenue⟩ := view.event.venue_accepted
    obtain ⟨_, hcity⟩ := view.event.city_accepted
    obtain ⟨_, hspace⟩ := view.event.space_accepted
    refine List.forall_mem_cons.mpr ⟨?_, List.forall_mem_cons.mpr ⟨?_, List.forall_mem_cons.mpr
      ⟨?_, List.forall_mem_singleton.mpr ?_⟩⟩⟩
    · exact Nat.le_trans (length_le_of_normalizedText htitle) (by decide)
    · exact Nat.le_trans (length_le_of_normalizedText hvenue) (by decide)
    · exact Nat.le_trans (length_le_of_normalizedText hcity) (by decide)
    · exact Nat.le_trans (length_le_of_normalizedText hspace) (by decide)
  unfold assertTicketPdfViewIsBounded
  simp only [Except.bind_unit_eq_ok, ensure_eq_ok]
  exact and_iff_left htexts

/-- A document is rendered of one to eight tickets with legible texts. -/
theorem exists_render_iff : (∃ document, renderBookingTicketPdf printing view = .ok document) ↔
    (1 ≤ view.tickets.length ∧ view.tickets.length ≤ 8) ∧
      ∀ ticket ∈ view.tickets, Legible view.event ticket.texts := by
  have hpages : (∃ pages, (view.tickets.zipIdx.mapM fun e =>
      drawPage printing view e.1 (e.2 + 1)) = .ok pages) ↔
        ∀ ticket ∈ view.tickets, Legible view.event ticket.texts := by
    rw [Results.exists_mapM_eq_ok_iff]
    simp only [exists_drawPage_iff]
    constructor
    · intro h ticket hticket
      obtain ⟨i, hi⟩ := List.getElem?_of_mem hticket
      exact h (ticket, i) (List.mk_mem_zipIdx_iff_getElem?.mpr hi)
    · rintro h ⟨ticket, i⟩ hmem
      exact h ticket (List.mem_of_getElem? (List.mk_mem_zipIdx_iff_getElem?.mp hmem))
  rw [← bounded_iff, ← hpages]
  unfold renderBookingTicketPdf
  constructor
  · rintro ⟨document, h⟩
    obtain ⟨⟨⟩, hbounded, h⟩ := Except.bind_eq_ok.mp h
    obtain ⟨pages, hdrawn, -⟩ := Except.bind_eq_ok.mp h
    exact ⟨hbounded, pages, hdrawn⟩
  · rintro ⟨hbounded, pages, hdrawn⟩
    exact ⟨_, Except.bind_eq_ok.mpr ⟨(), hbounded, Except.bind_eq_ok.mpr ⟨pages, hdrawn, rfl⟩⟩⟩

/-- A page for each ticket. -/
theorem length_pages {document : PdfDocument}
    (h : renderBookingTicketPdf printing view = .ok document) :
    document.pages.length = view.tickets.length := by
  unfold renderBookingTicketPdf at h
  obtain ⟨⟨⟩, -, h⟩ := Except.bind_eq_ok.mp h
  obtain ⟨pages, hdrawn, h⟩ := Except.bind_eq_ok.mp h
  rw [← Except.ok.inj h]
  exact (Results.length_of_mapM hdrawn).trans List.length_zipIdx

theorem render_crowded (h : 8 < view.tickets.length) : renderBookingTicketPdf printing view =
    .error (.domain "Ticket PDF must contain between one and eight tickets.") := by
  unfold renderBookingTicketPdf assertTicketPdfViewIsBounded ensure
  rw [if_neg fun hbounded => Nat.not_le_of_lt h hbounded.2]
  rfl

/-! ## §4 `consumeBookingPdfGrant` -/

/-- `buildPdfView`, with the texts of the booking's event and seats. -/
def buildPrintedView (event : EventTexts) (seats : BookingSeatId → SeatTexts) (booking : Booking)
    (tickets : List (TicketId × Ticket)) (stored : TicketId → Option TicketCredential) :
    Except Failure PrintedPdfView := do
  let printed ← tickets.mapM fun e => do
    let entry ← pdfEntry e.2 (stored e.1)
    pure { entry with texts := seats e.2.bookingSeatId : PrintedTicket }
  pure { bookingReference := booking.publicReference, event := event, tickets := printed }

/-- `ticketDownloadGrant.update`, with its trigger and constraints. -/
def markUsed (grants : Table GrantId DownloadGrant) (id : GrantId) (grant : DownloadGrant)
    (now : Time) : Except Failure (Table GrantId DownloadGrant) := do
  let used := { grant with usedAt := some now }
  grant.protectHistory used
  ensure (used.checks = true) (.constraint "TicketDownloadGrant_check")
  pure (grants.insert id used)

/-- What the pages are made from: the committed database, the texts of each booking's event and
of each booked seat. -/
structure PdfSource where
  db : Db
  event : BookingId → EventTexts
  seat : BookingSeatId → SeatTexts

/-- The transaction, started at an instant in microseconds: the document or `null`, and the
grants. An exception rolls it back. -/
def consumeBookingPdfGrant (printing : Printing) (source : PdfSource)
    (grants : Table GrantId DownloadGrant) (userId : UserId) (token : DownloadToken)
    (startedAt : Time) :
    Except Failure (Option (PdfDocument × PrintedPdfView) × Table GrantId DownloadGrant) :=
  match grants.select fun _ grant => grant.tokenHash = token with
  | [] => .ok (none, grants)
  | (id, candidate) :: _ =>
      if candidate.userId ≠ userId then .ok (none, grants)
      else
        match (grants.lookup id).filter fun grant => grant.userId = userId with
        | none => .ok (none, grants)
        | some grant =>
            let now := epochMilliseconds startedAt
            if grant.purpose ≠ .BOOKING_PDF ∨ isDownloadGrantUsable grant now = false then
              .ok (none, grants)
            else
              match source.db.bookings.lookup grant.bookingId with
              | none => .ok (none, grants)
              | some booking =>
                  if booking.userId ≠ userId ∨ booking.status ≠ .CONFIRMED then .ok (none, grants)
                  else do
                    let view ← buildPrintedView (source.event grant.bookingId) source.seat booking
                      (ticketsForPdf source.db grant.bookingId) (credentialForPdf source.db)
                    let document ← renderBookingTicketPdf printing view
                    let grants' ← markUsed grants id grant now
                    pure (some (document, view), grants')

/-! ## §5 Which bookings have a document -/

/-- The live credential of a ticket, as it was derived for the ticket. -/
def Db.HasCredential (db : Db) (ticketId : TicketId) (ticket : Ticket) : Prop :=
  ∃ stored, credentialForPdf db ticketId = some stored ∧
    stored.credentialHash = .derived ticket.publicReference stored.version

/-- A grant that its owner may redeem now: it is found by its token, which no other grant has. -/
structure DownloadGrant.Redeemable (grant : DownloadGrant) (id : GrantId)
    (grants : Table GrantId DownloadGrant) (startedAt : Time) : Prop where
  row : grants.lookup id = some grant
  token : ∀ id' other, grants.lookup id' = some other → other.tokenHash = grant.tokenHash → id' = id
  checks : grant.checks = true
  usable : isDownloadGrantUsable grant (epochMilliseconds startedAt) = true

/-- A confirmed booking of the grant's owner, whose live tickets have their credentials. -/
structure PdfSource.Confirmed (source : PdfSource) (grant : DownloadGrant) (booking : Booking) :
    Prop where
  row : source.db.bookings.lookup grant.bookingId = some booking
  owner : booking.userId = grant.userId
  status : booking.status = .CONFIRMED
  credentials : ∀ e ∈ ticketsForPdf source.db grant.bookingId, e.2.status = .ACTIVE →
    source.db.HasCredential e.1 e.2

/-- One to eight tickets, each with texts that can be drawn. -/
structure PdfSource.Printable (source : PdfSource) (bookingId : BookingId) : Prop where
  one_le : 1 ≤ (ticketsForPdf source.db bookingId).length
  le_eight : (ticketsForPdf source.db bookingId).length ≤ 8
  legible : ∀ e ∈ ticketsForPdf source.db bookingId,
    Legible (source.event bookingId) (source.seat e.2.bookingSeatId)

variable {source : PdfSource} {grants : Table GrantId DownloadGrant} {id : GrantId}
  {grant : DownloadGrant} {booking : Booking} {startedAt : Time}

omit [Casing] in
theorem exists_pdfEntry {ticketId : TicketId} {t : Ticket} {db : Db}
    (h : t.status = .ACTIVE → db.HasCredential ticketId t) :
    ∃ entry, pdfEntry t (credentialForPdf db ticketId) = .ok entry := by
  unfold pdfEntry
  split
  · rename_i hactive
    obtain ⟨stored, hstored, hhash⟩ := h hactive
    simp only [hstored, hhash, if_true]
    exact ⟨_, rfl⟩
  · exact ⟨_, rfl⟩

/-- A view of the booking is built, with the texts of its seats. -/
theorem exists_buildPrintedView (event : EventTexts) (seats : BookingSeatId → SeatTexts)
    (booking : Booking) {db : Db} {tickets : List (TicketId × Ticket)}
    (h : ∀ e ∈ tickets, e.2.status = .ACTIVE → db.HasCredential e.1 e.2) :
    ∃ view, buildPrintedView event seats booking tickets (credentialForPdf db) = .ok view ∧
      view.event = event ∧
      view.tickets.map (·.texts) = tickets.map fun e => seats e.2.bookingSeatId := by
  obtain ⟨printed, hprinted⟩ := Results.exists_mapM_eq_ok_iff.mpr fun e he => by
    obtain ⟨entry, hentry⟩ := exists_pdfEntry (h e he)
    exact ⟨{ entry with texts := seats e.2.bookingSeatId : PrintedTicket },
      Except.bind_eq_ok.mpr ⟨entry, hentry, rfl⟩⟩
  refine ⟨_, Except.bind_eq_ok.mpr ⟨printed, hprinted, rfl⟩, rfl, ?_⟩
  refine Results.map_of_mapM hprinted fun e ticket hticket => ?_
  obtain ⟨entry, -, hentry⟩ := Except.bind_eq_ok.mp hticket
  cases hentry
  rfl

/-- Past its checks, a redemption is the view, its rendering and the mark on the grant. -/
theorem consumeBookingPdfGrant_eq (hgrant : grant.Redeemable id grants startedAt)
    (hbooking : source.Confirmed grant booking) :
    consumeBookingPdfGrant printing source grants grant.userId grant.tokenHash startedAt = (do
      let view ← buildPrintedView (source.event grant.bookingId) source.seat booking
        (ticketsForPdf source.db grant.bookingId) (credentialForPdf source.db)
      let document ← renderBookingTicketPdf printing view
      let grants' ← markUsed grants id grant (epochMilliseconds startedAt)
      pure (some (document, view), grants')) := by
  have hfound : (grants.select fun _ other => other.tokenHash = grant.tokenHash) = [(id, grant)] :=
    Table.select_eq_singleton hgrant.row (by simp) fun k row hrow hsame =>
      hgrant.token k row hrow (of_decide_eq_true hsame)
  have hpurpose : grant.purpose = .BOOKING_PDF := by
    cases grant.purpose
    rfl
  have hlocked : ((grants.lookup id).filter fun other => other.userId = grant.userId) =
      some grant := by
    rw [hgrant.row, Option.filter_some_pos (by simp)]
  unfold consumeBookingPdfGrant
  simp only [hfound, hlocked, hgrant.usable, hpurpose, hbooking.row, hbooking.owner,
    hbooking.status, ne_eq, not_true_eq_false, if_false, or_self, Bool.true_eq_false]

omit [Casing] in
theorem markUsed_eq (hgrant : grant.Redeemable id grants startedAt) (now : Time) :
    markUsed grants id grant now = .ok (grants.insert id { grant with usedAt := some now }) := by
  have husable := hgrant.usable
  have hchecks := hgrant.checks
  simp only [isDownloadGrantUsable, Bool.and_eq_true, Option.isNone_iff_eq_none,
    DownloadGrant.checks, decide_eq_true_eq] at husable hchecks
  obtain ⟨⟨hunused, hunrevoked⟩, -⟩ := husable
  have htrigger : grant.protectHistory { grant with usedAt := some now } = .ok () := by
    simp [DownloadGrant.protectHistory, hunused, hunrevoked]
  have hkept : ({ grant with usedAt := some now } : DownloadGrant).checks = true := by
    simp [DownloadGrant.checks, hchecks.1, hunrevoked]
  unfold markUsed
  simp only [htrigger, ensure, hkept, if_true]
  rfl

/-- What is rendered is a view of the booking's tickets, with the texts of their seats. -/
theorem exists_view (hgrant : grant.Redeemable id grants startedAt)
    (hbooking : source.Confirmed grant booking) :
    ∃ view : PrintedPdfView, view.event = source.event grant.bookingId ∧
      (view.tickets.map (·.texts) =
        (ticketsForPdf source.db grant.bookingId).map fun e => source.seat e.2.bookingSeatId) ∧
      consumeBookingPdfGrant printing source grants grant.userId grant.tokenHash startedAt = (do
        let document ← renderBookingTicketPdf printing view
        pure (some (document, view), grants.insert id
          { grant with usedAt := some (epochMilliseconds startedAt) })) := by
  obtain ⟨view, hview, hevent, htexts⟩ := exists_buildPrintedView
    (source.event grant.bookingId) source.seat booking hbooking.credentials
  refine ⟨view, hevent, htexts, ?_⟩
  rw [consumeBookingPdfGrant_eq printing hgrant hbooking, hview, markUsed_eq hgrant]
  rfl

theorem printable_iff {view : PrintedPdfView} {bookingId : BookingId}
    (hevent : view.event = source.event bookingId)
    (htexts : view.tickets.map (·.texts) =
      (ticketsForPdf source.db bookingId).map fun e => source.seat e.2.bookingSeatId) :
    source.Printable bookingId ↔
    ∃ document, renderBookingTicketPdf printing view = .ok document := by
  have hlength := congrArg List.length htexts
  rw [List.length_map, List.length_map] at hlength
  have hlegible : (∀ ticket ∈ view.tickets, Legible view.event ticket.texts) ↔
      ∀ e ∈ ticketsForPdf source.db bookingId,
        Legible (source.event bookingId) (source.seat e.2.bookingSeatId) := by
    rw [hevent, ← List.forall_mem_map (P := Legible (source.event bookingId)), htexts,
      List.forall_mem_map]
  rw [exists_render_iff, hlegible, hlength]
  constructor
  · rintro ⟨hone, height, hall⟩
    exact ⟨⟨hone, height⟩, hall⟩
  · rintro ⟨⟨hone, height⟩, hall⟩
    exact ⟨hone, height, hall⟩

/-- **Booking documents.** Whoever redeems a usable grant of a confirmed booking, whose live
tickets have their credentials, gets a document with a page for each ticket exactly when there are
one to eight tickets and what the pages show of the texts is in WinAnsi. -/
theorem bookingPdf_iff (hgrant : grant.Redeemable id grants startedAt)
    (hbooking : source.Confirmed grant booking) :
    (∃ document view grants',
      consumeBookingPdfGrant printing source grants grant.userId grant.tokenHash startedAt =
        .ok (some (document, view), grants') ∧
      document.pages.length = (ticketsForPdf source.db grant.bookingId).length) ↔
    source.Printable grant.bookingId := by
  obtain ⟨view, hevent, htexts, hconsumed⟩ := exists_view printing hgrant hbooking
  have hlength := congrArg List.length htexts
  rw [List.length_map, List.length_map] at hlength
  rw [printable_iff printing hevent htexts, hconsumed]
  constructor
  · rintro ⟨document, view', grants', h, -⟩
    obtain ⟨drawn, hdrawn, -⟩ := Except.bind_eq_ok.mp h
    exact ⟨drawn, hdrawn⟩
  · rintro ⟨document, hdrawn⟩
    exact ⟨document, view, _, Except.bind_eq_ok.mpr ⟨document, hdrawn, rfl⟩,
      (length_pages printing hdrawn).trans hlength⟩

end Rendering

/-! ### Nine seats, and a title in Japanese -/

section Opera

attribute [local instance] asciiCasing

def stallsRow (id : InventoryId) : SessionSeatInventory :=
  { sessionId := 1, seatId := id, sectionId := 1, priceTierId := 1, priceMinor := 100
    currency := .USD }

/-- `openSession` with any number of seats. -/
def seatsOnSale (count : Nat) : Db :=
  { openSession with
    inventory := (List.range count).foldl (fun t i => t.insert (i + 1) (stallsRow (i + 1))) ∅ }

/-- User 1 holds the seats, pays for them, and the tickets are issued. -/
def seatsSold (config : HoldConfiguration) (count : Nat) : List PlatformAction :=
  [.commerce (.acquireSeatHold 1 (holdRequest ((List.range count).map (· + 1)) 1) config
      { holdId := 7, publicToken := 7, createdAt := 100 } 100),
    .commerce (.createCheckoutOrder 1 { holdToken := 7, idempotencyKey := 5 } .STRIPE
      { orderId := 1, publicReference := 1, attemptId := 1, providerIdempotencyKey := 1 } 200),
    .commerce (.recordPaymentIntent 1 91 210),
    .commerce (.storeVerifiedWebhook .STRIPE
      { providerEventId := 1, providerIntentId := 91, status := .SUCCEEDED
        amountMinor := 100 * count, currency := .USD, occurredAt := none } 1 300),
    .commerce (.processVerifiedWebhookRecord 1
      { bookingId := 1, publicReference := 1, seatId := fun id => id } 310),
    .ticket (.processTicketIssuanceForBooking 1
      { ticketId := fun id => id, publicReference := fun id => id, credentialId := fun id => id }
      320)]

/-- Holds are taken under this configuration. -/
def UnderConfiguration (config : HoldConfiguration) (_ : FinancialSystem) : PlatformAction → Prop
  | .commerce (.acquireSeatHold _ _ used _ _) => used = config
  | _ => True

theorem seatsSold_configured (config : HoldConfiguration) (count : Nat) :
    ∀ sys, ∀ a ∈ seatsSold config count, UnderConfiguration config sys a := by
  intro sys a ha
  simp only [seatsSold, List.mem_cons, List.not_mem_nil, or_false] at ha
  rcases ha with rfl | rfl | rfl | rfl | rfl | rfl
  · rfl
  all_goals trivial

def operaTitled (title : String) (h : ∃ raw, normalizedText "title" 3 160 raw = .ok title) :
    EventTexts where
  eventTitle := title
  startAt := 5000
  timeZone := "UTC"
  venueName := "Old Theatre"
  venueCity := "Turin"
  spaceName := "Main hall"
  title_accepted := h
  venue_accepted := ⟨"Old Theatre", rfl⟩
  city_accepted := ⟨"Turin", rfl⟩
  space_accepted := ⟨"Main hall", rfl⟩

def stallsSeat : SeatTexts where
  sectionName := "Stalls"
  sectionCode := "ST"
  rowLabel := "A"
  seatLabel := "12"
  tierName := "Standard"
  section_accepted := ⟨{ name := "Stalls", code := "ST" }, rfl⟩
  row_accepted := ⟨{ label := "A" }, rfl⟩
  seat_accepted :=
    ⟨{ label := "12", x := 0, y := 0, type := .STANDARD, state := .ACTIVE }, _, rfl, rfl⟩
  tier_accepted := ⟨"Standard", rfl⟩

def operaPrinting : Printing where
  formatDateTime _ _ := "Saturday, May 2, 2026 at 8:00 PM"
  referenceText _ := "Zk3-x_0"
  drawText units := if WinAnsi units then .ok () else .error (.domain "WinAnsi cannot encode")
  formatDateTime_plain _ _ := List.all_eq_true.mp (by decide)
  referenceText_plain _ := List.all_eq_true.mp (by decide)
  drawText_eq_ok units := by split <;> simp_all

def operaGrant : DownloadGrant :=
  { bookingId := 1, userId := 1, expiresAt := 600000, createdAt := 0, tokenHash := .generated 9 }

def operaGrants : Table GrantId DownloadGrant := AList.singleton 1 operaGrant

theorem operaGrant_redeemable : operaGrant.Redeemable 1 operaGrants 400000 where
  row := rfl
  token := by
    intro id' other hother _
    exact (Table.forall_lookup (t := operaGrants) (p := fun k _ => k = 1) (by decide)) id'
      other hother
  checks := rfl
  usable := rfl

/-- User 1 has a confirmed booking of so many tickets, all live, with their credentials. -/
def ticketed (db : Db) (count : Nat) : Bool :=
  (db.bookings.lookup 1).any (fun booking => booking.userId == 1 && booking.status == .CONFIRMED) &&
    (ticketsForPdf db 1).length == count &&
    (ticketsForPdf db 1).all fun e => (credentialForPdf db e.1).any fun stored =>
      stored.credentialHash == .derived e.2.publicReference stored.version

theorem confirmed_of_ticketed (source : PdfSource) {count : Nat}
    (h : ticketed source.db count = true) :
    ∃ booking, source.Confirmed operaGrant booking ∧
    (ticketsForPdf source.db 1).length = count := by
  simp only [ticketed, Bool.and_eq_true, Option.any_eq_true, beq_iff_eq, List.all_eq_true] at h
  obtain ⟨⟨⟨booking, hrow, howner, hstatus⟩, hcount⟩, hcredentials⟩ := h
  exact ⟨booking, ⟨hrow, howner, hstatus, fun e he _ => hcredentials e he⟩, hcount⟩

/-- The parsers on the one text that `nineEnvironment` has. -/
def nineParsers : Parsers where
  url _ := none
  coerceInteger text := if text = "9" then some 9 else none
  isoDatetime _ := false

def nineEnvironment : EnvironmentSource :=
  fun name => if name = "SEAT_HOLD_MAX_SEATS" then some "9" else none

def nineConfigured : ResolvedHoldConfiguration :=
  { DEFAULT_HOLD_CONFIGURATION with maxSeatsPerHold := 9 }

theorem nineConfigured_resolved :
    resolveHoldConfiguration nineParsers (fun _ => none) nineEnvironment = .ok nineConfigured := rfl

/-- A state in which user 1 has bought so many seats under the configuration for nine. -/
structure SoldOut (count : Nat) (sys : FinancialSystem) : Prop where
  reached : Reaches Platform.step (UnderConfiguration nineConfigured.toHoldConfiguration)
    { refunds := { db := seatsOnSale count } } sys
  tickets : ticketed sys.db count = true

theorem soldOut_of_execute (count : Nat)
    (h : (execute Platform.step (seatsSold nineConfigured.toHoldConfiguration count)
      { refunds := { db := seatsOnSale count } }).any (fun sys => ticketed sys.db count) = true) :
    ∃ sys, SoldOut count sys := by
  obtain ⟨sys, hexecuted, htickets⟩ := (Option.any_eq_true _ _).mp h
  exact ⟨sys, reaches_of_execute hexecuted (seatsSold_configured _ _), htickets⟩

def operaSource (db : Db) (event : EventTexts) : PdfSource :=
  { db := db, event := fun _ => event, seat := fun _ => stallsSeat }

def opera : EventTexts := operaTitled "Aida" ⟨"Aida", rfl⟩

theorem opera_legible : Legible opera stallsSeat where
  title := by decide
  place := by decide
  seat := by decide
  tier := by decide

/-- A title that the schema of events accepts. -/
def liveInJapanese : EventTexts := operaTitled "日本語ライブ" ⟨"日本語ライブ", rfl⟩

/-- One seat and a title in Latin letters: the document has its page. -/
theorem bookingPdf_iff_oneSeat :
    ∃ sys, SoldOut 1 sys ∧ ∃ document view grants',
      consumeBookingPdfGrant operaPrinting (operaSource sys.db opera) operaGrants 1 (.generated 9)
        400000 = .ok (some (document, view), grants') ∧
      document.pages.length = (ticketsForPdf sys.db 1).length := by
  obtain ⟨sys, hsold⟩ := soldOut_of_execute 1 (by decide +kernel)
  obtain ⟨booking, hbooking, hcount⟩ :=
    confirmed_of_ticketed (operaSource sys.db opera) hsold.tickets
  refine ⟨sys, hsold, (bookingPdf_iff operaPrinting operaGrant_redeemable hbooking).mpr ?_⟩
  exact
    { one_le := hcount.ge
      le_eight := hcount.le.trans (by decide)
      legible := fun _ _ => opera_legible }

/-- Nine seats, as the configuration allows, are nine tickets, which the guard refuses; and a title
that the schema accepts cannot be drawn. -/
theorem bookingPdf_refused :
    resolveHoldConfiguration nineParsers (fun _ => none) nineEnvironment = .ok nineConfigured ∧
      operaGrant.Redeemable 1 operaGrants 400000 ∧
      (∃ sys booking, SoldOut 9 sys ∧ (operaSource sys.db opera).Confirmed operaGrant booking ∧
        consumeBookingPdfGrant operaPrinting (operaSource sys.db opera) operaGrants 1
          (.generated 9) 400000 =
            .error (.domain "Ticket PDF must contain between one and eight tickets.")) ∧
      ∃ sys booking, SoldOut 1 sys ∧
        (operaSource sys.db liveInJapanese).Confirmed operaGrant booking ∧
        ∀ document view grants', consumeBookingPdfGrant operaPrinting
          (operaSource sys.db liveInJapanese) operaGrants 1 (.generated 9) 400000 ≠
            .ok (some (document, view), grants') := by
  refine ⟨nineConfigured_resolved, operaGrant_redeemable, ?_, ?_⟩
  · obtain ⟨sys, hsold⟩ := soldOut_of_execute 9 (by decide +kernel)
    obtain ⟨booking, hbooking, hcount⟩ :=
      confirmed_of_ticketed (operaSource sys.db opera) hsold.tickets
    obtain ⟨view, -, htexts, hconsumed⟩ :=
      exists_view operaPrinting operaGrant_redeemable hbooking
    refine ⟨sys, booking, hsold, hbooking, hconsumed.trans ?_⟩
    have hlength := congrArg List.length htexts
    rw [List.length_map, List.length_map] at hlength
    have hcrowded : 8 < view.tickets.length := by
      rw [hlength]
      exact hcount.ge
    rw [render_crowded operaPrinting hcrowded]
    rfl
  · obtain ⟨sys, hsold⟩ := soldOut_of_execute 1 (by decide +kernel)
    obtain ⟨booking, hbooking, hcount⟩ :=
      confirmed_of_ticketed (operaSource sys.db liveInJapanese) hsold.tickets
    refine ⟨sys, booking, hsold, hbooking, fun document view grants' h => ?_⟩
    obtain ⟨view, hevent, htexts, hconsumed⟩ :=
      exists_view operaPrinting operaGrant_redeemable hbooking
    obtain ⟨drawn, hdrawn, -⟩ := Except.bind_eq_ok.mp (hconsumed.symm.trans h)
    obtain ⟨hone, -, hlegible⟩ := (printable_iff operaPrinting hevent htexts).mpr ⟨drawn, hdrawn⟩
    obtain ⟨e, he⟩ := List.exists_mem_of_length_pos hone
    have htitle : ¬WinAnsi (shown "日本語ライブ" 48) := by decide
    exact htitle (hlegible e he).title

end Opera

end SeatFlow
