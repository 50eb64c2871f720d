import Mathlib.Tactic.Linarith
import Mathlib.Tactic.Positivity
import SeatFlow.Database.Schema
import SeatFlow.Relational.Queue
import SeatFlow.Relational.Runs
import SeatFlow.Text.CodeUnits

/-!
# Dispatching notifications

`notifications/dispatcher-service` and the grant of `download-grant-service`: a call takes
due rows one at a time, each in a transaction of its own, up to the batch size. The row's
booking is loaded, a download grant is created, the message is rendered and sent, and the
attempt is recorded. Only what the provider throws is caught; anything else ends the call.
-/

namespace SeatFlow

open Relational Text

abbrev NotificationId := Nat

/-! ## §1 Messages and providers -/

inductive NotificationType
  | BOOKING_TICKETS_READY | CREDENTIAL_ROTATED | TICKET_REVOKED
  deriving DecidableEq

inductive NotificationOutboxStatus
  | PENDING | PROCESSED | DEAD_LETTER
  deriving DecidableEq

inductive NotificationFailure
  | RETRYABLE_FAILURE | PERMANENT_FAILURE | TIMEOUT
  deriving DecidableEq

inductive NotificationSendResult
  | succeeded (providerMessageId : String)
  | failed (status : NotificationFailure) (safeErrorCode : String)
  deriving DecidableEq

/-- What a call of the provider comes to. An exception is known by its sanitized message
in upper case. -/
inductive SendAnswer
  | answered (result : NotificationSendResult)
  | threw (message : String)
  deriving DecidableEq

/-- The key of a delivery attempt: the row and the number of the attempt. The download
token and its hash are derived from it. -/
abbrev DeliveryAttemptKey := NotificationId × Nat

/-- The message, without its body. -/
structure NotificationMessage where
  recipient : String
  subject : String
  idempotencyKey : DeliveryAttemptKey
  deriving DecidableEq

def isLocalPartChar (c : Char) : Bool :=
  c.isAlphanum || ".!#$%&'*+/=?^_`\x7b|\x7d~-".toList.contains c

def isHostChar (c : Char) : Bool :=
  c.isAlphanum || c == '-'

/-- `assertSafeEmailAddress` lets the address through. -/
def isSafeEmailAddress (value : String) : Bool :=
  let chars := value.toList
  chars.length ≤ 254 &&
    match chars.splitOn '@' with
    | [localPart, host] =>
        localPart != [] && localPart.all isLocalPartChar &&
          2 ≤ (host.splitOn '.').length &&
          (host.splitOn '.').all fun label => label != [] && label.all isHostChar
    | _ => false

def createSafeTicketEmail (type : NotificationType) (recipientEmail : String)
    (idempotencyKey : DeliveryAttemptKey) : Except Failure NotificationMessage :=
  if isSafeEmailAddress recipientEmail then
    .ok
      { recipient := recipientEmail
        subject :=
          match type with
          | .BOOKING_TICKETS_READY => "Your SeatFlow tickets are ready"
          | .CREDENTIAL_ROTATED => "Your SeatFlow ticket credential changed"
          | .TICKET_REVOKED => "A SeatFlow ticket was revoked"
        idempotencyKey := idempotencyKey }
  else .error (.domain "PERMANENT_INVALID_RECIPIENT")

def isErrorCodeChar (c : Char) : Bool :=
  c.isUpper || c.isDigit || c == '_' || c == ':' || c == '-'

def safeProviderFailure (message : String) : NotificationSendResult :=
  let safe := (underscored isErrorCodeChar message).take 80
  .failed
    (if "PERMANENT_".toList.isPrefixOf safe then .PERMANENT_FAILURE else .RETRYABLE_FAILURE)
    (if safe = [] then "NOTIFICATION_PROVIDER_FAILURE" else String.ofList safe)

def SendAnswer.result : SendAnswer → NotificationSendResult
  | .answered result => result
  | .threw message => safeProviderFailure message

/-! ## §2 Rows -/

structure NotificationOutbox where
  notificationType : NotificationType
  recipientUserId : UserId
  bookingId : Option BookingId
  ticketId : Option TicketId
  status : NotificationOutboxStatus := .PENDING
  availableAt : Time
  createdAt : Time
  attemptCount : Nat := 0
  processedAt : Option Time := none
  lastError : Option String := none
  deadLetterAt : Option Time := none
  deriving DecidableEq

/-- The columns `status`, `providerMessageId` and `safeErrorCode` say what the provider
answered. -/
structure NotificationDeliveryAttempt where
  result : NotificationSendResult
  startedAt : Time
  deriving DecidableEq

/-- The `CHECK` constraints on what the provider answered. -/
def NotificationSendResult.recordable : NotificationSendResult → Bool
  | .succeeded providerMessageId =>
      1 ≤ providerMessageId.toList.length && providerMessageId.toList.length ≤ 191 &&
        providerMessageId.toList.all fun c => c != '\r' && c != '\n' && c != '\t'
  | .failed _ safeErrorCode =>
      1 ≤ safeErrorCode.toList.length && safeErrorCode.toList.length ≤ 80 &&
        safeErrorCode.toList.all isErrorCodeChar

structure TicketDownloadGrant where
  bookingId : BookingId
  userId : UserId
  expiresAt : Time
  createdAt : Time
  deriving DecidableEq

/-- The dispatcher's settings, within the bounds of the environment schema. -/
structure NotificationDispatcherConfiguration where
  batchSize : Nat
  maximumAttempts : Nat
  backoffBaseMs : Time
  backoffMaximumMs : Time
  downloadGrantTtlMinutes : Time
  batchSize_pos : 0 < batchSize
  maximumAttempts_pos : 0 < maximumAttempts
  backoffBaseMs_pos : 0 < backoffBaseMs
  backoffMaximumMs_pos : 0 < backoffMaximumMs
  downloadGrantTtlMinutes_pos : 0 < downloadGrantTtlMinutes

def calculateNotificationBackoffMs (attempt : Nat) (baseMs maximumMs : Time) :
    Except Failure Time :=
  if attempt < 1 then .error (.domain "Notification attempt must be a positive integer.")
  else .ok (min maximumMs (baseMs * 2 ^ min (attempt - 1) 30))

def shouldDeadLetterNotification (status : NotificationFailure)
    (nextAttemptCount maximumAttempts : Nat) : Bool :=
  status = .PERMANENT_FAILURE || maximumAttempts ≤ nextAttemptCount

def NotificationOutbox.succeeded (row : NotificationOutbox) (now : Time) : NotificationOutbox :=
  { row with
    status := .PROCESSED
    attemptCount := row.attemptCount + 1
    processedAt := some now
    lastError := none }

def NotificationOutbox.failed (row : NotificationOutbox)
    (config : NotificationDispatcherConfiguration) (now : Time) (status : NotificationFailure)
    (safeErrorCode : String) : Except Failure NotificationOutbox := do
  let nextAttemptCount := row.attemptCount + 1
  let deadLettered := shouldDeadLetterNotification status nextAttemptCount config.maximumAttempts
  let backoff ← calculateNotificationBackoffMs nextAttemptCount config.backoffBaseMs
    config.backoffMaximumMs
  pure
    { row with
      status := if deadLettered then .DEAD_LETTER else .PENDING
      attemptCount := nextAttemptCount
      lastError := some safeErrorCode
      availableAt := now + backoff
      deadLetterAt := if deadLettered then some now else none }

/-- The final write. -/
def NotificationOutbox.finished (row : NotificationOutbox)
    (config : NotificationDispatcherConfiguration) (now : Time) :
    NotificationSendResult → Except Failure NotificationOutbox
  | .succeeded _ => .ok (row.succeeded now)
  | .failed status safeErrorCode => row.failed config now status safeErrorCode

/-! ## §3 One row -/

/-- What a call finds beside its own tables: the database, the addresses of the users, the
time zones of the sessions' venues, and which of those the formatter knows. -/
structure NotificationWorld where
  db : Db
  email : UserId → String
  timeZone : SessionId → String
  knownTimeZone : String → Bool

/-- `outbox.bookingId ?? outbox.ticket?.bookingId`. -/
def NotificationWorld.bookingIdOf (world : NotificationWorld) (row : NotificationOutbox) :
    Option BookingId :=
  row.bookingId.or ((row.ticketId.bind fun id => world.db.tickets.lookup id).map (·.bookingId))

def loadNotificationBooking (world : NotificationWorld) (row : NotificationOutbox) :
    Except Failure (BookingId × Booking) :=
  match world.bookingIdOf row with
  | none => .error (.domain "PERMANENT_NOTIFICATION_RESOURCE_MISSING")
  | some bookingId =>
      match world.db.bookings.lookup bookingId with
      | none => .error (.notFound "Booking")
      | some booking =>
          if booking.userId ≠ row.recipientUserId then
            .error (.domain "PERMANENT_NOTIFICATION_RECIPIENT_MISMATCH")
          else .ok (bookingId, booking)

/-- The grants with a new one; `none` when there is no such confirmed booking of the
user's. -/
def createBookingPdfGrant (world : NotificationWorld) (ttlMinutes now : Time)
    (grants : Table DeliveryAttemptKey TicketDownloadGrant) (key : DeliveryAttemptKey)
    (userId : UserId) (bookingId : BookingId) :
    Except Failure (Option (Table DeliveryAttemptKey TicketDownloadGrant)) :=
  match world.db.bookings.lookup bookingId with
  | none => .ok none
  | some booking =>
      if booking.userId = userId ∧ booking.status = .CONFIRMED then
        let expiresAt := now + ttlMinutes * 60000
        if (grants.lookup key).isSome then .error (.constraint "TicketDownloadGrant_tokenHash_key")
        else if expiresAt ≤ now then .error (.constraint "TicketDownloadGrant_expiry_check")
        else .ok (some (grants.insert key { bookingId, userId, expiresAt, createdAt := now }))
      else .ok none

/-- The session's label and the message. -/
def renderNotification (world : NotificationWorld) (row : NotificationOutbox) (booking : Booking)
    (key : DeliveryAttemptKey) : Except Failure NotificationMessage :=
  let timeZone := world.timeZone booking.sessionId
  if world.knownTimeZone timeZone then
    createSafeTicketEmail row.notificationType (world.email row.recipientUserId) key
  else .error (.domain ("Invalid time zone specified: " ++ timeZone))

def createDeliveryAttempt (attempts : Table DeliveryAttemptKey NotificationDeliveryAttempt)
    (key : DeliveryAttemptKey) (attempt : NotificationDeliveryAttempt) :
    Except Failure (Table DeliveryAttemptKey NotificationDeliveryAttempt) :=
  if (attempts.lookup key).isSome then
    .error (.constraint "NotificationDeliveryAttempt_notificationOutboxId_attemptNumber_key")
  else if attempt.result.recordable then .ok (attempts.insert key attempt)
  else .error (.constraint "NotificationDeliveryAttempt_check")

structure Notifications where
  outbox : Table NotificationId NotificationOutbox
  grants : Table DeliveryAttemptKey TicketDownloadGrant := ∅
  attempts : Table DeliveryAttemptKey NotificationDeliveryAttempt := ∅

/-- The transaction of one row: the row as it is left, and the tables. -/
def dispatchNotification (world : NotificationWorld) (config : NotificationDispatcherConfiguration)
    (provider : NotificationMessage → SendAnswer) (now : Time) (state : Notifications)
    (id : NotificationId) (row : NotificationOutbox) :
    Except Failure (NotificationOutbox × Notifications) := do
  let (bookingId, booking) ← loadNotificationBooking world row
  let deliveryAttemptKey := (id, row.attemptCount + 1)
  let granted ← createBookingPdfGrant world config.downloadGrantTtlMinutes now state.grants
    deliveryAttemptKey row.recipientUserId bookingId
  match granted with
  | none => .error (.domain "PERMANENT_NOTIFICATION_GRANT_FAILED")
  | some grants => do
      let message ← renderNotification world row booking deliveryAttemptKey
      let result := (provider message).result
      let attempts ← createDeliveryAttempt state.attempts deliveryAttemptKey
        { result := result, startedAt := now }
      let written ← row.finished config now result
      pure (written,
        { outbox := state.outbox.insert id written, grants := grants, attempts := attempts })

/-! ## §4 A call -/

structure NotificationDispatchResult where
  claimed : Nat := 0
  processed : Nat := 0
  failed : Nat := 0
  deadLettered : Nat := 0
  deriving DecidableEq

def NotificationDispatchResult.count (result : NotificationDispatchResult)
    (written : NotificationOutbox) : NotificationDispatchResult :=
  { claimed := result.claimed + 1
    processed := result.processed + if written.status = .PROCESSED then 1 else 0
    failed := result.failed + if written.status = .PROCESSED then 0 else 1
    deadLettered := result.deadLettered + if written.status = .DEAD_LETTER then 1 else 0 }

def Notifications.due (state : Notifications) (now : Time) :
    List (NotificationId × NotificationOutbox) :=
  state.outbox.ordered (fun _ row => row.status == .PENDING && row.availableAt ≤ now) (·.createdAt)

/-- The loop of a call: the rows that were done stay done when a later one ends it. -/
def dispatchNotifications (world : NotificationWorld)
    (config : NotificationDispatcherConfiguration)
    (provider : NotificationMessage → SendAnswer) (now : Time) :
    Nat → NotificationDispatchResult → Notifications →
      Except Failure NotificationDispatchResult × Notifications
  | 0, result, state => (.ok result, state)
  | remaining + 1, result, state =>
      match state.due now with
      | [] => (.ok result, state)
      | (id, row) :: _ =>
          match dispatchNotification world config provider now state id row with
          | .error failure => (.error failure, state)
          | .ok (written, state') =>
              dispatchNotifications world config provider now remaining
                (result.count written) state'

def dispatchNotificationBatch (world : NotificationWorld)
    (config : NotificationDispatcherConfiguration)
    (provider : NotificationMessage → SendAnswer) (now : Time) (state : Notifications) :
    Except Failure NotificationDispatchResult × Notifications :=
  dispatchNotifications world config provider now config.batchSize {} state

namespace Notifications

/-- Nothing is recorded yet under the numbers of attempts to come. -/
def Numbered (state : Notifications) : Prop :=
  ∀ id row n, state.outbox.lookup id = some row → row.attemptCount < n →
    state.grants.lookup (id, n) = none ∧ state.attempts.lookup (id, n) = none

end Notifications

/-- The row's booking is the recipient's and confirmed, its venue's time zone is one, the
address is safe, and the provider's answer to the message can be recorded. -/
def NotificationOutbox.Deliverable (world : NotificationWorld)
    (provider : NotificationMessage → SendAnswer) (id : NotificationId)
    (row : NotificationOutbox) : Prop :=
  ∃ bookingId booking, world.bookingIdOf row = some bookingId ∧
    world.db.bookings.lookup bookingId = some booking ∧
    booking.userId = row.recipientUserId ∧ booking.status = .CONFIRMED ∧
    world.knownTimeZone (world.timeZone booking.sessionId) = true ∧
    ∃ message, createSafeTicketEmail row.notificationType (world.email row.recipientUserId)
        (id, row.attemptCount + 1) = .ok message ∧
      (provider message).result.recordable = true

/-! ## §5 What becomes of a row -/

namespace Notifications

variable {world : NotificationWorld} {config : NotificationDispatcherConfiguration}
  {provider : NotificationMessage → SendAnswer} {now : Time} {state state' : Notifications}
  {id : NotificationId} {row written : NotificationOutbox}

theorem mem_due : (id, row) ∈ state.due now ↔
    state.outbox.lookup id = some row ∧ row.status = .PENDING ∧ row.availableAt ≤ now := by
  unfold due
  rw [Table.mem_ordered]
  simp

/-- Whatever the provider throws can be recorded. -/
theorem safeProviderFailure_recordable (message : String) :
    (safeProviderFailure message).recordable = true := by
  unfold safeProviderFailure
  simp only [NotificationSendResult.recordable]
  split
  · decide
  · rename_i hsafe
    have hlength := List.length_pos_iff.mpr hsafe
    have hclean : ∀ c ∈ (underscored isErrorCodeChar message).take 80, isErrorCodeChar c = true :=
      fun c hc => of_mem_underscored (by decide) (List.mem_of_mem_take hc)
    rw [String.toList_ofList, Bool.and_eq_true, Bool.and_eq_true]
    refine ⟨⟨decide_eq_true hlength, decide_eq_true ?_⟩, List.all_eq_true.mpr hclean⟩
    exact List.length_take_le 80 _

theorem backoff_eq (attempt : Nat) (baseMs maximumMs : Time) :
    calculateNotificationBackoffMs (attempt + 1) baseMs maximumMs
      = .ok (min maximumMs (baseMs * 2 ^ min attempt 30)) := by
  unfold calculateNotificationBackoffMs
  rw [if_neg (by omega), Nat.add_sub_cancel]

/-- What the final write leaves, for any answer. -/
theorem finished_spec (row : NotificationOutbox) (config : NotificationDispatcherConfiguration)
    (now : Time) (result : NotificationSendResult) :
    ∃ written, row.finished config now result = .ok written ∧
      written.attemptCount = row.attemptCount + 1 ∧
      (written.status = .PENDING → now < written.availableAt ∧
        written.attemptCount < config.maximumAttempts) := by
  cases result with
  | succeeded providerMessageId =>
      refine ⟨_, rfl, rfl, fun hpending => ?_⟩
      cases hpending
  | failed status safeErrorCode =>
      simp only [NotificationOutbox.finished, NotificationOutbox.failed, backoff_eq]
      refine ⟨_, rfl, rfl, fun hpending => ⟨?_, ?_⟩⟩
      · have hbase := config.backoffBaseMs_pos
        have hmaximum := config.backoffMaximumMs_pos
        have hpower : (0 : Int) < 2 ^ min row.attemptCount 30 := by positivity
        exact lt_add_of_pos_right now (lt_min hmaximum (mul_pos hbase hpower))
      · have hbelow : ¬config.maximumAttempts ≤ row.attemptCount + 1 := by
          intro hlast
          simp [shouldDeadLetterNotification, hlast] at hpending
        exact Nat.lt_of_not_le hbelow

theorem Numbered.free (h : state.Numbered) (hrow : state.outbox.lookup id = some row) :
    state.grants.lookup (id, row.attemptCount + 1) = none ∧
      state.attempts.lookup (id, row.attemptCount + 1) = none :=
  h id row _ hrow (Nat.lt_succ_self _)

theorem loadNotificationBooking_eq_ok {bookingId : BookingId} {booking : Booking} :
    loadNotificationBooking world row = .ok (bookingId, booking) ↔
      world.bookingIdOf row = some bookingId ∧ world.db.bookings.lookup bookingId = some booking ∧
        booking.userId = row.recipientUserId := by
  unfold loadNotificationBooking
  constructor
  · intro h
    split at h
    · cases h
    · rename_i bookingId' hid
      split at h
      · cases h
      · rename_i booking' hbooking
        split at h
        · cases h
        · rename_i howner
          cases h
          exact ⟨hid, hbooking, not_not.mp howner⟩
  · rintro ⟨hid, hbooking, howner⟩
    simp [hid, hbooking, howner]

/-- With the key free and time left, a grant takes a confirmed booking of the user's. -/
theorem createBookingPdfGrant_eq_ok {grants grants' : Table DeliveryAttemptKey TicketDownloadGrant}
    {key : DeliveryAttemptKey} {bookingId : BookingId} {booking : Booking} {userId : UserId}
    (hfree : grants.lookup key = none)
    (hbooking : world.db.bookings.lookup bookingId = some booking)
    (howner : booking.userId = userId) :
    createBookingPdfGrant world config.downloadGrantTtlMinutes now grants key userId bookingId
        = .ok (some grants') ↔
      booking.status = .CONFIRMED ∧ grants' = grants.insert key
        { bookingId, userId, expiresAt := now + config.downloadGrantTtlMinutes * 60000
          createdAt := now } := by
  have hlater : ¬now + config.downloadGrantTtlMinutes * 60000 ≤ now := by
    have hpos := config.downloadGrantTtlMinutes_pos
    rw [not_le]
    linarith
  unfold createBookingPdfGrant
  rw [hbooking]
  by_cases hconfirmed : booking.status = .CONFIRMED
  · simp [howner, hconfirmed, hfree, hlater, eq_comm]
  · simp [hconfirmed]

theorem renderNotification_eq_ok {booking : Booking} {key : DeliveryAttemptKey}
    {message : NotificationMessage} :
    renderNotification world row booking key = .ok message ↔
      world.knownTimeZone (world.timeZone booking.sessionId) = true ∧
        createSafeTicketEmail row.notificationType (world.email row.recipientUserId) key
          = .ok message := by
  unfold renderNotification
  by_cases hzone : world.knownTimeZone (world.timeZone booking.sessionId) = true <;> simp [hzone]

theorem createDeliveryAttempt_eq_ok
    {attempts attempts' : Table DeliveryAttemptKey NotificationDeliveryAttempt}
    {key : DeliveryAttemptKey} {attempt : NotificationDeliveryAttempt}
    (hfree : attempts.lookup key = none) :
    createDeliveryAttempt attempts key attempt = .ok attempts' ↔
      attempt.result.recordable = true ∧ attempts' = attempts.insert key attempt := by
  unfold createDeliveryAttempt
  by_cases hrecordable : attempt.result.recordable = true <;>
    simp [hfree, hrecordable, eq_comm]

/-- A row's transaction commits when none of its statements throws. -/
theorem dispatchNotification_eq_ok :
    dispatchNotification world config provider now state id row = .ok (written, state') ↔
      ∃ bookingId booking grants message attempts,
        loadNotificationBooking world row = .ok (bookingId, booking) ∧
        createBookingPdfGrant world config.downloadGrantTtlMinutes now state.grants
          (id, row.attemptCount + 1) row.recipientUserId bookingId = .ok (some grants) ∧
        renderNotification world row booking (id, row.attemptCount + 1) = .ok message ∧
        createDeliveryAttempt state.attempts (id, row.attemptCount + 1)
          { result := (provider message).result, startedAt := now } = .ok attempts ∧
        row.finished config now (provider message).result = .ok written ∧
        state' = { outbox := state.outbox.insert id written, grants, attempts } := by
  constructor
  · intro h
    unfold dispatchNotification at h
    cases hload : loadNotificationBooking world row with
    | error failure => simp [hload, bind, Except.bind] at h
    | ok loaded =>
        obtain ⟨bookingId, booking⟩ := loaded
        cases hgrant : createBookingPdfGrant world config.downloadGrantTtlMinutes now state.grants
            (id, row.attemptCount + 1) row.recipientUserId bookingId with
        | error failure => simp [hload, hgrant, bind, Except.bind] at h
        | ok granted =>
            cases granted with
            | none => simp [hload, hgrant, bind, Except.bind] at h
            | some grants =>
                cases hrender : renderNotification world row booking (id, row.attemptCount + 1) with
                | error failure => simp [hload, hgrant, hrender, bind, Except.bind] at h
                | ok message =>
                    cases hattempt : createDeliveryAttempt state.attempts (id, row.attemptCount + 1)
                        { result := (provider message).result, startedAt := now } with
                    | error failure =>
                        simp [hload, hgrant, hrender, hattempt, bind, Except.bind] at h
                    | ok attempts =>
                        cases hfinish : row.finished config now (provider message).result with
                        | error failure =>
                            simp [hload, hgrant, hrender, hattempt, hfinish, bind, Except.bind] at h
                        | ok last =>
                            simp only [hload, hgrant, hrender, hattempt, hfinish, bind, Except.bind,
                              pure, Except.pure, Except.ok.injEq, Prod.mk.injEq] at h
                            obtain ⟨rfl, rfl⟩ := h
                            exact ⟨bookingId, booking, grants, message, attempts, rfl,
                              hgrant, hrender,
                              hattempt, hfinish, rfl⟩
  · rintro
      ⟨bookingId, booking, grants, message, attempts, hload, hgrant, hrender, hattempt, hfinish,
      rfl⟩
    simp [dispatchNotification, hload, hgrant, hrender, hattempt, hfinish, bind, Except.bind, pure,
      Except.pure]

/-- **One row.** Its transaction commits exactly when the row is deliverable. -/
theorem dispatchNotification_isOk (hnumbered : state.Numbered)
    (hrow : state.outbox.lookup id = some row) :
    (∃ written state', dispatchNotification world config provider now state id row
      = .ok (written, state')) ↔ row.Deliverable world provider id := by
  obtain ⟨hgrantFree, hattemptFree⟩ := hnumbered.free hrow
  constructor
  · rintro ⟨written, state', h⟩
    obtain ⟨bookingId, booking, grants, message, attempts, hload, hgrant, hrender,
      hattempt, -, -⟩ :=
      dispatchNotification_eq_ok.mp h
    obtain ⟨hid, hbooking, howner⟩ := loadNotificationBooking_eq_ok.mp hload
    obtain ⟨hconfirmed, -⟩ := (createBookingPdfGrant_eq_ok hgrantFree hbooking howner).mp hgrant
    obtain ⟨hzone, hmessage⟩ := renderNotification_eq_ok.mp hrender
    obtain ⟨hrecordable, -⟩ := (createDeliveryAttempt_eq_ok hattemptFree).mp hattempt
    exact ⟨bookingId, booking, hid, hbooking, howner, hconfirmed, hzone, message, hmessage,
      hrecordable⟩
  · rintro ⟨bookingId, booking, hid, hbooking, howner, hconfirmed, hzone, message, hmessage,
      hrecordable⟩
    obtain ⟨written, hfinish, -, -⟩ := finished_spec row config now (provider message).result
    exact ⟨written, _, dispatchNotification_eq_ok.mpr ⟨bookingId, booking, _, message, _,
      loadNotificationBooking_eq_ok.mpr ⟨hid, hbooking, howner⟩,
      (createBookingPdfGrant_eq_ok hgrantFree hbooking howner).mpr ⟨hconfirmed, rfl⟩,
      renderNotification_eq_ok.mpr ⟨hzone, hmessage⟩,
      (createDeliveryAttempt_eq_ok hattemptFree).mpr ⟨hrecordable, rfl⟩, hfinish, rfl⟩⟩

/-- What a committed transaction leaves: one more attempt, recorded under its number, and a
row that is not due before some later time. -/
theorem dispatchNotification_spec (hnumbered : state.Numbered)
    (hrow : state.outbox.lookup id = some row)
    (h : dispatchNotification world config provider now state id row = .ok (written, state')) :
    state'.outbox = state.outbox.insert id written ∧ state'.Numbered ∧
      written.attemptCount = row.attemptCount + 1 ∧
      (written.status = .PENDING → now < written.availableAt ∧
        written.attemptCount < config.maximumAttempts) := by
  obtain ⟨hgrantFree, hattemptFree⟩ := hnumbered.free hrow
  obtain ⟨bookingId, booking, grants, message, attempts, hload, hgrant, hrender, hattempt, hfinish,
    rfl⟩ := dispatchNotification_eq_ok.mp h
  obtain ⟨hid, hbooking, howner⟩ := loadNotificationBooking_eq_ok.mp hload
  obtain ⟨-, rfl⟩ := (createBookingPdfGrant_eq_ok hgrantFree hbooking howner).mp hgrant
  obtain ⟨-, rfl⟩ := (createDeliveryAttempt_eq_ok hattemptFree).mp hattempt
  obtain ⟨written', hfinish', hcount, hpending⟩ :=
    finished_spec row config now (provider message).result
  cases hfinish.symm.trans hfinish'
  refine ⟨rfl, fun id' row' n hrow' hn => ?_, hcount, hpending⟩
  have hother : (id', n) ≠ (id, row.attemptCount + 1) := by
    rintro ⟨⟩
    cases Table.wrote_insert.lookup_self.symm.trans hrow'
    rw [hcount] at hn
    exact absurd hn (Nat.lt_irrefl _)
  have hold : ∃ old, state.outbox.lookup id' = some old ∧ old.attemptCount < n := by
    rcases Table.wrote_insert.cases hrow' with ⟨rfl, rfl⟩ | ⟨-, hsame⟩
    · exact ⟨row, hrow, by omega⟩
    · exact ⟨row', hsame, hn⟩
  obtain ⟨old, hlook, hbelow⟩ := hold
  obtain ⟨hgrant', hattempt'⟩ := hnumbered id' old n hlook hbelow
  exact ⟨(Table.wrote_insert.lookup_ne hother).trans hgrant',
    (Table.wrote_insert.lookup_ne hother).trans hattempt'⟩

/-! ## §6 A call over many rows -/

/-- What each committed transaction keeps, the whole call keeps. -/
theorem dispatchNotifications_invariant {I : Notifications → Prop}
    (hstep : ∀ state id row written state', I state → state.Numbered → (id, row) ∈ state.due now →
      dispatchNotification world config provider now state id row = .ok
        (written, state') → I state')
    (remaining : Nat) (result : NotificationDispatchResult) (hnumbered : state.Numbered)
    (hstate : I state) :
    (dispatchNotifications world config provider now remaining result state).2.Numbered ∧
      I (dispatchNotifications world config provider now remaining result state).2 := by
  induction remaining generalizing state result with
  | zero => exact ⟨hnumbered, hstate⟩
  | succ remaining ih =>
      unfold dispatchNotifications
      split
      · exact ⟨hnumbered, hstate⟩
      · rename_i id row rest hdue
        have hhead : (id, row) ∈ state.due now := hdue ▸ List.mem_cons_self
        split
        · exact ⟨hnumbered, hstate⟩
        · rename_i written state' hdispatch
          have hspec := dispatchNotification_spec hnumbered (mem_due.mp hhead).1 hdispatch
          exact ih _ hspec.2.1 (hstep state id row written state' hstate hnumbered hhead hdispatch)

/-- How many attempts the rows may still take, a terminal one none. -/
def attemptsLeft (config : NotificationDispatcherConfiguration) (state : Notifications) : Nat :=
  state.outbox.sum fun _ row =>
    if row.status = .PENDING then config.maximumAttempts - row.attemptCount + 1 else 0

/-- An attempt uses up one of those left. -/
theorem attemptsLeft_dispatched (hnumbered : state.Numbered) (hdue : (id, row) ∈ state.due now)
    (h : dispatchNotification world config provider now state id row = .ok (written, state')) :
    state'.attemptsLeft config < state.attemptsLeft config := by
  obtain ⟨hrow, hstatus, -⟩ := mem_due.mp hdue
  obtain ⟨houtbox, -, hcount, hpending⟩ := dispatchNotification_spec hnumbered hrow h
  have hsum := Table.sum_insert (fun (_ : NotificationId) (row : NotificationOutbox) =>
    if row.status = .PENDING then config.maximumAttempts - row.attemptCount + 1 else 0)
    state.outbox id written
  rw [Table.contribution_some hrow, if_pos hstatus] at hsum
  unfold attemptsLeft
  rw [houtbox]
  by_cases hstill : written.status = .PENDING
  · have hbelow := (hpending hstill).2
    rw [if_pos hstill] at hsum
    omega
  · rw [if_neg hstill] at hsum
    omega

theorem dispatchNotifications_attemptsLeft (remaining : Nat) (result : NotificationDispatchResult)
    (hnumbered : state.Numbered) :
    (dispatchNotifications world config provider now remaining result state).2.attemptsLeft config
      ≤ state.attemptsLeft config := by
  refine (dispatchNotifications_invariant
    (I := fun later => later.attemptsLeft config ≤ state.attemptsLeft config) ?_ remaining result
    hnumbered le_rfl).2
  intro later id row written state' hle hnumbered' hdue hdispatch
  exact (attemptsLeft_dispatched hnumbered' hdue hdispatch).le.trans hle

/-- A call over deliverable rows makes progress, or there was nothing to do. -/
theorem dispatchNotificationBatch_progress (hnumbered : state.Numbered)
    (hdeliverable : ∀ id row, (id, row) ∈ (state.due now).take config.batchSize →
      row.Deliverable world provider id) :
    (state.due now = [] ∧ (dispatchNotificationBatch world config provider now state).2 = state) ∨
      (dispatchNotificationBatch world config provider now state).2.attemptsLeft config
        < state.attemptsLeft config := by
  obtain ⟨more, hsize⟩ := Nat.exists_eq_add_of_lt config.batchSize_pos
  have hbatch : config.batchSize = more + 1 := by omega
  unfold dispatchNotificationBatch
  rw [hbatch] at hdeliverable ⊢
  cases hdue : state.due now with
  | nil => exact .inl ⟨rfl, by simp [dispatchNotifications, hdue]⟩
  | cons head rest =>
      obtain ⟨id, row⟩ := head
      have hhead : (id, row) ∈ state.due now := hdue ▸ List.mem_cons_self
      obtain ⟨written, state', hdispatch⟩ : ∃ written state', dispatchNotification world config
          provider now state id row = .ok (written, state') :=
        (dispatchNotification_isOk hnumbered (mem_due.mp hhead).1).mpr
          (hdeliverable id row (by simp [hdue]))
      have hspec := dispatchNotification_spec hnumbered (mem_due.mp hhead).1 hdispatch
      refine .inr ?_
      simp only [dispatchNotifications, hdue, hdispatch]
      exact (dispatchNotifications_attemptsLeft more _ hspec.2.1).trans_lt
        (attemptsLeft_dispatched hnumbered hhead hdispatch)

/-- Calls one after the other, each in a world of its own and with its own answers. -/
structure Calls (config : NotificationDispatcherConfiguration) where
  world : Nat → NotificationWorld
  provider : Nat → NotificationMessage → SendAnswer
  now : Nat → Time
  state : Nat → Notifications
  next : ∀ i, state (i + 1)
    = (dispatchNotificationBatch (world i) config (provider i) (now i) (state i)).2

/-- Every call meets deliverable rows only. -/
def Calls.Deliverable (calls : Calls config) : Prop :=
  ∀ i id row, (id, row) ∈ ((calls.state i).due (calls.now i)).take config.batchSize →
    row.Deliverable (calls.world i) (calls.provider i) id

/-- Time goes on, and the dispatcher is called again. -/
def Calls.Recurring (calls : Calls config) : Prop :=
  ∀ time n, ∃ i, n ≤ i ∧ time ≤ calls.now i

variable {calls : Calls config}

theorem Calls.numbered (hnumbered : (calls.state 0).Numbered) (i : Nat) :
    (calls.state i).Numbered := by
  induction i with
  | zero => exact hnumbered
  | succ i ih =>
      rw [calls.next i]
      exact (dispatchNotifications_invariant (I := fun _ => True) (fun _ _ _ _ _ _ _ _ _ => trivial)
        _ _ ih trivial).1

/-- Rows stay. -/
theorem Calls.kept (hnumbered : (calls.state 0).Numbered) {n : Nat}
    (hrow : (calls.state n).outbox.lookup id = some row) {i : Nat} (hi : n ≤ i) :
    ∃ later, (calls.state i).outbox.lookup id = some later := by
  induction i, hi using Nat.le_induction with
  | base => exact ⟨row, hrow⟩
  | succ i hi ih =>
      rw [calls.next i]
      refine (dispatchNotifications_invariant
        (I := fun state => ∃ later, state.outbox.lookup id = some later) ?_ _ _
        (Calls.numbered hnumbered i) ih).2
      rintro state id' row' written state' ⟨later, hlater⟩ hnumbered' hdue hdispatch
      rw [(dispatchNotification_spec hnumbered' (mem_due.mp hdue).1 hdispatch).1]
      by_cases hid : id = id'
      · subst hid
        exact ⟨written, Table.wrote_insert.lookup_self⟩
      · exact ⟨later, (Table.wrote_insert.lookup_ne hid).trans hlater⟩

/-- As long as no attempt is used up, nothing changes. -/
theorem Calls.progress (hnumbered : (calls.state 0).Numbered) (hdeliverable : calls.Deliverable)
    {n i : Nat} (hi : n ≤ i) :
    calls.state i = calls.state n ∨
      (calls.state i).attemptsLeft config < (calls.state n).attemptsLeft config := by
  induction i, hi using Nat.le_induction with
  | base => exact .inl rfl
  | succ i hi ih =>
      rw [calls.next i]
      rcases dispatchNotificationBatch_progress (Calls.numbered hnumbered i) (hdeliverable i) with
        ⟨-, hsame⟩ | hless
      · rw [hsame]
        exact ih
      · rcases ih with hsame | hless'
        · exact .inr (hsame ▸ hless)
        · exact .inr (hless.trans hless')

/-- By repeated calls every row comes to an end. -/
theorem Calls.terminal (hnumbered : (calls.state 0).Numbered) (hdeliverable : calls.Deliverable)
    (hrecurring : calls.Recurring) (n : Nat)
    (hrow : (calls.state n).outbox.lookup id = some row) :
    ∃ i written, (calls.state i).outbox.lookup id = some written ∧ written.status ≠ .PENDING := by
  -- on the attempts that are left
  induction hleft : (calls.state n).attemptsLeft config using Nat.strong_induction_on
    generalizing n row with
  | h left ih =>
      by_cases hstatus : row.status = .PENDING
      · obtain ⟨i, hi, htime⟩ := hrecurring row.availableAt n
        rcases Calls.progress hnumbered hdeliverable hi with hsame | hless
        · have hdue : (id, row) ∈ (calls.state i).due (calls.now i) :=
            mem_due.mpr ⟨hsame ▸ hrow, hstatus, htime⟩
          obtain ⟨later, hlater⟩ := Calls.kept hnumbered hrow (hi.trans (Nat.le_succ i))
          rcases dispatchNotificationBatch_progress (Calls.numbered hnumbered i)
            (hdeliverable i) with
            ⟨hnone, -⟩ | hless
          · rw [hnone] at hdue
            cases hdue
          · rw [← calls.next i, hsame, hleft] at hless
            exact ih _ hless (i + 1) hlater rfl
        · obtain ⟨later, hlater⟩ := Calls.kept hnumbered hrow hi
          exact ih _ (hleft ▸ hless) i hlater rfl
      · exact ⟨n, row, hrow, hstatus⟩

end Notifications

end SeatFlow
