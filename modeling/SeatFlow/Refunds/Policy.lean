import SeatFlow.Database.RefundConstraints
import SeatFlow.Text.CodeUnits

/-!
# Refund policy

The pure decisions of `features/refunds` and of the submission service: who may
ask for a refund, whether a booking can be refunded, what amount over which
seats, what a verified provider event does to a refund, and which provider
failures leave the external outcome unknown.
-/

namespace SeatFlow

open Text

/-! ## §1 Authorization and eligibility -/

inductive RefundActorRole
  | CUSTOMER | ORGANIZER | PLATFORM_ADMIN
  deriving DecidableEq

inductive RefundAuthorizationDenial
  | NOT_BOOKING_OWNER | NOT_IN_ORGANIZATION | ORGANIZER_CANNOT_INITIATE_PROVIDER_REFUND
  | UNKNOWN_ROLE
  deriving DecidableEq

inductive RefundAuthorizationDecision
  | allowed (initiator : RefundInitiator) (requiresApproval : Bool)
  | denied (reason : RefundAuthorizationDenial)
  deriving DecidableEq

structure RefundAuthorizationInput where
  role : RefundActorRole
  actorUserId : UserId
  bookingOwnerUserId : UserId
  bookingOrganizationId : OrganizationId
  actorOrganizationIds : List OrganizationId
  isPlatformAdmin : Bool

def authorizeRefundRequest (input : RefundAuthorizationInput) : RefundAuthorizationDecision :=
  match input.role with
  | .CUSTOMER =>
      if input.actorUserId ≠ input.bookingOwnerUserId then .denied .NOT_BOOKING_OWNER
      else .allowed .CUSTOMER true
  | .ORGANIZER =>
      if input.bookingOrganizationId ∉ input.actorOrganizationIds then .denied .NOT_IN_ORGANIZATION
      else .denied .ORGANIZER_CANNOT_INITIATE_PROVIDER_REFUND
  | .PLATFORM_ADMIN =>
      if input.isPlatformAdmin then .allowed .PLATFORM_ADMIN false else .denied .UNKNOWN_ROLE

/-- Only customers' requests need approval, and only they create them as
customers. -/
theorem requiresApproval_iff_customer {input : RefundAuthorizationInput}
    {initiator : RefundInitiator} {requiresApproval : Bool}
    (h : authorizeRefundRequest input = .allowed initiator requiresApproval) :
    (requiresApproval = true ↔ input.role = .CUSTOMER) ∧
      (initiator = .CUSTOMER ↔ input.role = .CUSTOMER) := by
  unfold authorizeRefundRequest at h
  cases hrole : input.role with
  | CUSTOMER =>
      rw [hrole] at h
      dsimp only at h
      split at h <;> cases h
      simp
  | ORGANIZER =>
      rw [hrole] at h
      dsimp only at h
      split at h <;> cases h
  | PLATFORM_ADMIN =>
      rw [hrole] at h
      dsimp only at h
      split at h <;> cases h
      simp

/-- The error code a denial is reported with: a booking that is not the actor's
looks like one that does not exist. -/
def RefundAuthorizationDenial.code : RefundAuthorizationDenial → Code
  | .NOT_BOOKING_OWNER => "REFUND_TARGET_NOT_FOUND"
  | .NOT_IN_ORGANIZATION => "NOT_IN_ORGANIZATION"
  | .ORGANIZER_CANNOT_INITIATE_PROVIDER_REFUND => "ORGANIZER_CANNOT_INITIATE_PROVIDER_REFUND"
  | .UNKNOWN_ROLE => "UNKNOWN_ROLE"

structure RefundEligibilityInput where
  bookingStatus : BookingStatus
  orderStatus : CheckoutOrderStatus
  paymentStatus : PaymentAttemptStatus
  remainingRefundableMinor : Money
  underFinancialReview : Bool

/-- The reason a booking cannot be the subject of a new refund, if any. The
source's `BOOKING_NOT_CONFIRMED` case has no third booking status to apply to. -/
def evaluateRefundEligibility (input : RefundEligibilityInput) : Option Code :=
  if input.paymentStatus ≠ .SUCCEEDED then some "PAYMENT_NOT_CAPTURED"
  else if input.bookingStatus = .REFUNDED then some "ALREADY_FULLY_REFUNDED"
  else if input.bookingStatus ≠ .CONFIRMED then some "BOOKING_NOT_CONFIRMED"
  else if input.orderStatus ∉ [.FULFILLED, .PAID, .PAID_UNFULFILLED] then
    some "ORDER_NOT_FULFILLED"
  else if input.underFinancialReview then some "UNDER_FINANCIAL_REVIEW"
  else if input.remainingRefundableMinor ≤ 0 then some "NOTHING_REFUNDABLE"
  else none

theorem evaluateRefundEligibility_eq_none {input : RefundEligibilityInput} :
    evaluateRefundEligibility input = none ↔
      input.paymentStatus = .SUCCEEDED ∧ input.bookingStatus = .CONFIRMED ∧
        input.orderStatus ∈ [.FULFILLED, .PAID, .PAID_UNFULFILLED] ∧
        input.underFinancialReview = false ∧ 0 < input.remainingRefundableMinor := by
  unfold evaluateRefundEligibility
  split_ifs <;> simp_all

/-! ## §2 Amounts -/

structure RefundableSeatSnapshot where
  bookingSeatId : BookingSeatId
  priceMinor : Money
  currency : Currency
  alreadyRefunded : Bool

structure RefundCapacity where
  capturedMinor : Money
  refundedMinor : Money
  inFlightMinor : Money
  currency : Currency

def remainingRefundableMinor (capacity : RefundCapacity) : Money :=
  max 0 (capacity.capturedMinor - capacity.refundedMinor - capacity.inFlightMinor)

structure RefundCalculation where
  scope : RefundScope
  amountMinor : Money
  currency : Currency
  bookingSeatIds : List BookingSeatId

def totalPrice (seats : List RefundableSeatSnapshot) : Money :=
  (seats.map (·.priceMinor)).sum

def calculateFullBookingRefund (seats : List RefundableSeatSnapshot) (capacity : RefundCapacity) :
    Except Code RefundCalculation :=
  let remaining := remainingRefundableMinor capacity
  let openSeats := seats.filter fun seat => !seat.alreadyRefunded
  let seatTotal := totalPrice openSeats
  let amountMinor := min seatTotal remaining
  if remaining ≤ 0 then .error "NOTHING_REFUNDABLE"
  else if openSeats = [] then .error "NOTHING_REFUNDABLE"
  else if openSeats.any fun seat => seat.currency != capacity.currency then
    .error "MIXED_CURRENCY"
  else if amountMinor ≤ 0 then .error "AMOUNT_NOT_POSITIVE"
  else
    .ok
      { scope := if amountMinor = seatTotal then .FULL_BOOKING else .SELECTED_SEATS
        amountMinor := amountMinor
        currency := capacity.currency
        bookingSeatIds := openSeats.map (·.bookingSeatId) }

/-- `new Map(seats.map((seat) => [seat.bookingSeatId, seat]))`, looked up: of several
snapshots of one seat the last counts. -/
def seatById (seats : List RefundableSeatSnapshot) (id : BookingSeatId) :
    Option RefundableSeatSnapshot :=
  seats.reverse.find? fun seat => seat.bookingSeatId == id

/-- The requested seats, in request order, or why one of them is refused. -/
def selectSeats (seats : List RefundableSeatSnapshot) :
    List BookingSeatId → Except Code (List RefundableSeatSnapshot)
  | [] => .ok []
  | id :: ids =>
      match seatById seats id with
      | none => .error "SEAT_NOT_IN_BOOKING"
      | some seat =>
          if seat.alreadyRefunded then .error "SEAT_ALREADY_REFUNDED"
          else (selectSeats seats ids).map (seat :: ·)

def calculateSeatRefund (seats : List RefundableSeatSnapshot)
    (requestedBookingSeatIds : List BookingSeatId) (capacity : RefundCapacity) :
    Except Code RefundCalculation :=
  let requested := requestedBookingSeatIds.eraseDups
  if requested = [] then .error "NO_SEATS_SELECTED"
  else
    match selectSeats seats requested with
    | .error reason => .error reason
    | .ok selected =>
        let amountMinor := totalPrice selected
        if selected.any fun seat => seat.currency != capacity.currency then .error "MIXED_CURRENCY"
        else if amountMinor ≤ 0 then .error "AMOUNT_NOT_POSITIVE"
        else if amountMinor > remainingRefundableMinor capacity then .error "EXCEEDS_REMAINING"
        else
          .ok
            { scope := .SELECTED_SEATS
              amountMinor := amountMinor
              currency := capacity.currency
              bookingSeatIds := selected.map (·.bookingSeatId) }

/-! ## §3 Provider events -/

inductive RefundTransitionDecision
  | apply (status : RefundStatus)
  | ignore (reason : Code)
  | review (safeCode : Code)
  deriving DecidableEq

def isContradictoryRefundOutcome (current incoming : RefundStatus) : Bool :=
  isTerminalRefundStatus current && isTerminalRefundStatus incoming && current != incoming

def decideRefundTransition (current incoming : RefundStatus) : RefundTransitionDecision :=
  if current = .REQUIRES_REVIEW then .ignore "ALREADY_UNDER_REVIEW"
  else if current = incoming then .ignore "DUPLICATE_STATUS"
  else if isContradictoryRefundOutcome current incoming then
    .review "CONTRADICTORY_REFUND_OUTCOME"
  else if isTerminalRefundStatus current then .ignore "STALE_EVENT_AFTER_TERMINAL"
  else if incoming = .REQUIRES_REVIEW then .review "PROVIDER_REQUESTED_REVIEW"
  else if incoming = .REQUESTED then .ignore "NON_ADVANCING_STATUS"
  else .apply incoming

/-- Only an unfinished refund is advanced, and only by the incoming status. -/
theorem decideRefundTransition_apply {current incoming status : RefundStatus}
    (h : decideRefundTransition current incoming = .apply status) :
    status = incoming ∧ isTerminalRefundStatus current = false ∧ current ≠ .REQUIRES_REVIEW := by
  cases current <;> cases incoming <;>
    simp_all [decideRefundTransition, isContradictoryRefundOutcome, isTerminalRefundStatus]

def isStaleProviderEvent (lastAppliedAt incomingOccurredAt : Option Time) : Bool :=
  match lastAppliedAt, incomingOccurredAt with
  | some applied, some occurred => occurred < applied
  | _, _ => false

/-- Whether a refund of its seat revokes a ticket: a used one stays used, a
revoked one stays revoked. -/
def decideRefundTicketConsequence (status : TicketStatus) : Bool :=
  status == .ACTIVE

/-! ## §4 Provider failures -/

/-- `[A-Za-z0-9_:-]`. -/
def isSafeCodeChar (c : Char) : Bool :=
  c.isAlphanum || c == '_' || c == ':' || c == '-'

/-- `safeCodeFrom`, on the message of the error (an error without one has the
default). -/
def safeCodeFrom (message : Option String) : Code :=
  let raw := message.getD "REFUND_PROVIDER_FAILURE"
  let code := ((underscored isSafeCodeChar raw).map Char.toUpper).take 80
  if code = [] then "REFUND_PROVIDER_FAILURE" else String.ofList code

/-- The words by which an unknown outcome is recognised. -/
def ambiguousWords : List String :=
  ["TIMEOUT", "ETIMEDOUT", "ECONNRESET", "ECONNREFUSED", "SOCKET", "ABORT", "STRIPE_CONNECTION",
    "STRIPE_API"]

def isAmbiguousFailure (message : Option String) : Bool :=
  ambiguousWords.any fun word => decide (word.toList <:+: (safeCodeFrom message).toList)

example : isAmbiguousFailure (some "connect ETIMEDOUT 10.0.0.1:443") = true := by decide +kernel

end SeatFlow
