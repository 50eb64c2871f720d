import Mathlib.Data.List.Basic

/-!
# Column types

The enumerations of the Prisma schema, under the schema's names, and the
identifier types. Generated identifiers, tokens, references and derived keys
are opaque: the code only compares them, so each is a natural number. Money is
an integer count of minor units and a timestamp an integer count of
milliseconds, as in PostgreSQL's `integer` and `timestamptz(3)`.
-/

namespace SeatFlow

/-! ## §1 Identifiers -/

abbrev UserId := Nat
abbrev OrganizationId := Nat
abbrev EventId := Nat
abbrev SessionId := Nat
abbrev SeatId := Nat
abbrev SectionId := Nat
abbrev PriceTierId := Nat
abbrev InventoryId := Nat
abbrev HoldId := Nat
abbrev OrderId := Nat
abbrev AttemptId := Nat
abbrev WebhookId := Nat
abbrev BookingId := Nat
abbrev BookingSeatId := Nat
abbrev TicketId := Nat
abbrev CredentialId := Nat
abbrev RedemptionId := Nat
abbrev RefundId := Nat
abbrev DisputeId := Nat

/-- An identifier minted by a payment provider: a payment intent, an external
refund, a dispute, a provider event. -/
abbrev ProviderRef := Nat

/-- A caller-chosen idempotency key. -/
abbrev RequestKey := Nat

/-- A generated public reference or token. -/
abbrev Reference := Nat

/-- Milliseconds. -/
abbrev Time := Int

/-- Minor units of a currency. -/
abbrev Money := Int

/-- A short machine-readable code, as stored in `safeFailureCode` columns. -/
abbrev Code := String

/-! ## §2 Enumerations -/

inductive PlatformRole
  | USER | ADMIN
  deriving DecidableEq

inductive MembershipRole
  | OWNER | ADMIN | MEMBER
  deriving DecidableEq

inductive Currency
  | AZN | EUR | GBP | USD
  deriving DecidableEq

inductive EventStatus
  | DRAFT | PUBLISHED | CANCELLED | ARCHIVED
  deriving DecidableEq

inductive EventSessionStatus
  | DRAFT | SCHEDULED | ON_SALE | SALES_PAUSED | CANCELLED | COMPLETED
  deriving DecidableEq

inductive SeatInventoryState
  | AVAILABLE | HELD | BOOKED
  deriving DecidableEq

inductive SeatHoldStatus
  | ACTIVE | RELEASED | EXPIRED | CONVERTED
  deriving DecidableEq

inductive CheckoutOrderStatus
  | PENDING | PAYMENT_PENDING | PAID | FULFILLED | FAILED | CANCELLED | EXPIRED
  | PAID_UNFULFILLED | REQUIRES_REVIEW
  deriving DecidableEq

inductive PaymentProviderName
  | LOCAL_SIGNED | EXTERNAL | STRIPE
  deriving DecidableEq

inductive PaymentAttemptStatus
  | CREATED | PENDING | SUCCEEDED | FAILED | CANCELLED | REQUIRES_REVIEW
  deriving DecidableEq

inductive PaymentWebhookSignatureStatus
  | VERIFIED | INVALID
  deriving DecidableEq

inductive PaymentWebhookProcessingStatus
  | RECEIVED | PROCESSED | REQUIRES_REVIEW | FAILED
  deriving DecidableEq

inductive PaymentWebhookEventCategory
  | PAYMENT | REFUND | DISPUTE
  deriving DecidableEq

inductive RefundStatus
  | REQUESTED | SUBMITTING | PROCESSING | SUCCEEDED | FAILED | CANCELLED | REQUIRES_REVIEW
  deriving DecidableEq

inductive RefundReasonCode
  | CUSTOMER_REQUEST | EVENT_CANCELLED | SESSION_RESCHEDULED | DUPLICATE_PAYMENT | GOODWILL
  | OPERATIONAL_ERROR | DISPUTE_RESOLUTION | FRAUD_REVIEW
  deriving DecidableEq

inductive RefundScope
  | FULL_BOOKING | SELECTED_SEATS | FIXED_AMOUNT
  deriving DecidableEq

inductive RefundInitiator
  | CUSTOMER | ORGANIZER | PLATFORM_ADMIN | SYSTEM
  deriving DecidableEq

inductive DisputeStatus
  | OPEN | NEEDS_RESPONSE | UNDER_REVIEW | WON | LOST | CLOSED | REQUIRES_REVIEW
  deriving DecidableEq

inductive DisputeReasonCategory
  | FRAUDULENT | PRODUCT_NOT_RECEIVED | DUPLICATE | CREDIT_NOT_PROCESSED | SUBSCRIPTION_CANCELED
  | GENERAL | UNRECOGNIZED
  deriving DecidableEq

inductive DisputeOutcome
  | WON | LOST | WITHDRAWN | UNRESOLVED
  deriving DecidableEq

inductive RefundAttemptStatus
  | STARTED | SUCCEEDED | FAILED | TIMEOUT
  deriving DecidableEq

inductive LedgerEntryType
  | PAYMENT_AUTHORIZED | PAYMENT_CAPTURED | PAYMENT_FAILED | REFUND_REQUESTED | REFUND_PROCESSING
  | REFUND_SUCCEEDED | REFUND_FAILED | REFUND_CANCELLED | DISPUTE_OPENED | DISPUTE_UPDATED
  | DISPUTE_WON | DISPUTE_LOST | CHARGEBACK_RECORDED | MANUAL_ADJUSTMENT_REQUESTED
  deriving DecidableEq

inductive LedgerDirection
  | CREDIT | DEBIT
  deriving DecidableEq

inductive FinancialReviewState
  | NONE | REFUND_REVIEW | DISPUTE_REVIEW | CHARGEBACK_REVIEW | DIVERGENCE_REVIEW
  deriving DecidableEq

/-- The types of financial outbox events that a dispute's status is announced
with. -/
inductive DisputeEventType
  | DISPUTE_OPENED | DISPUTE_UPDATED | DISPUTE_WON | DISPUTE_LOST
  deriving DecidableEq

inductive BookingStatus
  | CONFIRMED | REFUNDED
  deriving DecidableEq

inductive TicketStatus
  | ACTIVE | REVOKED | USED
  deriving DecidableEq

inductive TicketCredentialStatus
  | ACTIVE | REVOKED | REPLACED | USED
  deriving DecidableEq

inductive TicketRedemptionOutcome
  | ACCEPTED | ALREADY_USED | REVOKED | INVALID | WRONG_SESSION | TOO_EARLY | TOO_LATE
  | SESSION_CANCELLED | UNAUTHORIZED_SCANNER
  deriving DecidableEq

inductive TicketIssuanceRequestStatus
  | PENDING | COMPLETED | DEAD_LETTER
  deriving DecidableEq

/-! ## §3 Text -/

/-- The characters that `trim` removes. -/
def isBlank (c : Char) : Bool :=
  c.val ∈ [0x9, 0xA, 0xB, 0xC, 0xD, 0x20, 0xA0, 0x1680, 0x2028, 0x2029, 0x202F, 0x205F, 0x3000,
      0xFEFF] ||
    (0x2000 ≤ c.val && c.val ≤ 0x200A)

end SeatFlow
