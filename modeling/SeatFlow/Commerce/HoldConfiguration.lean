import SeatFlow.Commerce.HoldService
import SeatFlow.Numbers.Binary64
import SeatFlow.Operations.PaymentEnvironment

/-!
# The configuration of holds

`resolveHoldConfiguration`: the duration of a hold, the seats it may have and the batch of a sweep,
each from a variable of the environment or its default. A configuration that is accepted is within
the ranges, as the defaults are.
-/

namespace SeatFlow

/-- The whole of the source's `HoldConfiguration`. -/
structure ResolvedHoldConfiguration extends HoldConfiguration where
  sweepBatchSize : Nat

def DEFAULT_HOLD_CONFIGURATION : ResolvedHoldConfiguration where
  holdDurationMs := 10 * 60 * 1000
  maxSeatsPerHold := 8
  sweepBatchSize := 100

structure ConfigurationRange where
  min : Int
  max : Int

def HOLD_DURATION_MINUTES_RANGE : ConfigurationRange := { min := 1, max := 60 }
def MAX_SEATS_PER_HOLD_RANGE : ConfigurationRange := { min := 1, max := 20 }
def SWEEP_BATCH_SIZE_RANGE : ConfigurationRange := { min := 1, max := 1000 }

/-- `z.coerce.number().min(…).max(…)`; what `Number` makes of a text is a parameter. -/
def numberField (coerceNumber : String → Option ℚ) (path : String) (range : ConfigurationRange)
    (text : String) : Checked ℚ :=
  match coerceNumber text with
  | none => ⟨none, [⟨path, .invalid_type⟩]⟩
  | some value =>
      ⟨some value,
        issueUnless ((range.min : ℚ) ≤ value) path .too_small ++
          issueUnless (value ≤ range.max) path .too_big⟩

structure HoldEnvironment where
  durationMinutes : Option ℚ
  maxSeats : Option Int
  sweepBatchSize : Option Int

/-- `holdEnvironmentSchema`. -/
def holdFields (parsers : Parsers) (coerceNumber : String → Option ℚ) (env : EnvironmentSource) :
    Checked HoldEnvironment :=
  HoldEnvironment.mk <$>
    optionalField
      (numberField coerceNumber "SEAT_HOLD_DURATION_MINUTES" HOLD_DURATION_MINUTES_RANGE)
      (env "SEAT_HOLD_DURATION_MINUTES") <*>
    optionalField (integerField parsers "SEAT_HOLD_MAX_SEATS" MAX_SEATS_PER_HOLD_RANGE.min
      MAX_SEATS_PER_HOLD_RANGE.max) (env "SEAT_HOLD_MAX_SEATS") <*>
    optionalField (integerField parsers "SEAT_HOLD_SWEEP_BATCH_SIZE" SWEEP_BATCH_SIZE_RANGE.min
      SWEEP_BATCH_SIZE_RANGE.max) (env "SEAT_HOLD_SWEEP_BATCH_SIZE")

/-- `Math.round(minutes * 60 * 1000)`, in doubles. -/
def durationMilliseconds (minutes : ℚ) : Int :=
  ⌊Binary64.round (Binary64.round (minutes * 60) * 1000) + 1 / 2⌋

def resolveHoldConfiguration (parsers : Parsers) (coerceNumber : String → Option ℚ)
    (source : EnvironmentSource) : Except (List Issue) ResolvedHoldConfiguration :=
  let parsed := holdFields parsers coerceNumber source
  match parsed.value with
  | none => .error parsed.issues
  | some data =>
      if parsed.issues = [] then
        .ok
          { holdDurationMs := (data.durationMinutes.map durationMilliseconds).getD
              DEFAULT_HOLD_CONFIGURATION.holdDurationMs
            maxSeatsPerHold := (data.maxSeats.map Int.toNat).getD
              DEFAULT_HOLD_CONFIGURATION.maxSeatsPerHold
            sweepBatchSize := (data.sweepBatchSize.map Int.toNat).getD
              DEFAULT_HOLD_CONFIGURATION.sweepBatchSize }
      else .error parsed.issues

end SeatFlow
