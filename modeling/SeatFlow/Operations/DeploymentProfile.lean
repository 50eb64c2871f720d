import SeatFlow.Relational.Entity
import SeatFlow.Database.Types
import SeatFlow.Text.CodeUnits

/-!
# Deployment profiles and the simulated payment provider

`features/operations/deployment-profile`, `features/operations/e2e-test-mode`, the
constructor of `LocalSignedPaymentProvider` and the payment schema of `env/schema`. Two
guards keep the simulated provider out of production: the constructor asks the deployment
profile, the schema asks the two evaluators. They differ where a production build declares
itself `local`.
-/

namespace SeatFlow

open Relational Text

/-! ## §1 The environment -/

/-- `Record<string, string | undefined>`. -/
abbrev EnvironmentSource := String → Option String

/-- What is read of a `URL` object. -/
structure Url where
  protocol : String
  hostname : String
  pathname : String

/-- The parsers of the JavaScript runtime and of zod: `new URL`, which throws on what it
cannot parse, the integer `z.coerce.number().int()` makes of a text, and
`z.iso.datetime({ offset: true })`. -/
structure Parsers where
  url : String → Option Url
  coerceInteger : String → Option Int
  isoDatetime : String → Bool

/-- `Boolean(value)`: neither undefined nor empty. -/
def truthy (value : Option String) : Bool :=
  value.any (· ≠ "")

def hexValue (c : Char) : Option Nat :=
  if '0' ≤ c ∧ c ≤ '9' then some (c.toNat - '0'.toNat)
  else if 'a' ≤ c ∧ c ≤ 'f' then some (c.toNat - 'a'.toNat + 10)
  else if 'A' ≤ c ∧ c ≤ 'F' then some (c.toNat - 'A'.toNat + 10)
  else none

/-- The bytes a percent-encoded text stands for. -/
def percentDecoded : List Char → Option (List UInt8)
  | [] => some []
  | '%' :: high :: low :: rest => do
      let upper ← hexValue high
      let lower ← hexValue low
      let bytes ← percentDecoded rest
      some (UInt8.ofNat (16 * upper + lower) :: bytes)
  | c :: rest => do
      guard (c ≠ '%')
      let bytes ← percentDecoded rest
      some ((String.singleton c).toUTF8.toList ++ bytes)

/-- `decodeURIComponent`, `none` where it throws: a bad escape, or bytes that are no UTF-8. -/
def decodeURIComponent (text : String) : Option String :=
  (percentDecoded text.toList).bind fun bytes => String.fromUTF8? ⟨bytes.toArray⟩

/-! ## §2 Isolated end-to-end mode -/

/-- `[_-]`. -/
def isSeparator (c : Char) : Bool :=
  c == '_' || c == '-'

/-- `(^|[_-])test($|[_-])` without regard to case; `boundary` says that the text starts here
or a separator stands before it. -/
def testMarked (boundary : Bool) : List Char → Bool
  | [] => false
  | c :: rest =>
      (boundary && (c :: rest.take 3).map Char.toLower == "test".toList &&
        ((rest.drop 3).head?.all isSeparator)) ||
      testMarked (isSeparator c) rest

/-- A database whose name is clearly disposable. -/
def isTestMarkedDatabase (parsers : Parsers) (url : Option String) : Bool :=
  match url with
  | none => false
  | some text =>
      if text = "" then false
      else
        match parsers.url text with
        | none => false
        | some parsed =>
            -- `replace(/^\//, "")` drops one leading slash
            let path := parsed.pathname.toList
            let name := if path.head? = some '/' then path.tail else path
            (decodeURIComponent (String.ofList name)).any fun decoded =>
              testMarked true decoded.toList

def isLoopbackOrigin (parsers : Parsers) (value : Option String) : Bool :=
  match value with
  | none => false
  | some text =>
      if text = "" then false
      else
        match parsers.url text with
        | none => false
        | some parsed =>
            let host := parsed.hostname.toLower
            host == "localhost" || host == "127.0.0.1" || host == "::1"

inductive E2EModeRefusal
  | FLAG_NOT_SET | DATABASE_NOT_TEST_MARKED | DATABASE_IS_PROTECTED | ORIGIN_NOT_LOOPBACK
  | LOCAL_SECRET_MISSING | REAL_PROVIDER_CREDENTIALS_PRESENT
  deriving DecidableEq

/-- `!secret || secret.length < 32` refuses. -/
def holdsLocalSecret (env : EnvironmentSource) : Bool :=
  (env "LOCAL_PAYMENT_WEBHOOK_SECRET").any fun secret => secret ≠ "" ∧ 32 ≤ utf16Length secret

/-- The decision is the first refusal, or none. -/
def evaluateIsolatedE2EMode (parsers : Parsers) (env : EnvironmentSource) :
    Except E2EModeRefusal Unit := do
  ensure (env "SEATFLOW_E2E_TEST_MODE" = some "true") .FLAG_NOT_SET
  ensure (isTestMarkedDatabase parsers (env "DATABASE_URL")) .DATABASE_NOT_TEST_MARKED
  let protectedUrl := env "SEATFLOW_PROTECTED_DATABASE_URL"
  ensure (¬(truthy protectedUrl ∧
      (env "DATABASE_URL" = protectedUrl ∨ env "DIRECT_URL" = protectedUrl)))
    .DATABASE_IS_PROTECTED
  ensure (isLoopbackOrigin parsers (env "BETTER_AUTH_URL") ∧
      isLoopbackOrigin parsers (env "NEXT_PUBLIC_APP_URL"))
    .ORIGIN_NOT_LOOPBACK
  ensure (holdsLocalSecret env) .LOCAL_SECRET_MISSING
  ensure (¬(truthy (env "STRIPE_SECRET_KEY") ∨ truthy (env "RESEND_API_KEY")))
    .REAL_PROVIDER_CREDENTIALS_PRESENT

def isIsolatedE2EMode (parsers : Parsers) (env : EnvironmentSource) : Bool :=
  (evaluateIsolatedE2EMode parsers env).toBool

/-! ## §3 The staging demo -/

inductive StagingDemoRefusal
  | PROFILE_NOT_STAGING_DEMO | NOT_PRODUCTION_BUILD | ORIGIN_NOT_STAGING
  | PAYMENT_PROVIDER_NOT_LOCAL_SIGNED | LOCAL_SECRET_MISSING | STRIPE_CREDENTIALS_PRESENT
  | LIVE_PROVIDER_MODE | PRODUCTION_LAUNCH_DECLARED
  deriving DecidableEq

def isStagingOrigin (parsers : Parsers) (value declaredStagingOrigin : Option String) : Bool :=
  match value with
  | none => false
  | some text =>
      if text = "" then false
      else
        match parsers.url text with
        | none => false
        | some url =>
            if url.protocol ≠ "https:" then false
            else
              let host := url.hostname.toLower
              if host = "vercel.app" ∨ ".vercel.app".toList <:+ host.toList then true
              else
                match declaredStagingOrigin with
                | none => false
                | some declaredText =>
                    declaredText ≠ "" && (parsers.url declaredText).any fun declared =>
                      declared.protocol == "https:" && declared.hostname.toLower == host

/-- The decision is the first refusal, or none. -/
def evaluateStagingDemoMode (parsers : Parsers) (env : EnvironmentSource) :
    Except StagingDemoRefusal Unit := do
  ensure (env "SEATFLOW_DEPLOYMENT_PROFILE" = some "staging-demo") .PROFILE_NOT_STAGING_DEMO
  ensure (env "NODE_ENV" = some "production") .NOT_PRODUCTION_BUILD
  let declared := env "SEATFLOW_STAGING_ORIGIN"
  ensure (isStagingOrigin parsers (env "BETTER_AUTH_URL") declared ∧
      isStagingOrigin parsers (env "NEXT_PUBLIC_APP_URL") declared)
    .ORIGIN_NOT_STAGING
  ensure (env "PAYMENT_PROVIDER" = some "LOCAL_SIGNED") .PAYMENT_PROVIDER_NOT_LOCAL_SIGNED
  ensure (holdsLocalSecret env) .LOCAL_SECRET_MISSING
  ensure (¬(truthy (env "STRIPE_SECRET_KEY") ∨ truthy (env "STRIPE_WEBHOOK_SECRET_CURRENT")))
    .STRIPE_CREDENTIALS_PRESENT
  ensure (¬(env "STRIPE_MODE" = some "live" ∨ env "RESEND_MODE" = some "live"))
    .LIVE_PROVIDER_MODE
  ensure (env "SEATFLOW_PRODUCTION_LAUNCH" ≠ some "true") .PRODUCTION_LAUNCH_DECLARED

def isStagingDemoMode (parsers : Parsers) (env : EnvironmentSource) : Bool :=
  (evaluateStagingDemoMode parsers env).toBool

/-! ## §4 The profile and what it permits -/

inductive DeploymentProfile
  | «local» | isolatedE2E | stagingDemo | production
  deriving DecidableEq

/-- `DEPLOYMENT_PROFILES.includes`. -/
def DeploymentProfile.ofText : String → Option DeploymentProfile
  | "local" => some .local
  | "isolated-e2e" => some .isolatedE2E
  | "staging-demo" => some .stagingDemo
  | "production" => some .production
  | _ => none

theorem DeploymentProfile.ofText_eq_local {text : String} :
    ofText text = some .local ↔ text = "local" := by
  unfold ofText
  split <;> simp_all

theorem DeploymentProfile.ofText_eq_stagingDemo {text : String} :
    ofText text = some .stagingDemo ↔ text = "staging-demo" := by
  unfold ofText
  split <;> simp_all

def resolveDeploymentProfile (parsers : Parsers) (env : EnvironmentSource) : DeploymentProfile :=
  let undeclared : DeploymentProfile :=
    if env "NODE_ENV" = some "production" then .production else .local
  if isIsolatedE2EMode parsers env then .isolatedE2E
  else
    match (env "SEATFLOW_DEPLOYMENT_PROFILE").bind DeploymentProfile.ofText with
    | none => undeclared
    | some .stagingDemo => if isStagingDemoMode parsers env then .stagingDemo else .production
    | some .isolatedE2E => undeclared
    | some declared => declared

structure ProfileCapabilities where
  allowsSimulatedPayments : Bool
  allowsRedirectedEmail : Bool
  allowsServerlessJobs : Bool
  allowsPollingFallback : Bool
  requiresDemoDisclosure : Bool

def profileCapabilities : DeploymentProfile → ProfileCapabilities
  | .production => ⟨false, false, false, false, false⟩
  | .stagingDemo => ⟨true, true, true, true, true⟩
  | .isolatedE2E => ⟨true, true, true, true, false⟩
  | .local => ⟨true, true, true, true, true⟩

def permitsSimulatedPaymentProvider (parsers : Parsers) (env : EnvironmentSource) : Bool :=
  (profileCapabilities (resolveDeploymentProfile parsers env)).allowsSimulatedPayments

/-! ## §5 The simulated provider's constructor -/

structure WebhookSecretWindow where
  current : String
  previous : Option String := none
  previousExpiresAt : Option Time := none

/-- The provider keeps its secret window; its records of refunds and disputes start empty. -/
structure LocalSignedPaymentProvider where
  secretWindow : WebhookSecretWindow

/-- The constructor. `runtimeEnvironment` overrides the source's own `NODE_ENV`. -/
def LocalSignedPaymentProvider.construct (parsers : Parsers) (secretWindow : WebhookSecretWindow)
    (runtimeEnvironment : Option String) (environmentSource : EnvironmentSource) :
    Except String LocalSignedPaymentProvider := do
  let environment := Function.update environmentSource "NODE_ENV" runtimeEnvironment
  ensure (¬(runtimeEnvironment = some "production" ∧
      ¬permitsSimulatedPaymentProvider parsers environment))
    "The local signed payment provider is disabled in production."
  ensure (32 ≤ utf16Length secretWindow.current)
    "The local signed payment provider secret is too short."
  return { secretWindow }

end SeatFlow
