import SeatFlow.Operations.DeploymentProfile

/-!
# The payment environment

The payment part of `env/schema`: which environment a deployment may read its payment
configuration from. The schema and the simulated provider's constructor guard one rule, that
a production build simulates payments only where an evaluator proves the exception.
-/

namespace SeatFlow

open Relational Text

/-! ## §1 Fields -/

/-- The issue codes of zod, and the schema's own messages. -/
inductive IssueProblem
  | invalid_value | invalid_type | too_small | too_big | invalid_format
  | custom (message : String)
  deriving DecidableEq

structure Issue where
  path : String
  problem : IssueProblem
  deriving DecidableEq

/-- What the schema makes of one variable. A value that fails a bound still has its type, so
later rules see it; one that does not parse leaves nothing. -/
structure Checked (α : Type) where
  value : Option α
  issues : List Issue

/-- The keys of an object are checked one after another, and their issues collected. -/
instance : Functor Checked where
  map f field := ⟨field.value.map f, field.issues⟩

instance : Seq Checked where
  seq f field := ⟨f.value.bind fun g => (field ()).value.map g, f.issues ++ (field ()).issues⟩

/-- The issue `problem`, unless `c` holds. -/
def issueUnless (c : Prop) [Decidable c] (path : String) (problem : IssueProblem) : List Issue :=
  if c then [] else [⟨path, problem⟩]

@[simp]
theorem issueUnless_eq_nil {c : Prop} [Decidable c] {path : String} {problem : IssueProblem} :
    issueUnless c path problem = [] ↔ c := by
  unfold issueUnless
  split <;> simp_all

/-- `z.enum`. -/
def enumField {α : Type} (path : String) (values : List (String × α)) (text : String) :
    Checked α :=
  match values.lookup text with
  | some value => ⟨some value, []⟩
  | none => ⟨none, [⟨path, .invalid_value⟩]⟩

/-- `z.string().min(minimum).max(maximum)`. -/
def stringField (path : String) (minimum maximum : Nat) (text : String) : Checked String :=
  ⟨some text,
    issueUnless (minimum ≤ utf16Length text) path .too_small ++
      issueUnless (utf16Length text ≤ maximum) path .too_big⟩

/-- `z.coerce.number().int().min(minimum).max(maximum)`. -/
def integerField (parsers : Parsers) (path : String) (minimum maximum : Int) (text : String) :
    Checked Int :=
  match parsers.coerceInteger text with
  | none => ⟨none, [⟨path, .invalid_type⟩]⟩
  | some value =>
      ⟨some value,
        issueUnless (minimum ≤ value) path .too_small ++
          issueUnless (value ≤ maximum) path .too_big⟩

/-- A string with a further format. -/
def formatField (path : String) (format : String → Bool) (text : String) : Checked String :=
  ⟨some text, issueUnless (format text) path .invalid_format⟩

/-- `.optional()`. -/
def optionalField {α : Type} (field : String → Checked α) : Option String → Checked (Option α)
  | none => ⟨some none, []⟩
  | some text => ⟨(field text).value.map some, (field text).issues⟩

/-- `.default(fallback)`. -/
def defaultField {α : Type} (fallback : α) (field : String → Checked α) :
    Option String → Checked α
  | none => ⟨some fallback, []⟩
  | some text => field text

def requiredField {α : Type} (path : String) (field : String → Checked α) :
    Option String → Checked α
  | none => ⟨none, [⟨path, .invalid_value⟩]⟩
  | some text => field text

/-! ## §2 The schema -/

inductive NodeEnvironment
  | development | test | production
  deriving DecidableEq

inductive PaymentProviderSelection
  | LOCAL_SIGNED | EXTERNAL | STRIPE
  deriving DecidableEq

inductive StripeMode
  | test | live
  deriving DecidableEq

structure PaymentEnvironment where
  nodeEnv : NodeEnvironment
  paymentProvider : PaymentProviderSelection
  localPaymentWebhookSecret : Option String
  paymentWebhookMaxBytes : Int
  stripeSecretKey : Option String
  stripeWebhookSecretCurrent : Option String
  stripeWebhookSecretPrevious : Option String
  stripeWebhookSecretPreviousExpiresAt : Option String
  stripeMode : Option StripeMode
  stripeAllowedCurrencies : Option String
  stripeRequestTimeoutMs : Int

/-- `/^[A-Z]{3}(,[A-Z]{3})*$/`. -/
def isCurrencyList : List Char → Bool
  | [a, b, c] => a.isUpper && b.isUpper && c.isUpper
  | a :: b :: c :: ',' :: rest => a.isUpper && b.isUpper && c.isUpper && isCurrencyList rest
  | _ => false

/-- `z.string().max(200).regex(…)`. -/
def currenciesField (path text : String) : Checked String :=
  ⟨some text,
    issueUnless (utf16Length text ≤ 200) path .too_big ++
      issueUnless (isCurrencyList text.toList) path .invalid_format⟩

/-- The fields of the object, in the order of the schema. -/
def paymentFields (parsers : Parsers) (env : EnvironmentSource) : Checked PaymentEnvironment :=
  PaymentEnvironment.mk <$>
    defaultField .development
      (enumField "NODE_ENV"
        [("development", NodeEnvironment.development), ("test", .test),
          ("production", .production)])
      (env "NODE_ENV") <*>
    requiredField "PAYMENT_PROVIDER"
      (enumField "PAYMENT_PROVIDER"
        [("LOCAL_SIGNED", PaymentProviderSelection.LOCAL_SIGNED), ("EXTERNAL", .EXTERNAL),
          ("STRIPE", .STRIPE)])
      (env "PAYMENT_PROVIDER") <*>
    optionalField (stringField "LOCAL_PAYMENT_WEBHOOK_SECRET" 32 512)
      (env "LOCAL_PAYMENT_WEBHOOK_SECRET") <*>
    defaultField 65536 (integerField parsers "PAYMENT_WEBHOOK_MAX_BYTES" 1024 1048576)
      (env "PAYMENT_WEBHOOK_MAX_BYTES") <*>
    optionalField (stringField "STRIPE_SECRET_KEY" 20 200) (env "STRIPE_SECRET_KEY") <*>
    optionalField (stringField "STRIPE_WEBHOOK_SECRET_CURRENT" 32 512)
      (env "STRIPE_WEBHOOK_SECRET_CURRENT") <*>
    optionalField (stringField "STRIPE_WEBHOOK_SECRET_PREVIOUS" 32 512)
      (env "STRIPE_WEBHOOK_SECRET_PREVIOUS") <*>
    optionalField (formatField "STRIPE_WEBHOOK_SECRET_PREVIOUS_EXPIRES_AT" parsers.isoDatetime)
      (env "STRIPE_WEBHOOK_SECRET_PREVIOUS_EXPIRES_AT") <*>
    optionalField (enumField "STRIPE_MODE" [("test", StripeMode.test), ("live", .live)])
      (env "STRIPE_MODE") <*>
    optionalField (currenciesField "STRIPE_ALLOWED_CURRENCIES")
      (env "STRIPE_ALLOWED_CURRENCIES") <*>
    defaultField 15000 (integerField parsers "STRIPE_REQUEST_TIMEOUT_MS" 1000 60000)
      (env "STRIPE_REQUEST_TIMEOUT_MS")

/-- The mode a Stripe key states in its prefix; none where it is unknown. -/
def stripeKeyMode (value : Option String) : Option StripeMode :=
  match value with
  | none => none
  | some key =>
      if "sk_test_".toList <+: key.toList ∨ "rk_test_".toList <+: key.toList then some .test
      else if "sk_live_".toList <+: key.toList ∨ "rk_live_".toList <+: key.toList then some .live
      else none

def StripeMode.text : StripeMode → String
  | .test => "test"
  | .live => "live"

/-- The rules of the external adapter. -/
def stripeRules (environment : PaymentEnvironment) : List Issue :=
  let required (present : Bool) (path : String) :=
    issueUnless present path (.custom "is required when PAYMENT_PROVIDER is STRIPE")
  let keyMode := stripeKeyMode environment.stripeSecretKey
  required (truthy environment.stripeSecretKey) "STRIPE_SECRET_KEY" ++
  required (truthy environment.stripeWebhookSecretCurrent) "STRIPE_WEBHOOK_SECRET_CURRENT" ++
  required environment.stripeMode.isSome "STRIPE_MODE" ++
  issueUnless (¬(truthy environment.stripeSecretKey ∧ keyMode = none)) "STRIPE_SECRET_KEY"
    (.custom "is not a recognized Stripe secret key") ++
  (match environment.stripeMode, keyMode with
    | some mode, some stated =>
        issueUnless (stated = mode) "STRIPE_SECRET_KEY"
          (.custom ("does not match STRIPE_MODE=" ++ mode.text))
    | _, _ => []) ++
  issueUnless
    (¬(truthy environment.stripeWebhookSecretPrevious ∧
      ¬truthy environment.stripeWebhookSecretPreviousExpiresAt))
    "STRIPE_WEBHOOK_SECRET_PREVIOUS_EXPIRES_AT"
    (.custom ("is required whenever a previous webhook secret is set, " ++
      "so the rotation window closes")) ++
  issueUnless
    (¬(truthy environment.stripeWebhookSecretPrevious ∧
      environment.stripeWebhookSecretPrevious = environment.stripeWebhookSecretCurrent))
    "STRIPE_WEBHOOK_SECRET_PREVIOUS"
    (.custom "must differ from STRIPE_WEBHOOK_SECRET_CURRENT")

/-- `superRefine`: it reads the parsed fields and, for the two exceptions, all of `source`. -/
def paymentRules (parsers : Parsers) (source : EnvironmentSource)
    (environment : PaymentEnvironment) : List Issue :=
  issueUnless
    (¬(environment.paymentProvider = .LOCAL_SIGNED ∧
      ¬truthy environment.localPaymentWebhookSecret))
    "LOCAL_PAYMENT_WEBHOOK_SECRET" (.custom "is required for the local signed provider") ++
  issueUnless
    (¬(environment.nodeEnv = .production ∧ environment.paymentProvider = .LOCAL_SIGNED ∧
      ¬isIsolatedE2EMode parsers source ∧ ¬isStagingDemoMode parsers source))
    "PAYMENT_PROVIDER" (.custom "LOCAL_SIGNED is forbidden in production") ++
  if environment.paymentProvider = .STRIPE then stripeRules environment else []

def readPaymentEnvironment (parsers : Parsers) (source : EnvironmentSource) :
    Except (List Issue) PaymentEnvironment :=
  let fields := paymentFields parsers source
  match fields.value with
  | none => .error fields.issues
  | some environment =>
      let issues := fields.issues ++ paymentRules parsers source environment
      if issues = [] then .ok environment else .error issues

/-! ## §3 When the fields parse -/

namespace Checked

variable {α β : Type}

/-- A parsed value without an issue. -/
def Accepts (field : Checked α) (value : α) : Prop :=
  field.value = some value ∧ field.issues = []

theorem exists_accepts_map {f : α → β} {field : Checked α} {P : β → Prop} :
    (∃ b, (f <$> field).Accepts b ∧ P b) ↔ ∃ a, field.Accepts a ∧ P (f a) := by
  simp only [Accepts, Functor.map, Option.map_eq_some_iff]
  constructor
  · rintro ⟨b, ⟨⟨a, ha, rfl⟩, hissues⟩, hP⟩
    exact ⟨a, ⟨ha, hissues⟩, hP⟩
  · rintro ⟨a, ⟨ha, hissues⟩, hP⟩
    exact ⟨f a, ⟨⟨a, ha, rfl⟩, hissues⟩, hP⟩

theorem exists_accepts_seq {f : Checked (α → β)} {field : Checked α} {P : β → Prop} :
    (∃ b, (f <*> field).Accepts b ∧ P b) ↔
      ∃ g, f.Accepts g ∧ ∃ a, field.Accepts a ∧ P (g a) := by
  simp only [Accepts, Seq.seq, Option.bind_eq_some_iff, Option.map_eq_some_iff,
    List.append_eq_nil_iff]
  constructor
  · rintro ⟨b, ⟨⟨g, hg, a, ha, rfl⟩, hf, hfield⟩, hP⟩
    exact ⟨g, ⟨hg, hf⟩, a, ⟨ha, hfield⟩, hP⟩
  · rintro ⟨g, ⟨hg, hf⟩, a, ⟨ha, hfield⟩, hP⟩
    exact ⟨g a, ⟨⟨g, hg, a, ha, rfl⟩, hf, hfield⟩, hP⟩

end Checked

section Fields

variable {α : Type} {path text : String}

theorem accepts_enumField {values : List (String × α)} {value : α} :
    (enumField path values text).Accepts value ↔ values.lookup text = some value := by
  unfold enumField Checked.Accepts
  cases values.lookup text <;> simp

theorem accepts_stringField {minimum maximum : Nat} {value : String} :
    (stringField path minimum maximum text).Accepts value ↔
      text = value ∧ minimum ≤ utf16Length text ∧ utf16Length text ≤ maximum := by
  simp [stringField, Checked.Accepts]

theorem accepts_formatField {format : String → Bool} {value : String} :
    (formatField path format text).Accepts value ↔ text = value ∧ format text := by
  simp [formatField, Checked.Accepts]

theorem accepts_currenciesField {value : String} :
    (currenciesField path text).Accepts value ↔
      text = value ∧ utf16Length text ≤ 200 ∧ isCurrencyList text.toList := by
  simp [currenciesField, Checked.Accepts]

theorem accepts_integerField {parsers : Parsers} {minimum maximum value : Int} :
    (integerField parsers path minimum maximum text).Accepts value ↔
      parsers.coerceInteger text = some value ∧ minimum ≤ value ∧ value ≤ maximum := by
  unfold integerField Checked.Accepts
  cases parsers.coerceInteger text with
  | none => simp
  | some n =>
    simp only [Option.some.injEq, List.append_eq_nil_iff, issueUnless_eq_nil]
    constructor
    · rintro ⟨rfl, bounds⟩
      exact ⟨rfl, bounds⟩
    · rintro ⟨rfl, bounds⟩
      exact ⟨rfl, bounds⟩

variable {field : String → Checked α}

theorem accepts_optionalField_none {value : Option α} :
    (optionalField field none).Accepts value ↔ value = none := by
  simp only [optionalField, Checked.Accepts, Option.some.injEq, and_true]
  exact eq_comm

theorem accepts_optionalField_some {value : Option α} :
    (optionalField field (some text)).Accepts value ↔
      ∃ a, value = some a ∧ (field text).Accepts a := by
  simp only [optionalField, Checked.Accepts, Option.map_eq_some_iff]
  constructor
  · rintro ⟨⟨a, ha, rfl⟩, hissues⟩
    exact ⟨a, rfl, ha, hissues⟩
  · rintro ⟨a, rfl, ha, hissues⟩
    exact ⟨⟨a, ha, rfl⟩, hissues⟩

/-- An optional variable is accepted when it is absent or its text is. -/
theorem exists_accepts_optionalField {source : Option String} :
    (∃ value, (optionalField field source).Accepts value) ↔
      ∀ text ∈ source, ∃ a, (field text).Accepts a := by
  cases source with
  | none => simp [accepts_optionalField_none]
  | some text => simp [accepts_optionalField_some]

theorem exists_accepts_defaultField {fallback : α} {source : Option String} :
    (∃ value, (defaultField fallback field source).Accepts value) ↔
      ∀ text ∈ source, ∃ a, (field text).Accepts a := by
  cases source with
  | none => simp [defaultField, Checked.Accepts]
  | some text => simp [defaultField]

/-- An accepted optional string is read as it stands. -/
theorem accepts_optionalField_string {minimum maximum : Nat} {source : Option String}
    (h : ∀ text ∈ source, minimum ≤ utf16Length text ∧ utf16Length text ≤ maximum) :
    (optionalField (stringField path minimum maximum) source).Accepts source := by
  cases source with
  | none => exact accepts_optionalField_none.mpr rfl
  | some text =>
    exact accepts_optionalField_some.mpr ⟨text, rfl, accepts_stringField.mpr ⟨rfl, h text rfl⟩⟩

end Fields

/-! ## §4 What the schema accepts -/

theorem readPaymentEnvironment_eq_ok {parsers : Parsers} {env : EnvironmentSource}
    {environment : PaymentEnvironment} :
    readPaymentEnvironment parsers env = .ok environment ↔
      (paymentFields parsers env).Accepts environment ∧
        paymentRules parsers env environment = [] := by
  cases hvalue : (paymentFields parsers env).value with
  | none => simp [readPaymentEnvironment, Checked.Accepts, hvalue]
  | some parsed =>
    simp only [readPaymentEnvironment, Checked.Accepts, hvalue, Option.some.injEq]
    by_cases hissues : (paymentFields parsers env).issues ++ paymentRules parsers env parsed = []
    · rw [if_pos hissues]
      obtain ⟨hfields, hrules⟩ := List.append_eq_nil_iff.mp hissues
      constructor
      · intro h
        obtain rfl := Except.ok.inj h
        exact ⟨⟨rfl, hfields⟩, hrules⟩
      · rintro ⟨⟨rfl, -⟩, -⟩
        rfl
    · rw [if_neg hissues]
      constructor
      · intro h
        cases h
      · rintro ⟨⟨rfl, hfields⟩, hrules⟩
        exact absurd (List.append_eq_nil_iff.mpr ⟨hfields, hrules⟩) hissues

/-- Every payment variable that is set keeps its bounds and format. -/
structure PaymentVariablesWellFormed (parsers : Parsers) (env : EnvironmentSource) : Prop where
  localSecret : ∀ text ∈ env "LOCAL_PAYMENT_WEBHOOK_SECRET",
    32 ≤ utf16Length text ∧ utf16Length text ≤ 512
  maxBytes : ∀ text ∈ env "PAYMENT_WEBHOOK_MAX_BYTES",
    ∃ n, parsers.coerceInteger text = some n ∧ 1024 ≤ n ∧ n ≤ 1048576
  secretKey : ∀ text ∈ env "STRIPE_SECRET_KEY", 20 ≤ utf16Length text ∧ utf16Length text ≤ 200
  current : ∀ text ∈ env "STRIPE_WEBHOOK_SECRET_CURRENT",
    32 ≤ utf16Length text ∧ utf16Length text ≤ 512
  previous : ∀ text ∈ env "STRIPE_WEBHOOK_SECRET_PREVIOUS",
    32 ≤ utf16Length text ∧ utf16Length text ≤ 512
  expiresAt : ∀ text ∈ env "STRIPE_WEBHOOK_SECRET_PREVIOUS_EXPIRES_AT", parsers.isoDatetime text
  mode : ∀ text ∈ env "STRIPE_MODE", text = "test" ∨ text = "live"
  currencies : ∀ text ∈ env "STRIPE_ALLOWED_CURRENCIES",
    utf16Length text ≤ 200 ∧ isCurrencyList text.toList
  timeout : ∀ text ∈ env "STRIPE_REQUEST_TIMEOUT_MS",
    ∃ n, parsers.coerceInteger text = some n ∧ 1000 ≤ n ∧ n ≤ 60000

theorem lookup_paymentProvider {text : String} :
    [("LOCAL_SIGNED", PaymentProviderSelection.LOCAL_SIGNED), ("EXTERNAL", .EXTERNAL),
      ("STRIPE", .STRIPE)].lookup text = some .LOCAL_SIGNED ↔ text = "LOCAL_SIGNED" := by
  simp only [List.lookup_cons, List.lookup_nil]
  split
  · next h => simpa using h
  · next h =>
    split
    · simpa using h
    · split <;> simpa using h

theorem exists_lookup_stripeMode {text : String} :
    (∃ mode, [("test", StripeMode.test), ("live", .live)].lookup text = some mode) ↔
      text = "test" ∨ text = "live" := by
  simp only [List.lookup_cons, List.lookup_nil]
  split
  · next h => simpa using .inl (by simpa using h)
  · next h =>
    split
    · next h' => simpa using .inr (by simpa using h')
    · next h' => simpa using And.intro (by simpa using h) (by simpa using h')

/-- The fields of a production build that selects the simulated provider parse exactly when
the payment variables are well formed. -/
theorem exists_accepts_paymentFields {parsers : Parsers} {env : EnvironmentSource}
    (hproduction : env "NODE_ENV" = some "production") :
    (∃ environment, (paymentFields parsers env).Accepts environment ∧
      environment.nodeEnv = .production ∧ environment.paymentProvider = .LOCAL_SIGNED ∧
      environment.localPaymentWebhookSecret = env "LOCAL_PAYMENT_WEBHOOK_SECRET") ↔
      env "PAYMENT_PROVIDER" = some "LOCAL_SIGNED" ∧ PaymentVariablesWellFormed parsers env := by
  simp only [paymentFields, Checked.exists_accepts_seq, Checked.exists_accepts_map]
  constructor
  · rintro ⟨nodeEnv, -, provider, hprovider, localSecret, hlocal, maxBytes, hmax, secretKey, hkey,
      current, hcurrent, previous, hprevious, expiresAt, hexpires, mode, hmode, currencies,
      hcurrencies, timeout, htimeout, -, rfl, rfl⟩
    have hselected : env "PAYMENT_PROVIDER" = some "LOCAL_SIGNED" := by
      cases henv : env "PAYMENT_PROVIDER" with
      | none => simp [requiredField, Checked.Accepts, henv] at hprovider
      | some text =>
        rw [henv, requiredField, accepts_enumField, lookup_paymentProvider] at hprovider
        rw [hprovider]
    refine ⟨hselected, ?_⟩
    have hlocal := exists_accepts_optionalField.mp ⟨_, hlocal⟩
    have hmax := exists_accepts_defaultField.mp ⟨_, hmax⟩
    have hkey := exists_accepts_optionalField.mp ⟨_, hkey⟩
    have hcurrent := exists_accepts_optionalField.mp ⟨_, hcurrent⟩
    have hprevious := exists_accepts_optionalField.mp ⟨_, hprevious⟩
    have hexpires := exists_accepts_optionalField.mp ⟨_, hexpires⟩
    have hmode := exists_accepts_optionalField.mp ⟨_, hmode⟩
    have hcurrencies := exists_accepts_optionalField.mp ⟨_, hcurrencies⟩
    have htimeout := exists_accepts_defaultField.mp ⟨_, htimeout⟩
    simp only [accepts_stringField, accepts_integerField, accepts_formatField, accepts_enumField,
      accepts_currenciesField, exists_eq_left', exists_lookup_stripeMode] at *
    exact ⟨hlocal, hmax, hkey, hcurrent, hprevious, hexpires, hmode, hcurrencies, htimeout⟩
  · rintro ⟨hselected, h⟩
    obtain ⟨maxBytes, hmax⟩ := exists_accepts_defaultField.mpr fun text ht =>
      let ⟨n, hn⟩ := h.maxBytes text ht
      ⟨n, accepts_integerField.mpr hn⟩
    obtain ⟨expiresAt, hexpires⟩ := exists_accepts_optionalField.mpr fun text ht =>
      ⟨text, accepts_formatField.mpr ⟨rfl, h.expiresAt text ht⟩⟩
    obtain ⟨mode, hmode⟩ := exists_accepts_optionalField.mpr fun text ht =>
      let ⟨mode, hmode⟩ := exists_lookup_stripeMode.mpr (h.mode text ht)
      ⟨mode, accepts_enumField.mpr hmode⟩
    obtain ⟨currencies, hcurrencies⟩ := exists_accepts_optionalField.mpr fun text ht =>
      ⟨text, accepts_currenciesField.mpr ⟨rfl, h.currencies text ht⟩⟩
    obtain ⟨timeout, htimeout⟩ := exists_accepts_defaultField.mpr fun text ht =>
      let ⟨n, hn⟩ := h.timeout text ht
      ⟨n, accepts_integerField.mpr hn⟩
    refine ⟨.production, ?_, .LOCAL_SIGNED, ?_, _, accepts_optionalField_string h.localSecret,
      maxBytes, hmax, _, accepts_optionalField_string h.secretKey,
      _, accepts_optionalField_string h.current, _, accepts_optionalField_string h.previous,
      expiresAt, hexpires, mode, hmode, currencies, hcurrencies, timeout, htimeout, rfl, rfl, rfl⟩
    · rw [hproduction, defaultField, accepts_enumField]
      rfl
    · rw [hselected, requiredField, accepts_enumField]
      rfl

/-- The environment and the secret are read as they stand. -/
theorem accepts_paymentFields_read {parsers : Parsers} {env : EnvironmentSource}
    {environment : PaymentEnvironment} (hproduction : env "NODE_ENV" = some "production")
    (h : (paymentFields parsers env).Accepts environment) :
    environment.nodeEnv = .production ∧
      environment.localPaymentWebhookSecret = env "LOCAL_PAYMENT_WEBHOOK_SECRET" := by
  have hread : ∃ e, (paymentFields parsers env).Accepts e ∧ e = environment := ⟨_, h, rfl⟩
  simp only [paymentFields, Checked.exists_accepts_seq, Checked.exists_accepts_map] at hread
  obtain ⟨nodeEnv, hnode, _, _, localSecret, hlocal, hrest⟩ := hread
  rw [hproduction, defaultField, accepts_enumField] at hnode
  have hnode : nodeEnv = .production := (Option.some.inj hnode).symm
  have hlocal : localSecret = env "LOCAL_PAYMENT_WEBHOOK_SECRET" := by
    cases hsource : env "LOCAL_PAYMENT_WEBHOOK_SECRET" with
    | none => exact accepts_optionalField_none.mp (hsource ▸ hlocal)
    | some text =>
      obtain ⟨secret, rfl, hsecret⟩ := accepts_optionalField_some.mp (hsource ▸ hlocal)
      rw [(accepts_stringField.mp hsecret).1]
  obtain ⟨_, _, _, _, _, _, _, _, _, _, _, _, _, _, _, _, rfl⟩ := hrest
  exact ⟨hnode, hlocal⟩

/-! ## §5 The two guards -/

/-- The simulated provider is constructed from the environment, as the registry does. -/
def ConstructsLocalSigned (parsers : Parsers) (env : EnvironmentSource) : Prop :=
  ∃ secret provider, env "LOCAL_PAYMENT_WEBHOOK_SECRET" = some secret ∧
    LocalSignedPaymentProvider.construct parsers { current := secret } (env "NODE_ENV") env =
      .ok provider

/-- The schema accepts the simulated provider, with a long enough secret. -/
def AcceptsLocalSigned (parsers : Parsers) (env : EnvironmentSource) : Prop :=
  ∃ environment, readPaymentEnvironment parsers env = .ok environment ∧
    environment.paymentProvider = .LOCAL_SIGNED ∧
    ∃ secret ∈ environment.localPaymentWebhookSecret, 32 ≤ utf16Length secret

/-- An evaluator proves the exception. -/
def ProvedException (parsers : Parsers) (env : EnvironmentSource) : Prop :=
  isIsolatedE2EMode parsers env ∨ isStagingDemoMode parsers env

/-- Simulated payments are permitted in proved exceptions only, and the constructor and the
schema agree on where the simulated provider runs. -/
def SimulationGuarded (parsers : Parsers) (env : EnvironmentSource) : Prop :=
  (permitsSimulatedPaymentProvider parsers env → ProvedException parsers env) ∧
    (ConstructsLocalSigned parsers env ↔ AcceptsLocalSigned parsers env)

theorem toBool_eq_true {ε : Type} {decision : Except ε Unit} :
    decision.toBool = true ↔ decision = .ok () := by
  cases decision with
  | error e => simp [Except.toBool]
  | ok u => simp [Except.toBool]

theorem ProvedException.holdsLocalSecret {parsers : Parsers} {env : EnvironmentSource}
    (h : ProvedException parsers env) : holdsLocalSecret env := by
  rcases h with h | h
  · have h := toBool_eq_true.mp h
    simp only [evaluateIsolatedE2EMode, Except.bind_unit_eq_ok, ensure_eq_ok] at h
    exact h.2.2.2.2.1
  · have h := toBool_eq_true.mp h
    simp only [evaluateStagingDemoMode, Except.bind_unit_eq_ok, ensure_eq_ok] at h
    exact h.2.2.2.2.1

theorem exists_secret_of_holdsLocalSecret {env : EnvironmentSource} (h : holdsLocalSecret env) :
    ∃ secret, env "LOCAL_PAYMENT_WEBHOOK_SECRET" = some secret ∧ secret ≠ "" ∧
      32 ≤ utf16Length secret := by
  obtain ⟨secret, henv, hsecret⟩ := (Option.any_eq_true _ _).mp h
  exact ⟨secret, henv, by simpa using hsecret⟩

section Production

variable {parsers : Parsers} {env : EnvironmentSource}
  (hproduction : env "NODE_ENV" = some "production")

include hproduction

/-- In a production build the profile permits simulated payments for the proved exceptions
and for whatever declares itself a developer machine. -/
theorem permitsSimulatedPaymentProvider_iff :
    permitsSimulatedPaymentProvider parsers env ↔
      ProvedException parsers env ∨ env "SEATFLOW_DEPLOYMENT_PROFILE" = some "local" := by
  unfold permitsSimulatedPaymentProvider resolveDeploymentProfile ProvedException
  by_cases he2e : isIsolatedE2EMode parsers env = true
  · simp [he2e, profileCapabilities]
  · simp only [he2e, if_pos hproduction, Bool.false_eq_true, if_false, false_or]
    have hstaging : isStagingDemoMode parsers env = true →
        env "SEATFLOW_DEPLOYMENT_PROFILE" = some "staging-demo" := by
      intro h
      have h := toBool_eq_true.mp h
      simp only [evaluateStagingDemoMode, Except.bind_unit_eq_ok, ensure_eq_ok] at h
      exact h.1
    cases hdeclared : env "SEATFLOW_DEPLOYMENT_PROFILE" with
    | none =>
      rw [hdeclared] at hstaging
      have hdemo : ¬isStagingDemoMode parsers env = true := fun h =>
        Option.some_ne_none _ (hstaging h).symm
      simp [profileCapabilities, hdemo]
    | some declared =>
      rw [hdeclared, Option.some.injEq] at hstaging
      rw [Option.bind_some, Option.some.injEq, ← DeploymentProfile.ofText_eq_local]
      rw [← DeploymentProfile.ofText_eq_stagingDemo] at hstaging
      -- only the staging demo asks its evaluator again
      cases hprofile : DeploymentProfile.ofText declared with
      | none =>
        have hdemo : ¬isStagingDemoMode parsers env = true := fun h => by
          simpa [hprofile] using hstaging h
        simp [profileCapabilities, hdemo]
      | some profile =>
        cases profile with
        | stagingDemo =>
          by_cases hdemo : isStagingDemoMode parsers env = true
          · simp [profileCapabilities, hdemo]
          · simp [profileCapabilities, hdemo]
        | «local» | isolatedE2E | production =>
          have hdemo : ¬isStagingDemoMode parsers env = true := fun h => by
            simpa [hprofile] using hstaging h
          simp [profileCapabilities, hdemo]

theorem constructsLocalSigned_iff :
    ConstructsLocalSigned parsers env ↔
      permitsSimulatedPaymentProvider parsers env ∧
        ∃ secret, env "LOCAL_PAYMENT_WEBHOOK_SECRET" = some secret ∧ 32 ≤ utf16Length secret := by
  have hsource : Function.update env "NODE_ENV" (some "production") = env := by
    rw [← hproduction, Function.update_eq_self]
  simp only [ConstructsLocalSigned, LocalSignedPaymentProvider.construct, hproduction, hsource,
    Except.bind_unit_eq_ok, ensure_eq_ok, true_and, not_not]
  constructor
  · rintro ⟨secret, provider, hsecret, hpermits, hlength, -⟩
    exact ⟨hpermits, secret, hsecret, hlength⟩
  · rintro ⟨hpermits, secret, hsecret, hlength⟩
    exact ⟨secret, _, hsecret, hpermits, hlength, rfl⟩

theorem acceptsLocalSigned_iff :
    AcceptsLocalSigned parsers env ↔
      ProvedException parsers env ∧ env "PAYMENT_PROVIDER" = some "LOCAL_SIGNED" ∧
        PaymentVariablesWellFormed parsers env := by
  constructor
  · rintro ⟨environment, hread, hselected, secret, hsecret, -⟩
    obtain ⟨hfields, hrules⟩ := readPaymentEnvironment_eq_ok.mp hread
    obtain ⟨hnode, hlocal⟩ := accepts_paymentFields_read hproduction hfields
    obtain ⟨hprovider, hformed⟩ := (exists_accepts_paymentFields hproduction).mp
      ⟨environment, hfields, hnode, hselected, hlocal⟩
    refine ⟨?_, hprovider, hformed⟩
    simp only [paymentRules, List.append_eq_nil_iff, issueUnless_eq_nil] at hrules
    by_contra hproved
    simp only [ProvedException, not_or] at hproved
    exact hrules.1.2 ⟨hnode, hselected, hproved.1, hproved.2⟩
  · rintro ⟨hproved, hprovider, hformed⟩
    obtain ⟨environment, hfields, hnode, hselected, hlocal⟩ :=
      (exists_accepts_paymentFields hproduction).mpr ⟨hprovider, hformed⟩
    obtain ⟨secret, hsecret, hne, hlength⟩ :=
      exists_secret_of_holdsLocalSecret hproved.holdsLocalSecret
    rw [hsecret] at hlocal
    refine ⟨environment, readPaymentEnvironment_eq_ok.mpr ⟨hfields, ?_⟩, hselected, secret,
      hlocal, hlength⟩
    simp only [paymentRules, List.append_eq_nil_iff, issueUnless_eq_nil]
    refine ⟨⟨?_, ?_⟩, ?_⟩
    · simp [hlocal, truthy, hne]
    · rintro ⟨-, -, he2e, hstaging⟩
      exact hproved.elim he2e hstaging
    · rw [if_neg (by rw [hselected]; decide)]

/-- **When the two guards agree.** An environment that proves no exception must not declare
itself `local`; one that proves one must select the simulated provider and set no payment
variable to a malformed value. -/
theorem simulationGuarded_iff :
    SimulationGuarded parsers env ↔
      (ProvedException parsers env → env "PAYMENT_PROVIDER" = some "LOCAL_SIGNED" ∧
        PaymentVariablesWellFormed parsers env) ∧
      (¬ProvedException parsers env → env "SEATFLOW_DEPLOYMENT_PROFILE" ≠ some "local") := by
  unfold SimulationGuarded
  rw [permitsSimulatedPaymentProvider_iff hproduction, constructsLocalSigned_iff hproduction,
    permitsSimulatedPaymentProvider_iff hproduction, acceptsLocalSigned_iff hproduction]
  by_cases hproved : ProvedException parsers env
  · obtain ⟨secret, hsecret, -, hlength⟩ :=
      exists_secret_of_holdsLocalSecret hproved.holdsLocalSecret
    have hheld : ∃ secret, env "LOCAL_PAYMENT_WEBHOOK_SECRET" = some secret ∧
        32 ≤ utf16Length secret := ⟨secret, hsecret, hlength⟩
    simp [hproved, hheld]
  · simp only [hproved, false_or, imp_false, false_and, iff_false, not_and, false_imp_iff,
      not_false_eq_true, true_and, true_imp_iff]
    constructor
    · rintro ⟨hlocal, -⟩
      exact hlocal
    · intro hlocal
      exact ⟨hlocal, fun h => absurd h hlocal⟩

end Production

/-! ## §6 Two environments -/

/-- The runtime's parsers on the texts of the two environments below. -/
def demoParsers : Parsers where
  url text :=
    if text = "https://seatflow-staging.vercel.app" then
      some { protocol := "https:", hostname := "seatflow-staging.vercel.app", pathname := "/" }
    else none
  coerceInteger _ := none
  isoDatetime _ := false

/-- A staging demo as the documentation describes it. -/
def stagingDemo : EnvironmentSource := fun name =>
  [("NODE_ENV", "production"),
    ("SEATFLOW_DEPLOYMENT_PROFILE", "staging-demo"),
    ("BETTER_AUTH_URL", "https://seatflow-staging.vercel.app"),
    ("NEXT_PUBLIC_APP_URL", "https://seatflow-staging.vercel.app"),
    ("PAYMENT_PROVIDER", "LOCAL_SIGNED"),
    ("LOCAL_PAYMENT_WEBHOOK_SECRET", "staging-demo-simulated-secret-9f3a2c7b81de44")].lookup name

/-- A production build that declares itself a developer machine. -/
def declaredLocal : EnvironmentSource := fun name =>
  [("NODE_ENV", "production"),
    ("SEATFLOW_DEPLOYMENT_PROFILE", "local"),
    ("PAYMENT_PROVIDER", "LOCAL_SIGNED"),
    ("LOCAL_PAYMENT_WEBHOOK_SECRET", "staging-demo-simulated-secret-9f3a2c7b81de44")].lookup name

theorem simulationGuarded_stagingDemo :
    stagingDemo "NODE_ENV" = some "production" ∧ SimulationGuarded demoParsers stagingDemo := by
  have hproved : ProvedException demoParsers stagingDemo := .inr (by decide +kernel)
  refine ⟨rfl, (simulationGuarded_iff rfl).mpr ⟨fun _ => ⟨rfl, ?_⟩, fun h => absurd hproved h⟩⟩
  constructor
  case localSecret =>
    intro text htext
    obtain rfl := Option.some.inj htext
    decide +kernel
  all_goals
    intro text htext
    exact nomatch htext

theorem declaredLocal_unguarded : ¬SimulationGuarded demoParsers declaredLocal := by
  intro h
  have hpermits : permitsSimulatedPaymentProvider demoParsers declaredLocal = true := by
    decide +kernel
  rcases h.1 hpermits with he2e | hstaging
  · exact absurd he2e (by decide +kernel)
  · exact absurd hstaging (by decide +kernel)

end SeatFlow
