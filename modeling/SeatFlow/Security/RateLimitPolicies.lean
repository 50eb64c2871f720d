import SeatFlow.Relational.Entity
import SeatFlow.Security.Hmac
import SeatFlow.Text.CodeUnits

/-!
# Rate-limit policies and keys

A policy says what its counters count: addresses, subjects, both, or everything. A counter's key is
made of the policy's name and of digests of what is counted, each under its own label, so that
requests share a counter when they are counted as one and, digests apart, only then.
-/

namespace SeatFlow

open Relational Text

/-! ## §1 Policies -/

inductive RateLimitFailureMode
  | fail_open | fail_closed
  deriving DecidableEq

inductive RateLimitScope
  | ip | subject | subject_and_ip | global
  deriving DecidableEq

structure RateLimitPolicy where
  name : String
  limit : Nat
  windowSeconds : Nat
  scope : RateLimitScope
  failureMode : RateLimitFailureMode
  deriving DecidableEq

inductive RateLimitPolicyName
  | auth_login | auth_register | checkout_create | payment_initiate | payment_webhook | ticket_qr
  | ticket_pdf_grant | ticket_pdf_download | ticket_validate | realtime_room_ticket
  | inventory_snapshot | operations_health | operations_admin
  deriving DecidableEq

/-- `RATE_LIMIT_POLICIES`. -/
def getRateLimitPolicy : RateLimitPolicyName → RateLimitPolicy
  | .auth_login => ⟨"auth.login", 10, 300, .ip, .fail_open⟩
  | .auth_register => ⟨"auth.register", 5, 3600, .ip, .fail_open⟩
  | .checkout_create => ⟨"checkout.create", 20, 300, .subject_and_ip, .fail_open⟩
  | .payment_initiate => ⟨"payment.initiate", 20, 300, .subject_and_ip, .fail_open⟩
  | .payment_webhook => ⟨"payment.webhook", 600, 60, .global, .fail_open⟩
  | .ticket_qr => ⟨"ticket.qr", 60, 60, .subject, .fail_open⟩
  | .ticket_pdf_grant => ⟨"ticket.pdf_grant", 10, 300, .subject, .fail_open⟩
  | .ticket_pdf_download => ⟨"ticket.pdf_download", 30, 300, .subject, .fail_open⟩
  | .ticket_validate => ⟨"ticket.validate", 120, 60, .subject_and_ip, .fail_open⟩
  | .realtime_room_ticket => ⟨"realtime.room_ticket", 60, 60, .subject_and_ip, .fail_open⟩
  | .inventory_snapshot => ⟨"inventory.snapshot", 120, 60, .subject_and_ip, .fail_open⟩
  | .operations_health => ⟨"operations.health", 60, 60, .subject, .fail_open⟩
  | .operations_admin => ⟨"operations.admin", 30, 60, .subject, .fail_closed⟩

inductive RateLimitSource
  | distributed | process | unavailable
  deriving DecidableEq

structure RateLimitDecision where
  allowed : Bool
  source : RateLimitSource
  retryAfterSeconds : Nat
  deriving DecidableEq

/-- Of a count, when the backend answered, or of what the process-local limiter said. -/
def decideRateLimit (policy : RateLimitPolicy) (count : Option Nat) (backendAvailable : Bool)
    (localAllowed : Option Bool) : RateLimitDecision :=
  let byFailureMode (source : RateLimitSource) : RateLimitDecision :=
    { allowed := policy.failureMode == .fail_open, source := source
      retryAfterSeconds := if policy.failureMode = .fail_open then 0 else policy.windowSeconds }
  match count.filter fun _ => backendAvailable with
  | some count =>
      { allowed := count ≤ policy.limit, source := .distributed
        retryAfterSeconds := if count ≤ policy.limit then 0 else policy.windowSeconds }
  | none =>
      match localAllowed with
      | some false =>
          { allowed := false, source := .process, retryAfterSeconds := policy.windowSeconds }
      | some true => byFailureMode .process
      | none => byFailureMode .unavailable

/-! ## §2 Keys -/

def DERIVATION_LABEL : String := "seatflow:rate-limit-subject:v1"

def CLIENT_KEY_LENGTH : Nat := 32

inductive KeyDimension
  | ip | subject | global
  deriving DecidableEq

def KeyDimension.text : KeyDimension → String
  | .ip => "ip"
  | .subject => "subject"
  | .global => "global"

def clientKeyText (environment : String) (dimension : KeyDimension) (value : String) : String :=
  DERIVATION_LABEL ++ ":" ++ environment ++ ":" ++ dimension.text ++ ":" ++ value

/-- What an HMAC is cut to. -/
def Hmac.clientKey (hmac : Hmac) (secret text : String) : String :=
  String.ofList ((hmac.hex secret text).toList.take CLIENT_KEY_LENGTH)

def deriveClientKey (hmac : Hmac) (environment secret value : String) (dimension : KeyDimension) :
    Except String String :=
  if utf16Length secret < 32 then .error "Rate-limit key secret is invalid."
  else .ok (hmac.clientKey secret (clientKeyText environment dimension value))

/-- Who a request comes from. -/
structure RateLimitSubject where
  subjectId : Option String := none
  address : Option String := none
  deriving DecidableEq

/-- `value || null`. -/
def nonEmpty (value : Option String) : Option String :=
  value.filter (· ≠ "")

def buildRateLimitSubject (hmac : Hmac) (environment secret : String) (policy : RateLimitPolicy)
    (input : RateLimitSubject) : Except String (Option String) :=
  let hash (value : String) (dimension : KeyDimension) :=
    deriveClientKey hmac environment secret value dimension
  let subjectId := nonEmpty input.subjectId
  let address := nonEmpty input.address
  match policy.scope with
  | .global => some <$> hash policy.name .global
  | .ip => address.mapM fun value => hash value .ip
  | .subject => subjectId.mapM fun value => hash value .subject
  | .subject_and_ip =>
      if subjectId = none ∧ address = none then .ok none
      else do
        let subject ← (subjectId.map fun value => hash value .subject).getD (.ok "anon")
        let network ← (address.map fun value => hash value .ip).getD (.ok "noaddr")
        .ok (some (subject ++ "." ++ network))

/-- `[a-z0-9._-]`, in either case. -/
def isKeyCharacter (c : Char) : Bool :=
  c.isAlphanum || c == '.' || c == '_' || c == '-'

/-- `KEY_SEGMENT_PATTERN`. -/
def isKeySegment (segment : List Char) : Bool :=
  1 ≤ segment.length && segment.length ≤ 96 && segment.all isKeyCharacter

/-- `KEY_PREFIX_PATTERN`. -/
def isKeyNamespace (text : List Char) : Bool :=
  1 ≤ text.length && text.length ≤ 96 && text.all fun c => isKeyCharacter c || c == ':'

def policySegment (policyName : String) : List Char :=
  policyName.toList.filter isKeyCharacter

def buildRateLimitKey (keyNamespace policyName subject : String) : Except String String :=
  if !isKeyNamespace keyNamespace.toList then .error "Rate-limit key prefix is invalid."
  else if !isKeySegment (policySegment policyName) || !isKeySegment subject.toList then
    .error "Rate-limit key segment is invalid."
  else .ok (keyNamespace ++ ":ratelimit:" ++ String.ofList (policySegment policyName) ++ ":" ++
    subject)

/-! ## §3 Requests that share a counter -/

/-- What a policy counts of a request. -/
def RateLimitScope.counted (scope : RateLimitScope) (input : RateLimitSubject) :
    RateLimitSubject :=
  match scope with
  | .global => {}
  | .ip => { address := nonEmpty input.address }
  | .subject => { subjectId := nonEmpty input.subjectId }
  | .subject_and_ip =>
      { subjectId := nonEmpty input.subjectId, address := nonEmpty input.address }

/-- The texts that are digested for it. -/
def digestedTexts (environment : String) (policy : RateLimitPolicy) (input : RateLimitSubject) :
    List String :=
  let subjects := (nonEmpty input.subjectId).toList.map (clientKeyText environment .subject)
  let addresses := (nonEmpty input.address).toList.map (clientKeyText environment .ip)
  match policy.scope with
  | .global => [clientKeyText environment .global policy.name]
  | .ip => addresses
  | .subject => subjects
  | .subject_and_ip => subjects ++ addresses

/-- Different texts with one key. -/
def Hmac.Collides (hmac : Hmac) (secret : String) (texts texts' : List String) : Prop :=
  ∃ text ∈ texts, ∃ text' ∈ texts', text ≠ text' ∧
    hmac.clientKey secret text = hmac.clientKey secret text'

instance (hmac : Hmac) (secret : String) (texts texts' : List String) :
    Decidable (hmac.Collides secret texts texts') :=
  inferInstanceAs (Decidable (∃ text ∈ texts, ∃ text' ∈ texts', _ ∧ _))

section Keys

variable {hmac : Hmac} {environment secret : String} {keyNamespace : String}

theorem isKeyCharacter_ne {c d : Char} (h : isKeyCharacter c = true)
    (hd : isKeyCharacter d = false) :
    c ≠ d := by
  rintro rfl
  rw [h] at hd
  cases hd

theorem policySegment_notMem (policyName : String) : ':' ∉ policySegment policyName := by
  intro hmem
  have hchar := (List.mem_filter.mp hmem).2
  exact isKeyCharacter_ne hchar (by decide) rfl

theorem toList_rateLimitKey {policyName subject key : String}
    (h : buildRateLimitKey keyNamespace policyName subject = .ok key) :
    key.toList = (keyNamespace ++ ":ratelimit:").toList ++
      (policySegment policyName ++ ':' :: subject.toList) := by
  unfold buildRateLimitKey at h
  split at h
  · cases h
  · split at h
    · cases h
    · rw [← Except.ok.inj h]
      simp

/-- A key names its policy and its subject. -/
theorem buildRateLimitKey_inj {policyName policyName' subject subject' key : String}
    (h : buildRateLimitKey keyNamespace policyName subject = .ok key)
    (h' : buildRateLimitKey keyNamespace policyName' subject' = .ok key) :
    policySegment policyName = policySegment policyName' ∧ subject = subject' := by
  have hkey := (toList_rateLimitKey h).symm.trans (toList_rateLimitKey h')
  obtain ⟨hpolicy, hsubject⟩ := separated_inj (policySegment_notMem policyName)
    (policySegment_notMem policyName') (List.append_cancel_left hkey)
  exact ⟨hpolicy, String.toList_inj.mp hsubject⟩

theorem policySegment_policy {n n' : RateLimitPolicyName}
    (h : policySegment (getRateLimitPolicy n).name = policySegment (getRateLimitPolicy n').name) :
    n = n' := by
  cases n <;> cases n' <;> first | rfl | exact absurd h (by decide)

theorem KeyDimension.text_notMem (dimension : KeyDimension) : ':' ∉ dimension.text.toList := by
  cases dimension <;> decide

/-- The label, the environment, the dimension and the value can be told apart. -/
theorem clientKeyText_inj {dimension dimension' : KeyDimension} {value value' : String}
    (h : clientKeyText environment dimension value = clientKeyText environment dimension' value') :
    dimension = dimension' ∧ value = value' := by
  have htext := congrArg String.toList h
  simp only [clientKeyText, String.toList_append, List.append_assoc] at htext
  have hrest := List.append_cancel_left (List.append_cancel_left (List.append_cancel_left
    (List.append_cancel_left htext)))
  obtain ⟨hdimension, hvalue⟩ :=
    separated_inj dimension.text_notMem dimension'.text_notMem hrest
  refine ⟨?_, String.toList_inj.mp hvalue⟩
  cases dimension <;> cases dimension' <;> first | rfl | exact absurd hdimension (by decide)

theorem toList_clientKey (text : String) :
    (hmac.clientKey secret text).toList.length = 32 ∧
      ∀ c ∈ (hmac.clientKey secret text).toList, c ∈ hexDigits := by
  rw [Hmac.clientKey, String.toList_ofList]
  refine ⟨?_, fun c hc => Hmac.hex_mem (List.mem_of_mem_take hc)⟩
  rw [List.length_take, Hmac.length_hex]
  decide

theorem deriveClientKey_eq_ok {value key : String} {dimension : KeyDimension}
    (h : deriveClientKey hmac environment secret value dimension = .ok key) :
    key = hmac.clientKey secret (clientKeyText environment dimension value) := by
  unfold deriveClientKey at h
  split at h
  · cases h
  · exact (Except.ok.inj h).symm

theorem mapM_deriveClientKey {value : Option String} {dimension : KeyDimension} {key : String}
    (h : (value.mapM fun value => deriveClientKey hmac environment secret value dimension) =
      .ok (some key)) :
    ∃ v, value = some v ∧ key = hmac.clientKey secret (clientKeyText environment dimension v) := by
  cases value with
  | none => cases h
  | some v =>
    obtain ⟨key', hkey', hsome⟩ := Except.bind_eq_ok.mp h
    refine ⟨v, rfl, ?_⟩
    rw [← Option.some.inj (Except.ok.inj hsome)]
    exact deriveClientKey_eq_ok hkey'

/-- A part of a joint subject: a key, or a word that is no key. -/
theorem getD_deriveClientKey {value : Option String} {dimension : KeyDimension}
    {fallback part : String}
    (h : (value.map fun value => deriveClientKey hmac environment secret value dimension).getD
      (.ok fallback) = .ok part) :
    part = (value.map fun v =>
      hmac.clientKey secret (clientKeyText environment dimension v)).getD fallback := by
  cases value with
  | none => exact (Except.ok.inj h).symm
  | some v => exact deriveClientKey_eq_ok h

/-- Of the same dimension, one key is one value, or there is a collision. -/
theorem clientKey_inj {dimension : KeyDimension} {v v' : String}
    (h : hmac.clientKey secret (clientKeyText environment dimension v) =
      hmac.clientKey secret (clientKeyText environment dimension v')) :
    v = v' ∨ hmac.Collides secret [clientKeyText environment dimension v]
      [clientKeyText environment dimension v'] := by
  by_cases hsame : clientKeyText environment dimension v = clientKeyText environment dimension v'
  · exact .inl (clientKeyText_inj hsame).2
  · exact .inr ⟨_, List.mem_singleton_self _, _, List.mem_singleton_self _, hsame, h⟩

theorem getD_clientKey_inj {value value' : Option String} {dimension : KeyDimension}
    {fallback : String} (hfallback : fallback.toList.length ≠ 32)
    (h : (value.map fun v =>
        hmac.clientKey secret (clientKeyText environment dimension v)).getD fallback =
      (value'.map fun v =>
        hmac.clientKey secret (clientKeyText environment dimension v)).getD fallback) :
    value = value' ∨ hmac.Collides secret
      (value.toList.map (clientKeyText environment dimension))
      (value'.toList.map (clientKeyText environment dimension)) := by
  have hlength : ∀ v, hmac.clientKey secret (clientKeyText environment dimension v) ≠ fallback := by
    rintro v rfl
    exact hfallback (toList_clientKey _).1
  cases value with
  | none =>
    cases value' with
    | none => exact .inl rfl
    | some v' => exact absurd h.symm (hlength v')
  | some v =>
    cases value' with
    | none => exact absurd h (hlength v)
    | some v' => exact (clientKey_inj h).imp_left (congrArg some)

theorem dot_notMem_getD {value : Option String} {dimension : KeyDimension} :
    '.' ∉ ((value.map fun v =>
      hmac.clientKey secret (clientKeyText environment dimension v)).getD "anon").toList := by
  cases value with
  | none => exact (by decide : '.' ∉ "anon".toList)
  | some v =>
    intro hmem
    exact absurd ((toList_clientKey _).2 _ hmem) (by decide)

theorem Hmac.Collides.mono {texts texts' more more' : List String}
    (h : hmac.Collides secret texts texts')
    (hmore : texts ⊆ more) (hmore' : texts' ⊆ more') : hmac.Collides secret more more' := by
  obtain ⟨text, htext, text', htext', hcollision⟩ := h
  exact ⟨text, hmore htext, text', hmore' htext', hcollision⟩

variable {n n' : RateLimitPolicyName} {input input' : RateLimitSubject}
  {subject subject' key key' : String}

/-- The subjects of one policy. -/
theorem buildRateLimitSubject_inj {policy : RateLimitPolicy}
    (h : buildRateLimitSubject hmac environment secret policy input = .ok (some subject))
    (h' : buildRateLimitSubject hmac environment secret policy input' = .ok (some subject)) :
    policy.scope.counted input = policy.scope.counted input' ∨ hmac.Collides secret
      (digestedTexts environment policy input) (digestedTexts environment policy input') := by
  unfold buildRateLimitSubject at h h'
  dsimp only at h h'
  unfold RateLimitScope.counted digestedTexts
  cases hscope : policy.scope <;> rw [hscope] at h h' <;> dsimp only at h h' ⊢
  case global => exact .inl rfl
  case ip =>
    obtain ⟨v, hv, hkey⟩ := mapM_deriveClientKey h
    obtain ⟨v', hv', hkey'⟩ := mapM_deriveClientKey h'
    rw [hv, hv']
    exact (clientKey_inj (hkey.symm.trans hkey')).imp_left fun hsame => by rw [hsame]
  case subject =>
    obtain ⟨v, hv, hkey⟩ := mapM_deriveClientKey h
    obtain ⟨v', hv', hkey'⟩ := mapM_deriveClientKey h'
    rw [hv, hv']
    exact (clientKey_inj (hkey.symm.trans hkey')).imp_left fun hsame => by rw [hsame]
  case subject_and_ip =>
    split at h
    · cases h
    split at h'
    · cases h'
    obtain ⟨part, hpart, h⟩ := Except.bind_eq_ok.mp h
    obtain ⟨network, hnetwork, h⟩ := Except.bind_eq_ok.mp h
    obtain ⟨part', hpart', h'⟩ := Except.bind_eq_ok.mp h'
    obtain ⟨network', hnetwork', h'⟩ := Except.bind_eq_ok.mp h'
    have hjoined := (Except.ok.inj h).trans (Except.ok.inj h').symm
    rw [getD_deriveClientKey hpart, getD_deriveClientKey hpart', getD_deriveClientKey hnetwork,
      getD_deriveClientKey hnetwork'] at hjoined
    have htext := congrArg String.toList (Option.some.inj hjoined)
    simp only [String.toList_append, List.append_assoc] at htext
    obtain ⟨hfirst, hsecond⟩ := separated_inj dot_notMem_getD dot_notMem_getD htext
    rcases getD_clientKey_inj (by decide) (String.toList_inj.mp hfirst) with hsubject | hcollision
    · rcases getD_clientKey_inj (by decide)
        (String.toList_inj.mp hsecond) with haddress | hcollision
      · rw [hsubject, haddress]
        exact .inl rfl
      · exact .inr (hcollision.mono (List.subset_append_right _ _) (List.subset_append_right _ _))
    · exact .inr (hcollision.mono (List.subset_append_left _ _) (List.subset_append_left _ _))

/-- What is counted decides the subject. -/
theorem buildRateLimitSubject_congr {policy : RateLimitPolicy}
    (h : policy.scope.counted input = policy.scope.counted input') :
    buildRateLimitSubject hmac environment secret policy input =
      buildRateLimitSubject hmac environment secret policy input' := by
  unfold RateLimitScope.counted at h
  unfold buildRateLimitSubject
  cases hscope : policy.scope <;> rw [hscope] at h <;>
    simp_all only [RateLimitSubject.mk.injEq, true_and, and_true]

/-- **Who shares a counter.** As long as no two different texts that are digested for two requests
have one digest, the two are counted together exactly when they are made under one policy and agree
in what it counts. -/
theorem rateLimitKey_eq_iff
    (hsubject : buildRateLimitSubject hmac environment secret (getRateLimitPolicy n) input =
      .ok (some subject))
    (hsubject' : buildRateLimitSubject hmac environment secret (getRateLimitPolicy n') input' =
      .ok (some subject'))
    (hkey : buildRateLimitKey keyNamespace (getRateLimitPolicy n).name subject = .ok key)
    (hkey' : buildRateLimitKey keyNamespace (getRateLimitPolicy n').name subject' = .ok key')
    (hdigests : ¬hmac.Collides secret (digestedTexts environment (getRateLimitPolicy n) input)
      (digestedTexts environment (getRateLimitPolicy n') input')) :
    key = key' ↔ n = n' ∧ (getRateLimitPolicy n).scope.counted input =
      (getRateLimitPolicy n).scope.counted input' := by
  constructor
  · rintro rfl
    obtain ⟨hpolicy, rfl⟩ := buildRateLimitKey_inj hkey hkey'
    cases policySegment_policy hpolicy
    exact ⟨rfl, (buildRateLimitSubject_inj hsubject hsubject').resolve_right hdigests⟩
  · rintro ⟨rfl, hcounted⟩
    rw [buildRateLimitSubject_congr hcounted, hsubject'] at hsubject
    cases Option.some.inj (Except.ok.inj hsubject)
    exact Except.ok.inj (hkey.symm.trans hkey')

end Keys

section TwoReaders

/-- HMAC-SHA-256 of the subjects `user_1` and, in the place of all other texts, `user_2`. -/
def readersHmac : Hmac where
  digest _ message :=
    if message = utf8 (clientKeyText "test" .subject "user_1") then
      [ 51, 48, 168, 104, 191, 200, 169, 182, 98, 36, 118, 249, 200, 14, 210, 5,
        226, 162, 229, 62, 189, 3, 224, 37, 36, 104, 185, 99, 193, 126, 75, 52 ]
    else
      [ 198, 108, 182, 168, 227, 32, 182, 158, 232, 135, 205, 5, 154, 2, 68, 218,
        2, 232, 237, 218, 104, 47, 149, 220, 21, 197, 32, 176, 77, 242, 221, 90 ]
  length_digest _ _ := by
    split <;> rfl

def readersSecret : String := "0123456789abcdef0123456789abcdef"

/-- Two readers of tickets. -/
theorem rateLimitKey_eq_iff_readers :
    ∃ key key', buildRateLimitKey "seatflow:test" "ticket.qr" "3330a868bfc8a9b6622476f9c80ed205" =
        .ok key ∧
      buildRateLimitKey "seatflow:test" "ticket.qr" "c66cb6a8e320b69ee887cd059a0244da" = .ok key' ∧
      (key = key' ↔ RateLimitPolicyName.ticket_qr = .ticket_qr ∧
        RateLimitScope.subject.counted { subjectId := some "user_1" } =
          RateLimitScope.subject.counted { subjectId := some "user_2" }) := by
  have hfirst : buildRateLimitSubject readersHmac "test" readersSecret
      (getRateLimitPolicy .ticket_qr) { subjectId := some "user_1" } =
        .ok (some "3330a868bfc8a9b6622476f9c80ed205") := by
    decide +kernel
  have hsecond : buildRateLimitSubject readersHmac "test" readersSecret
      (getRateLimitPolicy .ticket_qr) { subjectId := some "user_2" } =
        .ok (some "c66cb6a8e320b69ee887cd059a0244da") := by
    decide +kernel
  have hkey : buildRateLimitKey "seatflow:test" (getRateLimitPolicy .ticket_qr).name
      "3330a868bfc8a9b6622476f9c80ed205" =
        .ok "seatflow:test:ratelimit:ticket.qr:3330a868bfc8a9b6622476f9c80ed205" := by
    decide +kernel
  have hkey' : buildRateLimitKey "seatflow:test" (getRateLimitPolicy .ticket_qr).name
      "c66cb6a8e320b69ee887cd059a0244da" =
        .ok "seatflow:test:ratelimit:ticket.qr:c66cb6a8e320b69ee887cd059a0244da" := by
    decide +kernel
  exact ⟨_, _, hkey, hkey', rateLimitKey_eq_iff hfirst hsecond hkey hkey' (by decide +kernel)⟩

end TwoReaders

end SeatFlow
