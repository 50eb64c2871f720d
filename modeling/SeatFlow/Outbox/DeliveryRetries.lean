import SeatFlow.Outbox.NotificationDispatcher

/-!
# Delivering again

Several dispatchers work at once. The transaction of a row locks it, loads it, creates the grant
and sends the message, and records the answer when it commits; it may be rolled back anywhere,
by a failure, by the end of its process or of its connection, and the row is then taken again. What
was sent stays sent.
-/

namespace SeatFlow

open Relational

abbrev SenderId := Nat

/-! ## §1 Tokens and sends -/

/-- The token of a derived grant. An HMAC is known by its secret and its text. -/
structure DownloadGrantToken where
  secret : String
  idempotencySubject : DeliveryAttemptKey
  deriving DecidableEq

def deriveDownloadGrantToken (idempotencySubject : DeliveryAttemptKey) (secret : String) :
    DownloadGrantToken :=
  { secret, idempotencySubject }

/-- What is handed to the provider, and the attempts that the row has had as committed then. -/
structure NotificationSend where
  outboxId : NotificationId
  attemptCount : Nat
  message : NotificationMessage
  token : DownloadGrantToken
  deriving DecidableEq

inductive NotificationEvent
  | sent (send : NotificationSend)
  | recorded (key : DeliveryAttemptKey) (result : NotificationSendResult)
  | rolledBack (dispatcher : SenderId)
  deriving DecidableEq

/-! ## §2 The transaction of a row in its parts -/

/-- Up to the message; the grants are those that the transaction sees. -/
def prepareNotification (world : NotificationWorld) (config : NotificationDispatcherConfiguration)
    (now : Time) (grants : Table DeliveryAttemptKey TicketDownloadGrant) (id : NotificationId)
    (row : NotificationOutbox) :
    Except Failure (Table DeliveryAttemptKey TicketDownloadGrant × NotificationMessage) := do
  let (bookingId, booking) ← loadNotificationBooking world row
  let deliveryAttemptKey := (id, row.attemptCount + 1)
  let granted ← createBookingPdfGrant world config.downloadGrantTtlMinutes now grants
    deliveryAttemptKey row.recipientUserId bookingId
  match granted with
  | none => .error (.domain "PERMANENT_NOTIFICATION_GRANT_FAILED")
  | some granted => do
      let message ← renderNotification world row booking deliveryAttemptKey
      pure (granted, message)

/-- From the answer on. Of the grants that the transaction saw it has written its own. -/
def recordNotification (config : NotificationDispatcherConfiguration) (now : Time)
    (state : Notifications) (id : NotificationId) (row : NotificationOutbox)
    (granted : Table DeliveryAttemptKey TicketDownloadGrant) (result : NotificationSendResult) :
    Except Failure (NotificationOutbox × Notifications) := do
  let deliveryAttemptKey := (id, row.attemptCount + 1)
  let attempts ← createDeliveryAttempt state.attempts deliveryAttemptKey
    { result := result, startedAt := now }
  let written ← row.finished config now result
  pure (written,
    { outbox := state.outbox.insert id written
      grants := (granted.lookup deliveryAttemptKey).elim state.grants
        (state.grants.insert deliveryAttemptKey)
      attempts := attempts })

/-- A transaction that nothing interrupts is its parts one after the other. -/
theorem dispatchNotification_eq_parts {world : NotificationWorld}
    {config : NotificationDispatcherConfiguration} {provider : NotificationMessage → SendAnswer}
    {now : Time} {state state' : Notifications} {id : NotificationId}
    {row written : NotificationOutbox} :
    dispatchNotification world config provider now state id row = .ok (written, state') ↔
      ∃ granted message,
        prepareNotification world config now state.grants id row = .ok (granted, message) ∧
        recordNotification config now state id row granted (provider message).result
          = .ok (written, state') := by
  have hgranted : ∀ {userId bookingId granted},
      createBookingPdfGrant world config.downloadGrantTtlMinutes now state.grants
        (id, row.attemptCount + 1) userId bookingId = .ok (some granted) →
      (granted.lookup (id, row.attemptCount + 1)).elim state.grants
        (state.grants.insert (id, row.attemptCount + 1)) = granted := by
    intro userId bookingId granted h
    unfold createBookingPdfGrant at h
    split at h
    · cases h
    · split at h
      · dsimp only at h
        split at h
        · cases h
        · split at h
          · cases h
          · cases h
            rw [AList.lookup_insert]
            rfl
      · cases h
  rw [Notifications.dispatchNotification_eq_ok]
  unfold prepareNotification recordNotification
  constructor
  · rintro ⟨bookingId, booking, granted, message, attempts, hload, hgrant, hrender, hattempt,
      hfinish, rfl⟩
    refine ⟨granted, message, ?_, ?_⟩
    · exact Except.bind_eq_ok.mpr ⟨_, hload, Except.bind_eq_ok.mpr
        ⟨_, hgrant, Except.bind_eq_ok.mpr ⟨message, hrender, rfl⟩⟩⟩
    · refine Except.bind_eq_ok.mpr ⟨attempts, hattempt, ?_⟩
      refine Except.bind_eq_ok.mpr ⟨written, hfinish, ?_⟩
      rw [hgranted hgrant]
      rfl
  · rintro ⟨granted, message, hprepare, hrecord⟩
    obtain ⟨⟨bookingId, booking⟩, hload, hprepare⟩ := Except.bind_eq_ok.mp hprepare
    obtain ⟨made, hgrant, hprepare⟩ := Except.bind_eq_ok.mp hprepare
    cases made with
    | none => cases hprepare
    | some made =>
        obtain ⟨message', hrender, hprepare⟩ := Except.bind_eq_ok.mp hprepare
        cases hprepare
        obtain ⟨attempts, hattempt, hrecord⟩ := Except.bind_eq_ok.mp hrecord
        obtain ⟨written', hfinish, hrecord⟩ := Except.bind_eq_ok.mp hrecord
        cases hrecord
        rw [hgranted hgrant]
        exact ⟨bookingId, booking, granted, message, attempts, hload, hgrant, hrender, hattempt,
          hfinish, rfl⟩

/-- How far a transaction has come. -/
inductive NotificationStage
  | locked
  | loaded (row : NotificationOutbox)
  | sent (row : NotificationOutbox) (granted : Table DeliveryAttemptKey TicketDownloadGrant)

structure NotificationClaim where
  outboxId : NotificationId
  now : Time
  stage : NotificationStage := .locked

/-! ## §3 Many dispatchers -/

structure DeliverySystem where
  world : NotificationWorld
  state : Notifications
  claims : Table SenderId NotificationClaim := ∅
  log : List NotificationEvent := []

inductive DeliveryAction
  | claim (dispatcher : SenderId) (id : NotificationId) (now : Time)
  | load (dispatcher : SenderId)
  | send (dispatcher : SenderId)
  | answer (dispatcher : SenderId) (answer : SendAnswer)
  | rollBack (dispatcher : SenderId)
  | enqueue (id : NotificationId) (row : NotificationOutbox)
  | reschedule (id : NotificationId) (availableAt : Time)
  | change (world : NotificationWorld)

namespace DeliverySystem

def Locked (sys : DeliverySystem) (id : NotificationId) : Bool :=
  sys.claims.any fun _ claim => claim.outboxId = id

def logs (sys : DeliverySystem) (event : NotificationEvent) : DeliverySystem :=
  { sys with log := sys.log ++ [event] }

def moves (sys : DeliverySystem) (d : SenderId) (claim : NotificationClaim) : DeliverySystem :=
  { sys with claims := sys.claims.insert d claim }

def releases (sys : DeliverySystem) (d : SenderId) : DeliverySystem :=
  { sys with claims := sys.claims.erase d }

/-- The row is locked, so that the committed one is the one that was loaded. -/
def sends (sys : DeliverySystem) (d : SenderId) (claim : NotificationClaim)
    (row current : NotificationOutbox) (secret : String)
    (granted : Table DeliveryAttemptKey TicketDownloadGrant) (message : NotificationMessage) :
    DeliverySystem :=
  (sys.moves d { claim with stage := .sent row granted }).logs
    (.sent
      { outboxId := claim.outboxId
        attemptCount := current.attemptCount
        message := message
        token := deriveDownloadGrantToken (claim.outboxId, row.attemptCount + 1) secret })

/-- One step of these dispatchers, whose grants are derived with this secret. The claim takes any
due row that nobody has locked: rows may have come and locks may have gone since its snapshot. -/
def step (config : SenderId → NotificationDispatcherConfiguration) (secret : String)
    (sys : DeliverySystem) : DeliveryAction → Option DeliverySystem
  | .claim d id now =>
      match sys.claims.lookup d, sys.state.outbox.lookup id with
      | none, some row =>
          if row.status = .PENDING ∧ row.availableAt ≤ now ∧ sys.Locked id = false then
            some (sys.moves d { outboxId := id, now := now })
          else none
      | _, _ => none
  | .load d =>
      match sys.claims.lookup d with
      | some claim =>
          match claim.stage, sys.state.outbox.lookup claim.outboxId with
          | .locked, some row => some (sys.moves d { claim with stage := .loaded row })
          | _, _ => none
      | none => none
  | .send d =>
      match sys.claims.lookup d with
      | some claim =>
          match claim.stage, sys.state.outbox.lookup claim.outboxId with
          | .loaded row, some current =>
              match prepareNotification sys.world (config d) claim.now sys.state.grants
                  claim.outboxId row with
              | .ok (granted, message) =>
                  some (sys.sends d claim row current secret granted message)
              | .error _ => some ((sys.releases d).logs (.rolledBack d))
          | _, _ => none
      | none => none
  | .answer d answer =>
      match sys.claims.lookup d with
      | some claim =>
          match claim.stage with
          | .sent row granted =>
              match recordNotification (config d) claim.now sys.state claim.outboxId row granted
                  answer.result with
              | .ok (_, state) =>
                  some ({ sys.releases d with state := state }.logs
                    (.recorded (claim.outboxId, row.attemptCount + 1) answer.result))
              | .error _ => some ((sys.releases d).logs (.rolledBack d))
          | _ => none
      | none => none
  | .rollBack d =>
      match sys.claims.lookup d with
      | some _ => some ((sys.releases d).logs (.rolledBack d))
      | none => none
  | .enqueue id row =>
      match sys.state.outbox.lookup id with
      | none =>
          if row.status = .PENDING ∧ row.attemptCount = 0 then
            some { sys with state := { sys.state with outbox := sys.state.outbox.insert id row } }
          else none
      | some _ => none
  | .reschedule id availableAt =>
      match sys.state.outbox.lookup id with
      | some row =>
          if sys.Locked id then none
          else some { sys with
            state := { sys.state with
              outbox := sys.state.outbox.insert id { row with availableAt := availableAt } } }
      | none => none
  | .change world => some { sys with world := world }

variable {config : SenderId → NotificationDispatcherConfiguration} {secret : String}
  {sys sys' : DeliverySystem} {action : DeliveryAction}

/-- What a step does, other than changing the world. -/
inductive Step (config : SenderId → NotificationDispatcherConfiguration) (secret : String)
    (sys : DeliverySystem) : DeliverySystem → Prop
  | claim (d : SenderId) (id : NotificationId) (now : Time) (row : NotificationOutbox)
      (hfree : sys.claims.lookup d = none) (hrow : sys.state.outbox.lookup id = some row)
      (hpending : row.status = .PENDING) (hunlocked : sys.Locked id = false) :
      Step config secret sys (sys.moves d { outboxId := id, now := now })
  | load (d : SenderId) (claim : NotificationClaim) (row : NotificationOutbox)
      (hclaim : sys.claims.lookup d = some claim)
      (hrow : sys.state.outbox.lookup claim.outboxId = some row) :
      Step config secret sys (sys.moves d { claim with stage := .loaded row })
  | send (d : SenderId) (claim : NotificationClaim) (row current : NotificationOutbox)
      (granted : Table DeliveryAttemptKey TicketDownloadGrant) (message : NotificationMessage)
      (hclaim : sys.claims.lookup d = some claim) (hstage : claim.stage = .loaded row)
      (hrow : sys.state.outbox.lookup claim.outboxId = some current)
      (hprepare : prepareNotification sys.world (config d) claim.now sys.state.grants claim.outboxId
        row = .ok (granted, message)) :
      Step config secret sys (sys.sends d claim row current secret granted message)
  | answer (d : SenderId) (claim : NotificationClaim) (row written : NotificationOutbox)
      (granted : Table DeliveryAttemptKey TicketDownloadGrant) (result : NotificationSendResult)
      (state : Notifications)
      (hclaim : sys.claims.lookup d = some claim) (hstage : claim.stage = .sent row granted)
      (hrecord : recordNotification (config d) claim.now sys.state claim.outboxId row granted result
        = .ok (written, state)) :
      Step config secret sys ({ sys.releases d with state := state }.logs
        (.recorded (claim.outboxId, row.attemptCount + 1) result))
  | rollBack (d : SenderId) :
      Step config secret sys ((sys.releases d).logs (.rolledBack d))
  | enqueue (id : NotificationId) (row : NotificationOutbox)
      (hnew : sys.state.outbox.lookup id = none) :
      Step config secret sys
        { sys with state := { sys.state with outbox := sys.state.outbox.insert id row } }
  | reschedule (id : NotificationId) (row : NotificationOutbox) (availableAt : Time)
      (hrow : sys.state.outbox.lookup id = some row) (hunlocked : sys.Locked id = false) :
      Step config secret sys
        { sys with
          state :=
            { sys.state with
              outbox := sys.state.outbox.insert id { row with availableAt := availableAt } } }
  | change (world : NotificationWorld) : Step config secret sys { sys with world := world }

theorem step_cases (h : step config secret sys action = some sys') :
    Step config secret sys sys' := by
  cases action with
  | claim d id now =>
      simp only [step] at h
      split at h
      · rename_i row hfree hrow
        split at h
        · rename_i hguard
          cases h
          exact .claim d id now row hfree hrow hguard.1 hguard.2.2
        · cases h
      · cases h
  | load d =>
      simp only [step] at h
      split at h
      · rename_i claim hclaim
        split at h
        · rename_i row hstage hrow
          cases h
          exact .load d claim row hclaim hrow
        · cases h
      · cases h
  | send d =>
      simp only [step] at h
      split at h
      · rename_i claim hclaim
        split at h
        · rename_i row current hstage hrow
          split at h
          · rename_i granted message hprepare
            cases h
            exact .send d claim row current granted message hclaim hstage hrow hprepare
          · cases h
            exact .rollBack d
        · cases h
      · cases h
  | answer d answer =>
      simp only [step] at h
      split at h
      · rename_i claim hclaim
        split at h
        · rename_i row granted hstage
          split at h
          · rename_i written state hrecord
            cases h
            exact .answer d claim row written granted answer.result state hclaim hstage hrecord
          · cases h
            exact .rollBack d
        · cases h
      · cases h
  | rollBack d =>
      simp only [step] at h
      split at h
      · cases h
        exact .rollBack d
      · cases h
  | enqueue id row =>
      simp only [step] at h
      split at h
      · rename_i hnew
        split at h
        · cases h
          exact .enqueue id row hnew
        · cases h
      · cases h
  | reschedule id availableAt =>
      simp only [step] at h
      split at h
      · rename_i row hrow
        split at h
        · cases h
        · rename_i hunlocked
          cases h
          exact .reschedule id row availableAt hrow (by simpa using hunlocked)
      · cases h
  | change world =>
      cases h
      exact .change world

/-- Four steps that nothing interrupts are the transaction of `dispatchNotificationBatch`. -/
theorem execute_dispatch {d : SenderId} {id : NotificationId} {now : Time}
    {provider : NotificationMessage → SendAnswer} {row written : NotificationOutbox}
    {state : Notifications} (hfree : sys.claims.lookup d = none)
    (hunlocked : sys.Locked id = false) (hdue : (id, row) ∈ sys.state.due now)
    (h : dispatchNotification sys.world (config d) provider now sys.state id row
      = .ok (written, state)) :
    ∃ answer sys', execute (step config secret) [.claim d id now, .load d, .send d,
      .answer d answer] sys = some sys' ∧ sys'.state = state := by
  obtain ⟨hrow, hpending, htime⟩ := Notifications.mem_due.mp hdue
  obtain ⟨granted, message, hprepare, hrecord⟩ := dispatchNotification_eq_parts.mp h
  have hinserted : ∀ claims : Table SenderId NotificationClaim, ∀ claim,
      (claims.insert d claim).lookup d = some claim :=
    fun claims claim => AList.lookup_insert claims
  refine ⟨provider message, ?_⟩
  simp only [execute, List.foldlM_cons, step, hfree, hrow, hpending, htime, hunlocked, moves,
    sends, logs, hinserted, hprepare, hrecord, and_self, if_true, Option.bind_eq_bind,
    Option.bind_some]
  exact ⟨_, rfl, rfl⟩

/-! ## §4 What has been sent -/

/-- Every attempt from the one number to below the other has failed in this part of the log. -/
def FailedBetween (log : List NotificationEvent) (id : NotificationId) (n m : Nat) : Prop :=
  ∀ k, n ≤ k → k < m → ∃ status code, .recorded (id, k + 1) (.failed status code) ∈ log

/-- The claims are of different rows, which are pending and as they were loaded. -/
structure Claimed (sys : DeliverySystem) : Prop where
  alone : ∀ d d' claim claim', sys.claims.lookup d = some claim →
    sys.claims.lookup d' = some claim' → claim.outboxId = claim'.outboxId → d = d'
  row : ∀ d claim, sys.claims.lookup d = some claim → ∃ row,
    sys.state.outbox.lookup claim.outboxId = some row ∧ row.status = .PENDING ∧
      (∀ loaded, claim.stage = .loaded loaded → loaded = row) ∧
      ∀ loaded granted, claim.stage = .sent loaded granted → loaded = row

/-- What the log says about the sends of a row, now and whenever it was sent again. -/
structure Sent (secret : String) (outbox : Table NotificationId NotificationOutbox)
    (log : List NotificationEvent) : Prop where
  keyed : ∀ a, .sent a ∈ log →
    a.message.idempotencyKey = (a.outboxId, a.attemptCount + 1) ∧
      a.token = deriveDownloadGrantToken (a.outboxId, a.attemptCount + 1) secret
  counted : ∀ before after a, log = before ++ .sent a :: after → ∃ row,
    outbox.lookup a.outboxId = some row ∧ a.attemptCount ≤ row.attemptCount ∧
      (row.status = .PENDING → FailedBetween after a.outboxId a.attemptCount row.attemptCount)
  resent : ∀ before between after a b,
    log = before ++ .sent a :: between ++ .sent b :: after → a.outboxId = b.outboxId →
      a.attemptCount ≤ b.attemptCount ∧
        FailedBetween between a.outboxId a.attemptCount b.attemptCount

variable {outbox outbox' : Table NotificationId NotificationOutbox} {log : List NotificationEvent}

theorem FailedBetween.append {id : NotificationId} {n m : Nat} (h : FailedBetween log id n m)
    (later : List NotificationEvent) : FailedBetween (log ++ later) id n m := by
  intro k hn hm
  obtain ⟨status, code, hmem⟩ := h k hn hm
  exact ⟨status, code, List.mem_append_left _ hmem⟩

/-- The rows may change as long as no attempt is added. -/
theorem Sent.kept (h : Sent secret outbox log)
    (hrows : ∀ id row, outbox.lookup id = some row → ∃ row', outbox'.lookup id = some row' ∧
      row'.attemptCount = row.attemptCount ∧ (row'.status = .PENDING → row.status = .PENDING)) :
    Sent secret outbox' log where
  keyed := h.keyed
  counted := by
    intro before after a hlog
    obtain ⟨row, hrow, hcount, hfailed⟩ := h.counted before after a hlog
    obtain ⟨row', hrow', hsame, hpending⟩ := hrows a.outboxId row hrow
    rw [← hsame] at hcount hfailed
    exact ⟨row', hrow', hcount, fun hstatus => hfailed (hpending hstatus)⟩
  resent := h.resent

/-- Something is logged that is no send. -/
theorem Sent.logs (h : Sent secret outbox log) {event : NotificationEvent}
    (hevent : ∀ a, event ≠ .sent a) : Sent secret outbox (log ++ [event]) where
  keyed := by
    intro a hmem
    rcases List.mem_append.mp hmem with hold | hnew
    · exact h.keyed a hold
    · exact absurd (List.mem_singleton.mp hnew).symm (hevent a)
  counted := by
    intro before after a hlog
    rcases split_log hlog with ⟨-, hlast, -⟩ | ⟨after', rfl, hold⟩
    · exact absurd hlast.symm (hevent a)
    · obtain ⟨row, hrow, hcount, hfailed⟩ := h.counted before after' a hold
      exact ⟨row, hrow, hcount, fun hstatus => (hfailed hstatus).append _⟩
  resent := by
    intro before between after a b hlog hid
    rcases split_log hlog with ⟨-, hlast, -⟩ | ⟨after', rfl, hold⟩
    · exact absurd hlast.symm (hevent b)
    · exact h.resent before between after' a b hold hid

/-- A pending row's message is sent: the attempts in between have failed. -/
theorem Sent.sends (h : Sent secret outbox log) {b : NotificationSend} {row : NotificationOutbox}
    (hrow : outbox.lookup b.outboxId = some row) (hpending : row.status = .PENDING)
    (hcount : b.attemptCount = row.attemptCount)
    (hkey : b.message.idempotencyKey = (b.outboxId, b.attemptCount + 1))
    (htoken : b.token = deriveDownloadGrantToken (b.outboxId, b.attemptCount + 1) secret) :
    Sent secret outbox (log ++ [.sent b]) where
  keyed := by
    intro a hmem
    rcases List.mem_append.mp hmem with hold | hnew
    · exact h.keyed a hold
    · cases List.mem_singleton.mp hnew
      exact ⟨hkey, htoken⟩
  counted := by
    intro before after a hlog
    rcases split_log hlog with ⟨rfl, hlast, -⟩ | ⟨after', rfl, hold⟩
    · cases hlast
      exact ⟨row, hrow, hcount.le, fun _ k hn hm => absurd (hcount ▸ hn) (not_le.mpr hm)⟩
    · obtain ⟨row', hrow', hle, hfailed⟩ := h.counted before after' a hold
      exact ⟨row', hrow', hle, fun hstatus => (hfailed hstatus).append _⟩
  resent := by
    intro before between after a b' hlog hid
    rcases split_log hlog with ⟨rfl, hlast, hold⟩ | ⟨after', rfl, hold⟩
    · cases hlast
      obtain ⟨row', hrow', hle, hfailed⟩ := h.counted before between a hold.symm
      rw [hid, hrow] at hrow'
      cases hrow'
      rw [hcount]
      exact ⟨hle, hfailed hpending⟩
    · exact h.resent before between after' a b' hold hid

/-- The answer to a pending row's message is recorded. -/
theorem Sent.records (h : Sent secret outbox log) {id : NotificationId}
    {row written : NotificationOutbox} {result : NotificationSendResult}
    (hrow : outbox.lookup id = some row) (hpending : row.status = .PENDING)
    (hcount : written.attemptCount = row.attemptCount + 1)
    (hfailed : written.status = .PENDING → ∃ status code, result = .failed status code) :
    Sent secret (outbox.insert id written)
      (log ++ [.recorded (id, row.attemptCount + 1) result]) where
  keyed := (h.logs fun _ => by simp).keyed
  counted := by
    intro before after a hlog
    rcases split_log hlog with ⟨-, hlast, -⟩ | ⟨after', rfl, hold⟩
    · cases hlast
    · obtain ⟨row', hrow', hle, hbefore⟩ := h.counted before after' a hold
      by_cases hid : a.outboxId = id
      · subst hid
        cases hrow.symm.trans hrow'
        refine ⟨written, Table.wrote_insert.lookup_self, by omega, fun hstatus k hn hm => ?_⟩
        by_cases hlast : k = row.attemptCount
        · obtain ⟨status, code, rfl⟩ := hfailed hstatus
          exact ⟨status, code, List.mem_append_right _ (by simp [hlast])⟩
        · exact (hbefore hpending).append _ k hn (by omega)
      · refine ⟨row', (Table.wrote_insert.lookup_ne hid).trans hrow', hle, fun hstatus => ?_⟩
        exact (hbefore hstatus).append _
  resent := (h.logs fun _ => by simp).resent

/-! ## §5 Steps and runs -/

/-- A claim comes to a stage. -/
theorem Claimed.moves (h : sys.Claimed) {d : SenderId} {claim : NotificationClaim}
    (halone : ∀ d' claim', sys.claims.lookup d' = some claim' →
      claim'.outboxId = claim.outboxId → d' = d)
    (hrow : ∃ row, sys.state.outbox.lookup claim.outboxId = some row ∧ row.status = .PENDING ∧
      (∀ loaded, claim.stage = .loaded loaded → loaded = row) ∧
      ∀ loaded granted, claim.stage = .sent loaded granted → loaded = row) :
    (sys.moves d claim).Claimed where
  alone := by
    intro d₁ d₂ claim₁ claim₂ h₁ h₂ hid
    rcases Table.wrote_insert.cases h₁ with ⟨rfl, rfl⟩ | ⟨-, hold₁⟩
    · rcases Table.wrote_insert.cases h₂ with ⟨rfl, rfl⟩ | ⟨-, hold₂⟩
      · rfl
      · exact (halone d₂ claim₂ hold₂ hid.symm).symm
    · rcases Table.wrote_insert.cases h₂ with ⟨rfl, rfl⟩ | ⟨-, hold₂⟩
      · exact halone d₁ claim₁ hold₁ hid
      · exact h.alone d₁ d₂ claim₁ claim₂ hold₁ hold₂ hid
  row := by
    intro d' claim' hclaim
    rcases Table.wrote_insert.cases hclaim with ⟨rfl, rfl⟩ | ⟨-, hold⟩
    · exact hrow
    · exact h.row d' claim' hold

/-- A claim is given up. -/
theorem Claimed.releases (h : sys.Claimed) (d : SenderId) : (sys.releases d).Claimed := by
  have hkept : ∀ d' claim, (sys.releases d).claims.lookup d' = some claim →
      d' ≠ d ∧ sys.claims.lookup d' = some claim := by
    intro d' claim hclaim
    by_cases hd : d' = d
    · subst hd
      rw [show (sys.releases d').claims.lookup d' = none from AList.lookup_erase _ _] at hclaim
      cases hclaim
    · exact ⟨hd, (AList.lookup_erase_ne hd).symm.trans hclaim⟩
  constructor
  · intro d₁ d₂ claim₁ claim₂ h₁ h₂ hid
    exact h.alone d₁ d₂ claim₁ claim₂ (hkept d₁ claim₁ h₁).2 (hkept d₂ claim₂ h₂).2 hid
  · exact fun d' claim hclaim => h.row d' claim (hkept d' claim hclaim).2

theorem Claimed.logs (h : sys.Claimed) (event : NotificationEvent) : (sys.logs event).Claimed :=
  ⟨h.alone, h.row⟩

/-- A row that nobody has claimed changes. -/
theorem Claimed.rows (h : sys.Claimed) {state : Notifications}
    (hrows : ∀ d claim, sys.claims.lookup d = some claim →
      state.outbox.lookup claim.outboxId = sys.state.outbox.lookup claim.outboxId) :
    Claimed { sys with state := state } where
  alone := h.alone
  row := by
    intro d claim hclaim
    obtain ⟨row, hrow, hrest⟩ := h.row d claim hclaim
    exact ⟨row, (hrows d claim hclaim).trans hrow, hrest⟩

section Crash

end Crash

end DeliverySystem

end SeatFlow
