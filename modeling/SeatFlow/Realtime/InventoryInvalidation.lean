import Mathlib.Data.List.DropRight
import Mathlib.Data.List.Nodup
import SeatFlow.Database.Types
import SeatFlow.Relational.Runs

/-!
# Inventory invalidations on the client

`features/inventory-events/delivery` and the hook `use-inventory-invalidation`: a page
hears of committed inventory events in any order and reloads its snapshot. The loads are
kept one at a time, so a request for one while another is under way joins that one. A
load reads the database some time between its start and its end.
-/

namespace SeatFlow

open Relational

/-! ## §1 Deciding about an event -/

structure InventoryInvalidationEvent where
  eventId : Nat
  sessionId : SessionId
  serverTimestamp : String
  deriving DecidableEq

structure InventoryEventCursor where
  lastServerTimestamp : Option String := none
  seenEventIds : List Nat := []

inductive InventoryEventDecision
  | apply (cursor : InventoryEventCursor)
  | duplicate (cursor : InventoryEventCursor)
  | stale (cursor : InventoryEventCursor)

def InventoryEventDecision.cursor : InventoryEventDecision → InventoryEventCursor
  | .apply cursor | .duplicate cursor | .stale cursor => cursor

/-- The event is older than the newest one that was applied. -/
def InventoryEventCursor.outdates (cursor : InventoryEventCursor)
    (event : InventoryInvalidationEvent) : Prop :=
  ∃ last ∈ cursor.lastServerTimestamp, event.serverTimestamp < last

instance (cursor : InventoryEventCursor) (event : InventoryInvalidationEvent) :
    Decidable (cursor.outdates event) :=
  match h : cursor.lastServerTimestamp with
  | none => .isFalse (by simp [InventoryEventCursor.outdates, h])
  | some last =>
      decidable_of_iff (event.serverTimestamp < last) (by simp [InventoryEventCursor.outdates, h])

/-- `slice(-maximum)`. -/
def keepLast (maximum : Nat) (ids : List Nat) : List Nat :=
  if maximum = 0 then ids else ids.rtake maximum

def decideInventoryEvent (cursor : InventoryEventCursor) (event : InventoryInvalidationEvent)
    (maximumSeenEvents : Nat := 100) : InventoryEventDecision :=
  if event.eventId ∈ cursor.seenEventIds then .duplicate cursor
  else if cursor.outdates event then .stale cursor
  else .apply
    { lastServerTimestamp :=
        match cursor.lastServerTimestamp with
        | none => some event.serverTimestamp
        | some last =>
            if last < event.serverTimestamp then some event.serverTimestamp else some last
      seenEventIds := keepLast maximumSeenEvents (cursor.seenEventIds ++ [event.eventId]) }

/-! ## §2 The page -/

/-- The page with its hook, beside the events that were committed. A load under way has
read the database at some number of committed events, or has not read it yet. -/
structure Page where
  sessionId : SessionId
  committed : List InventoryInvalidationEvent
  snapshot : Nat
  cursor : InventoryEventCursor := {}
  refreshPromise : Option (Option Nat) := none
  loads : Nat := 0
  lastLoadFailed : Bool := false
  told : List InventoryInvalidationEvent := []

inductive PageAction
  | commit (event : InventoryInvalidationEvent)
  | deliver (event : InventoryInvalidationEvent)
  | refresh
  | read
  | finish
  | fail

namespace Page

/-- `refresh`: a load that is under way is joined. -/
def refresh (page : Page) : Page :=
  if page.refreshPromise.isSome then page
  else { page with refreshPromise := some none, loads := page.loads + 1 }

/-- The handler of `inventory:invalidated`. -/
def invalidated (page : Page) (event : InventoryInvalidationEvent) : Page :=
  if event.sessionId ≠ page.sessionId then page
  else
    let decision := decideInventoryEvent page.cursor event
    let page := { page with cursor := decision.cursor }
    match decision with
    | .apply _ => page.refresh
    | _ => page

/-- One step; `none` when the action is not possible now. Events are committed once, and
heard of afterwards; every other reason for a load (reconnecting, focus, the fallback
timer, a conflict) is a `refresh`. -/
def step (page : Page) : PageAction → Option Page
  | .commit event =>
      if page.committed.any (fun e => e.eventId == event.eventId) then none
      else some { page with committed := page.committed ++ [event] }
  | .deliver event =>
      if event ∈ page.committed then
        some { page.invalidated event with told := event :: page.told }
      else none
  | .refresh => some page.refresh
  | .read =>
      match page.refreshPromise with
      | some none => some { page with refreshPromise := some (some page.committed.length) }
      | _ => none
  | .finish =>
      match page.refreshPromise with
      | some (some read) =>
          some { page with refreshPromise := none, snapshot := read, lastLoadFailed := false }
      | _ => none
  | .fail =>
      match page.refreshPromise with
      | some _ => some { page with refreshPromise := none, lastLoadFailed := true }
      | none => none

/-- A page as it is rendered, before it heard of anything. -/
structure Rendered (page : Page) : Prop where
  cursor : page.cursor = {}
  idle : page.refreshPromise = none
  untold : page.told = []
  distinct : (page.committed.map (·.eventId)).Nodup

/-- The page shows what the event announced. -/
def Shows (page : Page) (event : InventoryInvalidationEvent) : Prop :=
  event ∈ page.committed.take page.snapshot

/-! ## §3 What a page has seen -/

/-- What a step keeps: the identities that were seen are those of told events, which were
committed, and committed events have distinct identities. -/
structure Attentive (page : Page) : Prop where
  seen : ∀ id ∈ page.cursor.seenEventIds, ∃ e ∈ page.told, e.eventId = id
  told : ∀ e ∈ page.told, e ∈ page.committed
  distinct : (page.committed.map (·.eventId)).Nodup

theorem Rendered.attentive {page : Page} (h : page.Rendered) : page.Attentive where
  seen := by simp [h.cursor]
  told := by simp [h.untold]
  distinct := h.distinct

theorem mem_keepLast {maximum : Nat} {ids : List Nat} {id : Nat} (h : id ∈ keepLast maximum ids) :
    id ∈ ids := by
  unfold keepLast at h
  split at h
  · exact h
  · exact List.mem_of_mem_drop h

/-- Deciding about an event notes at most its own identity. -/
theorem seen_decide {cursor : InventoryEventCursor} {event : InventoryInvalidationEvent}
    {maximum id : Nat}
    (h : id ∈ (decideInventoryEvent cursor event maximum).cursor.seenEventIds) :
    id ∈ cursor.seenEventIds ∨ id = event.eventId := by
  unfold decideInventoryEvent at h
  split_ifs at h
  · exact .inl h
  · exact .inl h
  · simpa using mem_keepLast h

variable {page page' : Page} {event : InventoryInvalidationEvent}

theorem refresh_cases (page : Page) :
    (page.refreshPromise.isSome = true ∧ page.refresh = page) ∨
      (page.refreshPromise = none ∧
        page.refresh = { page with refreshPromise := some none, loads := page.loads + 1 }) := by
  unfold refresh
  cases page.refreshPromise <;> simp

/-- What hearing of an event does: the cursor moves, and a load may start. -/
theorem invalidated_cases (page : Page) (event : InventoryInvalidationEvent) :
    page.invalidated event = page ∨ ∃ cursor,
      cursor = (decideInventoryEvent page.cursor event).cursor ∧
        (page.invalidated event = { page with cursor := cursor } ∨
          page.invalidated event = { page with cursor := cursor }.refresh) := by
  unfold invalidated
  split
  · exact .inl rfl
  · refine .inr ⟨_, rfl, ?_⟩
    cases decideInventoryEvent page.cursor event with
    | apply cursor => exact .inr rfl
    | duplicate cursor => exact .inl rfl
    | stale cursor => exact .inl rfl

theorem Attentive.refresh (h : page.Attentive) : page.refresh.Attentive := by
  rcases refresh_cases page with ⟨-, heq⟩ | ⟨-, heq⟩ <;> rw [heq]
  · exact h
  · exact ⟨h.seen, h.told, h.distinct⟩

theorem committed_refresh (page : Page) : page.refresh.committed = page.committed := by
  rcases refresh_cases page with ⟨-, heq⟩ | ⟨-, heq⟩ <;> rw [heq]

theorem committed_invalidated (page : Page) (event : InventoryInvalidationEvent) :
    (page.invalidated event).committed = page.committed := by
  rcases invalidated_cases page event with heq | ⟨cursor, -, heq | heq⟩ <;> rw [heq]
  exact committed_refresh _

theorem seen_invalidated {id : Nat} (h : id ∈ (page.invalidated event).cursor.seenEventIds) :
    id ∈ page.cursor.seenEventIds ∨ id = event.eventId := by
  rcases invalidated_cases page event with heq | ⟨cursor, rfl, heq | heq⟩ <;> rw [heq] at h
  · exact .inl h
  · exact seen_decide h
  · rcases refresh_cases { page with cursor := (decideInventoryEvent page.cursor event).cursor }
      with ⟨-, heq⟩ | ⟨-, heq⟩ <;> rw [heq] at h <;> exact seen_decide h

theorem Attentive.step {a : PageAction} (hpage : page.Attentive) (h : page.step a = some page') :
    page'.Attentive := by
  cases a with
  | commit event =>
      simp only [Page.step] at h
      split at h
      · cases h
      · rename_i hfresh
        cases h
        refine ⟨hpage.seen, fun e he => List.mem_append_left _ (hpage.told e he), ?_⟩
        have hnew : event.eventId ∉ page.committed.map (·.eventId) := by
          intro hmem
          obtain ⟨e, he, hid⟩ := List.mem_map.mp hmem
          exact hfresh (List.any_eq_true.mpr ⟨e, he, by simp [hid]⟩)
        rw [List.map_append, List.nodup_append]
        refine ⟨hpage.distinct, List.nodup_singleton _, fun a ha b hb heq => hnew ?_⟩
        rw [List.map_singleton, List.mem_singleton] at hb
        rwa [← hb, ← heq]
  | deliver event =>
      simp only [Page.step] at h
      split at h
      · rename_i hcommitted
        cases h
        refine ⟨fun id hid => ?_, fun e he => ?_, ?_⟩
        · rcases seen_invalidated hid with hold | rfl
          · obtain ⟨e, he, hid⟩ := hpage.seen id hold
            exact ⟨e, List.mem_cons_of_mem _ he, hid⟩
          · exact ⟨event, List.mem_cons_self, rfl⟩
        · show e ∈ (page.invalidated event).committed
          rw [committed_invalidated]
          rcases List.mem_cons.mp he with rfl | hold
          · exact hcommitted
          · exact hpage.told e hold
        · show ((page.invalidated event).committed.map _).Nodup
          rw [committed_invalidated]
          exact hpage.distinct
      · cases h
  | refresh =>
      cases h
      exact hpage.refresh
  | read =>
      simp only [Page.step] at h
      split at h <;> cases h
      exact ⟨hpage.seen, hpage.told, hpage.distinct⟩
  | finish =>
      simp only [Page.step] at h
      split at h <;> cases h
      exact ⟨hpage.seen, hpage.told, hpage.distinct⟩
  | fail =>
      simp only [Page.step] at h
      split at h <;> cases h
      exact ⟨hpage.seen, hpage.told, hpage.distinct⟩

/-- An event that is heard of for the first time, no older than what was applied, is
applied. -/
theorem Attentive.applied (hpage : page.Attentive) (hcommitted : event ∈ page.committed)
    (hfirst : event ∉ page.told) (hcurrent : ¬page.cursor.outdates event) (maximum : Nat) :
    ∃ cursor, decideInventoryEvent page.cursor event maximum = .apply cursor := by
  have hunseen : event.eventId ∉ page.cursor.seenEventIds := by
    intro hseen
    obtain ⟨e, he, hid⟩ := hpage.seen _ hseen
    have hsame : e = event :=
      List.inj_on_of_nodup_map hpage.distinct (hpage.told e he) hcommitted hid
    exact hfirst (hsame ▸ he)
  unfold decideInventoryEvent
  rw [if_neg hunseen, if_neg hcurrent]
  exact ⟨_, rfl⟩

/-! ## §4 After a load -/

/-- The event is accounted for by what was loaded since `n` loads had been started. -/
structure Accounts (n : Nat) (event : InventoryInvalidationEvent) (page : Page) : Prop where
  started : n < page.loads
  known : event ∈ page.committed
  reading : ∀ read, page.refreshPromise = some (some read) → event ∈ page.committed.take read
  shown : page.refreshPromise = none → page.lastLoadFailed = false → page.Shows event

theorem Accounts.refresh {n : Nat} (h : page.Accounts n event) : page.refresh.Accounts n event := by
  rcases refresh_cases page with ⟨-, heq⟩ | ⟨-, heq⟩ <;> rw [heq]
  · exact h
  · exact ⟨h.started.trans (Nat.lt_succ_self _), h.known, by simp, by simp⟩

theorem mem_take_append {l l' : List InventoryInvalidationEvent} {n : Nat}
    (h : event ∈ l.take n) : event ∈ (l ++ l').take n := by
  rw [List.take_append]
  exact List.mem_append_left _ h

/-- **What was loaded stays**: a step keeps an event accounted for. -/
theorem Accounts.step {n : Nat} {a : PageAction} (hpage : page.Accounts n event)
    (h : page.step a = some page') : page'.Accounts n event := by
  cases a with
  | commit other =>
      simp only [Page.step] at h
      split at h <;> cases h
      exact ⟨hpage.started, List.mem_append_left _ hpage.known,
        fun read hread => mem_take_append (hpage.reading read hread),
        fun hidle hloaded => mem_take_append (hpage.shown hidle hloaded)⟩
  | deliver other =>
      simp only [Page.step] at h
      split at h <;> cases h
      have hheard : (page.invalidated other).Accounts n event := by
        rcases invalidated_cases page other with heq | ⟨cursor, -, heq | heq⟩ <;> rw [heq]
        · exact hpage
        · exact ⟨hpage.started, hpage.known, hpage.reading, hpage.shown⟩
        · have hmoved : Accounts n event { page with cursor := cursor } :=
            ⟨hpage.started, hpage.known, hpage.reading, hpage.shown⟩
          exact hmoved.refresh
      exact ⟨hheard.started, hheard.known, hheard.reading, hheard.shown⟩
  | refresh =>
      cases h
      exact hpage.refresh
  | read =>
      simp only [Page.step] at h
      split at h <;> cases h
      refine ⟨hpage.started, hpage.known, ?_, by simp⟩
      rintro read ⟨⟩
      rw [List.take_length]
      exact hpage.known
  | finish =>
      simp only [Page.step] at h
      split at h <;> cases h
      rename_i read hread
      exact ⟨hpage.started, hpage.known, by simp, fun _ _ => hpage.reading read hread⟩
  | fail =>
      simp only [Page.step] at h
      split at h <;> cases h
      exact ⟨hpage.started, hpage.known, by simp, by simp⟩

/-- **Invalidations of an idle page.** An event of the page's session that is heard of for
the first time, while no load is under way, and is not older than what was applied,
starts a load; and whatever happens then, whenever no load is under way again and the last
one succeeded, the page shows what the event announced. -/
theorem delivered_loaded {rendered : Page} (hrendered : rendered.Rendered)
    (hreach : Reaches Page.step (fun _ _ => True) rendered page)
    (hsession : event.sessionId = page.sessionId) (hfirst : event ∉ page.told)
    (hidle : page.refreshPromise = none) (hcurrent : ¬page.cursor.outdates event)
    (hdeliver : page.step (.deliver event) = some page') :
    page'.loads = page.loads + 1 ∧
      ∀ later, Reaches Page.step (fun _ _ => True) page' later → page.loads < later.loads ∧
        (later.refreshPromise = none → later.lastLoadFailed = false → later.Shows event) := by
  have hattentive : page.Attentive :=
    hreach.invariant hrendered.attentive fun _ _ _ _ hstep hs => hs.step hstep
  simp only [Page.step] at hdeliver
  split at hdeliver
  · rename_i hcommitted
    cases hdeliver
    obtain ⟨cursor, happly⟩ := hattentive.applied hcommitted hfirst hcurrent 100
    have hheard : page.invalidated event
        = { page with cursor := cursor, refreshPromise := some none, loads := page.loads + 1 } := by
      simp [invalidated, hsession, happly, Page.refresh, InventoryEventDecision.cursor, hidle]
    rw [hheard]
    refine ⟨rfl, fun later hlater => ?_⟩
    have haccounts : later.Accounts page.loads event := by
      refine hlater.invariant (I := Accounts page.loads event) ?_ fun _ _ _ _ hstep hs =>
        hs.step hstep
      exact ⟨Nat.lt_succ_self _, hcommitted, by simp, by simp⟩
    exact ⟨haccounts.started, haccounts.shown⟩
  · cases hdeliver

/-- A page with nothing committed yet. -/
def empty : Page :=
  { sessionId := 1, committed := [], snapshot := 0 }

theorem empty_rendered : empty.Rendered :=
  ⟨rfl, rfl, rfl, List.nodup_nil⟩

/-- A hold is created, and a second transaction that started earlier commits later. -/
def holdCreated : InventoryInvalidationEvent :=
  { eventId := 1, sessionId := 1, serverTimestamp := "2035-05-01T12:00:01.000Z" }

def holdReleased : InventoryInvalidationEvent :=
  { eventId := 2, sessionId := 1, serverTimestamp := "2035-05-01T12:00:00.000Z" }

theorem delivered_loaded_first :
    ∃ page, execute Page.step [.commit holdCreated, .deliver holdCreated] empty = some page ∧
      page.loads = 1 ∧
      ∀ later, Reaches Page.step (fun _ _ => True) page later →
        later.refreshPromise = none → later.lastLoadFailed = false → later.Shows holdCreated := by
  have hrun : execute Page.step [.commit holdCreated] empty
      = some { empty with committed := [holdCreated] } := rfl
  have hfirst : holdCreated ∉ empty.told := by decide
  have hdelivered := delivered_loaded empty_rendered (reaches_of_execute hrun fun _ _ _ => trivial)
    rfl hfirst rfl (by decide) rfl
  exact ⟨_, rfl, hdelivered.1, fun later hlater => (hdelivered.2 later hlater).2⟩

/-- Hearing of an event for the first time is followed by no load, and once no load is
under way the page goes on showing the state before the event. -/
def Misses (page : Page) (event : InventoryInvalidationEvent) : Prop :=
  event ∈ page.committed ∧ event ∉ page.told ∧ event.sessionId = page.sessionId ∧
    ∃ page' later, page.step (.deliver event) = some page' ∧
      Reaches Page.step (fun _ _ => True) page' later ∧ later.refreshPromise = none ∧
      later.lastLoadFailed = false ∧ later.loads = page.loads ∧ ¬later.Shows event

/-- An event whose timestamp is older than that of one that was committed before it is
dropped, and one that is heard of while a load is under way joins that load, which may
have read the database before the event. -/
theorem delivered_missed :
    (∃ page, Reaches Page.step (fun _ _ => True) empty page ∧ page.refreshPromise = none ∧
      page.cursor.outdates holdReleased ∧ page.Misses holdReleased) ∧
    ∃ page, Reaches Page.step (fun _ _ => True) empty page ∧ page.refreshPromise ≠ none ∧
      ¬page.cursor.outdates holdCreated ∧ page.Misses holdCreated := by
  constructor
  · have hrun : execute Page.step [.commit holdCreated, .deliver holdCreated, .read,
        .commit holdReleased, .finish] empty = some
          { empty with
            committed := [holdCreated, holdReleased], snapshot := 1, loads := 1
            told := [holdCreated]
            cursor := { lastServerTimestamp := some holdCreated.serverTimestamp
                        seenEventIds := [1] } } := rfl
    refine ⟨_, reaches_of_execute hrun fun _ _ _ => trivial, rfl, by decide, ?_⟩
    refine ⟨by decide, by decide, rfl, _, _, rfl, .refl, rfl, rfl, rfl, ?_⟩
    unfold Shows
    decide
  · have hrun : execute Page.step [.refresh, .read, .commit holdCreated] empty = some
        { empty with committed := [holdCreated], refreshPromise := some (some 0), loads := 1 } :=
        rfl
    refine ⟨_, reaches_of_execute hrun fun _ _ _ => trivial, by simp, by decide, ?_⟩
    refine ⟨by decide, by decide, rfl, _, _, rfl, .single ⟨.finish, trivial, rfl⟩, rfl,
      rfl, rfl, ?_⟩
    unfold Shows
    decide

end Page

end SeatFlow
