import Mathlib.Data.Fintype.Defs
import SeatFlow.Relational.Program
import SeatFlow.Relational.Runs

/-!
# Isolation levels

Sessions that run transactions of both isolation levels against one committed
state. Beside row locks a transaction holds the unique-index entries that its
writes claim, both until it ends; a statement waits while another session holds
what it takes.

At `readCommitted` each statement has a snapshot of its own and acts on the row
versions it finds locked. At `serializable` the snapshot of the first statement
serves the whole transaction, and a row that someone has changed since cannot be
taken any more: the transaction can then only fail. What else the database
refuses at that level is covered by the failures that may happen at any time.

A failed transaction is rolled back; the caller's `catch` runs next, in a
transaction of its own.
-/

namespace Relational

/-- What a transaction holds until it ends. -/
inductive Lock (κ ν : Type)
  | row (key : κ)
  | entry (e : ν)
  deriving DecidableEq

/-- The unique-index entries that a write claims. -/
class Indexed (ω : Type) (ν : outParam Type) where
  entries : ω → List ν

namespace Isolation

inductive Level
  | readCommitted | serializable
  deriving DecidableEq

inductive Status
  | running | committed | aborted
  deriving DecidableEq

/-- A transaction and the `catch` around it. -/
structure Transaction (σ κ ω ε α : Type) where
  program : Program σ κ ω ε α
  level : Level := .readCommitted
  rescue : ε → Program σ κ ω ε α := .abort

/-- One session: the rest of its program, its writes so far (oldest first), what
it holds, and the snapshot of the statement in progress. A serializable session
keeps its first snapshot and the rows that others have changed since. -/
structure Session (σ κ ω ν ε α : Type) where
  program : Program σ κ ω ε α
  level : Level
  rescue : Option (ε → Program σ κ ω ε α)
  status : Status := .running
  writes : List ω := []
  locks : List (Lock κ ν) := []
  origin : Option σ := none
  overtaken : List κ := []
  began : Option σ := none

namespace Session

variable {σ κ ω ν ε α : Type}

def start (t : Transaction σ κ ω ε α) : Session σ κ ω ν ε α :=
  { program := t.program, level := t.level, rescue := some t.rescue }

/-- A session that is over holds nothing. -/
def close (s : Session σ κ ω ν ε α) (status : Status) : Session σ κ ω ν ε α :=
  { program := s.program, level := s.level, rescue := none, status := status }

/-- The transaction is rolled back; its `catch`, if it has one left, is next. -/
def fail (s : Session σ κ ω ν ε α) (e : ε) : Session σ κ ω ν ε α :=
  match s.rescue with
  | some rescue => { program := rescue e, level := .readCommitted, rescue := none }
  | none => s.close .aborted

/-- Others have changed `rows`; this matters to a session that has its snapshot. -/
def overtake (s : Session σ κ ω ν ε α) (rows : List κ) : Session σ κ ω ν ε α :=
  match s.origin with
  | none => s
  | some _ => { s with overtaken := s.overtaken ++ rows }

/-- The result of a session that has committed. -/
def result (s : Session σ κ ω ν ε α) : Option α :=
  match s.status, s.program with
  | .committed, .done a => some a
  | _, _ => none

variable {s : Session σ κ ω ν ε α}

theorem status_fail (e : ε) : (s.fail e).status ≠ .committed := by
  unfold fail
  split <;> simp [close]

@[simp]
theorem locks_overtake (rows : List κ) : (s.overtake rows).locks = s.locks := by
  unfold overtake
  split <;> rfl

@[simp]
theorem writes_overtake (rows : List κ) : (s.overtake rows).writes = s.writes := by
  unfold overtake
  split <;> rfl

@[simp]
theorem status_overtake (rows : List κ) : (s.overtake rows).status = s.status := by
  unfold overtake
  split <;> rfl

@[simp]
theorem rescue_overtake (rows : List κ) : (s.overtake rows).rescue = s.rescue := by
  unfold overtake
  split <;> rfl

@[simp]
theorem program_overtake (rows : List κ) : (s.overtake rows).program = s.program := by
  unfold overtake
  split <;> rfl

end Session

structure System (ι σ κ ω ν ε α : Type) where
  committed : σ
  sessions : ι → Session σ κ ω ν ε α

/-- What a session can do next: `fail` is a failure that its program has no part
in, `crash` the end of its process. -/
inductive Move (ι ε : Type)
  | begin (i : ι)
  | finish (i : ι)
  | commit (i : ι)
  | fail (i : ι) (e : ε)
  | crash (i : ι)

/-- The rows that writes change. -/
def writtenRows (σ : Type) {κ ω : Type} [Store σ κ ω] (writes : List ω) : List κ :=
  writes.filterMap (Store.key σ)

/-- What an effect takes: the locks it asks for, the rows it writes and the
entries it claims. -/
def taken {β : Type} (σ : Type) {κ ω ν : Type} [Store σ κ ω] [Indexed ω ν]
    (eff : Effect κ ω β) : List (Lock κ ν) :=
  (eff.locks ++ writtenRows σ eff.writes).map .row ++
    (eff.writes.flatMap Indexed.entries).map .entry

namespace System

variable {ι σ κ ω ν ε α : Type} [Store σ κ ω]

def start (c : σ) (transactions : ι → Transaction σ κ ω ε α) : System ι σ κ ω ν ε α :=
  { committed := c, sessions := fun i => .start (transactions i) }

/-- The state as session `i` sees it: committed rows under its own writes. -/
def current (sys : System ι σ κ ω ν ε α) (i : ι) : σ :=
  applyAll (sys.sessions i).writes sys.committed

/-- Session `i` has committed with the result `a`. -/
def Returned (sys : System ι σ κ ω ν ε α) (i : ι) (a : α) : Prop :=
  (sys.sessions i).status = .committed ∧ (sys.sessions i).program = .done a

omit [Store σ κ ω] in
theorem returned_of_result {sys : System ι σ κ ω ν ε α} {i : ι} {a : α}
    (h : (sys.sessions i).result = some a) : sys.Returned i a := by
  unfold Session.result at h
  split at h
  · rename_i hstatus hprogram
    cases h
    exact ⟨hstatus, hprogram⟩
  · cases h

/-- Some other session holds `l`. -/
def HeldElsewhere (sys : System ι σ κ ω ν ε α) (i : ι) (l : Lock κ ν) : Prop :=
  ∃ j, j ≠ i ∧ l ∈ (sys.sessions j).locks

/-- A statement begins. The snapshot of a serializable session is its first. -/
def begun (sys : System ι σ κ ω ν ε α) (i : ι) : Session σ κ ω ν ε α :=
  let s := sys.sessions i
  match s.level with
  | .readCommitted => { s with began := some (sys.current i) }
  | .serializable =>
      let origin := s.origin.getD sys.committed
      { s with origin := some origin, began := some (applyAll s.writes origin) }

theorem begun_readCommitted {sys : System ι σ κ ω ν ε α} {i : ι}
    (h : (sys.sessions i).level = .readCommitted) :
    sys.begun i = { sys.sessions i with began := some (sys.current i) } := by
  simp only [begun, h]

theorem begun_serializable {sys : System ι σ κ ω ν ε α} {i : ι}
    (h : (sys.sessions i).level = .serializable) :
    sys.begun i =
      { sys.sessions i with
        origin := some ((sys.sessions i).origin.getD sys.committed)
        began := some (applyAll (sys.sessions i).writes
          ((sys.sessions i).origin.getD sys.committed)) } := by
  simp only [begun, h]

@[simp]
theorem status_begun (sys : System ι σ κ ω ν ε α) (i : ι) :
    (sys.begun i).status = (sys.sessions i).status := by
  cases hlevel : (sys.sessions i).level with
  | readCommitted => rw [begun_readCommitted hlevel]
  | serializable => rw [begun_serializable hlevel]

variable [DecidableEq ι]

def setSession (sys : System ι σ κ ω ν ε α) (i : ι) (s : Session σ κ ω ν ε α) :
    System ι σ κ ω ν ε α :=
  { sys with sessions := Function.update sys.sessions i s }

/-- Session `i` finishes a statement with effect `eff`. -/
def advanced {β : Type} [Indexed ω ν] (sys : System ι σ κ ω ν ε α) (i : ι)
    (next : β → Program σ κ ω ε α) (eff : Effect κ ω β) : Session σ κ ω ν ε α :=
  let s := sys.sessions i
  { s with
    program := next eff.result
    writes := s.writes ++ eff.writes
    locks := s.locks ++ taken σ eff
    began := none }

/-- Session `i` commits: its writes become visible, and the others are overtaken
on the rows it wrote. -/
def committing (sys : System ι σ κ ω ν ε α) (i : ι) : System ι σ κ ω ν ε α :=
  { committed := sys.current i
    sessions := fun j =>
      if j = i then (sys.sessions i).close .committed
      else (sys.sessions j).overtake (writtenRows σ (sys.sessions i).writes) }

omit [Store σ κ ω] in
/-- Who has committed already, where only a session changes that has not. -/
theorem Returned.of_setSession {sys : System ι σ κ ω ν ε α} {i j : ι} {s : Session σ κ ω ν ε α}
    {a : α} (h : (sys.setSession i s).Returned j a) (hs : s.status ≠ .committed) :
    sys.Returned j a := by
  unfold Returned setSession at h
  simp only [Function.update_apply] at h
  split at h
  · exact absurd h.1 hs
  · exact h

/-- Who has committed after `i` has. -/
theorem Returned.of_committing {sys : System ι σ κ ω ν ε α} {i j : ι} {a : α}
    (h : (sys.committing i).Returned j a) :
    (j = i ∧ (sys.sessions i).program = .done a) ∨ sys.Returned j a := by
  unfold Returned committing at h
  simp only at h
  split at h
  · rename_i hji
    exact .inl ⟨hji, h.2⟩
  · refine .inr ⟨?_, ?_⟩
    · simpa using h.1
    · simpa using h.2

variable [Fintype ι] [DecidableEq κ] [DecidableEq ν]

instance (sys : System ι σ κ ω ν ε α) (i : ι) (l : Lock κ ν) :
    Decidable (sys.HeldElsewhere i l) :=
  inferInstanceAs (Decidable (∃ _, _))

/-- What a statement of session `i` that began on `snapshot` sees when it
finishes. -/
def view (sys : System ι σ κ ω ν ε α) (i : ι) (snapshot : σ) : View σ κ :=
  { snapshot := snapshot
    current := sys.current i
    busy := fun k => decide (sys.HeldElsewhere i (.row k)) }

/-- Nobody else holds what the effect takes, and a serializable session has been
overtaken on none of its rows. -/
def Free {β : Type} [Indexed ω ν] (sys : System ι σ κ ω ν ε α) (i : ι) (eff : Effect κ ω β) :
    Prop :=
  (∀ l ∈ taken σ eff, ¬sys.HeldElsewhere i l) ∧
    ∀ k ∈ (sys.sessions i).overtaken, .row k ∉ (taken σ eff : List (Lock κ ν))

instance {β : Type} [Indexed ω ν] (sys : System ι σ κ ω ν ε α) (i : ι) (eff : Effect κ ω β) :
    Decidable (sys.Free i eff) :=
  inferInstanceAs (Decidable (_ ∧ _))

/-- One move; `none` when it is not possible now. -/
def step [Indexed ω ν] (sys : System ι σ κ ω ν ε α) : Move ι ε → Option (System ι σ κ ω ν ε α)
  | .begin i =>
      match (sys.sessions i).status, (sys.sessions i).began with
      | .running, none => some (sys.setSession i (sys.begun i))
      | _, _ => none
  | .finish i =>
      match (sys.sessions i).status, (sys.sessions i).program, (sys.sessions i).began with
      | .running, .abort e, _ => some (sys.setSession i ((sys.sessions i).fail e))
      | .running, .step stmt next, some snapshot =>
          match stmt (sys.view i snapshot) with
          | .error e => some (sys.setSession i ((sys.sessions i).fail e))
          | .ok eff =>
              if sys.Free i eff then some (sys.setSession i (sys.advanced i next eff)) else none
      | _, _, _ => none
  | .commit i =>
      match (sys.sessions i).status, (sys.sessions i).program with
      | .running, .done _ => some (sys.committing i)
      | _, _ => none
  | .fail i e =>
      match (sys.sessions i).status with
      | .running => some (sys.setSession i ((sys.sessions i).fail e))
      | _ => none
  | .crash i =>
      match (sys.sessions i).status with
      | .running => some (sys.setSession i ((sys.sessions i).close .aborted))
      | _ => none

/-- **What one move can do.** A session begins a statement, finishes it, commits,
or fails; only the commit changes the committed state. -/
theorem step_cases [Indexed ω ν] {sys sys' : System ι σ κ ω ν ε α} {m : Move ι ε}
    (h : sys.step m = some sys') :
    (∃ i, (sys.sessions i).status = .running ∧ (sys.sessions i).began = none ∧
      sys' = sys.setSession i (sys.begun i)) ∨
    (∃ (i : ι) (β : Type) (stmt : Statement σ κ ω ε β) (next : β → Program σ κ ω ε α)
        (snapshot : σ) (eff : Effect κ ω β), (sys.sessions i).status = .running ∧
      (sys.sessions i).program = .step stmt next ∧ (sys.sessions i).began = some snapshot ∧
      stmt (sys.view i snapshot) = .ok eff ∧ sys.Free i eff ∧
      sys' = sys.setSession i (sys.advanced i next eff)) ∨
    (∃ (i : ι) (a : α), m = .commit i ∧ (sys.sessions i).status = .running ∧
      (sys.sessions i).program = .done a ∧ sys' = sys.committing i) ∨
    (∃ (i : ι) (s : Session σ κ ω ν ε α), (sys.sessions i).status = .running ∧
      ((∃ e, s = (sys.sessions i).fail e) ∨ s = (sys.sessions i).close .aborted) ∧
      sys' = sys.setSession i s) := by
  cases m with
  | begin i =>
      left
      simp only [step] at h
      split at h <;> simp only [Option.some.injEq, reduceCtorEq] at h
      rename_i hstatus hbegan
      exact ⟨i, hstatus, hbegan, h.symm⟩
  | finish i =>
      simp only [step] at h
      split at h
      · rename_i e hstatus _
        right; right; right
        exact ⟨i, _, hstatus, .inl ⟨e, rfl⟩, (Option.some.inj h).symm⟩
      · rename_i stmt next snapshot hstatus hprogram hbegan
        split at h
        · rename_i e _
          right; right; right
          exact ⟨i, _, hstatus, .inl ⟨e, rfl⟩, (Option.some.inj h).symm⟩
        · rename_i eff heff
          split at h <;> simp only [Option.some.injEq, reduceCtorEq] at h
          rename_i hfree
          right; left
          exact ⟨i, _, stmt, next, snapshot, eff, hstatus, hprogram, hbegan, heff, hfree, h.symm⟩
      · cases h
  | commit i =>
      right; right; left
      simp only [step] at h
      split at h <;> simp only [Option.some.injEq, reduceCtorEq] at h
      rename_i a hstatus hprogram
      exact ⟨i, a, rfl, hstatus, hprogram, h.symm⟩
  | fail i e =>
      right; right; right
      simp only [step] at h
      split at h <;> simp only [Option.some.injEq, reduceCtorEq] at h
      rename_i hstatus
      exact ⟨i, _, hstatus, .inl ⟨e, rfl⟩, h.symm⟩
  | crash i =>
      right; right; right
      simp only [step] at h
      split at h <;> simp only [Option.some.injEq, reduceCtorEq] at h
      rename_i hstatus
      exact ⟨i, _, hstatus, .inr rfl, h.symm⟩

end System

end Isolation

end Relational
