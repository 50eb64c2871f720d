import Mathlib.Data.Fintype.Defs
import SeatFlow.Relational.Program
import SeatFlow.Relational.Runs

/-!
# READ COMMITTED interleavings

Several sessions, each running one transaction program against one committed
state. A statement takes its snapshot when it begins and finishes later, when
every row lock it takes is free; it then acts on the row versions it finds
locked, but whatever it read from the snapshot stays as old as the snapshot. A
transaction's own writes are visible to its own statements only, until it
commits. A session may abort at any time (a deadlock, a timeout, a crash).
-/

namespace Relational

inductive SessionStatus
  | running | committed | aborted
  deriving DecidableEq

/-- One session: the rest of its program, its writes so far (oldest first), its
row locks, and the snapshot of the statement in progress. -/
structure Session (σ κ ω ε α : Type) where
  program : Program σ κ ω ε α
  status : SessionStatus := .running
  writes : List ω := []
  locks : List κ := []
  began : Option σ := none

/-- A session that is over holds no locks and has no pending writes. -/
def Session.close {σ κ ω ε α : Type} (s : Session σ κ ω ε α) (status : SessionStatus) :
    Session σ κ ω ε α :=
  { program := s.program, status := status }

structure System (ι σ κ ω ε α : Type) where
  committed : σ
  sessions : ι → Session σ κ ω ε α

/-- What a session can do next. -/
inductive Move (ι : Type)
  | begin (i : ι)
  | finish (i : ι)
  | commit (i : ι)
  | abort (i : ι)

namespace System

variable {ι σ κ ω ε α : Type} [Store σ κ ω]

/-- Sessions about to start their programs. -/
def start (c : σ) (programs : ι → Program σ κ ω ε α) : System ι σ κ ω ε α :=
  { committed := c, sessions := fun i => { program := programs i } }

/-- The state as session `i` sees it: committed rows under its own writes. -/
def current (sys : System ι σ κ ω ε α) (i : ι) : σ :=
  applyAll (sys.sessions i).writes sys.committed

/-- Some other session holds the row lock `k`. -/
def HeldElsewhere (sys : System ι σ κ ω ε α) (i : ι) (k : κ) : Prop :=
  ∃ j, j ≠ i ∧ k ∈ (sys.sessions j).locks

variable [Fintype ι] [DecidableEq ι] [DecidableEq κ]

instance (sys : System ι σ κ ω ε α) (i : ι) (k : κ) : Decidable (sys.HeldElsewhere i k) :=
  inferInstanceAs (Decidable (∃ _, _))

/-- What a statement of session `i` that began on `snapshot` sees when it
finishes. -/
def view (sys : System ι σ κ ω ε α) (i : ι) (snapshot : σ) : View σ κ :=
  { snapshot := snapshot
    current := sys.current i
    busy := fun k => decide (sys.HeldElsewhere i k) }

def setSession (sys : System ι σ κ ω ε α) (i : ι) (s : Session σ κ ω ε α) :
    System ι σ κ ω ε α :=
  { sys with sessions := Function.update sys.sessions i s }

/-- The locks an effect takes: those it asks for and those of the rows it
writes. -/
def taken {β : Type} (σ : Type) [Store σ κ ω] (eff : Effect κ ω β) : List κ :=
  eff.locks ++ eff.writes.filterMap (Store.key σ)

/-- Session `i` finishes a statement with effect `eff`. -/
def advance {β : Type} (sys : System ι σ κ ω ε α) (i : ι) (next : β → Program σ κ ω ε α)
    (eff : Effect κ ω β) : System ι σ κ ω ε α :=
  sys.setSession i
    { program := next eff.result
      status := .running
      writes := (sys.sessions i).writes ++ eff.writes
      locks := (sys.sessions i).locks ++ taken σ eff
      began := none }

/-- One move; `none` when it is not possible now. A statement whose locks are
held elsewhere waits, that is, it cannot finish yet. -/
def step (sys : System ι σ κ ω ε α) : Move ι → Option (System ι σ κ ω ε α)
  | .begin i =>
      match (sys.sessions i).status, (sys.sessions i).began with
      | .running, none =>
          some (sys.setSession i { sys.sessions i with began := some (sys.current i) })
      | _, _ => none
  | .finish i =>
      match (sys.sessions i).status, (sys.sessions i).program, (sys.sessions i).began with
      | .running, .step stmt next, some snapshot =>
          match stmt (sys.view i snapshot) with
          | .error _ => some (sys.setSession i ((sys.sessions i).close .aborted))
          | .ok eff =>
              if ∀ k ∈ taken σ eff, ¬ sys.HeldElsewhere i k then some (sys.advance i next eff)
              else none
      | _, _, _ => none
  | .commit i =>
      match (sys.sessions i).status, (sys.sessions i).program with
      | .running, .done _ =>
          some
            { committed := sys.current i
              sessions := Function.update sys.sessions i ((sys.sessions i).close .committed) }
      | _, _ => none
  | .abort i =>
      match (sys.sessions i).status with
      | .running => some (sys.setSession i ((sys.sessions i).close .aborted))
      | _ => none

/-- **What one move can do.** Every move is one of five things. -/
theorem step_cases {sys sys' : System ι σ κ ω ε α} {m : Move ι} (h : sys.step m = some sys') :
    (∃ i, m = .begin i ∧ (sys.sessions i).status = .running ∧
      sys' = sys.setSession i { sys.sessions i with began := some (sys.current i) }) ∨
    (∃ (i : ι) (β : Type) (stmt : Statement σ κ ω ε β) (next : β → Program σ κ ω ε α)
        (snapshot : σ) (eff : Effect κ ω β),
      m = .finish i ∧ (sys.sessions i).status = .running ∧
        (sys.sessions i).program = .step stmt next ∧ (sys.sessions i).began = some snapshot ∧
        stmt (sys.view i snapshot) = .ok eff ∧ (∀ k ∈ taken σ eff, ¬ sys.HeldElsewhere i k) ∧
        sys' = sys.advance i next eff) ∨
    (∃ (i : ι) (a : α), m = .commit i ∧ (sys.sessions i).status = .running ∧
      (sys.sessions i).program = .done a ∧
      sys' = { committed := sys.current i
               sessions := Function.update sys.sessions i ((sys.sessions i).close .committed) }) ∨
    (∃ i, (sys.sessions i).status = .running ∧
      sys' = sys.setSession i ((sys.sessions i).close .aborted)) := by
  cases m with
  | begin i =>
      left
      simp only [step] at h
      split at h <;> simp only [Option.some.injEq, reduceCtorEq] at h
      rename_i hstatus _
      exact ⟨i, rfl, hstatus, h.symm⟩
  | finish i =>
      simp only [step] at h
      split at h
      · rename_i stmt next snapshot hstatus hprogram hbegan
        split at h
        · right; right; right
          exact ⟨i, hstatus, (Option.some.inj h).symm⟩
        · rename_i eff heff
          split at h <;> simp only [Option.some.injEq, reduceCtorEq] at h
          rename_i hfree
          right; left
          exact ⟨i, _, stmt, next, snapshot, eff, rfl, hstatus, hprogram, hbegan, heff, hfree,
            h.symm⟩
      · cases h
  | commit i =>
      right; right; left
      simp only [step] at h
      split at h <;> simp only [Option.some.injEq, reduceCtorEq] at h
      rename_i a hstatus hprogram
      exact ⟨i, a, rfl, hstatus, hprogram, h.symm⟩
  | abort i =>
      right; right; right
      simp only [step] at h
      split at h <;> simp only [Option.some.injEq, reduceCtorEq] at h
      rename_i hstatus
      exact ⟨i, hstatus, h.symm⟩

end System

end Relational
