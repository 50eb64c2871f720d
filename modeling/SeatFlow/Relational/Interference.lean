import Mathlib.Logic.Relation
import SeatFlow.Relational.Isolation

/-!
# Transactions under interference

What one transaction may rely on while others commit. A `Discipline` says which
writes may be committed, under which locks, on which states, and which invariant
they keep. `Others` is what the commits of the other sessions can do meanwhile;
`Wp` and `SnapshotWp` are weakest preconditions of programs under such
interference, for the two isolation levels. A system all of whose transactions
obey the discipline keeps the invariant, and what each commit does is what its
transaction was shown to do (`Sound`).
-/

namespace Relational

open Relation Isolation

variable {σ κ ω ν ε α β : Type} [Store σ κ ω] [Indexed ω ν]

/-- The locks cover the rows and the entries of the writes. -/
def Covers (σ : Type) {κ ω ν : Type} [Store σ κ ω] [Indexed ω ν] (locks : List (Lock κ ν))
    (writes : List ω) : Prop :=
  ∀ w ∈ writes, (∀ k, Store.key σ w = some k → .row k ∈ locks) ∧
    ∀ n ∈ Indexed.entries w, .entry n ∈ locks

theorem covers_nil (locks : List (Lock κ ν)) : Covers σ locks ([] : List ω) := by
  intro w hw
  cases hw

theorem mem_taken_of_write (eff : Effect κ ω β) {w : ω} (hw : w ∈ eff.writes) :
    (∀ k, Store.key σ w = some k → .row k ∈ (taken σ eff : List (Lock κ ν))) ∧
      ∀ n ∈ Indexed.entries w, .entry n ∈ (taken σ eff : List (Lock κ ν)) := by
  unfold taken writtenRows
  constructor
  · intro k hk
    refine List.mem_append_left _ (List.mem_map_of_mem ?_)
    exact List.mem_append_right _ (List.mem_filterMap.mpr ⟨w, hw, hk⟩)
  · intro n hn
    refine List.mem_append_right _ (List.mem_map_of_mem ?_)
    exact List.mem_flatMap.mpr ⟨w, hw, hn⟩

/-- A statement takes what its writes need. -/
theorem covers_append {locks : List (Lock κ ν)} {writes : List ω} (h : Covers σ locks writes)
    (eff : Effect κ ω β) : Covers σ (locks ++ taken σ eff) (writes ++ eff.writes) := by
  intro w hw
  rcases List.mem_append.mp hw with hw | hw
  · obtain ⟨hrow, hentry⟩ := h w hw
    exact ⟨fun k hk => List.mem_append_left _ (hrow k hk),
      fun n hn => List.mem_append_left _ (hentry n hn)⟩
  · obtain ⟨hrow, hentry⟩ := mem_taken_of_write (σ := σ) eff hw
    exact ⟨fun k hk => List.mem_append_right _ (hrow k hk),
      fun n hn => List.mem_append_right _ (hentry n hn)⟩

/-- Which writes may be committed under which locks, and what they keep. -/
structure Discipline (σ κ ω ν : Type) [Store σ κ ω] where
  Inv : σ → Prop
  Permits : List (Lock κ ν) → List ω → σ → Prop
  keeps : ∀ {locks : List (Lock κ ν)} {writes : List ω} {s : σ},
    Permits locks writes s → Inv s → Inv (applyAll writes s)

/-! ## §1 What others may do -/

/-- None of `mine` is among the locks. -/
def Apart (mine : List (Lock κ ν)) (locks : List (Lock κ ν)) (_ : List ω) : Prop :=
  ∀ l ∈ mine, l ∉ locks

/-- No row of `mine` is written. -/
def Avoiding (σ : Type) {κ ω ν : Type} [Store σ κ ω] (mine : List (Lock κ ν))
    (_ : List (Lock κ ν)) (writes : List ω) : Prop :=
  ∀ w ∈ writes, ∀ k, Store.key σ w = some k → .row k ∉ mine

/-- Every row written is one of `rows`. -/
def Within (σ : Type) {κ ω ν : Type} [Store σ κ ω] (rows : List κ) (_ : List (Lock κ ν))
    (writes : List ω) : Prop :=
  ∀ w ∈ writes, ∀ k, Store.key σ w = some k → k ∈ rows

namespace Program

/-- Every write of the program satisfies `P`, whatever it reads. -/
def Emits (P : ω → Prop) : Program σ κ ω ε α → Prop
  | .done _ => True
  | .abort _ => True
  | .step stmt next => ∀ v eff, stmt v = .ok eff →
      (∀ w ∈ eff.writes, P w) ∧ Emits P (next eff.result)

variable {P : ω → Prop}

omit [Store σ κ ω] [Indexed ω ν] in
theorem emits_pure {a : α} : Emits P (Pure.pure a : Program σ κ ω ε α) :=
  trivial

omit [Store σ κ ω] [Indexed ω ν] in
theorem Emits.bind {p : Program σ κ ω ε α} {f : α → Program σ κ ω ε β} (hp : p.Emits P)
    (hf : ∀ a, (f a).Emits P) : (p >>= f).Emits P := by
  show (p.bind f).Emits P
  induction p with
  | done a => exact hf a
  | abort e => trivial
  | step stmt next ih =>
      intro v eff heff
      exact ⟨(hp v eff heff).1, ih eff.result (hp v eff heff).2⟩

omit [Store σ κ ω] [Indexed ω ν] in
theorem emits_perform {stmt : Statement σ κ ω ε β}
    (h : ∀ v eff, stmt v = .ok eff → ∀ w ∈ eff.writes, P w) : (perform stmt).Emits P :=
  fun v eff heff => ⟨h v eff heff, trivial⟩

omit [Store σ κ ω] [Indexed ω ν] in
theorem emits_read {f : σ → β} : Emits P (.read f : Program σ κ ω ε β) := by
  refine emits_perform ?_
  rintro v eff ⟨⟩ w hw
  cases hw

omit [Store σ κ ω] [Indexed ω ν] in
theorem emits_require {c : Prop} [Decidable c] {e : ε} :
    Emits P (.require c e : Program σ κ ω ε Unit) := by
  unfold require
  split <;> trivial

omit [Store σ κ ω] [Indexed ω ν] in
theorem emits_orThrow {e : ε} {o : Option α} : Emits P (.orThrow e o : Program σ κ ω ε α) := by
  cases o <;> trivial

/-- What the program has written when it completes, whatever it reads. -/
def Yields : Program σ κ ω ε α → (α → List ω → Prop) → Prop
  | .done a, Q => Q a []
  | .abort _, _ => True
  | .step stmt next, Q => ∀ v eff, stmt v = .ok eff →
      Yields (next eff.result) fun a written => Q a (eff.writes ++ written)

variable {Q Q' : α → List ω → Prop} {p : Program σ κ ω ε α}

omit [Store σ κ ω] [Indexed ω ν] in
theorem Yields.mono (hp : p.Yields Q) (h : ∀ a written, Q a written → Q' a written) :
    p.Yields Q' := by
  induction p generalizing Q Q' with
  | done a => exact h a [] hp
  | abort e => trivial
  | step stmt next ih =>
      intro v eff heff
      exact ih eff.result (hp v eff heff) fun a written => h a (eff.writes ++ written)

omit [Store σ κ ω] [Indexed ω ν] in
theorem Emits.yields (hp : p.Emits P) : p.Yields fun _ written => ∀ w ∈ written, P w := by
  induction p with
  | done a =>
      intro w hw
      cases hw
  | abort e => trivial
  | step stmt next ih =>
      intro v eff heff
      obtain ⟨hwrites, hnext⟩ := hp v eff heff
      refine (ih eff.result hnext).mono fun a written hwritten w hw => ?_
      rcases List.mem_append.mp hw with hw | hw
      · exact hwrites w hw
      · exact hwritten w hw

omit [Store σ κ ω] [Indexed ω ν] in
theorem yields_bind {f : α → Program σ κ ω ε β} {R : β → List ω → Prop}
    (hp : p.Yields fun a written => (f a).Yields fun b later => R b (written ++ later)) :
    (p >>= f).Yields R := by
  show (p.bind f).Yields R
  induction p generalizing R with
  | done a => exact hp
  | abort e => trivial
  | step stmt next ih =>
      intro v eff heff
      refine ih eff.result ((hp v eff heff).mono fun a written hwritten => ?_)
      exact hwritten.mono fun b later hlater => by rwa [← List.append_assoc]

omit [Indexed ω ν] in
/-- Alone, the program leaves what it has written. -/
theorem Yields.ensures {s : σ} (hp : p.Yields Q) :
    p.Ensures s fun a s' => ∃ written, Q a written ∧ s' = applyAll written s := by
  induction p generalizing s Q with
  | done a =>
      rintro b s' ⟨⟩
      exact ⟨[], hp, rfl⟩
  | abort e =>
      rintro b s' ⟨⟩
  | step stmt next ih =>
      intro a s' hrun
      rw [run] at hrun
      split at hrun
      · cases hrun
      · rename_i eff heff
        obtain ⟨written, hQ, rfl⟩ := ih eff.result (hp _ eff heff) a s' hrun
        exact ⟨eff.writes ++ written, hQ, (applyAll_append ..).symm⟩

end Program

namespace Discipline

variable (D : Discipline σ κ ω ν)

/-- One commit of another session. -/
def Commit (ok : List (Lock κ ν) → List ω → Prop) (s s' : σ) : Prop :=
  D.Inv s ∧ ∃ locks writes, Covers σ locks writes ∧ ok locks writes ∧ D.Permits locks writes s ∧
    s' = applyAll writes s

/-- Any number of commits of other sessions. -/
def Others (ok : List (Lock κ ν) → List ω → Prop) (s s' : σ) : Prop :=
  ReflTransGen (D.Commit ok) s s'

variable {D} {ok ok' : List (Lock κ ν) → List ω → Prop} {s s' s'' : σ}

theorem Others.refl : D.Others ok s s :=
  ReflTransGen.refl

theorem Others.trans (h : D.Others ok s s') (h' : D.Others ok s' s'') : D.Others ok s s'' :=
  ReflTransGen.trans h h'

theorem Others.mono (h : D.Others ok s s')
    (himp : ∀ locks writes, Covers σ locks writes → ok locks writes → ok' locks writes) :
    D.Others ok' s s' := by
  refine ReflTransGen.mono ?_ _ _ h
  rintro s s' ⟨hinv, locks, writes, hcovers, hok, hpermits, rfl⟩
  exact ⟨hinv, locks, writes, hcovers, himp locks writes hcovers hok, hpermits, rfl⟩

/-- **Stability.** What one commit of another session preserves, they all do. -/
theorem Others.stable {A : σ → Prop} (h : D.Others ok s s') (hs : A s)
    (hstep : ∀ locks writes s, D.Inv s → Covers σ locks writes → ok locks writes →
      D.Permits locks writes s → A s → A (applyAll writes s)) : A s' := by
  unfold Others at h
  induction h with
  | refl => exact hs
  | tail _ hlast ih =>
      obtain ⟨hinv, locks, writes, hcovers, hok, hpermits, rfl⟩ := hlast
      exact hstep locks writes _ hinv hcovers hok hpermits ih

theorem Others.inv_of (h : D.Others ok s s') (hs' : D.Inv s') : D.Inv s := by
  rcases ReflTransGen.cases_head h with rfl | ⟨_, hfirst, -⟩
  · exact hs'
  · exact hfirst.1

/-- A session with fewer locks tolerates more. -/
theorem Others.apart_mono {mine mine' : List (Lock κ ν)} (h : D.Others (Apart mine') s s')
    (hsub : ∀ l ∈ mine, l ∈ mine') : D.Others (Apart mine) s s' :=
  h.mono fun _ _ _ hok l hl => hok l (hsub l hl)

/-- Who takes none of my locks writes none of my rows. -/
theorem Others.avoiding {mine : List (Lock κ ν)} (h : D.Others (Apart mine) s s') :
    D.Others (Avoiding σ mine) s s' :=
  h.mono fun _ _ hcovers hok w hw k hk hmine => hok _ hmine ((hcovers w hw).1 k hk)

/-! ## §2 Weakest preconditions -/

/-- The postcondition of a program: its result, the committed state, and its
writes and locks so far. -/
abbrev Post (α σ κ ω ν : Type) := α → σ → List ω → List (Lock κ ν) → Prop

variable (D)

/-- At `readCommitted`: others may commit before each statement, between its
snapshot and its end, and after the last. The invariant and the locks on the
writes may be relied on. -/
def Wp : Program σ κ ω ε α → σ → List ω → List (Lock κ ν) → Post α σ κ ω ν → Prop
  | .done a, s, writes, locks, Q =>
      ∀ s', D.Others (Apart locks) s s' → D.Inv s' → Covers σ locks writes → Q a s' writes locks
  | .abort _, _, _, _, _ => True
  | .step stmt next, s, writes, locks, Q =>
      ∀ s₁, D.Others (Apart locks) s s₁ → ∀ s₂, D.Others (Apart locks) s₁ s₂ →
        D.Inv s₂ → Covers σ locks writes →
        ∀ busy eff, stmt ⟨applyAll writes s₁, applyAll writes s₂, busy⟩ = .ok eff →
          Wp (next eff.result) s₂ (writes ++ eff.writes) (locks ++ taken σ eff) Q

/-- At `serializable`: `origin` is the first snapshot. At the end of each
statement others may have committed since, on rows that are not locked now. -/
def SnapshotWp : Program σ κ ω ε α → σ → List ω → List (Lock κ ν) →
    (α → List ω → List (Lock κ ν) → Prop) → Prop
  | .done a, _, writes, locks, Q => Covers σ locks writes → Q a writes locks
  | .abort _, _, _, _, _ => True
  | .step stmt next, origin, writes, locks, Q =>
      ∀ s busy eff, stmt ⟨applyAll writes origin, applyAll writes s, busy⟩ = .ok eff →
        D.Others (Avoiding σ (locks ++ taken σ eff)) origin s → Covers σ locks writes →
          SnapshotWp (next eff.result) origin (writes ++ eff.writes) (locks ++ taken σ eff) Q

variable {D}

/-- A precondition survives what others do. -/
theorem Wp.stable {p : Program σ κ ω ε α} {writes : List ω} {locks : List (Lock κ ν)}
    {Q : Post α σ κ ω ν} (h : D.Wp p s writes locks Q) (hothers : D.Others (Apart locks) s s') :
    D.Wp p s' writes locks Q := by
  cases p with
  | done a => exact fun s'' h' => h s'' (hothers.trans h')
  | abort e => trivial
  | step stmt next => exact fun s₁ h₁ => h s₁ (hothers.trans h₁)

theorem Wp.mono {p : Program σ κ ω ε α} {writes : List ω} {locks : List (Lock κ ν)}
    {Q Q' : Post α σ κ ω ν} (h : D.Wp p s writes locks Q)
    (himp : ∀ a s writes locks, Q a s writes locks → Q' a s writes locks) :
    D.Wp p s writes locks Q' := by
  induction p generalizing s writes locks with
  | done a => exact fun s' h' hinv hcovers => himp a s' writes locks (h s' h' hinv hcovers)
  | abort e => trivial
  | step stmt next ih =>
      intro s₁ h₁ s₂ h₂ hinv hcovers busy eff heff
      exact ih eff.result (h s₁ h₁ s₂ h₂ hinv hcovers busy eff heff)

/-- What may be relied on. -/
theorem wp_intro {p : Program σ κ ω ε α} {writes : List ω} {locks : List (Lock κ ν)}
    {Q : Post α σ κ ω ν}
    (h : D.Inv s → Covers σ locks writes → D.Wp p s writes locks Q) :
    D.Wp p s writes locks Q := by
  cases p with
  | done a =>
      intro s' h' hinv hcovers
      exact h (h'.inv_of hinv) hcovers s' h' hinv hcovers
  | abort e => trivial
  | step stmt next =>
      intro s₁ h₁ s₂ h₂ hinv hcovers
      exact h ((h₁.trans h₂).inv_of hinv) hcovers s₁ h₁ s₂ h₂ hinv hcovers

theorem wp_bind {p : Program σ κ ω ε α} {f : α → Program σ κ ω ε β} {writes : List ω}
    {locks : List (Lock κ ν)} {Q : Post β σ κ ω ν} :
    D.Wp (p >>= f) s writes locks Q ↔
      D.Wp p s writes locks fun a s writes locks => D.Wp (f a) s writes locks Q := by
  show D.Wp (p.bind f) s writes locks Q ↔ _
  induction p generalizing s writes locks with
  | done a =>
      constructor
      · intro h s' hothers _ _
        exact h.stable hothers
      · intro h
        exact wp_intro fun hinv hcovers => h s .refl hinv hcovers
  | abort e => exact Iff.rfl
  | step stmt next ih =>
      simp only [Program.bind, Wp, ih]

/-- One statement: what it reads may be older than what it acts on. Its locks
are kept. -/
theorem wp_perform {stmt : Statement σ κ ω ε β} {f : β → Program σ κ ω ε α} {writes : List ω}
    {locks : List (Lock κ ν)} {Q : Post α σ κ ω ν}
    (h : ∀ s₁, D.Others (Apart locks) s s₁ → ∀ s₂, D.Others (Apart locks) s₁ s₂ →
      D.Inv s₂ → Covers σ locks writes →
      ∀ busy eff, stmt ⟨applyAll writes s₁, applyAll writes s₂, busy⟩ = .ok eff →
        D.Wp (f eff.result) s₂ (writes ++ eff.writes) (locks ++ taken σ eff) Q) :
    D.Wp (Program.perform stmt >>= f) s writes locks Q :=
  h

/-- A plain read. -/
theorem wp_read {g : σ → β} {f : β → Program σ κ ω ε α} {writes : List ω}
    {locks : List (Lock κ ν)} {Q : Post α σ κ ω ν}
    (h : ∀ s₁, D.Others (Apart locks) s s₁ → D.Wp (f (g (applyAll writes s₁))) s₁ writes locks Q) :
    D.Wp (Program.read g >>= f) s writes locks Q := by
  refine wp_perform ?_
  rintro s₁ h₁ s₂ h₂ - - busy eff ⟨⟩
  have hwp := (h s₁ h₁).stable h₂
  simpa [Effect.reply, taken, writtenRows] using hwp

theorem wp_require {c : Prop} [Decidable c] {e : ε} {f : Unit → Program σ κ ω ε β}
    {writes : List ω} {locks : List (Lock κ ν)} {Q : Post β σ κ ω ν}
    (h : c → D.Wp (f ()) s writes locks Q) :
    D.Wp (Program.require c e >>= f) s writes locks Q := by
  rw [wp_bind]
  unfold Program.require
  split
  · rename_i hc
    exact fun s' hothers _ _ => (h hc).stable hothers
  · trivial

theorem wp_orThrow {o : Option α} {e : ε} {f : α → Program σ κ ω ε β} {writes : List ω}
    {locks : List (Lock κ ν)} {Q : Post β σ κ ω ν}
    (h : ∀ a, o = some a → D.Wp (f a) s writes locks Q) :
    D.Wp (Program.orThrow e o >>= f) s writes locks Q := by
  rw [wp_bind]
  cases o with
  | none => trivial
  | some a => exact fun s' hothers _ _ => (h a rfl).stable hothers

/-! The same rules for a transaction with one snapshot. -/

section Snapshot

variable {origin : σ} {writes : List ω} {locks : List (Lock κ ν)}
  {R : β → List ω → List (Lock κ ν) → Prop}

end Snapshot

/-! ## §3 Transactions that obey -/

/-- What a commit must establish: it is permitted, and it does `T`. -/
def MayCommit (D : Discipline σ κ ω ν) (T : α → σ → σ → Prop) : Post α σ κ ω ν :=
  fun a s writes locks => D.Permits locks writes s ∧ T a s (applyAll writes s)

variable (D)

/-- Whenever the transaction commits, with the result `a` say, it may, and takes
the committed state to one related to it by `T a`. -/
structure Obeys (t : Transaction σ κ ω ε α) (T : α → σ → σ → Prop) : Prop where
  readCommitted : t.level = .readCommitted → ∀ s, D.Inv s →
    D.Wp t.program s [] [] (D.MayCommit T)
  serializable : t.level = .serializable → ∀ s, D.Inv s →
    D.SnapshotWp t.program s [] [] fun a writes locks =>
      ∀ s', D.Others (Avoiding σ locks) s s' → D.MayCommit T a s' writes locks
  rescue : ∀ e s, D.Inv s → D.Wp (t.rescue e) s [] [] (D.MayCommit T)

/-- The rest of a session's transaction, at the state committed now. -/
def Pursues (T : α → σ → σ → Prop) (session : Session σ κ ω ν ε α) (s : σ) : Prop :=
  match session.level with
  | .readCommitted =>
      ∃ s₁, D.Others (Apart session.locks) s₁ s ∧
        D.Wp session.program s₁ session.writes session.locks (D.MayCommit T) ∧
        ∀ snapshot, session.began = some snapshot → snapshot = applyAll session.writes s₁
  | .serializable =>
      match session.origin with
      | none => session.writes = [] ∧ session.locks = [] ∧ session.overtaken = [] ∧
          session.began = none ∧
          ∀ s', D.Inv s' → D.SnapshotWp session.program s' [] [] fun a writes locks =>
            ∀ s'', D.Others (Avoiding σ locks) s' s'' → D.MayCommit T a s'' writes locks
      | some origin =>
          D.Others (Within σ session.overtaken) origin s ∧
            (∀ k ∈ session.overtaken, .row k ∉ session.locks) ∧
            (D.SnapshotWp session.program origin session.writes session.locks
              fun a writes locks => ∀ s', D.Others (Avoiding σ locks) origin s' →
                D.MayCommit T a s' writes locks) ∧
            ∀ snapshot, session.began = some snapshot → snapshot = applyAll session.writes origin

/-- A session whose transaction obeys, at any point of its run. -/
structure SoundSession (T : α → σ → σ → Prop) (session : Session σ κ ω ν ε α) (s : σ) : Prop where
  covers : Covers σ session.locks session.writes
  pursues : session.status = .running → D.Pursues T session s
  rescue : ∀ rescue, session.rescue = some rescue → ∀ e s', D.Inv s' →
    D.Wp (rescue e) s' [] [] (D.MayCommit T)

/-- A system of such sessions. -/
structure Sound {ι : Type} (T : ι → α → σ → σ → Prop) (sys : System ι σ κ ω ν ε α) : Prop where
  inv : D.Inv sys.committed
  exclusive : ∀ i j l, l ∈ (sys.sessions i).locks → l ∈ (sys.sessions j).locks → i = j
  session : ∀ i, D.SoundSession (T i) (sys.sessions i) sys.committed

variable {D} {T : α → σ → σ → Prop} {session : Session σ κ ω ν ε α}

/-- A session that is over. -/
theorem soundSession_close {s : σ} {status : Status} (hstatus : status ≠ .running) :
    D.SoundSession T (session.close status) s where
  covers := covers_nil _
  pursues h := absurd h hstatus
  rescue _ h := by cases h

/-- A session that has failed starts its `catch`, if it has one left. -/
theorem SoundSession.fail {s : σ} (h : D.SoundSession T session s) (hinv : D.Inv s) (e : ε) :
    D.SoundSession T (session.fail e) s := by
  unfold Session.fail
  split
  · rename_i rescue hrescue
    refine ⟨covers_nil _, fun _ => ?_, fun _ h' => by cases h'⟩
    exact ⟨s, .refl, h.rescue rescue hrescue e s hinv, fun _ hbegan => by cases hbegan⟩
  · exact soundSession_close (by simp)

/-- **One step of a session.** Another session's commit keeps it sound. -/
theorem SoundSession.others {s : σ} (h : D.SoundSession T session s) (hinv : D.Inv s)
    {locks : List (Lock κ ν)} {writes : List ω} (hcovers : Covers σ locks writes)
    (hapart : ∀ l ∈ session.locks, l ∉ locks) (hpermits : D.Permits locks writes s) :
    D.SoundSession T (session.overtake (writtenRows σ writes)) (applyAll writes s) := by
  refine ⟨by simpa using h.covers, fun hrunning => ?_, by simpa using h.rescue⟩
  rw [Session.status_overtake] at hrunning
  have hpursues := h.pursues hrunning
  unfold Pursues at hpursues
  unfold Session.overtake
  cases hlevel : session.level with
  | readCommitted =>
      rw [hlevel] at hpursues
      obtain ⟨s₁, hothers, hwp, hbegan⟩ := hpursues
      have hcommit : D.Others (Apart session.locks) s (applyAll writes s) :=
        .single ⟨hinv, locks, writes, hcovers, hapart, hpermits, rfl⟩
      cases session.origin with
      | none =>
          simp only [Pursues, hlevel]
          exact ⟨s₁, hothers.trans hcommit, hwp, hbegan⟩
      | some origin =>
          simp only [Pursues]
          exact ⟨s₁, hothers.trans hcommit, hwp, hbegan⟩
  | serializable =>
      rw [hlevel] at hpursues
      cases horigin : session.origin with
      | none =>
          rw [horigin] at hpursues
          simp only [Pursues, hlevel, horigin]
          exact hpursues
      | some origin =>
          rw [horigin] at hpursues
          obtain ⟨hothers, hfree, hwp, hbegan⟩ := hpursues
          simp only [Pursues]
          have hrows : ∀ w ∈ writes, ∀ k, Store.key σ w = some k → k ∈ writtenRows σ writes :=
            fun w hw k hk => List.mem_filterMap.mpr ⟨w, hw, hk⟩
          refine ⟨?_, ?_, hwp, hbegan⟩
          · refine (hothers.mono fun _ _ _ hok w hw k hk => ?_).trans (.single ?_)
            · exact List.mem_append_left _ (hok w hw k hk)
            · refine ⟨hinv, locks, writes, hcovers, fun w hw k hk => ?_, hpermits, rfl⟩
              exact List.mem_append_right _ (hrows w hw k hk)
          · intro k hk hmine
            rcases List.mem_append.mp hk with hk | hk
            · exact hfree k hk hmine
            · obtain ⟨w, hw, hkey⟩ := List.mem_filterMap.mp hk
              exact hapart _ hmine ((hcovers w hw).1 k hkey)

/-- What a session that is about to commit has established. -/
theorem SoundSession.mayCommit {s : σ} {a : α} (h : D.SoundSession T session s) (hinv : D.Inv s)
    (hrunning : session.status = .running) (hdone : session.program = .done a) :
    D.MayCommit T a s session.writes session.locks := by
  have hpursues := h.pursues hrunning
  unfold Pursues at hpursues
  rw [hdone] at hpursues
  cases hlevel : session.level with
  | readCommitted =>
      rw [hlevel] at hpursues
      obtain ⟨s₁, hothers, hwp, -⟩ := hpursues
      exact hwp s hothers hinv h.covers
  | serializable =>
      rw [hlevel] at hpursues
      cases horigin : session.origin with
      | none =>
          rw [horigin] at hpursues
          obtain ⟨hwrites, hlocks, -, -, hwp⟩ := hpursues
          rw [hwrites, hlocks]
          exact hwp s hinv (covers_nil _) s .refl
      | some origin =>
          rw [horigin] at hpursues
          obtain ⟨hothers, hfree, hwp, -⟩ := hpursues
          refine hwp h.covers s (hothers.mono fun _ _ _ hok w hw k hk hmine => ?_)
          exact hfree k (hok w hw k hk) hmine

/-- A session that begins a statement. -/
theorem SoundSession.begun {ι : Type} [DecidableEq ι] {sys : System ι σ κ ω ν ε α} {i : ι}
    (h : D.SoundSession T (sys.sessions i) sys.committed) (hinv : D.Inv sys.committed)
    (hrunning : (sys.sessions i).status = .running) :
    D.SoundSession T (sys.begun i) sys.committed := by
  have hpursues := h.pursues hrunning
  unfold Pursues at hpursues
  cases hlevel : (sys.sessions i).level with
  | readCommitted =>
      rw [hlevel] at hpursues
      obtain ⟨s₁, hothers, hwp, -⟩ := hpursues
      rw [System.begun_readCommitted hlevel]
      refine ⟨h.covers, fun _ => ?_, h.rescue⟩
      simp only [Pursues, hlevel]
      refine ⟨sys.committed, .refl, hwp.stable hothers, ?_⟩
      rintro snapshot ⟨⟩
      rfl
  | serializable =>
      rw [hlevel] at hpursues
      rw [System.begun_serializable hlevel]
      refine ⟨h.covers, fun _ => ?_, h.rescue⟩
      simp only [Pursues, hlevel]
      cases horigin : (sys.sessions i).origin with
      | none =>
          rw [horigin] at hpursues
          obtain ⟨hwrites, hlocks, hovertaken, -, hwp⟩ := hpursues
          rw [hwrites, hlocks, hovertaken]
          refine ⟨.refl, fun _ hk => absurd hk List.not_mem_nil, hwp sys.committed hinv, ?_⟩
          rintro snapshot ⟨⟩
          rfl
      | some origin =>
          rw [horigin] at hpursues
          obtain ⟨hothers, hfree, hwp, -⟩ := hpursues
          refine ⟨hothers, hfree, hwp, ?_⟩
          rintro snapshot ⟨⟩
          rfl

section Systems

variable {ι : Type} {T : ι → α → σ → σ → Prop} {sys : System ι σ κ ω ν ε α}

/-- **What a commit does.** It is permitted by the discipline, and it takes the
committed state where its transaction was shown to take it. -/
theorem Sound.mayCommit (h : D.Sound T sys) {i : ι} {a : α}
    (hrunning : (sys.sessions i).status = .running) (hdone : (sys.sessions i).program = .done a) :
    D.MayCommit (T i) a sys.committed (sys.sessions i).writes (sys.sessions i).locks :=
  (h.session i).mayCommit h.inv hrunning hdone

theorem sound_start {s : σ} {transactions : ι → Transaction σ κ ω ε α} (hs : D.Inv s)
    (hobeys : ∀ i, D.Obeys (transactions i) (T i)) :
    D.Sound T (System.start s transactions : System ι σ κ ω ν ε α) := by
  refine ⟨hs, ?_, fun i => ⟨covers_nil _, fun _ => ?_, ?_⟩⟩
  · intro i j l hl
    cases hl
  · have htransaction := hobeys i
    unfold Pursues
    cases hlevel : (transactions i).level with
    | readCommitted =>
        simp only [System.start, Session.start, hlevel]
        exact ⟨s, .refl, htransaction.readCommitted hlevel s hs, fun _ hnone => by cases hnone⟩
    | serializable =>
        simp only [System.start, Session.start, hlevel]
        exact ⟨trivial, trivial, trivial, trivial, htransaction.serializable hlevel⟩
  · rintro rescue ⟨⟩ e s' hs'
    exact (hobeys i).rescue e s' hs'

variable [DecidableEq ι]

/-- Only one session changes, and it takes nothing that another holds. -/
theorem Sound.setSession (h : D.Sound T sys) {i : ι} {s : Session σ κ ω ν ε α}
    (hs : D.SoundSession (T i) s sys.committed)
    (hlocks : ∀ l ∈ s.locks, l ∈ (sys.sessions i).locks ∨ ¬sys.HeldElsewhere i l) :
    D.Sound T (sys.setSession i s) := by
  have hother : ∀ j, j ≠ i → ∀ l ∈ s.locks, l ∉ (sys.sessions j).locks := by
    intro j hj l hl hmem
    rcases hlocks l hl with hmine | hfree
    · exact hj (h.exclusive j i l hmem hmine)
    · exact hfree ⟨j, hj, hmem⟩
  refine ⟨h.inv, fun j k l hj hk => ?_, fun j => ?_⟩
  · simp only [System.setSession, Function.update_apply] at hj hk
    split at hj
    · rename_i hji
      subst hji
      split at hk
      · rename_i hkj
        exact hkj.symm
      · rename_i hkj
        exact absurd hk (hother k hkj l hj)
    · rename_i hji
      split at hk
      · rename_i hki
        subst hki
        exact absurd hj (hother j hji l hk)
      · exact h.exclusive j k l hj hk
  · simp only [System.setSession, Function.update_apply]
    split
    · rename_i hji
      subst hji
      exact hs
    · exact h.session j

theorem Sound.committing (h : D.Sound T sys) {i : ι} {a : α}
    (hrunning : (sys.sessions i).status = .running) (hdone : (sys.sessions i).program = .done a) :
    D.Sound T (sys.committing i) := by
  have hpermits := (h.mayCommit hrunning hdone).1
  have hlocks : ∀ j, ∀ l ∈ ((sys.committing i).sessions j).locks,
      j ≠ i ∧ l ∈ (sys.sessions j).locks := by
    intro j l hl
    simp only [System.committing] at hl
    split at hl
    · cases hl
    · rename_i hji
      refine ⟨hji, ?_⟩
      unfold Session.overtake at hl
      split at hl <;> exact hl
  refine ⟨D.keeps hpermits h.inv, fun j k l hj hk => ?_, fun j => ?_⟩
  · exact h.exclusive j k l (hlocks j l hj).2 (hlocks k l hk).2
  · simp only [System.committing]
    split
    · exact soundSession_close (by simp)
    · rename_i hji
      refine (h.session j).others h.inv (h.session i).covers (fun l hl hmem => ?_) hpermits
      exact hji (h.exclusive j i l hl hmem)

end Systems

variable {ι : Type} [Fintype ι] [DecidableEq ι] [DecidableEq κ] [DecidableEq ν]

/-- A session that finishes a statement. -/
theorem SoundSession.advanced {sys : System ι σ κ ω ν ε α} {i : ι}
    {stmt : Statement σ κ ω ε β} {next : β → Program σ κ ω ε α} {snapshot : σ}
    {eff : Effect κ ω β} (h : D.SoundSession T (sys.sessions i) sys.committed)
    (hinv : D.Inv sys.committed) (hrunning : (sys.sessions i).status = .running)
    (hprogram : (sys.sessions i).program = .step stmt next)
    (hbegan : (sys.sessions i).began = some snapshot)
    (heff : stmt (sys.view i snapshot) = .ok eff) (hfree : sys.Free i eff) :
    D.SoundSession T (sys.advanced i next eff) sys.committed := by
  have hpursues := h.pursues hrunning
  unfold Pursues at hpursues
  unfold System.view System.current at heff
  unfold System.advanced
  refine ⟨covers_append h.covers eff, fun _ => ?_, h.rescue⟩
  cases hlevel : (sys.sessions i).level with
  | readCommitted =>
      rw [hlevel] at hpursues
      obtain ⟨s₁, hothers, hwp, hsnapshot⟩ := hpursues
      simp only [Pursues, hlevel]
      rw [hprogram] at hwp
      rw [hsnapshot snapshot hbegan] at heff
      refine ⟨sys.committed, .refl, ?_, fun _ hnone => by cases hnone⟩
      exact hwp s₁ .refl _ hothers hinv h.covers _ eff heff
  | serializable =>
      rw [hlevel] at hpursues
      cases horigin : (sys.sessions i).origin with
      | none =>
          rw [horigin] at hpursues
          rw [hpursues.2.2.2.1] at hbegan
          cases hbegan
      | some origin =>
          rw [horigin] at hpursues
          obtain ⟨hothers, hold, hwp, hsnapshot⟩ := hpursues
          simp only [Pursues, hlevel, horigin]
          rw [hprogram] at hwp
          rw [hsnapshot snapshot hbegan] at heff
          have hnew : ∀ k ∈ (sys.sessions i).overtaken,
              .row k ∉ (sys.sessions i).locks ++ taken σ eff := by
            intro k hk hmem
            rcases List.mem_append.mp hmem with hmem | hmem
            · exact hold k hk hmem
            · exact hfree.2 k hk hmem
          refine ⟨hothers, hnew, hwp sys.committed _ eff heff ?_ h.covers,
            fun _ hnone => by cases hnone⟩
          exact hothers.mono fun _ _ _ hok w hw k hk hmine => hnew k (hok w hw k hk) hmine

variable {T : ι → α → σ → σ → Prop} {sys sys' : System ι σ κ ω ν ε α}

/-- **Step lemma.** Every move keeps the system sound. -/
theorem Sound.step (h : D.Sound T sys) {m : Move ι ε} (hstep : sys.step m = some sys') :
    D.Sound T sys' := by
  rcases System.step_cases hstep with ⟨i, hrunning, -, rfl⟩ |
      ⟨i, γ, stmt, next, snapshot, eff, hrunning, hprogram, hbegan, heff, hfree, rfl⟩ |
      ⟨i, a, -, hrunning, hdone, rfl⟩ | ⟨i, s, hrunning, hfail, rfl⟩
  · refine h.setSession ((h.session i).begun h.inv hrunning) fun l hl => .inl ?_
    unfold System.begun at hl
    cases hlevel : (sys.sessions i).level <;> simpa [hlevel] using hl
  · refine h.setSession
      ((h.session i).advanced h.inv hrunning hprogram hbegan heff hfree) fun l hl => ?_
    rcases List.mem_append.mp hl with hl | hl
    · exact .inl hl
    · exact .inr (hfree.1 l hl)
  · exact h.committing hrunning hdone
  · rcases hfail with ⟨e, rfl⟩ | rfl
    · refine h.setSession ((h.session i).fail h.inv e) fun l hl => ?_
      unfold Session.fail at hl
      split at hl <;> cases hl
    · refine h.setSession (soundSession_close (by simp)) fun l hl => ?_
      cases hl

/-- **Run lemma.** A system of transactions that obey is sound in every state it
reaches. -/
theorem sound_of_reaches {s : σ} {transactions : ι → Transaction σ κ ω ε α} (hs : D.Inv s)
    (hobeys : ∀ i, D.Obeys (transactions i) (T i))
    (hreach : Reaches System.step (fun _ _ => True) (System.start s transactions) sys) :
    D.Sound T sys :=
  hreach.invariant (sound_start hs hobeys) fun _ _ _ _ hstep h => h.step hstep

/-- The committed state changes by commits only, and each does what its transaction
was shown to do. -/
theorem Sound.committed_step (h : D.Sound T sys) {m : Move ι ε} (hstep : sys.step m = some sys') :
    sys'.committed = sys.committed ∨
      ∃ i a, m = .commit i ∧ sys'.Returned i a ∧ T i a sys.committed sys'.committed := by
  rcases System.step_cases hstep with
    ⟨i, -, -, rfl⟩ | ⟨i, γ, stmt, next, snapshot, eff, -, -, -, -, -,
      rfl⟩ | ⟨i, a, rfl, hrunning, hdone, rfl⟩ | ⟨i, s, -, -, rfl⟩
  · exact .inl rfl
  · exact .inl rfl
  · refine .inr ⟨i, a, rfl, ⟨?_, ?_⟩, (h.mayCommit hrunning hdone).2⟩
    · simp [System.committing, Session.close]
    · simpa [System.committing, Session.close] using hdone
  · exact .inl rfl

/-- What commits achieve and permitted writes preserve holds of every result. -/
theorem returned_of_reaches {s : σ} {transactions : ι → Transaction σ κ ω ε α}
    {R : ι → α → σ → Prop} (hs : D.Inv s) (hobeys : ∀ i, D.Obeys (transactions i) (T i))
    (hachieves : ∀ i a s s', T i a s s' → R i a s')
    (hlasts : ∀ i a locks writes s, D.Inv s → D.Permits locks writes s → R i a s →
      R i a (applyAll writes s))
    (hreach : Reaches System.step (fun _ _ => True) (System.start s transactions) sys) :
    ∀ i a, sys.Returned i a → R i a sys.committed := by
  have hboth : D.Sound T sys ∧ ∀ i a, sys.Returned i a → R i a sys.committed := by
    refine hreach.invariant (I := fun sys => D.Sound T sys ∧
      ∀ i a, sys.Returned i a → R i a sys.committed) ?_ ?_
    · refine ⟨sound_start hs hobeys, ?_⟩
      rintro i a ⟨hstatus, -⟩
      cases hstatus
    · rintro sys m sys' - hstep ⟨hsound, hreturned⟩
      refine ⟨hsound.step hstep, ?_⟩
      rcases System.step_cases hstep with ⟨i, hrunning, -, rfl⟩ |
          ⟨i, γ, stmt, next, snapshot, eff, hrunning, -, -, -, -, rfl⟩ |
          ⟨i, b, -, hrunning, hdone, rfl⟩ | ⟨i, session, hrunning, hfail, rfl⟩
      · intro j b hj
        exact hreturned j b (hj.of_setSession (by simp [hrunning]))
      · intro j b hj
        exact hreturned j b (hj.of_setSession (by simp [System.advanced, hrunning]))
      · have hpermits := (hsound.mayCommit hrunning hdone).1
        have hdoes := (hsound.mayCommit hrunning hdone).2
        intro j c hj
        rcases hj.of_committing with ⟨rfl, hprogram⟩ | hj
        · cases hdone.symm.trans hprogram
          exact hachieves j b _ _ hdoes
        · exact hlasts j c _ _ _ hsound.inv hpermits (hreturned j c hj)
      · intro j b hj
        refine hreturned j b (hj.of_setSession ?_)
        rcases hfail with ⟨e, rfl⟩ | rfl
        · exact Session.status_fail e
        · simp [Session.close]
  exact hboth.2

end Discipline

end Relational
