import SeatFlow.Collections.OrderedMap
import SeatFlow.Database.Types

/-!
# The local rate limiter

One map of buckets for all keys, a fixed window each. Inserting into a full map first throws the
expired buckets out and then, if that does not help, the oldest ones. As long as the live buckets
leave room, nothing live is ever thrown out, and the limiter of a key is its own.
-/

namespace SeatFlow

open Collections

/-! ## §1 The limiter -/

structure RateLimitBucket where
  count : Nat
  resetsAt : Time
  deriving DecidableEq

abbrev Buckets := OrderedMap String RateLimitBucket

def MAX_TRACKED_BUCKETS : Nat := 10000

structure RateLimit where
  limit : Nat
  windowMs : Time

structure RateLimitAnswer where
  allowed : Bool
  retryAfterSeconds : Int
  deriving DecidableEq

def evictExpired (buckets : Buckets) (now : Time) : Buckets :=
  if buckets.size < MAX_TRACKED_BUCKETS then buckets
  else
    let unexpired := buckets.filter fun _ bucket => !(bucket.resetsAt ≤ now)
    if MAX_TRACKED_BUCKETS ≤ unexpired.size then
      unexpired.dropFirst (unexpired.size - MAX_TRACKED_BUCKETS + 1)
    else unexpired

/-- `Math.ceil` of whole milliseconds as seconds. -/
def ceilSeconds (milliseconds : Int) : Int :=
  -(-milliseconds / 1000)

def consumeRateLimit (buckets : Buckets) (key : String) (input : RateLimit) (now : Time) :
    RateLimitAnswer × Buckets :=
  let opened : RateLimitAnswer × Buckets :=
    ({ allowed := true, retryAfterSeconds := 0 },
      (evictExpired buckets now).set key { count := 1, resetsAt := now + input.windowMs })
  match buckets.get key with
  | none => opened
  | some existing =>
      if existing.resetsAt ≤ now then opened
      else if existing.count ≥ input.limit then
        ({ allowed := false, retryAfterSeconds := max 1 (ceilSeconds (existing.resetsAt - now)) },
          buckets)
      else
        ({ allowed := true, retryAfterSeconds := 0 },
          buckets.set key { existing with count := existing.count + 1 })

/-! ## §2 Runs -/

structure RateLimitCall where
  key : String
  now : Time
  deriving DecidableEq

/-- The answers of a run of calls, and the buckets after it. -/
def consumeAll (limits : String → RateLimit) :
    Buckets → List RateLimitCall → List RateLimitAnswer × Buckets
  | buckets, [] => ([], buckets)
  | buckets, call :: calls =>
      let (answer, buckets) := consumeRateLimit buckets call.key (limits call.key) call.now
      let (answers, buckets) := consumeAll limits buckets calls
      (answer :: answers, buckets)

/-- How many buckets are unexpired. -/
def liveBuckets (buckets : Buckets) (now : Time) : Nat :=
  (buckets.filter fun _ bucket => !(bucket.resetsAt ≤ now)).size

/-- At each call the unexpired buckets leave room. -/
def Uncrowded (limits : String → RateLimit) : Buckets → List RateLimitCall → Prop
  | _, [] => True
  | buckets, call :: calls => liveBuckets buckets call.now < MAX_TRACKED_BUCKETS ∧
      Uncrowded limits (consumeRateLimit buckets call.key (limits call.key) call.now).2 calls

/-- The answers that a key was given. -/
def answersTo (key : String) (calls : List RateLimitCall) (answers : List RateLimitAnswer) :
    List RateLimitAnswer :=
  ((calls.zip answers).filter fun e => e.1.key = key).map Prod.snd

/-! ## §3 Room -/

/-- After an eviction there is room for one more. -/
theorem size_evictExpired_lt (buckets : Buckets) (now : Time) :
    (evictExpired buckets now).size < MAX_TRACKED_BUCKETS := by
  have hmax : 0 < MAX_TRACKED_BUCKETS := by decide
  unfold evictExpired
  split
  · assumption
  · extract_lets unexpired
    split
    · rw [OrderedMap.size_dropFirst]
      omega
    · omega

/-- **A call keeps the bound.** -/
theorem size_consumeRateLimit_le {buckets : Buckets} (h : buckets.size ≤ MAX_TRACKED_BUCKETS)
    (key : String) (input : RateLimit) (now : Time) :
    (consumeRateLimit buckets key input now).2.size ≤ MAX_TRACKED_BUCKETS := by
  have hopened : ∀ bucket,
      ((evictExpired buckets now).set key bucket).size ≤ MAX_TRACKED_BUCKETS := by
    intro bucket
    have hroom := size_evictExpired_lt buckets now
    have hset : ((evictExpired buckets now).set key bucket).size ≤ _ := OrderedMap.size_set_le
    omega
  unfold consumeRateLimit
  split
  · exact hopened _
  · rename_i existing hexisting
    split_ifs
    · exact hopened _
    · exact h
    · rw [OrderedMap.size_set_of_get hexisting]
      exact h

/-- A sequence of calls keeps to the bound. -/
theorem size_consumeAll_le (limits : String → RateLimit) {buckets : Buckets}
    (h : buckets.size ≤ MAX_TRACKED_BUCKETS) (calls : List RateLimitCall) :
    (consumeAll limits buckets calls).2.size ≤ MAX_TRACKED_BUCKETS := by
  induction calls generalizing buckets with
  | nil => exact h
  | cons call calls ih => exact ih (size_consumeRateLimit_le h call.key _ call.now)

/-! ## §4 One key -/

/-- A key's bucket, while it is unexpired. -/
def bucketAt (buckets : Buckets) (key : String) (now : Time) : Option RateLimitBucket :=
  (buckets.get key).filter fun bucket => now < bucket.resetsAt

/-- A call on a key's own bucket. -/
def hit (input : RateLimit) (now : Time) :
    Option RateLimitBucket → RateLimitAnswer × RateLimitBucket
  | none => ({ allowed := true, retryAfterSeconds := 0 },
      { count := 1, resetsAt := now + input.windowMs })
  | some existing =>
      if existing.count ≥ input.limit then
        ({ allowed := false, retryAfterSeconds := max 1 (ceilSeconds (existing.resetsAt - now)) },
          existing)
      else
        ({ allowed := true, retryAfterSeconds := 0 },
          { existing with count := existing.count + 1 })

section Call

variable {buckets : Buckets} {key other : String} {input : RateLimit} {now later : Time}

/-- **What a call does to its own key** is a matter of that key's bucket. -/
theorem consumeRateLimit_self :
    (consumeRateLimit buckets key input now).1 = (hit input now (bucketAt buckets key now)).1 ∧
      (consumeRateLimit buckets key input now).2.get key =
        some (hit input now (bucketAt buckets key now)).2 := by
  unfold consumeRateLimit bucketAt
  cases hget : buckets.get key with
  | none => exact ⟨rfl, OrderedMap.get_set_self⟩
  | some existing =>
      dsimp only
      by_cases hexpired : existing.resetsAt ≤ now
      · have hnone : (some existing).filter (fun bucket => now < bucket.resetsAt) = none := by
          simp [Option.filter_some, hexpired]
        rw [if_pos hexpired, hnone]
        exact ⟨rfl, OrderedMap.get_set_self⟩
      · have hlive : (some existing).filter (fun bucket => now < bucket.resetsAt) =
            some existing := by
          simp [Option.filter_some, Int.not_le.mp hexpired]
        rw [if_neg hexpired, hlive]
        by_cases hfull : existing.count ≥ input.limit
        · simp only [hit, if_pos hfull]
          exact ⟨trivial, hget⟩
        · simp only [hit, if_neg hfull]
          exact ⟨trivial, OrderedMap.get_set_self⟩

/-- With room, an eviction takes expired buckets only. -/
theorem bucketAt_evictExpired (hroom : liveBuckets buckets now < MAX_TRACKED_BUCKETS) :
    bucketAt (evictExpired buckets now) other now = bucketAt buckets other now := by
  unfold evictExpired
  split
  · rfl
  · extract_lets unexpired
    have hroom' : ¬ MAX_TRACKED_BUCKETS ≤ unexpired.size := Nat.not_le.mpr hroom
    rw [if_neg hroom']
    unfold bucketAt
    rw [OrderedMap.get_filter]
    cases buckets.get other with
    | none => rfl
    | some bucket =>
        by_cases hexpired : bucket.resetsAt ≤ now <;> simp [Option.filter_some, hexpired]

/-- **What a call does to other keys**: nothing, with room. -/
theorem consumeRateLimit_other (hroom : liveBuckets buckets now < MAX_TRACKED_BUCKETS)
    (hne : other ≠ key) :
    bucketAt (consumeRateLimit buckets key input now).2 other now = bucketAt buckets other now := by
  have hopened : ∀ bucket, bucketAt ((evictExpired buckets now).set key bucket) other now =
      bucketAt buckets other now := by
    intro bucket
    rw [bucketAt, OrderedMap.get_set_ne hne]
    exact bucketAt_evictExpired hroom
  unfold consumeRateLimit
  split
  · exact hopened _
  · split_ifs
    · exact hopened _
    · rfl
    · rw [bucketAt, OrderedMap.get_set_ne hne]
      rfl

/-- What is unexpired later is so now. -/
theorem bucketAt_later (h : now ≤ later) :
    bucketAt buckets key later =
      (bucketAt buckets key now).filter fun bucket => later < bucket.resetsAt := by
  unfold bucketAt
  cases buckets.get key with
  | none => rfl
  | some bucket =>
      by_cases hlater : later < bucket.resetsAt
      · have hnow : now < bucket.resetsAt := Int.lt_of_le_of_lt h hlater
        simp [Option.filter_some, hlater, hnow]
      · by_cases hnow : now < bucket.resetsAt <;> simp [Option.filter_some, hlater, hnow]

end Call

/-- The answers of a limiter that only one key uses. -/
def ownAnswers (input : RateLimit) : Option RateLimitBucket → List Time → List RateLimitAnswer
  | _, [] => []
  | bucket, now :: times =>
      let r := hit input now (bucket.filter fun bucket => now < bucket.resetsAt)
      r.1 :: ownAnswers input (some r.2) times

section Runs

variable {limits : String → RateLimit} {buckets : Buckets} {key : String}

/-- A run of one key's calls. -/
theorem consumeAll_own {calls : List RateLimitCall} (h : ∀ call ∈ calls, call.key = key) :
    (consumeAll limits buckets calls).1 =
      ownAnswers (limits key) (buckets.get key) (calls.map (·.now)) := by
  induction calls generalizing buckets with
  | nil => rfl
  | cons call calls ih =>
      obtain ⟨hcall, hcalls⟩ := List.forall_mem_cons.mp h
      obtain ⟨hanswer, hbucket⟩ :=
        @consumeRateLimit_self buckets key (limits key) call.now
      simp only [consumeAll, List.map_cons, ownAnswers, hcall]
      rw [ih hcalls, hanswer, hbucket]
      rfl

theorem answersTo_cons_self {call : RateLimitCall} {calls : List RateLimitCall}
    {answer : RateLimitAnswer} {answers : List RateLimitAnswer} (h : call.key = key) :
    answersTo key (call :: calls) (answer :: answers) = answer :: answersTo key calls answers := by
  simp [answersTo, h]

theorem answersTo_cons_ne {call : RateLimitCall} {calls : List RateLimitCall}
    {answer : RateLimitAnswer} {answers : List RateLimitAnswer} (h : call.key ≠ key) :
    answersTo key (call :: calls) (answer :: answers) = answersTo key calls answers := by
  simp [answersTo, h]

/-- **Keys do not interfere**: with room at every call, a key is answered from its own bucket
alone. The bucket is what the map has of it at a time before the calls that are left. -/
theorem answersTo_consumeAll {calls : List RateLimitCall} {since : Time}
    {bucket : Option RateLimitBucket} (hroom : Uncrowded limits buckets calls)
    (hsorted : (since :: calls.map (·.now)).Pairwise (· ≤ ·))
    (hbucket : bucketAt buckets key since =
      bucket.filter fun bucket => since < bucket.resetsAt) :
    answersTo key calls (consumeAll limits buckets calls).1 =
      ownAnswers (limits key) bucket ((calls.filter (·.key = key)).map (·.now)) := by
  induction calls generalizing buckets since bucket with
  | nil => rfl
  | cons call calls ih =>
      obtain ⟨hroom, hrest⟩ := hroom
      rw [List.map_cons, List.pairwise_cons] at hsorted
      obtain ⟨hsince, hsorted⟩ := hsorted
      have hnow : since ≤ call.now := hsince call.now List.mem_cons_self
      -- the bucket at the time of this call
      have hcurrent : bucketAt buckets key call.now =
          bucket.filter fun bucket => call.now < bucket.resetsAt := by
        rw [bucketAt_later hnow, hbucket, Option.filter_filter]
        congr 1
        funext bucket
        by_cases hlater : call.now < bucket.resetsAt
        · simp [hlater, Int.lt_of_le_of_lt hnow hlater]
        · simp [hlater]
      by_cases hkey : call.key = key
      · obtain ⟨hanswer, hself⟩ :=
          @consumeRateLimit_self buckets call.key (limits call.key) call.now
        have hnext := @ih _ call.now ((consumeRateLimit buckets call.key
          (limits call.key) call.now).2.get key) hrest hsorted rfl
        simp only [consumeAll]
        rw [answersTo_cons_self hkey, hnext, List.filter_cons_of_pos (by simpa using hkey)]
        subst hkey
        rw [hanswer, hself, hcurrent]
        rfl
      · have hother := @consumeRateLimit_other _ _ _ (limits call.key) _ hroom (Ne.symm hkey)
        simp only [consumeAll]
        rw [answersTo_cons_ne hkey, List.filter_cons_of_neg (by simpa using hkey)]
        exact ih hrest hsorted (hother.trans hcurrent)

end Runs

/-! ## §5 Windows -/

/-- The window that each call is in, named by the call that opened it: the first call, and each
that comes a window's length after the last one that did. -/
def windowStarts (windowMs : Time) : Option Time → List Time → List Time
  | _, [] => []
  | start, now :: times =>
      let current := match start with
        | none => now
        | some start => if start + windowMs ≤ now then now else start
      current :: windowStarts windowMs (some current) times

/-- How many calls of a window were allowed. -/
def allowedIn (start : Time) (starts : List Time) (answers : List RateLimitAnswer) : Nat :=
  (starts.zip answers).countP fun e => e.1 = start && e.2.allowed

/-- Windows open one after the other. -/
theorem le_windowStarts {windowMs start : Time} {times : List Time}
    (hsorted : (start :: times).Pairwise (· ≤ ·)) :
    ∀ s ∈ windowStarts windowMs (some start) times, start ≤ s := by
  induction times generalizing start with
  | nil => simp [windowStarts]
  | cons now times ih =>
      obtain ⟨hstart, hsorted'⟩ := List.pairwise_cons.mp hsorted
      have hnow := hstart now List.mem_cons_self
      intro s hs
      unfold windowStarts at hs
      rcases List.mem_cons.mp hs with rfl | hs
      · dsimp only
        split
        · exact hnow
        · exact Int.le_refl _
      · dsimp only at hs
        split at hs
        · exact Int.le_trans hnow (ih hsorted' s hs)
        · have hrest := (List.pairwise_cons.mp hsorted').2
          refine ih (List.pairwise_cons.mpr ⟨fun t ht => ?_, hrest⟩) s hs
          exact hstart t (List.mem_cons_of_mem _ ht)

/-- A window that was left is not entered again. -/
theorem allowedIn_eq_zero {start : Time} {starts : List Time} {answers : List RateLimitAnswer}
    (h : ∀ s ∈ starts, s ≠ start) : allowedIn start starts answers = 0 := by
  rw [allowedIn, List.countP_eq_zero]
  rintro ⟨s, answer⟩ hmem
  have hs := h s (List.of_mem_zip hmem).1
  simp [hs]

/-- What is left of a window's limit. -/
def remaining (input : RateLimit) (opened : Option (Time × Nat)) (start : Time) : Nat :=
  match opened with
  | none => input.limit
  | some (current, count) => if current = start then input.limit - count else input.limit

theorem allowedIn_cons {start s : Time} {starts : List Time} {answer : RateLimitAnswer}
    {answers : List RateLimitAnswer} :
    allowedIn start (s :: starts) (answer :: answers) =
      allowedIn start starts answers + if s = start ∧ answer.allowed = true then 1 else 0 := by
  rw [allowedIn, List.zip_cons_cons, List.countP_cons]
  simp [allowedIn]

/-- **A window's limit**: of the calls of one key, no window allows more. The key's bucket is that
of the window it is in, with the calls that were allowed there. -/
theorem allowedIn_ownAnswers {input : RateLimit} (hlimit : 1 ≤ input.limit)
    (hwindow : 0 < input.windowMs) {times : List Time} {opened : Option (Time × Nat)}
    (hsorted : times.Pairwise (· ≤ ·)) (start : Time) :
    allowedIn start (windowStarts input.windowMs (opened.map Prod.fst) times)
      (ownAnswers input
        (opened.map fun e => { count := e.2, resetsAt := e.1 + input.windowMs }) times) ≤
      remaining input opened start := by
  induction times generalizing opened with
  | nil => exact Nat.zero_le _
  | cons now times ih =>
      obtain ⟨hnow, hsorted'⟩ := List.pairwise_cons.mp hsorted
      -- a window that this call opens
      have hopens : ∀ opened : Option (Time × Nat), (∀ e ∈ opened, e.1 + input.windowMs ≤ now) →
          allowedIn start (now :: windowStarts input.windowMs (some now) times)
            ({ allowed := true, retryAfterSeconds := 0 } ::
              ownAnswers input (some { count := 1, resetsAt := now + input.windowMs }) times) ≤
            remaining input opened start := by
        intro opened hleft
        have hbefore : ∀ e ∈ opened, e.1 < now := fun e he =>
          Int.lt_of_lt_of_le (Int.lt_add_of_pos_right e.1 hwindow) (hleft e he)
        have hrest := @ih (some (now, 1)) hsorted'
        dsimp only [Option.map_some] at hrest
        rw [allowedIn_cons]
        by_cases hstart : now = start
        · subst hstart
          have hall : remaining input opened now = input.limit := by
            cases opened with
            | none => rfl
            | some e => exact if_neg (Int.ne_of_lt (hbefore e rfl))
          have hleft : remaining input (some (now, 1)) now = input.limit - 1 := if_pos rfl
          rw [hleft] at hrest
          rw [hall, if_pos ⟨rfl, rfl⟩]
          omega
        · rw [if_neg fun hboth => hstart hboth.1]
          simp only [remaining, if_neg hstart] at hrest
          cases opened with
          | none => simpa [remaining] using hrest
          | some e =>
              by_cases hold : e.1 = start
              · have hzero : allowedIn start (windowStarts input.windowMs (some now) times)
                    (ownAnswers input (some { count := 1, resetsAt := now + input.windowMs })
                      times) = 0 := by
                  refine allowedIn_eq_zero fun s hs => ?_
                  rw [← hold]
                  exact Int.ne_of_gt
                    (Int.lt_of_lt_of_le (hbefore e rfl) (le_windowStarts hsorted s hs))
                rw [hzero]
                exact Nat.zero_le _
              · simpa [remaining, hold] using hrest
      cases opened with
      | none => exact hopens none (by simp)
      | some e =>
          by_cases hleft : e.1 + input.windowMs ≤ now
          · have hnone : (some ({ count := e.2, resetsAt := e.1 + input.windowMs } :
                RateLimitBucket)).filter (fun bucket => now < bucket.resetsAt) = none := by
              simp [Option.filter_some, hleft]
            have hcase := hopens (some e) (by simpa using hleft)
            simp only [windowStarts, ownAnswers, Option.map_some, hnone, if_pos hleft, hit]
            exact hcase
          · have hlive : (some ({ count := e.2, resetsAt := e.1 + input.windowMs } :
                RateLimitBucket)).filter (fun bucket => now < bucket.resetsAt) =
                some { count := e.2, resetsAt := e.1 + input.windowMs } := by
              simp [Option.filter_some, Int.not_le.mp hleft]
            simp only [windowStarts, ownAnswers, Option.map_some, hlive, if_neg hleft, hit]
            by_cases hfull : e.2 ≥ input.limit
            · have hrest := @ih (some e) hsorted'
              simp only [if_pos hfull]
              rw [allowedIn_cons]
              simpa using hrest
            · have hrest := @ih (some (e.1, e.2 + 1)) hsorted'
              simp only [if_neg hfull]
              rw [allowedIn_cons]
              simp only [remaining, Option.map_some] at hrest ⊢
              by_cases hsame : e.1 = start
              · rw [if_pos hsame] at hrest ⊢
                rw [if_pos ⟨hsame, trivial⟩]
                omega
              · rw [if_neg hsame] at hrest ⊢
                rw [if_neg fun hboth => hsame hboth.1]
                exact hrest

/-! ## §6 The limiter is bounded and exact -/

/-- **Bounded and exact.** The map never holds more than its bound; and in a run whose unexpired
buckets always leave room, each key is answered as if only its own calls had been made, with no
more of them allowed in a window than its limit. -/
theorem rateLimiter_exact {limits : String → RateLimit} (hlimit : ∀ key, 1 ≤ (limits key).limit)
    (hwindow : ∀ key, 0 < (limits key).windowMs) {calls : List RateLimitCall}
    (hsorted : (calls.map (·.now)).Pairwise (· ≤ ·)) :
    (∀ made, made <+: calls →
      (consumeAll limits .empty made).2.size ≤ MAX_TRACKED_BUCKETS) ∧
    (Uncrowded limits .empty calls → ∀ key,
      answersTo key calls (consumeAll limits .empty calls).1 =
        (consumeAll limits .empty (calls.filter (·.key = key))).1 ∧
      ∀ start, allowedIn start
        (windowStarts (limits key).windowMs none ((calls.filter (·.key = key)).map (·.now)))
        (answersTo key calls (consumeAll limits .empty calls).1) ≤ (limits key).limit) := by
  refine ⟨fun made _ => size_consumeAll_le limits (Nat.zero_le _) made, fun hroom key => ?_⟩
  have hown : ∀ call ∈ calls.filter (·.key = key), call.key = key :=
    fun call hcall => by simpa using (List.mem_filter.mp hcall).2
  have hanswers : answersTo key calls (consumeAll limits .empty calls).1 =
      ownAnswers (limits key) none ((calls.filter (·.key = key)).map (·.now)) := by
    cases calls with
    | nil => rfl
    | cons call calls =>
        refine @answersTo_consumeAll _ _ _ _ call.now _ hroom ?_ rfl
        refine List.pairwise_cons.mpr ⟨fun t ht => ?_, hsorted⟩
        rcases List.mem_cons.mp ht with rfl | ht
        · exact Int.le_refl _
        · exact (List.pairwise_cons.mp hsorted).1 t ht
  refine ⟨?_, fun start => ?_⟩
  · rw [hanswers, consumeAll_own hown]
    rfl
  · rw [hanswers]
    refine @allowedIn_ownAnswers _ (hlimit key) (hwindow key) _ none ?_ start
    exact hsorted.sublist (List.filter_sublist.map _)

/-- Two calls in a second each: the third of `a` in its window is denied, whatever `b` does. -/
theorem rateLimiter_exact_twoKeys :
    let limits := fun _ : String => ({ limit := 2, windowMs := 1000 } : RateLimit)
    let calls : List RateLimitCall :=
      [{ key := "a", now := 0 }, { key := "b", now := 1 }, { key := "a", now := 2 },
        { key := "a", now := 999 }, { key := "b", now := 999 }, { key := "a", now := 1000 }]
    (answersTo "a" calls (consumeAll limits .empty calls).1).map (·.allowed) =
        [true, true, false, true] ∧
      answersTo "a" calls (consumeAll limits .empty calls).1 =
        (consumeAll limits .empty (calls.filter (·.key = "a"))).1 := by
  intro limits calls
  refine ⟨by decide, ?_⟩
  have hroom : Uncrowded limits .empty calls :=
    ⟨by decide, by decide, by decide, by decide, by decide, by decide, trivial⟩
  exact ((rateLimiter_exact (fun _ => by decide) (fun _ => by decide) (by decide)).2 hroom "a").1

end SeatFlow
