import Mathlib.Algebra.BigOperators.Group.List.Basic
import Mathlib.Algebra.Order.BigOperators.Group.List
import Mathlib.Algebra.Order.Ring.Int

/-!
# The Gregorian calendar

Days are numbered from 1 January 1970, in both directions. A day has a year, a month from 0 to 11
and a day of the month from 1, and the three determine it: reading a date off a day and numbering
a date are inverse to each other.
-/

namespace Calendar

/-! ## §1 Years -/

def dayFromYear (year : Int) : Int :=
  365 * (year - 1970) + (year - 1969) / 4 - (year - 1901) / 100 + (year - 1601) / 400

def isLeapYear (year : Int) : Bool :=
  year % 4 == 0 && (year % 100 != 0 || year % 400 == 0)

def daysInYear (year : Int) : Int :=
  if isLeapYear year then 366 else 365

theorem dayFromYear_succ (year : Int) :
    dayFromYear (year + 1) = dayFromYear year + daysInYear year := by
  unfold dayFromYear daysInYear isLeapYear
  by_cases hfour : year % 4 = 0
  · by_cases hcentury : year % 100 = 0
    · by_cases hquad : year % 400 = 0
      · simp [hfour, hquad]
        omega
      · simp [hfour, hcentury, hquad]
        omega
    · simp [hfour, hcentury]
      omega
  · simp [hfour]
    omega

theorem dayFromYear_lt {a b : Int} (h : a < b) : dayFromYear a < dayFromYear b := by
  unfold dayFromYear
  omega

/-- The year of a day: a first guess, or a neighbour of it. -/
def yearFromDay (day : Int) : Int :=
  let guess := 1970 + day * 400 / 146097
  if day < dayFromYear guess then guess - 1
  else if dayFromYear (guess + 1) ≤ day then guess + 1
  else guess

theorem yearFromDay_spec (day : Int) :
    dayFromYear (yearFromDay day) ≤ day ∧ day < dayFromYear (yearFromDay day + 1) := by
  unfold yearFromDay
  dsimp only
  split_ifs with hbefore hafter
  · rw [Int.sub_add_cancel]
    refine ⟨?_, hbefore⟩
    unfold dayFromYear at hbefore ⊢
    omega
  · refine ⟨hafter, ?_⟩
    unfold dayFromYear at hafter ⊢
    omega
  · omega

theorem le_yearFromDay {year day : Int} (h : dayFromYear year ≤ day) : year ≤ yearFromDay day := by
  by_contra hlt
  have hle : yearFromDay day + 1 ≤ year := by omega
  have hhigh := (yearFromDay_spec day).2
  rcases Int.lt_or_eq_of_le hle with hlt | heq
  · have := dayFromYear_lt hlt
    omega
  · rw [heq] at hhigh
    omega

theorem yearFromDay_eq {day year : Int} (hlow : dayFromYear year ≤ day)
    (hhigh : day < dayFromYear (year + 1)) : yearFromDay day = year := by
  have hle := le_yearFromDay hlow
  have hnot_lt : ¬ year + 1 ≤ yearFromDay day := by
    intro hle
    have hlow' := (yearFromDay_spec day).1
    rcases Int.lt_or_eq_of_le hle with hlt | heq
    · have := dayFromYear_lt hlt
      omega
    · rw [← heq] at hlow'
      omega
  omega

/-! ## §2 Months -/

def monthLengths (year : Int) : List Int :=
  [31, if isLeapYear year then 29 else 28, 31, 30, 31, 30, 31, 31, 30, 31, 30, 31]

theorem sum_monthLengths (year : Int) : (monthLengths year).sum = daysInYear year := by
  unfold monthLengths daysInYear
  split <;> rfl

/-- The month that a day of the year falls in, and its place in that month. -/
def findMonth : List Int → Int → Nat × Int
  | [], day => (0, day + 1)
  | length :: rest, day =>
      if day < length then (0, day + 1)
      else ((findMonth rest (day - length)).1 + 1, (findMonth rest (day - length)).2)

/-- The days before month `month`, counted from 0. -/
def daysBefore (lengths : List Int) (month : Nat) : Int :=
  (lengths.take month).sum

theorem findMonth_spec {lengths : List Int} {day : Int} (hnonneg : 0 ≤ day)
    (hlt : day < lengths.sum) :
    ∃ length, lengths[(findMonth lengths day).1]? = some length ∧
      1 ≤ (findMonth lengths day).2 ∧ (findMonth lengths day).2 ≤ length ∧
      daysBefore lengths (findMonth lengths day).1 + ((findMonth lengths day).2 - 1) = day := by
  induction lengths generalizing day with
  | nil =>
      simp only [List.sum_nil] at hlt
      omega
  | cons length rest ih =>
      unfold findMonth
      by_cases hday : day < length
      · rw [if_pos hday]
        exact ⟨length, rfl, by simp; omega, by simp; omega, by simp [daysBefore]⟩
      · rw [if_neg hday]
        rw [List.sum_cons] at hlt
        obtain ⟨found, hfound, hfirst, hlast, hsum⟩ := ih (by omega : 0 ≤ day - length) (by omega)
        refine ⟨found, by simpa using hfound, hfirst, hlast, ?_⟩
        unfold daysBefore at hsum ⊢
        rw [List.take_succ_cons, List.sum_cons]
        omega

/-- A day of a month is found in that month. -/
theorem findMonth_daysBefore {lengths : List Int} {month : Nat} {length date : Int}
    (hpositive : ∀ l ∈ lengths, 0 ≤ l) (hmonth : lengths[month]? = some length)
    (hfirst : 1 ≤ date) (hlast : date ≤ length) :
    findMonth lengths (daysBefore lengths month + (date - 1)) = (month, date) := by
  induction lengths generalizing month with
  | nil => simp at hmonth
  | cons first rest ih =>
      have hrest : ∀ l ∈ rest, 0 ≤ l := fun l hl => hpositive l (List.mem_cons_of_mem _ hl)
      cases month with
      | zero =>
          rw [List.getElem?_cons_zero, Option.some.injEq] at hmonth
          subst hmonth
          have hday : daysBefore (first :: rest) 0 + (date - 1) = date - 1 := by
            simp [daysBefore]
          rw [hday, findMonth, if_pos (by omega)]
          simp
      | succ month =>
          rw [List.getElem?_cons_succ] at hmonth
          have hbefore :
              daysBefore (first :: rest) (month + 1) = first + daysBefore rest month := by
            unfold daysBefore
            rw [List.take_succ_cons, List.sum_cons]
          have hnonneg : 0 ≤ daysBefore rest month :=
            List.sum_nonneg fun l hl => hrest l (List.mem_of_mem_take hl)
          have hday : first + daysBefore rest month + (date - 1) - first =
              daysBefore rest month + (date - 1) := by omega
          rw [hbefore, findMonth, if_neg (by omega), hday, ih hrest hmonth]

/-! ## §3 Dates -/

structure Date where
  year : Int
  /-- From 0 to 11. -/
  month : Nat
  day : Int
  deriving DecidableEq

/-- The date is a day of its month. -/
def Date.Real (date : Date) : Prop :=
  ∃ length, (monthLengths date.year)[date.month]? = some length ∧ 1 ≤ date.day ∧
    date.day ≤ length

/-- Months beyond the year run on into the next years, and days beyond the month into the next
months. -/
def dayOf (year : Int) (month : Int) (day : Int) : Int :=
  let shifted := year + month / 12
  dayFromYear shifted + daysBefore (monthLengths shifted) (month % 12).toNat + (day - 1)

def dateOf (day : Int) : Date :=
  let year := yearFromDay day
  let found := findMonth (monthLengths year) (day - dayFromYear year)
  { year, month := found.1, day := found.2 }

theorem monthLengths_nonneg (year : Int) : ∀ l ∈ monthLengths year, 0 ≤ l := by
  intro l hl
  unfold monthLengths at hl
  simp only [List.mem_cons, List.not_mem_nil, or_false] at hl
  split at hl <;> omega

theorem monthLengths_le (year : Int) : ∀ l ∈ monthLengths year, l ≤ 31 := by
  intro l hl
  unfold monthLengths at hl
  simp only [List.mem_cons, List.not_mem_nil, or_false] at hl
  split at hl <;> omega

theorem length_monthLengths (year : Int) : (monthLengths year).length = 12 := rfl

theorem dateOf_spec (day : Int) :
    (dateOf day).Real ∧ (dateOf day).month < 12 ∧
      dayOf (dateOf day).year (dateOf day).month (dateOf day).day = day := by
  obtain ⟨hlow, hhigh⟩ := yearFromDay_spec day
  have hday : day - dayFromYear (yearFromDay day) < (monthLengths (yearFromDay day)).sum := by
    rw [dayFromYear_succ] at hhigh
    rw [sum_monthLengths]
    omega
  obtain ⟨length, hmonth, hfirst, hlast, hsum⟩ := findMonth_spec (by omega) hday
  have hlt : (dateOf day).month < 12 := by
    rw [← length_monthLengths (yearFromDay day)]
    exact (List.getElem?_eq_some_iff.mp hmonth).1
  refine ⟨⟨length, hmonth, hfirst, hlast⟩, hlt, ?_⟩
  have hquot : ((dateOf day).month : Int) / 12 = 0 := by omega
  have hmod : (((dateOf day).month : Int) % 12).toNat = (dateOf day).month := by omega
  unfold dayOf
  simp only [hquot, hmod, Int.add_zero]
  have hyear : (dateOf day).year = yearFromDay day := rfl
  have hsum' : daysBefore (monthLengths (yearFromDay day)) (dateOf day).month +
      ((dateOf day).day - 1) = day - dayFromYear (yearFromDay day) := hsum
  rw [hyear]
  omega

/-- A real date is read off the day that it is numbered by. -/
theorem dateOf_dayOf {date : Date} (h : date.Real) :
    dateOf (dayOf date.year date.month date.day) = date := by
  obtain ⟨length, hmonth, hfirst, hlast⟩ := h
  have hlt : date.month < 12 := by
    rw [← length_monthLengths date.year]
    exact (List.getElem?_eq_some_iff.mp hmonth).1
  have hquot : (date.month : Int) / 12 = 0 := by omega
  have hmod : ((date.month : Int) % 12).toNat = date.month := by omega
  have hfound := findMonth_daysBefore (monthLengths_nonneg date.year) hmonth hfirst hlast
  have hday : dayOf date.year date.month date.day =
      dayFromYear date.year +
        (daysBefore (monthLengths date.year) date.month + (date.day - 1)) := by
    unfold dayOf
    simp only [hquot, hmod, Int.add_zero]
    omega
  have hnonneg : 0 ≤ daysBefore (monthLengths date.year) date.month :=
    List.sum_nonneg fun l hl => monthLengths_nonneg _ l (List.mem_of_mem_take hl)
  have hbelow : daysBefore (monthLengths date.year) date.month + (date.day - 1) <
      (monthLengths date.year).sum := by
    have hsplit := List.sum_take_add_sum_drop (monthLengths date.year) date.month
    obtain ⟨hindex, hlength⟩ := List.getElem?_eq_some_iff.mp hmonth
    rw [List.drop_eq_getElem_cons hindex, List.sum_cons, hlength] at hsplit
    have hdrop : 0 ≤ ((monthLengths date.year).drop (date.month + 1)).sum :=
      List.sum_nonneg fun l hl => monthLengths_nonneg _ l (List.mem_of_mem_drop hl)
    unfold daysBefore
    omega
  have hyear : yearFromDay (dayOf date.year date.month date.day) = date.year := by
    refine yearFromDay_eq ?_ ?_
    · omega
    · rw [dayFromYear_succ, ← sum_monthLengths]
      omega
  unfold dateOf
  dsimp only
  rw [hyear, hday, add_sub_cancel_left, hfound]

end Calendar
