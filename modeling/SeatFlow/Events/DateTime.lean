import SeatFlow.Numbers.Calendar
import SeatFlow.Numbers.Decimal

/-!
# Venue-local times

An organizer enters the time of a session as the clocks of the venue show it. The instant is
searched: the entered reading is taken for an instant, and three times the offset that holds at
the last guess is taken off it. A zone is any offset of whole minutes, never more than fifteen
hours, that changes at most once in three days.
-/

namespace SeatFlow

open Decimal

/-! ## §1 The conversion -/

structure DateTimeParts where
  year : Int
  /-- From 1. -/
  month : Int
  day : Int
  hour : Int
  minute : Int
  deriving DecidableEq

/-- The groups of `localDateTimePattern`. -/
structure LocalDateTimeFields where
  year : List Char
  month : List Char
  day : List Char
  hour : List Char
  minute : List Char

def LocalDateTimeFields.text (fields : LocalDateTimeFields) : List Char :=
  fields.year ++ '-' :: (fields.month ++ '-' :: (fields.day ++ 'T' ::
    (fields.hour ++ ':' :: fields.minute)))

/-- `\d{count}`. -/
def isExactDigits (count : Nat) (l : List Char) : Bool :=
  l.length == count && l.all Char.isDigit

/-- `^(\d{4})-(\d{2})-(\d{2})T(\d{2}):(\d{2})$`. -/
def localDateTimePattern (text : List Char) : Option LocalDateTimeFields :=
  let fields : LocalDateTimeFields :=
    { year := text.take 4
      month := (text.drop 5).take 2
      day := (text.drop 8).take 2
      hour := (text.drop 11).take 2
      minute := (text.drop 14).take 2 }
  if isExactDigits 4 fields.year && isExactDigits 2 fields.month && isExactDigits 2 fields.day &&
      isExactDigits 2 fields.hour && isExactDigits 2 fields.minute && text == fields.text then
    some fields
  else none

/-- `Date.UTC`, in milliseconds; a year below 100 is one of the twentieth century. -/
def dateUTC (parts : DateTimeParts) : Int :=
  let year := if 0 ≤ parts.year ∧ parts.year ≤ 99 then 1900 + parts.year else parts.year
  (Calendar.dayOf year (parts.month - 1) parts.day * 1440 + parts.hour * 60 + parts.minute) * 60000

/-- What the UTC getters of a date return. -/
def utcParts (date : Int) : DateTimeParts :=
  let minutes := date / 60000
  let day := Calendar.dateOf (minutes / 1440)
  { year := day.year
    month := day.month + 1
    day := day.day
    hour := minutes % 1440 / 60
    minute := minutes % 60 }

def parseLocalDateTime (value : String) : Except String DateTimeParts :=
  match localDateTimePattern value.toList with
  | none => .error "Use a valid local date and time."
  | some fields =>
      let parts : DateTimeParts :=
        { year := Decimal.value fields.year
          month := Decimal.value fields.month
          day := Decimal.value fields.day
          hour := Decimal.value fields.hour
          minute := Decimal.value fields.minute }
      if utcParts (dateUTC parts) = parts then .ok parts
      else .error "Use a real calendar date and time."

/-- The transitions of a zone. -/
def Changes (offset : Int → Int) (date : Int) : Prop :=
  offset (date - 1) ≠ offset date

/-- Minutes ahead of UTC at every instant. -/
structure TimeZone where
  offset : Int → Int
  bounded : ∀ date, -900 ≤ offset date ∧ offset date ≤ 900
  /-- Three days. -/
  apart : ∀ first second, Changes offset first → Changes offset second → first < second →
    259200000 ≤ second - first

/-- What the clocks of the zone show. -/
def partsInTimeZone (date : Int) (timeZone : TimeZone) : DateTimeParts :=
  utcParts (date + timeZone.offset date * 60000)

def offsetAt (date : Int) (timeZone : TimeZone) : Int :=
  dateUTC (partsInTimeZone date timeZone) - date

def zonedLocalDateTimeToUtc (value : String) (timeZone : TimeZone) : Except String Int := do
  let parts ← parseLocalDateTime value
  let localAsUtc := dateUTC parts
  let candidate :=
    Nat.iterate (fun candidate => localAsUtc - offsetAt candidate timeZone) 3 localAsUtc
  if partsInTimeZone candidate timeZone = parts then
    .ok candidate
  else .error "That local time does not exist in the venue time zone because of a clock change."

/-- `String(value)`. -/
def decimalText : Int → List Char
  | .ofNat n => Nat.toDigits 10 n
  | .negSucc n => '-' :: Nat.toDigits 10 (n + 1)

def toVenueLocalInputValue (date : Int) (timeZone : TimeZone) : String :=
  let parts := partsInTimeZone date timeZone
  let pad (value : Int) := padStart 2 (decimalText value)
  String.ofList (LocalDateTimeFields.text
    { year := decimalText parts.year
      month := pad parts.month
      day := pad parts.day
      hour := pad parts.hour
      minute := pad parts.minute })

/-! ## §2 Local date-times -/

/-- A real date and time of day in the years of four digits. -/
structure LocalDateTime where
  date : Calendar.Date
  hour : Nat
  minute : Nat
  real : date.Real
  year_range : 1000 ≤ date.year ∧ date.year ≤ 9999
  hour_lt : hour < 24
  minute_lt : minute < 60

namespace LocalDateTime

variable (dateTime : LocalDateTime)

def parts : DateTimeParts where
  year := dateTime.date.year
  month := dateTime.date.month + 1
  day := dateTime.date.day
  hour := dateTime.hour
  minute := dateTime.minute

def fields : LocalDateTimeFields where
  year := padStart 4 (Nat.toDigits 10 dateTime.date.year.toNat)
  month := padStart 2 (Nat.toDigits 10 (dateTime.date.month + 1))
  day := padStart 2 (Nat.toDigits 10 dateTime.date.day.toNat)
  hour := padStart 2 (Nat.toDigits 10 dateTime.hour)
  minute := padStart 2 (Nat.toDigits 10 dateTime.minute)

/-- `YYYY-MM-DDTHH:MM`. -/
def text : String :=
  String.ofList dateTime.fields.text

/-- Minutes from the start of 1970 to the reading. -/
def minutes : Int :=
  Calendar.dayOf dateTime.date.year dateTime.date.month dateTime.date.day * 1440 +
    dateTime.hour * 60 + dateTime.minute

end LocalDateTime

theorem isExactDigits_padStart {count n : Nat} (hcount : 0 < count) (h : n < 10 ^ count) :
    isExactDigits count (padStart count (Nat.toDigits 10 n)) = true := by
  have hlength : (Nat.toDigits 10 n).length ≤ count :=
    (Nat.length_toDigits_le_iff (by decide) hcount).mpr h
  unfold isExactDigits
  rw [length_padStart, Nat.max_eq_left hlength, Bool.and_eq_true, List.all_eq_true]
  exact ⟨beq_self_eq_true count, isDigit_of_mem_padStart fun c hc =>
    Nat.isDigit_of_mem_toDigits (by decide) (by decide) hc⟩

/-- Fields of the right lengths are found in the text that they make up. -/
theorem localDateTimePattern_text {fields : LocalDateTimeFields}
    (hyear : isExactDigits 4 fields.year = true) (hmonth : isExactDigits 2 fields.month = true)
    (hday : isExactDigits 2 fields.day = true) (hhour : isExactDigits 2 fields.hour = true)
    (hminute : isExactDigits 2 fields.minute = true) :
    localDateTimePattern fields.text = some fields := by
  have hlength : ∀ {count : Nat} {l : List Char}, isExactDigits count l = true →
      l.length = count := by
    intro count l h
    exact beq_iff_eq.mp (Bool.and_eq_true_iff.mp h).1
  obtain ⟨year, month, day, hour, minute⟩ := fields
  obtain ⟨y₁, y₂, y₃, y₄, rfl⟩ := List.length_eq_four.mp (hlength hyear)
  obtain ⟨m₁, m₂, rfl⟩ := List.length_eq_two.mp (hlength hmonth)
  obtain ⟨d₁, d₂, rfl⟩ := List.length_eq_two.mp (hlength hday)
  obtain ⟨h₁, h₂, rfl⟩ := List.length_eq_two.mp (hlength hhour)
  obtain ⟨n₁, n₂, rfl⟩ := List.length_eq_two.mp (hlength hminute)
  unfold localDateTimePattern LocalDateTimeFields.text
  dsimp only [List.cons_append, List.nil_append, List.take_succ_cons, List.take_zero,
    List.drop_succ_cons, List.drop_zero] at *
  simp [hyear, hmonth, hday, hhour, hminute]

/-! ## §3 Readings as minutes -/

/-- Reading a time off the UTC clock and taking it for a time in UTC drops the seconds. -/
theorem dateUTC_utcParts {date : Int} (h : 100 ≤ (utcParts date).year) :
    dateUTC (utcParts date) = date / 60000 * 60000 := by
  obtain ⟨-, -, hday⟩ := Calendar.dateOf_spec (date / 60000 / 1440)
  have hyear : ¬ (0 ≤ (utcParts date).year ∧ (utcParts date).year ≤ 99) := by omega
  unfold dateUTC
  rw [if_neg hyear]
  unfold utcParts
  dsimp only
  rw [Int.add_sub_cancel, hday]
  omega

theorem utcParts_congr {a b : Int} (h : a / 60000 = b / 60000) : utcParts a = utcParts b := by
  unfold utcParts
  rw [h]

namespace LocalDateTime

variable (dateTime : LocalDateTime)

theorem dateUTC_parts : dateUTC dateTime.parts = dateTime.minutes * 60000 := by
  have hyear : ¬ (0 ≤ dateTime.parts.year ∧ dateTime.parts.year ≤ 99) := by
    have h := dateTime.year_range.1
    unfold parts
    dsimp only
    omega
  unfold dateUTC
  rw [if_neg hyear]
  unfold parts minutes
  dsimp only
  rw [Int.add_sub_cancel]

/-- The calendar check accepts every real date. -/
theorem utcParts_minutes : utcParts (dateTime.minutes * 60000) = dateTime.parts := by
  have hhour := dateTime.hour_lt
  have hminute := dateTime.minute_lt
  have hmilliseconds : dateTime.minutes * 60000 / 60000 = dateTime.minutes := by omega
  have hday : dateTime.minutes / 1440 =
      Calendar.dayOf dateTime.date.year dateTime.date.month dateTime.date.day := by
    unfold minutes
    omega
  unfold utcParts
  dsimp only
  rw [hmilliseconds, hday, Calendar.dateOf_dayOf dateTime.real]
  unfold parts
  rw [DateTimeParts.mk.injEq]
  refine ⟨rfl, rfl, rfl, ?_, ?_⟩
  · unfold minutes
    omega
  · unfold minutes
    omega

/-- The first day of the years of four digits comes before the reading. -/
theorem dayFromYear_le : Calendar.dayFromYear 1000 * 1440 ≤ dateTime.minutes := by
  have hyear := congrArg Calendar.Date.year (Calendar.dateOf_dayOf dateTime.real)
  have hlow := (Calendar.yearFromDay_spec
    (Calendar.dayOf dateTime.date.year dateTime.date.month dateTime.date.day)).1
  rw [show Calendar.yearFromDay _ = dateTime.date.year from hyear] at hlow
  have hrange := dateTime.year_range.1
  have hmono : Calendar.dayFromYear 1000 ≤ Calendar.dayFromYear dateTime.date.year := by
    unfold Calendar.dayFromYear
    omega
  unfold minutes
  omega

/-- An instant within thirty hours of the reading is in the year 100 or later. -/
theorem year_near {date : Int} (h : dateTime.minutes * 60000 - 108000000 ≤ date) :
    100 ≤ (utcParts date).year := by
  have hlow := dateTime.dayFromYear_le
  have hday : Calendar.dayFromYear 100 ≤ date / 60000 / 1440 := by
    unfold Calendar.dayFromYear at hlow ⊢
    omega
  exact Calendar.le_yearFromDay hday

/-- The reading is shown at an instant if and only if it is that minute. -/
theorem utcParts_eq_iff {date : Int} :
    utcParts date = dateTime.parts ↔ date / 60000 = dateTime.minutes := by
  constructor
  · intro h
    have hyear : 100 ≤ (utcParts date).year := by
      have hrange := dateTime.year_range.1
      rw [h]
      unfold parts
      dsimp only
      omega
    have hutc := dateUTC_utcParts hyear
    rw [h, dateUTC_parts] at hutc
    omega
  · intro h
    rw [← utcParts_minutes]
    refine utcParts_congr ?_
    omega

theorem parseLocalDateTime_text :
    parseLocalDateTime dateTime.text = .ok dateTime.parts := by
  obtain ⟨hlow, hhigh⟩ := dateTime.year_range
  have hhour := dateTime.hour_lt
  have hminute := dateTime.minute_lt
  obtain ⟨length, hmonth, hfirst, hlast⟩ := dateTime.real
  have hmonths : dateTime.date.month < 12 := by
    rw [← Calendar.length_monthLengths dateTime.date.year]
    exact (List.getElem?_eq_some_iff.mp hmonth).1
  have hlength : length ≤ 31 :=
    Calendar.monthLengths_le _ _ (List.mem_of_getElem? hmonth)
  have hfields : localDateTimePattern dateTime.fields.text = some dateTime.fields :=
    localDateTimePattern_text
      (isExactDigits_padStart (by decide) (by omega))
      (isExactDigits_padStart (by decide) (by omega))
      (isExactDigits_padStart (by decide) (by omega))
      (isExactDigits_padStart (by decide) (by omega))
      (isExactDigits_padStart (by decide) (by omega))
  have hparts : ({ year := Decimal.value dateTime.fields.year
                   month := Decimal.value dateTime.fields.month
                   day := Decimal.value dateTime.fields.day
                   hour := Decimal.value dateTime.fields.hour
                   minute := Decimal.value dateTime.fields.minute } : DateTimeParts) =
      dateTime.parts := by
    unfold fields parts
    simp only [value_padStart, value_toDigits, DateTimeParts.mk.injEq, and_true]
    omega
  unfold parseLocalDateTime text
  rw [String.toList_ofList, hfields]
  dsimp only
  rw [hparts, dateUTC_parts, utcParts_minutes, if_pos rfl]

end LocalDateTime

/-! ## §4 Offsets around a reading -/

/-- Where the offsets of two instants differ, it changes between them. -/
theorem exists_changes {offset : Int → Int} {first : Int} (n : Nat)
    (h : offset first ≠ offset (first + n)) :
    ∃ date, first < date ∧ date ≤ first + n ∧ Changes offset date := by
  induction n with
  | zero => simp at h
  | succ n ih =>
      by_cases hlast : offset (first + n) = offset (first + (n + 1 : Nat))
      · obtain ⟨date, hlow, hhigh, hchanges⟩ := ih (by rw [hlast]; exact h)
        exact ⟨date, hlow, by omega, hchanges⟩
      · refine ⟨first + (n + 1 : Nat), by omega, by omega, ?_⟩
        unfold Changes
        rw [show first + ((n + 1 : Nat) : Int) - 1 = first + n by omega]
        exact hlast

namespace TimeZone

variable (timeZone : TimeZone)

theorem exists_changes {first last : Int} (hle : first ≤ last)
    (h : timeZone.offset first ≠ timeZone.offset last) :
    ∃ date, first < date ∧ date ≤ last ∧ Changes timeZone.offset date := by
  have hlast : last = first + ((last - first).toNat : Int) := by omega
  rw [hlast] at h
  obtain ⟨date, hlow, hhigh, hchanges⟩ := SeatFlow.exists_changes _ h
  exact ⟨date, hlow, by omega, hchanges⟩

/-- For three days from a transition on, the offset stays as it is. -/
theorem offset_after {change date : Int} (hchange : Changes timeZone.offset change)
    (hle : change ≤ date) (hlt : date < change + 259200000) :
    timeZone.offset date = timeZone.offset change := by
  by_contra hne
  obtain ⟨other, hlow, hhigh, hother⟩ := timeZone.exists_changes hle (Ne.symm hne)
  have hapart := timeZone.apart change other hchange hother hlow
  omega

/-- For three days before a transition, the offset is the one it ends. -/
theorem offset_before {change date : Int} (hchange : Changes timeZone.offset change)
    (hlt : date < change) (hle : change ≤ date + 259200000) :
    timeZone.offset date = timeZone.offset (change - 1) := by
  by_contra hne
  obtain ⟨other, hlow, hhigh, hother⟩ := timeZone.exists_changes (by omega) hne
  have hapart := timeZone.apart other change hother hchange (by omega)
  omega

/-- In less than three days there are two offsets at most, one after the other. -/
theorem two_offsets {first last : Int} (h : last < first + 259200000) :
    ∃ change before after, ∀ date, first ≤ date → date ≤ last →
      timeZone.offset date = if date < change then before else after := by
  by_cases hchange : ∃ change, first < change ∧ change ≤ last ∧ Changes timeZone.offset change
  · obtain ⟨change, hlow, hhigh, hchange⟩ := hchange
    refine ⟨change, timeZone.offset (change - 1), timeZone.offset change, fun date hge hle => ?_⟩
    by_cases hdate : date < change
    · rw [if_pos hdate]
      exact timeZone.offset_before hchange hdate (by omega)
    · rw [if_neg hdate]
      exact timeZone.offset_after hchange (by omega) (by omega)
  · refine ⟨first, 0, timeZone.offset first, fun date hge hle => ?_⟩
    rw [if_neg (by omega)]
    by_contra hne
    obtain ⟨change, hlow, hhigh, hchanges⟩ := timeZone.exists_changes hge (Ne.symm hne)
    exact hchange ⟨change, hlow, by omega, hchanges⟩

/-- The next guess for the instant that shows `reading`, in milliseconds. -/
def refineGuess (reading guess : Int) : Int :=
  reading - timeZone.offset guess * 60000

theorem refineGuess_near (reading guess : Int) :
    reading - 54000000 ≤ timeZone.refineGuess reading guess ∧
      timeZone.refineGuess reading guess ≤ reading + 54000000 := by
  obtain ⟨hlow, hhigh⟩ := timeZone.bounded guess
  unfold refineGuess
  omega

/-- An instant that shows the reading is found, if there is one: of the two offsets around the
reading, the second guess takes the one that holds at the guess before it. -/
theorem refineGuess_solves {reading date : Int}
    (h : date + timeZone.offset date * 60000 = reading) :
    let found := Nat.iterate (timeZone.refineGuess reading) 3 reading
    found + timeZone.offset found * 60000 = reading := by
  obtain ⟨change, before, after, htwo⟩ :=
    timeZone.two_offsets (by omega : reading + 54000000 < reading - 54000000 + 259200000)
  have hnear := timeZone.refineGuess_near reading
  have hbounded := timeZone.bounded date
  have hdate := htwo date (by omega) (by omega)
  have hguess : ∀ guess, reading - 54000000 ≤ guess → guess ≤ reading + 54000000 →
      timeZone.refineGuess reading guess =
        if guess < change then reading - before * 60000 else reading - after * 60000 := by
    intro guess hlow hhigh
    unfold refineGuess
    rw [htwo guess hlow hhigh]
    split <;> rfl
  have hfirst := hguess reading (by omega) (by omega)
  have hsecond := hguess _ (hnear reading).1 (hnear reading).2
  have hthird := hguess _ (hnear (timeZone.refineGuess reading reading)).1
    (hnear (timeZone.refineGuess reading reading)).2
  have hfound := htwo _ (hnear (timeZone.refineGuess reading
    (timeZone.refineGuess reading reading))).1 (hnear (timeZone.refineGuess reading
      (timeZone.refineGuess reading reading))).2
  simp only [Function.iterate_succ, Function.iterate_zero, Function.comp_apply, id_eq]
  generalize timeZone.refineGuess reading reading = g₁ at *
  generalize timeZone.refineGuess reading g₁ = g₂ at *
  generalize timeZone.refineGuess reading g₂ = g₃ at *
  rw [hfound]
  rw [hdate] at h
  split_ifs at * <;> omega

end TimeZone

/-! ## §5 Exactness -/

section Exactness

variable (timeZone : TimeZone) (dateTime : LocalDateTime)

/-- Around the reading, the code's guesses are whole minutes, and take the offset off exactly. -/
theorem iterate_offsetAt (n : Nat) :
    Nat.iterate (fun candidate => dateTime.minutes * 60000 - offsetAt candidate timeZone) n
        (dateTime.minutes * 60000) =
      Nat.iterate (timeZone.refineGuess (dateTime.minutes * 60000)) n (dateTime.minutes * 60000) ∧
    ∃ minutes, Nat.iterate (timeZone.refineGuess (dateTime.minutes * 60000)) n
        (dateTime.minutes * 60000) = minutes * 60000 ∧
      dateTime.minutes - 900 ≤ minutes ∧ minutes ≤ dateTime.minutes + 900 := by
  induction n with
  | zero => exact ⟨rfl, dateTime.minutes, rfl, by omega, by omega⟩
  | succ n ih =>
      obtain ⟨heq, minutes, hminutes, hlow, hhigh⟩ := ih
      rw [Function.iterate_succ_apply', Function.iterate_succ_apply', heq, hminutes]
      obtain ⟨hmin, hmax⟩ := timeZone.bounded (minutes * 60000)
      have hyear : 100 ≤ (partsInTimeZone (minutes * 60000) timeZone).year :=
        dateTime.year_near (by omega)
      have hoffset : offsetAt (minutes * 60000) timeZone =
          timeZone.offset (minutes * 60000) * 60000 := by
        unfold offsetAt partsInTimeZone at *
        rw [dateUTC_utcParts hyear]
        omega
      refine ⟨by rw [hoffset]; rfl, dateTime.minutes - timeZone.offset (minutes * 60000), ?_,
        by omega, by omega⟩
      unfold TimeZone.refineGuess
      omega

/-- The instant that the search ends with, which is a whole minute. -/
theorem zonedLocalDateTimeToUtc_text :
    ∃ minutes, zonedLocalDateTimeToUtc dateTime.text timeZone =
        (if partsInTimeZone (minutes * 60000) timeZone = dateTime.parts then
          .ok (minutes * 60000)
        else .error
          "That local time does not exist in the venue time zone because of a clock change.") ∧
      ((∃ date, date + timeZone.offset date * 60000 = dateTime.minutes * 60000) →
        minutes * 60000 + timeZone.offset (minutes * 60000) * 60000 =
          dateTime.minutes * 60000) := by
  obtain ⟨heq, minutes, hminutes, -, -⟩ := iterate_offsetAt timeZone dateTime 3
  refine ⟨minutes, ?_, ?_⟩
  · unfold zonedLocalDateTimeToUtc
    rw [dateTime.parseLocalDateTime_text]
    simp only [bind, Except.bind, dateTime.dateUTC_parts, heq, hminutes]
  · rintro ⟨date, hdate⟩
    have hsolves := timeZone.refineGuess_solves hdate
    simp only [hminutes] at hsolves
    exact hsolves

/-- What the zone shows is the reading if and only if it is that minute there. -/
theorem partsInTimeZone_eq_iff {date : Int} :
    partsInTimeZone date timeZone = dateTime.parts ↔
      (date + timeZone.offset date * 60000) / 60000 = dateTime.minutes :=
  dateTime.utcParts_eq_iff

/-- The reading is written as it was entered. -/
theorem toVenueLocalInputValue_eq {date : Int}
    (h : partsInTimeZone date timeZone = dateTime.parts) :
    toVenueLocalInputValue date timeZone = dateTime.text := by
  obtain ⟨hlow, hhigh⟩ := dateTime.year_range
  obtain ⟨length, hmonth, hfirst, hlast⟩ := dateTime.real
  have hdecimal : ∀ n : Nat, decimalText n = Nat.toDigits 10 n := fun n => rfl
  have hyear : dateTime.date.year = (dateTime.date.year.toNat : Int) := by omega
  have hday : dateTime.date.day = (dateTime.date.day.toNat : Int) := by omega
  have hmonths : (dateTime.date.month : Int) + 1 = ((dateTime.date.month + 1 : Nat) : Int) := rfl
  have hdigits : 4 ≤ (Nat.toDigits 10 dateTime.date.year.toNat).length := by
    have hnot : ¬ (Nat.toDigits 10 dateTime.date.year.toNat).length ≤ 3 := by
      rw [Nat.length_toDigits_le_iff (by decide) (by decide)]
      omega
    omega
  have hpadded : padStart 4 (Nat.toDigits 10 dateTime.date.year.toNat) =
      Nat.toDigits 10 dateTime.date.year.toNat := by
    unfold padStart
    rw [Nat.sub_eq_zero_of_le hdigits]
    rfl
  unfold toVenueLocalInputValue
  rw [h]
  unfold LocalDateTime.parts LocalDateTime.text LocalDateTime.fields
  dsimp only
  rw [hpadded, hyear, hday, hmonths, hdecimal, hdecimal, hdecimal, hdecimal, hdecimal]
  simp only [Int.toNat_natCast]

/-- An instant is found if and only if a whole minute shows the reading, and shows it itself. -/
theorem zonedLocalDateTimeToUtc_found :
    (∃ date, zonedLocalDateTimeToUtc dateTime.text timeZone = .ok date ∧
      partsInTimeZone date timeZone = dateTime.parts) ∨
    (zonedLocalDateTimeToUtc dateTime.text timeZone =
        .error "That local time does not exist in the venue time zone because of a clock change." ∧
      ∀ minutes : Int, partsInTimeZone (minutes * 60000) timeZone ≠ dateTime.parts) := by
  obtain ⟨found, heq, hsolves⟩ := zonedLocalDateTimeToUtc_text timeZone dateTime
  by_cases hfound : partsInTimeZone (found * 60000) timeZone = dateTime.parts
  · rw [if_pos hfound] at heq
    exact .inl ⟨found * 60000, heq, hfound⟩
  · rw [if_neg hfound] at heq
    refine .inr ⟨heq, fun minutes hminutes => hfound ?_⟩
    rw [partsInTimeZone_eq_iff] at hminutes ⊢
    have hfound := hsolves ⟨minutes * 60000, by omega⟩
    omega

/-- No whole minute shows a reading that the clocks are put forward past. -/
theorem not_shown_in_gap {change : Int} (hchange : Changes timeZone.offset change)
    (hbefore : change + timeZone.offset (change - 1) * 60000 ≤ dateTime.minutes * 60000)
    (hafter : dateTime.minutes * 60000 < change + timeZone.offset change * 60000) (minutes : Int) :
    partsInTimeZone (minutes * 60000) timeZone ≠ dateTime.parts := by
  intro hshown
  rw [partsInTimeZone_eq_iff] at hshown
  have hbounded := timeZone.bounded (minutes * 60000)
  have hbounded₁ := timeZone.bounded (change - 1)
  have hbounded₂ := timeZone.bounded change
  by_cases hdate : minutes * 60000 < change
  · have hoffset := timeZone.offset_before hchange hdate (by omega)
    omega
  · have hoffset := timeZone.offset_after hchange (by omega) (by omega : minutes * 60000 < _)
    omega

/-- Where the zone changes at whole minutes only, the start of a minute shows what its instants
show. -/
theorem shown_at_minute (hminutes : ∀ change, Changes timeZone.offset change → change % 60000 = 0)
    {date : Int} (h : partsInTimeZone date timeZone = dateTime.parts) :
    partsInTimeZone (date / 60000 * 60000) timeZone = dateTime.parts := by
  have hoffset : timeZone.offset (date / 60000 * 60000) = timeZone.offset date := by
    by_contra hne
    obtain ⟨change, hlow, hhigh, hchange⟩ := timeZone.exists_changes (by omega) hne
    have hwhole := hminutes change hchange
    omega
  rw [partsInTimeZone_eq_iff] at h ⊢
  rw [hoffset]
  omega

/-- An instant is returned if and only if the start of a minute shows the reading, which with
whole-minute transitions is to say that some instant does; it shows the reading, and is written as
it was entered. A reading in a forward gap is rejected. -/
theorem zonedLocalDateTimeToUtc_exact :
    ((∃ date, zonedLocalDateTimeToUtc dateTime.text timeZone = .ok date) ↔
      ∃ minutes : Int, partsInTimeZone (minutes * 60000) timeZone = dateTime.parts) ∧
    (∀ date, zonedLocalDateTimeToUtc dateTime.text timeZone = .ok date →
      partsInTimeZone date timeZone = dateTime.parts ∧
        toVenueLocalInputValue date timeZone = dateTime.text) ∧
    (∀ change, Changes timeZone.offset change →
      change + timeZone.offset (change - 1) * 60000 ≤ dateTime.minutes * 60000 →
      dateTime.minutes * 60000 < change + timeZone.offset change * 60000 →
      zonedLocalDateTimeToUtc dateTime.text timeZone = .error
        "That local time does not exist in the venue time zone because of a clock change.") ∧
    ((∀ change, Changes timeZone.offset change → change % 60000 = 0) →
      ((∃ date, zonedLocalDateTimeToUtc dateTime.text timeZone = .ok date) ↔
        ∃ date, partsInTimeZone date timeZone = dateTime.parts)) := by
  obtain ⟨found, hminutes, -⟩ := zonedLocalDateTimeToUtc_text timeZone dateTime
  rcases zonedLocalDateTimeToUtc_found timeZone dateTime with
    ⟨date, hok, hshown⟩ | ⟨herror, hnone⟩
  · have hwhole : date = found * 60000 := by
      rw [hok] at hminutes
      split at hminutes
      · exact Except.ok.inj hminutes
      · cases hminutes
    refine ⟨⟨fun _ => ⟨found, hwhole ▸ hshown⟩, fun _ => ⟨date, hok⟩⟩, ?_, ?_, ?_⟩
    · intro other hother
      rw [hok] at hother
      rw [← Except.ok.inj hother]
      exact ⟨hshown, toVenueLocalInputValue_eq timeZone dateTime hshown⟩
    · intro change hchange hbefore hafter
      exact absurd (hwhole ▸ hshown)
        (not_shown_in_gap timeZone dateTime hchange hbefore hafter found)
    · exact fun _ => ⟨fun _ => ⟨date, hshown⟩, fun _ => ⟨date, hok⟩⟩
  · have hnothing : ¬ ∃ date, zonedLocalDateTimeToUtc dateTime.text timeZone = .ok date := by
      rintro ⟨date, hok⟩
      rw [herror] at hok
      cases hok
    refine ⟨⟨fun h => absurd h hnothing, ?_⟩, ?_, fun _ _ _ _ => herror, fun hchanges => ?_⟩
    · rintro ⟨minutes, hshown⟩
      exact absurd hshown (hnone minutes)
    · exact fun date hok => absurd ⟨date, hok⟩ hnothing
    · refine ⟨fun h => absurd h hnothing, ?_⟩
      rintro ⟨date, hshown⟩
      exact absurd (shown_at_minute timeZone dateTime hchanges hshown) (hnone _)

end Exactness

/-- Clocks are put forward from one hour ahead of UTC to two hours. -/
def forwardAt (change : Int) : TimeZone where
  offset date := if date < change then 60 else 120
  bounded date := by split <;> decide
  apart first second hfirst hsecond hlt := by
    unfold Changes at hfirst hsecond
    dsimp only at hfirst hsecond
    split_ifs at hfirst hsecond <;> omega

/-- A time of the first day of 1970. -/
def firstDayAt (hour minute : Nat) (hour_lt : hour < 24) (minute_lt : minute < 60) :
    LocalDateTime where
  date := { year := 1970, month := 0, day := 1 }
  hour := hour
  minute := minute
  real := ⟨31, by decide⟩
  year_range := by decide
  hour_lt := hour_lt
  minute_lt := minute_lt

theorem zonedLocalDateTimeToUtc_exact_gap :
    zonedLocalDateTimeToUtc (firstDayAt 1 30 (by decide) (by decide)).text (forwardAt 0) = .error
      "That local time does not exist in the venue time zone because of a clock change." :=
  (zonedLocalDateTimeToUtc_exact (forwardAt 0)
    (firstDayAt 1 30 (by decide) (by decide))).2.2.1 0 (by unfold Changes; decide)
      (by decide +kernel)
    (by decide +kernel)

/-- Half a minute after the start of 1970 the clocks go from one to two. Two o'clock is shown, and
yet rejected. -/
theorem zonedLocalDateTimeToUtc_misses_part_of_minute :
    partsInTimeZone 30000 (forwardAt 30000) =
        (firstDayAt 2 0 (by decide) (by decide)).parts ∧
      zonedLocalDateTimeToUtc (firstDayAt 2 0 (by decide) (by decide)).text (forwardAt 30000) =
        .error
          "That local time does not exist in the venue time zone because of a clock change." := by
  refine ⟨by decide +kernel, ?_⟩
  rcases zonedLocalDateTimeToUtc_found (forwardAt 30000)
      (firstDayAt 2 0 (by decide) (by decide)) with ⟨date, hok, hshown⟩ | ⟨herror, -⟩
  · have hnot : (zonedLocalDateTimeToUtc (firstDayAt 2 0 (by decide) (by decide)).text
        (forwardAt 30000)).isOk = false := by decide +kernel
    rw [hok] at hnot
    cases hnot
  · exact herror

end SeatFlow
