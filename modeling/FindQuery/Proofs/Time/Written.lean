import FindQuery.Proofs.Lexis.Character
import FindQuery.Proofs.Number.Padded
import FindQuery.Proofs.Time.Local

/-!
# Written timestamps

A timestamp is written with all its digits: four for the year, two for every other field, and
as many as one likes, up to nine, for the fraction of a second.  What it names is told here in
nanoseconds since the epoch, by arithmetic alone: the start of a day, the time since then and
the offset of the clock.

A clock may show a sixtieth second.  That leap second comes before the second which carries
its number of nanoseconds, so it is told in 64 bits only if its own start is.
-/

namespace FindQuery.Time

open FindQuery.Calendar
open FindQuery.Lexis
open FindQuery.Number
open FindQuery.Text

open Moment

/-! ## What is written -/

/-- A date of the calendar whose year has four digits. -/
structure WrittenDate where
  date : Date
  valid : date.IsValid
  early : 0 ≤ date.year
  late : date.year < 10000

namespace WrittenDate

variable (written : WrittenDate)

theorem year_lt : written.date.year.toNat < 10 ^ 4 := by
  have late := written.late
  omega

theorem month_lt : written.date.month < 10 ^ 2 := by
  have valid := written.valid
  simp only [Date.IsValid] at valid
  omega

theorem day_lt : written.date.day < 10 ^ 2 := by
  have valid := written.valid
  have length := monthLength_bounds written.date.monthNumber
  simp only [Date.IsValid] at valid
  omega

end WrittenDate

/-- An hour and a minute. -/
structure HourMinute where
  hour : Fin 24
  minute : Fin 60

namespace HourMinute

variable (clock : HourMinute)

theorem hour_lt : clock.hour.val < 10 ^ 2 := by
  omega

theorem minute_lt : clock.minute.val < 10 ^ 2 := by
  omega

end HourMinute

/-- A second of a minute, the sixtieth being a leap second, and a fraction in some digits. -/
structure SecondFraction where
  second : Fin 61
  places : Nat
  fraction : Nat
  few : places ≤ 9
  small : fraction < 10 ^ places

theorem SecondFraction.second_lt (second : SecondFraction) : second.second.val < 10 ^ 2 := by
  omega

/-- A time of day, with or without seconds. -/
structure WrittenTime where
  clock : HourMinute
  second? : Option SecondFraction

/-- An offset from universal time. -/
inductive WrittenOffset where
  | universal (letter : Char) (isLetter : letter = 'Z' ∨ letter = 'z')
  | ahead (distance : HourMinute)
  | behind (distance : HourMinute)

/-- A timestamp in one of the layouts. -/
inductive WrittenStamp where
  /-- A date and a time with seconds, and the offset of their clock. -/
  | zoned
      (date : WrittenDate)
      (mark : Char)
      (isMark : mark = 'T' ∨ mark = 't' ∨ mark = ' ')
      (clock : HourMinute)
      (second : SecondFraction)
      (offset : WrittenOffset)
  /-- A date and a time. -/
  | dateTime
      (date : WrittenDate)
      (mark : Char)
      (isMark : mark = 'T' ∨ mark = ' ')
      (time : WrittenTime)
  | wholeDate (date : WrittenDate)
  | bareTime (time : WrittenTime)

/-! ## Texts -/

def WrittenDate.text (written : WrittenDate) : List Char :=
  padded 4 written.date.year.toNat ++
    '-' :: (padded 2 written.date.month ++ '-' :: padded 2 written.date.day)

def HourMinute.text (clock : HourMinute) : List Char :=
  padded 2 clock.hour ++ ':' :: padded 2 clock.minute

/-- A fraction of no digits has no point either. -/
def SecondFraction.fractionText (second : SecondFraction) : List Char :=
  if second.places = 0 then [] else '.' :: padded second.places second.fraction

def SecondFraction.text (second : SecondFraction) : List Char :=
  ':' :: (padded 2 second.second ++ second.fractionText)

def WrittenTime.text (time : WrittenTime) : List Char :=
  time.clock.text ++ time.second?.elim [] SecondFraction.text

def WrittenOffset.text : WrittenOffset → List Char
  | .universal letter _ => [letter]
  | .ahead distance => '+' :: distance.text
  | .behind distance => '-' :: distance.text

theorem WrittenOffset.isEmpty_text (offset : WrittenOffset) : offset.text.isEmpty = false := by
  cases offset <;> rfl

/-- An offset does not go on with a fraction. -/
theorem WrittenOffset.head?_text (offset : WrittenOffset) :
    ∀ next ∈ offset.text.head?, next.isDigit = false ∧ next ≠ '.' := by
  cases offset with
  | universal letter isLetter => rcases isLetter with rfl | rfl <;> simp [text]
  | ahead distance => simp [text]
  | behind distance => simp [text]

def WrittenStamp.text : WrittenStamp → List Char
  | .zoned date mark _ clock second offset =>
      date.text ++ mark :: (clock.text ++ (second.text ++ offset.text))
  | .dateTime date mark _ time => date.text ++ mark :: time.text
  | .wholeDate date => date.text
  | .bareTime time => time.text

/-! ## Meanings -/

/-- The seconds of some hours and minutes. -/
def HourMinute.seconds (clock : HourMinute) : Int :=
  3600 * (clock.hour : Int) + 60 * (clock.minute : Int)

/-- The nanoseconds of a fraction. -/
def SecondFraction.nanos (second : SecondFraction) : Int :=
  second.fraction * 10 ^ (9 - second.places)

/-- A leap second is the second before it with a billion more nanoseconds. -/
def SecondFraction.timeOfDay (second : SecondFraction) (clock : HourMinute) : TimeOfDay :=
  if second.second.val = 60 then
    ⟨clock.seconds + 59, secondNanos + second.nanos⟩
  else
    ⟨clock.seconds + (second.second : Int), second.nanos⟩

def WrittenTime.timeOfDay (time : WrittenTime) : TimeOfDay :=
  time.second?.elim ⟨time.clock.seconds, 0⟩ (·.timeOfDay time.clock)

/-- The seconds by which a clock is ahead of universal time. -/
def WrittenOffset.seconds : WrittenOffset → Int
  | .universal _ _ => 0
  | .ahead distance => distance.seconds
  | .behind distance => -distance.seconds

def WrittenStamp.meaning : WrittenStamp → Timestamp
  | .zoned date _ _ clock second offset =>
      .instant ⟨(second.timeOfDay clock).onDay date.date.toDay, offset.seconds⟩
  | .dateTime date _ _ time => .moment (time.timeOfDay.onDay date.date.toDay)
  | .wholeDate date => .date date.date.toDay
  | .bareTime time => .time time.timeOfDay

/-! ## Instants -/

/-- The nanoseconds from midnight. -/
def WrittenTime.nanos (time : WrittenTime) : Int :=
  time.clock.seconds * secondNanos +
    time.second?.elim 0 fun second => (second.second : Int) * secondNanos + second.nanos

/-- The nanoseconds from the epoch to what a timestamp names at a present. -/
def WrittenStamp.nanos (now : Instant) (bound : Bound) : WrittenStamp → Int
  | .zoned date _ _ clock second offset =>
      dayNanos * date.date.toDay + WrittenTime.nanos ⟨clock, some second⟩ -
        offset.seconds * secondNanos
  | .dateTime date _ _ time => now.dayStart date.date.toDay + time.nanos
  | .wholeDate date => now.daysBound date.date.toDay (date.date.toDay + 1) bound
  | .bareTime time => now.dayStart now.clock.day + time.nanos

/-- The seconds that a timestamp is written with. -/
def WrittenStamp.second? : WrittenStamp → Option SecondFraction
  | .zoned _ _ _ _ second _ => some second
  | .dateTime _ _ _ time => time.second?
  | .wholeDate _ => none
  | .bareTime time => time.second?

/-- What is named has 64 bits in nanoseconds, and so has the start of a leap second. -/
def WrittenStamp.Fits (stamp : WrittenStamp) (now : Instant) (bound : Bound) : Prop :=
  FitsInt64 (stamp.nanos now bound) ∧
    ∀ second ∈ stamp.second?, second.second.val = 60 →
      FitsInt64 (stamp.nanos now bound - second.nanos)

/-! ## What is told in 64 bits -/

/-- A leap second is refused also if its start has not 64 bits. -/
theorem epochNanos?_of_fits
    {instant : Instant} (nonnegative : 0 ≤ instant.clock.nanos)
    (small : instant.clock.nanos < 2 * secondNanos) (fits : FitsInt64 instant.totalNanos)
    (leap : secondNanos ≤ instant.clock.nanos →
      FitsInt64 (instant.totalNanos - (instant.clock.nanos - secondNanos))) :
    instant.epochNanos? = some instant.totalNanos := by
  simp only [Instant.totalNanos, Moment.totalNanos, FitsInt64, int64Min, int64Max, secondNanos] at *
  have whole (number : Int) (inside : FitsInt64 number) : toInt64? number = some number :=
    toInt64?_eq_some_iff.2 ⟨inside, rfl⟩
  simp only [FitsInt64, int64Min, int64Max] at whole
  rw [Instant.epochNanos?]
  simp only [secondNanos]
  -- before the epoch the seconds are counted to the next one, which is where a leap second starts
  split
  · rw [whole _ (by omega), Option.bind_some, whole _ (by omega)]
    congr 1
    omega
  · rw [whole _ (by omega), Option.bind_some, whole _ (by omega)]
    congr 1
    omega

theorem SecondFraction.nanos_bounds (second : SecondFraction) :
    0 ≤ second.nanos ∧ second.nanos < secondNanos := by
  have few := second.few
  have scaled : second.fraction * 10 ^ (9 - second.places) < 10 ^ 9 :=
    calc
      second.fraction * 10 ^ (9 - second.places) <
          10 ^ second.places * 10 ^ (9 - second.places) :=
        Nat.mul_lt_mul_of_pos_right second.small (Nat.pow_pos (by decide))
      _ = 10 ^ 9 := by rw [← Nat.pow_add, Nat.add_sub_cancel' few]
  have same : second.nanos = ((second.fraction * 10 ^ (9 - second.places) : Nat) : Int) := by
    simp [nanos]
  rw [same, secondNanos]
  omega

namespace WrittenTime

variable (time : WrittenTime)

/-- A time of day has a billion nanoseconds or more only within a leap second. -/
theorem timeOfDay_spec :
    time.timeOfDay.seconds * secondNanos + time.timeOfDay.nanos = time.nanos ∧
      0 ≤ time.timeOfDay.nanos ∧ time.timeOfDay.nanos < 2 * secondNanos ∧
        (secondNanos ≤ time.timeOfDay.nanos →
          ∃ second ∈ time.second?,
            second.second.val = 60 ∧ time.timeOfDay.nanos = secondNanos + second.nanos) := by
  rcases time with ⟨clock, none | second⟩
  · simp [timeOfDay, nanos, secondNanos]
  · have bounds := second.nanos_bounds
    simp only [timeOfDay, nanos, Option.elim_some, SecondFraction.timeOfDay]
    split
    · rename_i leap
      refine ⟨?_, ?_, ?_, fun _ => ⟨second, rfl, leap, rfl⟩⟩
      · simp only [leap, secondNanos]
        omega
      · simp only [secondNanos] at *
        omega
      · simp only [secondNanos] at *
        omega
    · refine ⟨?_, ?_, ?_, ?_⟩
      · simp only [secondNanos]
        omega
      · exact bounds.1
      · simp only [secondNanos] at *
        omega
      · intro billion
        exact absurd bounds.2 (Int.not_lt.2 billion)

/-- A time on a day is told where it has 64 bits, the start of a leap second included. -/
theorem epochNanos?_onDay
    {day offset nanos : Int}
    (told : dayNanos * day + time.nanos - offset * secondNanos = nanos)
    (fits : FitsInt64 nanos)
    (leap : ∀ second ∈ time.second?, second.second.val = 60 → FitsInt64 (nanos - second.nanos)) :
    Instant.epochNanos? ⟨time.timeOfDay.onDay day, offset⟩ = some nanos := by
  rcases time.timeOfDay_spec with ⟨total, nonnegative, small, billion⟩
  have same :
      Instant.totalNanos ⟨time.timeOfDay.onDay day, offset⟩ = nanos := by
    simp only [Instant.totalNanos, Moment.totalNanos, TimeOfDay.onDay, dayNanos, daySeconds,
      secondNanos] at *
    omega
  rw [epochNanos?_of_fits nonnegative small (same.symm ▸ fits), same]
  intro many
  rcases billion many with ⟨second, isSecond, sixty, counted⟩
  have beyond : time.timeOfDay.nanos - secondNanos = second.nanos := by
    rw [counted, add_sub_cancel_left]
  rw [same, TimeOfDay.onDay, beyond]
  exact leap second isSecond sixty

end WrittenTime

/-- What a timestamp names is told in nanoseconds where it has 64 bits. -/
theorem epochNanos?_resolve_meaning
    {stamp : WrittenStamp} {now : Instant} {bound : Bound} (fits : stamp.Fits now bound) :
    (stamp.meaning.resolve now bound).epochNanos? = some (stamp.nanos now bound) := by
  cases stamp with
  | zoned date mark isMark clock second offset =>
      exact WrittenTime.epochNanos?_onDay ⟨clock, some second⟩ rfl fits.1 fits.2
  | dateTime date mark isMark time =>
      apply WrittenTime.epochNanos?_onDay time _ fits.1 fits.2
      simp only [WrittenStamp.nanos, Instant.dayStart, Instant.totalNanos, totalNanos_midnight]
      omega
  | wholeDate date =>
      have days := epochNanos?_boundOf_midnight now (after_days_midnight date.date.toDay 1) bound
      rw [WrittenStamp.meaning, Timestamp.resolve, days, toInt64?_eq_some_iff]
      exact ⟨fits.1, rfl⟩
  | bareTime time =>
      apply WrittenTime.epochNanos?_onDay time _ fits.1 fits.2
      simp only [WrittenStamp.nanos, Instant.dayStart, Instant.totalNanos, totalNanos_midnight]
      omega

/-! ## The characters of a timestamp -/

/-- The characters that timestamps are written with. -/
def isStampPart (character : Char) : Bool :=
  character.isDigit || ['-', '+', ':', '.', ' ', 'T', 't', 'Z', 'z'].contains character

theorem all_isStampPart_padded (count number : Nat) :
    (padded count number).all isStampPart = true := by
  rw [List.all_eq_true]
  intro digit member
  rw [isStampPart, isDigit_of_mem_padded digit member, Bool.true_or]

theorem HourMinute.all_text (clock : HourMinute) : clock.text.all isStampPart = true := by
  simp [text, all_isStampPart_padded, isStampPart]

theorem WrittenDate.all_text (written : WrittenDate) : written.text.all isStampPart = true := by
  simp [text, all_isStampPart_padded, isStampPart]

theorem SecondFraction.all_text (second : SecondFraction) :
    second.text.all isStampPart = true := by
  by_cases none : second.places = 0
  · simp [text, fractionText, none, all_isStampPart_padded, isStampPart]
  · simp [text, fractionText, none, all_isStampPart_padded, isStampPart]

theorem WrittenTime.all_text (time : WrittenTime) : time.text.all isStampPart = true := by
  rcases time with ⟨clock, none | second⟩
  · simp [text, clock.all_text]
  · simp [text, clock.all_text, second.all_text]

theorem WrittenOffset.all_text (offset : WrittenOffset) : offset.text.all isStampPart = true := by
  cases offset with
  | universal letter isLetter => rcases isLetter with rfl | rfl <;> rfl
  | ahead distance => simp [text, distance.all_text, isStampPart]
  | behind distance => simp [text, distance.all_text, isStampPart]

theorem WrittenStamp.all_text (stamp : WrittenStamp) : stamp.text.all isStampPart = true := by
  cases stamp with
  | zoned date mark isMark clock second offset =>
      have part : isStampPart mark = true := by
        rcases isMark with rfl | rfl | rfl <;> rfl
      simp [text, date.all_text, part, clock.all_text, second.all_text, offset.all_text]
  | dateTime date mark isMark time =>
      have part : isStampPart mark = true := by
        rcases isMark with rfl | rfl <;> rfl
      simp [text, date.all_text, part, time.all_text]
  | wholeDate date => exact date.all_text
  | bareTime time => exact time.all_text

/-! ## Where a timestamp starts and ends -/

theorem isBlank_eq_false_of_isDigit
    {character : Char} (digit : character.isDigit = true) : isBlank character = false :=
  isBlank_eq_false_of_class (by decide) digit

/-- A text ends in a character that is no blank. -/
def EndsVisibly (text : List Char) : Prop :=
  ∃ body last, text = body ++ [last] ∧ isBlank last = false

theorem EndsVisibly.append {text : List Char} (ends : EndsVisibly text) (front : List Char) :
    EndsVisibly (front ++ text) := by
  rcases ends with ⟨body, last, rfl, visible⟩
  exact ⟨front ++ body, last, (List.append_assoc _ _ _).symm, visible⟩

theorem EndsVisibly.cons {text : List Char} (ends : EndsVisibly text) (first : Char) :
    EndsVisibly (first :: text) :=
  ends.append [first]

theorem endsVisibly_padded (count number : Nat) : EndsVisibly (padded (count + 1) number) :=
  ⟨padded count (number / 10), digitOf (number % 10), rfl,
    isBlank_eq_false_of_isDigit (isDigit_digitOf (Nat.mod_lt _ (by decide)))⟩

theorem HourMinute.endsVisibly_text (clock : HourMinute) : EndsVisibly clock.text :=
  ((endsVisibly_padded 1 clock.minute).cons ':').append _

theorem WrittenDate.endsVisibly_text (written : WrittenDate) : EndsVisibly written.text :=
  ((((endsVisibly_padded 1 written.date.day).cons '-').append _).cons '-').append _

theorem SecondFraction.endsVisibly_text (second : SecondFraction) : EndsVisibly second.text := by
  rw [text, fractionText]
  cases second.places with
  | zero =>
      rw [if_pos rfl, List.append_nil]
      exact (endsVisibly_padded 1 second.second).cons ':'
  | succ places => exact (((endsVisibly_padded places second.fraction).cons '.').append _).cons ':'

theorem WrittenTime.endsVisibly_text (time : WrittenTime) : EndsVisibly time.text := by
  rcases time with ⟨clock, none | second⟩
  · rw [text, Option.elim_none, List.append_nil]
    exact clock.endsVisibly_text
  · exact second.endsVisibly_text.append _

theorem WrittenOffset.endsVisibly_text (offset : WrittenOffset) : EndsVisibly offset.text := by
  cases offset with
  | universal letter isLetter =>
      refine ⟨[], letter, rfl, ?_⟩
      rcases isLetter with rfl | rfl <;> decide
  | ahead distance => exact distance.endsVisibly_text.cons '+'
  | behind distance => exact distance.endsVisibly_text.cons '-'

theorem WrittenStamp.endsVisibly_text (stamp : WrittenStamp) : EndsVisibly stamp.text := by
  cases stamp with
  | zoned date mark isMark clock second offset =>
      exact (((offset.endsVisibly_text.append _).append _).cons mark).append _
  | dateTime date mark isMark time => exact (time.endsVisibly_text.cons mark).append _
  | wholeDate date => exact date.endsVisibly_text
  | bareTime time => exact time.endsVisibly_text

/-- A timestamp starts with a digit. -/
theorem WrittenStamp.exists_digit (stamp : WrittenStamp) :
    ∃ first later, stamp.text = first :: later ∧ first.isDigit = true := by
  have date (written : WrittenDate) (rest : List Char) :
      ∃ first later, written.text ++ rest = first :: later ∧ first.isDigit = true := by
    rw [WrittenDate.text, List.append_assoc]
    exact exists_padded_append 3 _ _
  cases stamp with
  | zoned written mark isMark clock second offset => exact date written _
  | dateTime written mark isMark time => exact date written _
  | wholeDate written =>
      rw [text, ← List.append_nil written.text]
      exact date written []
  | bareTime time =>
      rw [text, WrittenTime.text, HourMinute.text, List.append_assoc]
      exact exists_padded_append 1 _ _

/-- Blanks around a timestamp are cut. -/
theorem WrittenStamp.trim_append
    (stamp : WrittenStamp) {before after : List Char}
    (blankBefore : ∀ character ∈ before, isBlank character = true)
    (blankAfter : ∀ character ∈ after, isBlank character = true) :
    trim (before ++ stamp.text ++ after) = stamp.text := by
  rcases stamp.exists_digit with ⟨first, later, starts, digit⟩
  rcases stamp.endsVisibly_text with ⟨body, last, ends, visible⟩
  have front : trimStart (before ++ stamp.text ++ after) = stamp.text ++ after := by
    rw [List.append_assoc, starts]
    exact dropWhile_append_of_head? blankBefore (by simp [isBlank_eq_false_of_isDigit digit])
  have back : trimStart (stamp.text ++ after).reverse = stamp.text.reverse := by
    rw [List.reverse_append, ends, List.reverse_append]
    exact dropWhile_append_of_head? (by simpa using blankAfter) (by simp [visible])
  rw [trim, front, back, List.reverse_reverse]

end FindQuery.Time
