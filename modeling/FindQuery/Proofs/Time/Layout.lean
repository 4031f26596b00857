import FindQuery.Proofs.Time.Written
import Mathlib.Data.List.ReduceOption

/-!
# The layouts of timestamps

The layouts are tried one after the other, and most of them allow for fewer digits and for
blanks.  A written timestamp is nevertheless read by one layout only, its own: the others miss
a mark, find a digit where they expect a sign, or do not come to the end of the text.  So the
order in which they are tried does not matter for it.

The reading of each part is told with the text that follows the part, because a field is cut
by its number of digits and not by the character after it.
-/

namespace FindQuery.Time

open FindQuery.Calendar
open FindQuery.Lexis
open FindQuery.Number
open FindQuery.Text

namespace Timestamp

/-! ## Digits -/

theorem exactDigits?_padded
    {count number : Nat} (small : number < 10 ^ count) (rest : List Char) :
    exactDigits? count (padded count number ++ rest) = some (number, rest) := by
  simp only [exactDigits?, takeWhile_take_padded, length_padded, if_true, digitsValue_padded small,
    drop_padded]

theorem digits?_padded
    {count number : Nat} (small : number < 10 ^ (count + 1)) (rest : List Char) :
    digits? (count + 1) (padded (count + 1) number ++ rest) = some (number, rest) := by
  have nonempty : (padded (count + 1) number).isEmpty = false := by
    simp [padded]
  simp only [digits?, takeWhile_take_padded, nonempty, length_padded, digitsValue_padded small,
    drop_padded]
  rfl

theorem trimStart_padded (count number : Nat) (rest : List Char) :
    trimStart (padded (count + 1) number ++ rest) = padded (count + 1) number ++ rest := by
  rcases exists_padded_append count number rest with ⟨first, later, same, digit⟩
  rw [same, trimStart, List.dropWhile_cons_of_neg]
  simp [isBlank_eq_false_of_isDigit digit]

theorem field?_padded {number : Nat} (small : number < 10 ^ 2) (rest : List Char) :
    field? (padded 2 number ++ rest) = some (number, rest) := by
  rw [field?, trimStart_padded, digits?_padded small]

/-- A year that starts with a digit has no sign. -/
theorem year?_of_padded (count number : Nat) (rest : List Char) :
    year? (padded (count + 1) number ++ rest) =
      (digits? 4 (padded (count + 1) number ++ rest)).map fun read => ((read.1 : Int), read.2) := by
  rcases exists_padded_append count number rest with ⟨first, later, same, digit⟩
  rw [year?.eq_def, trimStart_padded, same]
  split
  · rename_i others starts
    cases starts
    cases digit
  · rename_i others starts
    cases starts
    cases digit
  · rfl

/-! ## Dates -/

theorem date?_append (written : WrittenDate) (rest : List Char) :
    date? (written.text ++ rest) = some (written.date.toDay, rest) := by
  have same : (written.date.year.toNat : Int) = written.date.year :=
    Int.toNat_of_nonneg written.early
  simp [WrittenDate.text, date?, year?_of_padded, digits?_padded written.year_lt, expect?,
    field?_padded written.month_lt, field?_padded written.day_lt, same, dayOf?, written.valid]

/-- A time has a colon where a date has a hyphen. -/
theorem date?_of_clock (clock : HourMinute) (rest : List Char) :
    date? (clock.text ++ rest) = none := by
  have hours : digits? 4 (padded 2 clock.hour ++ ':' :: (padded 2 clock.minute ++ rest)) =
      some (clock.hour.val, ':' :: (padded 2 clock.minute ++ rest)) := by
    have nonempty : (padded 2 clock.hour.val).isEmpty = false := by
      simp [padded]
    simp only [digits?, takeWhile_take_padded_of_lt (show 2 < 4 by decide) clock.hour.val
      (show ':'.isDigit = false by decide), nonempty, length_padded, drop_padded,
      digitsValue_padded clock.hour_lt]
    rfl
  simp [HourMinute.text, date?, year?_of_padded, hours, expect?]

/-- A date has a digit where a time has a colon. -/
theorem time?_of_date (withSeconds : Bool) (written : WrittenDate) (rest : List Char) :
    time? withSeconds (written.text ++ rest) = none := by
  -- the first two digits of the year are taken for an hour, and the third stands in the way
  obtain ⟨hour, first, second, small, digit, leads⟩ :
      ∃ hour first second, hour < 10 ^ 2 ∧ first.isDigit = true ∧
        padded 4 written.date.year.toNat = padded 2 hour ++ [first, second] := by
    have late := written.late
    refine ⟨written.date.year.toNat / 10 / 10, digitOf (written.date.year.toNat / 10 % 10),
      digitOf (written.date.year.toNat % 10), by omega,
      isDigit_digitOf (Nat.mod_lt _ (by decide)), ?_⟩
    simp [padded]
  have noColon : first ≠ ':' := by
    rintro rfl
    cases digit
  simp [WrittenDate.text, leads, time?, field?_padded small, expect?, noColon]

theorem wholeDate?_append (written : WrittenDate) (rest : List Char) :
    wholeDate? (written.text ++ rest) =
      if rest.isEmpty then some written.date.toDay else none := by
  simp [wholeDate?, date?_append]

/-! ## Times -/

theorem fraction?_append
    (second : SecondFraction) {rest : List Char}
    (ends : ∀ next ∈ rest.head?, next.isDigit = false ∧ next ≠ '.') :
    fraction? (second.fractionText ++ rest) = some (second.nanos, rest) := by
  by_cases none : second.places = 0
  · have whole : second.nanos = 0 := by
      have small := second.small
      rw [none, Nat.pow_zero, Nat.lt_one_iff] at small
      simp [SecondFraction.nanos, small]
    rw [SecondFraction.fractionText, if_pos none, List.nil_append, whole, fraction?.eq_def]
    split
    · rename_i others
      exact absurd rfl (ends '.' (by simp)).2
    · rfl
  · have stops : ∀ next ∈ rest.head?, next.isDigit = false := fun next atHead =>
      (ends next atHead).1
    have run : (padded second.places second.fraction ++ rest).takeWhile Char.isDigit =
        padded second.places second.fraction :=
      takeWhile_append_of_head? isDigit_of_mem_padded stops
    have counted : (padded second.places second.fraction).take 9 =
        padded second.places second.fraction :=
      List.take_of_length_le (by rw [length_padded]; exact second.few)
    have nonempty : (padded second.places second.fraction).isEmpty = false := by
      rw [List.isEmpty_eq_false_iff, ← List.length_pos_iff, length_padded]
      omega
    rw [SecondFraction.fractionText, if_neg none, List.cons_append, fraction?]
    simp only [run, nonempty, fractionNanos, counted, length_padded,
      digitsValue_padded second.small, drop_padded, SecondFraction.nanos, tenTo]
    simp

theorem timeOfDay?_minutes (clock : HourMinute) :
    timeOfDay? clock.hour clock.minute 0 0 = some ⟨clock.seconds, 0⟩ := by
  simp [timeOfDay?, HourMinute.seconds]

theorem timeOfDay?_second (clock : HourMinute) (second : SecondFraction) :
    timeOfDay? clock.hour clock.minute second.second second.nanos =
      some (second.timeOfDay clock) := by
  have shown : clock.hour.val < 24 ∧ clock.minute.val < 60 ∧ second.second.val ≤ 60 := by omega
  rw [timeOfDay?, if_pos shown, SecondFraction.timeOfDay]
  split <;> rfl

theorem time?_false_append (clock : HourMinute) (rest : List Char) :
    time? false (clock.text ++ rest) =
      if rest.isEmpty then some ⟨clock.seconds, 0⟩ else none := by
  simp [HourMinute.text, time?, field?_padded clock.hour_lt, field?_padded clock.minute_lt, expect?,
    timeOfDay?_minutes]

theorem time?_true_of_clock (clock : HourMinute) : time? true clock.text = none := by
  have minute := field?_padded clock.minute_lt []
  rw [List.append_nil] at minute
  simp [HourMinute.text, time?, field?_padded clock.hour_lt, minute, expect?]

theorem time?_true_append
    (clock : HourMinute) (second : SecondFraction) (rest : List Char)
    (ends : ∀ next ∈ rest.head?, next.isDigit = false ∧ next ≠ '.') :
    time? true (clock.text ++ (second.text ++ rest)) =
      if rest.isEmpty then some (second.timeOfDay clock) else none := by
  simp [HourMinute.text, SecondFraction.text, time?, field?_padded clock.hour_lt,
    field?_padded clock.minute_lt, field?_padded second.second_lt, expect?,
    fraction?_append second ends, timeOfDay?_second]

theorem time?_text (withSeconds : Bool) (written : WrittenTime) :
    time? withSeconds written.text =
      if withSeconds = written.second?.isSome then some written.timeOfDay else none := by
  rcases written with ⟨clock, none | second⟩
  · cases withSeconds with
    | false => simpa [WrittenTime.text, WrittenTime.timeOfDay] using time?_false_append clock []
    | true => simpa [WrittenTime.text] using time?_true_of_clock clock
  · cases withSeconds with
    | false => simpa [WrittenTime.text, SecondFraction.text] using
        time?_false_append clock second.text
    | true => simpa [WrittenTime.text, WrittenTime.timeOfDay] using
        time?_true_append clock second [] (by simp)

/-- A letter is no beginning of a time. -/
theorem time?_of_letter
    (withSeconds : Bool) {letter : Char} (isLetter : letter = 'T' ∨ letter = 't')
    (rest : List Char) :
    time? withSeconds (letter :: rest) = none := by
  have noField : field? (letter :: rest) = none := by
    rcases isLetter with rfl | rfl <;> rfl
  simp [time?, noField]

/-! ## Dates with times -/

/-- A date and a time are read with the mark that stands between them. -/
theorem dateTime?_append
    (withMark withSeconds : Bool) (written : WrittenDate) {mark : Char}
    (isMark : mark = 'T' ∨ mark = 't' ∨ mark = ' ') (clock : HourMinute) (rest : List Char) :
    dateTime? withMark withSeconds (written.text ++ mark :: (clock.text ++ rest)) =
      if mark = (if withMark then 'T' else ' ') then
        (time? withSeconds (clock.text ++ rest)).map (·.onDay written.date.toDay)
      else
        none := by
  have startsOn : trimStart (' ' :: (clock.text ++ rest)) = clock.text ++ rest := by
    rw [HourMinute.text, List.append_assoc]
    exact trimStart_padded 1 clock.hour _
  cases withMark with
  | true => rcases isMark with rfl | rfl | rfl <;>
      simp [dateTime?, date?_append, expect?, Option.map_eq_bind]
  | false =>
      rcases isMark with rfl | rfl | rfl
      · have kept : trimStart ('T' :: (clock.text ++ rest)) = 'T' :: (clock.text ++ rest) := rfl
        simp [dateTime?, date?_append, kept, time?_of_letter]
      · have kept : trimStart ('t' :: (clock.text ++ rest)) = 't' :: (clock.text ++ rest) := rfl
        simp [dateTime?, date?_append, kept, time?_of_letter]
      · simp [dateTime?, date?_append, startsOn, Option.map_eq_bind]

theorem dateTime?_of_date (withMark withSeconds : Bool) (written : WrittenDate) :
    dateTime? withMark withSeconds written.text = none := by
  have date := date?_append written []
  have noTime : time? withSeconds (trimStart []) = none := rfl
  rw [List.append_nil] at date
  cases withMark with
  | true => simp [dateTime?, date, expect?]
  | false => simp [dateTime?, date, noTime]

theorem dateTime?_of_clock
    (withMark withSeconds : Bool) (clock : HourMinute) (rest : List Char) :
    dateTime? withMark withSeconds (clock.text ++ rest) = none := by
  simp [dateTime?, date?_of_clock]

theorem wholeDate?_of_clock (clock : HourMinute) (rest : List Char) :
    wholeDate? (clock.text ++ rest) = none := by
  simp [wholeDate?, date?_of_clock]

/-! ## Instants -/

theorem offset?_text (offset : WrittenOffset) :
    offset? offset.text = some (offset.seconds, []) := by
  have minutes (distance : HourMinute) :
      exactDigits? 2 (padded 2 distance.minute) = some (distance.minute.val, []) := by
    have read := exactDigits?_padded distance.minute_lt []
    rwa [List.append_nil] at read
  cases offset with
  | universal letter isLetter => rcases isLetter with rfl | rfl <;> rfl
  | ahead distance =>
      simp [WrittenOffset.text, WrittenOffset.seconds, HourMinute.text, HourMinute.seconds, offset?,
        offsetSign?, exactDigits?_padded distance.hour_lt, minutes, expect?]
  | behind distance =>
      simp [WrittenOffset.text, WrittenOffset.seconds, HourMinute.text, HourMinute.seconds, offset?,
        offsetSign?, exactDigits?_padded distance.hour_lt, minutes, expect?]

/-- A step that has read something is followed by the next, in the form that a reader has. -/
theorem some_bind_eq {α β : Type} (read : α) (next : α → Option β) :
    (some read >>= next) = next read :=
  rfl

/-- Four digits are no beginning of a time. -/
theorem zoned?_of_clock (clock : HourMinute) (rest : List Char) :
    zoned? (clock.text ++ rest) = none := by
  have noYear : exactDigits? 4 (clock.text ++ rest) = none := by
    rw [HourMinute.text, List.append_assoc, List.cons_append]
    simp only [exactDigits?, takeWhile_take_padded_of_lt (show 2 < 4 by decide) clock.hour.val
      (show ':'.isDigit = false by decide), length_padded]
    rfl
  rw [zoned?, noYear]
  rfl

theorem expect?_self (character : Char) (rest : List Char) :
    expect? character (character :: rest) = some rest :=
  if_pos rfl

theorem dateMark?_cons
    {mark : Char} (isMark : mark = 'T' ∨ mark = 't' ∨ mark = ' ') (rest : List Char) :
    dateMark? (mark :: rest) = some rest := by
  rcases isMark with rfl | rfl | rfl <;> rfl

section Zoned

variable (written : WrittenDate)

/-- After the date there has to be a mark. -/
theorem zoned?_of_date : zoned? written.text = none := by
  have last := exactDigits?_padded written.day_lt []
  rw [List.append_nil] at last
  simp only [zoned?, WrittenDate.text, some_bind_eq, exactDigits?_padded written.year_lt,
    expect?_self, exactDigits?_padded written.month_lt, last]
  rfl

variable {mark : Char} (isMark : mark = 'T' ∨ mark = 't' ∨ mark = ' ') (clock : HourMinute)
include isMark

/-- After the minutes there have to be seconds. -/
theorem zoned?_of_minutes : zoned? (written.text ++ mark :: clock.text) = none := by
  have last := exactDigits?_padded clock.minute_lt []
  rw [List.append_nil] at last
  simp only [zoned?, WrittenDate.text, HourMinute.text, List.append_assoc, List.cons_append,
    some_bind_eq, exactDigits?_padded written.year_lt, expect?_self,
    exactDigits?_padded written.month_lt, exactDigits?_padded written.day_lt, dateMark?_cons isMark,
    exactDigits?_padded clock.hour_lt, last]
  rfl

/-- What follows the seconds has to be an offset. -/
theorem zoned?_append
    (second : SecondFraction) (rest : List Char)
    (ends : ∀ next ∈ rest.head?, next.isDigit = false ∧ next ≠ '.') :
    zoned? (written.text ++ mark :: (clock.text ++ (second.text ++ rest))) =
      (offset? rest).bind fun read =>
        if read.2.isEmpty then
          some ⟨(second.timeOfDay clock).onDay written.date.toDay, read.1⟩
        else
          none := by
  have isDay : dayOf? written.date = some written.date.toDay := if_pos written.valid
  have sameYear : (written.date.year.toNat : Int) = written.date.year :=
    Int.toNat_of_nonneg written.early
  simp only [zoned?, WrittenDate.text, HourMinute.text, SecondFraction.text, List.append_assoc,
    List.cons_append, some_bind_eq, exactDigits?_padded written.year_lt, expect?_self,
    exactDigits?_padded written.month_lt, exactDigits?_padded written.day_lt, dateMark?_cons isMark,
    exactDigits?_padded clock.hour_lt, exactDigits?_padded clock.minute_lt,
    exactDigits?_padded second.second_lt, fraction?_append second ends, sameYear, isDay,
    timeOfDay?_second]
  rfl

end Zoned

/-! ## All layouts -/

/-- What each layout reads, in the order in which they are tried. -/
def readings (text : List Char) : List (Option Timestamp) :=
  [(zoned? text).map instant, (dateTime? false true text).map moment,
    (dateTime? true true text).map moment, (dateTime? false false text).map moment,
    (dateTime? true false text).map moment, (wholeDate? text).map date,
    (time? true text).map time, (time? false text).map time]

theorem ofText?_eq_head? (text : List Char) :
    ofText? text = (readings (trim text)).reduceOption.head? := by
  rw [List.reduceOption, List.head?_filterMap]
  have first (reading : Option Timestamp) (others : List (Option Timestamp)) :
      (reading :: others).findSome? id = reading.or (others.findSome? id) := by
    cases reading <;> rfl
  simp only [readings, first, List.findSome?_nil, Option.or_none, ofText?]

/-- A text with an offset is left unfinished by the layouts without one. -/
theorem readings_zoned
    (written : WrittenDate) {mark : Char} (isMark : mark = 'T' ∨ mark = 't' ∨ mark = ' ')
    (clock : HourMinute) (second : SecondFraction) (offset : WrittenOffset) :
    (readings (written.text ++ mark :: (clock.text ++ (second.text ++ offset.text)))).reduceOption =
      [.instant ⟨(second.timeOfDay clock).onDay written.date.toDay, offset.seconds⟩] := by
  have zoned := zoned?_append written isMark clock second _ offset.head?_text
  have noTime (withSeconds : Bool) :
      time? withSeconds (clock.text ++ (second.text ++ offset.text)) = none := by
    cases withSeconds with
    | false => simp [time?_false_append, SecondFraction.text]
    | true => simp [time?_true_append clock second _ offset.head?_text, offset.isEmpty_text]
  have noDateTime (withMark withSeconds : Bool) :
      dateTime? withMark withSeconds
        (written.text ++ mark :: (clock.text ++ (second.text ++ offset.text))) = none := by
    rw [dateTime?_append _ _ written isMark, noTime, Option.map_none, ite_self]
  rw [offset?_text] at zoned
  simp [readings, zoned, noDateTime, wholeDate?_append, time?_of_date]

/-- A date and a time are told by their mark and by whether there are seconds. -/
theorem readings_dateTime
    (written : WrittenDate) {mark : Char} (isMark : mark = 'T' ∨ mark = ' ')
    (time : WrittenTime) :
    (readings (written.text ++ mark :: time.text)).reduceOption =
      [.moment (time.timeOfDay.onDay written.date.toDay)] := by
  have isOne : mark = 'T' ∨ mark = 't' ∨ mark = ' ' := isMark.imp_right .inr
  have noZone : zoned? (written.text ++ mark :: time.text) = none := by
    rcases time with ⟨clock, none | second⟩
    · simpa [WrittenTime.text] using zoned?_of_minutes written isOne clock
    · simpa [WrittenTime.text, offset?, offsetSign?] using
        zoned?_append written isOne clock second [] (by simp)
  -- of the four layouts with a date and a time, only the one with this mark and these fields reads
  have read (withMark withSeconds : Bool) :
      dateTime? withMark withSeconds (written.text ++ mark :: time.text) =
        if mark = (if withMark then 'T' else ' ') ∧ withSeconds = time.second?.isSome then
          some (time.timeOfDay.onDay written.date.toDay)
        else
          none := by
    rw [WrittenTime.text, dateTime?_append _ _ written isOne, ← WrittenTime.text, time?_text]
    split_ifs <;> simp_all
  rcases isMark with rfl | rfl
  · cases seconds : time.second?.isSome <;>
      simp [readings, noZone, read, seconds, wholeDate?_append, time?_of_date]
  · cases seconds : time.second?.isSome <;>
      simp [readings, noZone, read, seconds, wholeDate?_append, time?_of_date]

theorem readings_wholeDate (written : WrittenDate) :
    (readings written.text).reduceOption = [.date written.date.toDay] := by
  have whole := wholeDate?_append written []
  have noTime (withSeconds : Bool) := time?_of_date withSeconds written []
  rw [List.append_nil] at whole
  simp only [List.append_nil] at noTime
  simp [readings, zoned?_of_date, dateTime?_of_date, whole, noTime]

theorem readings_time (written : WrittenTime) :
    (readings written.text).reduceOption = [.time written.timeOfDay] := by
  have noZone : zoned? written.text = none := zoned?_of_clock written.clock _
  have noDateTime (withMark withSeconds : Bool) :
      dateTime? withMark withSeconds written.text = none :=
    dateTime?_of_clock withMark withSeconds written.clock _
  have noDate : wholeDate? written.text = none := wholeDate?_of_clock written.clock _
  cases seconds : written.second?.isSome <;>
    simp [readings, noZone, noDateTime, noDate, time?_text, seconds]

/-- A written timestamp is read by one layout only, and as it is meant. -/
theorem readings_text (stamp : WrittenStamp) :
    (readings stamp.text).reduceOption = [stamp.meaning] := by
  cases stamp with
  | zoned written mark isMark clock second offset =>
      exact readings_zoned written isMark clock second offset
  | dateTime written mark isMark time => exact readings_dateTime written isMark time
  | wholeDate written => exact readings_wholeDate written
  | bareTime written => exact readings_time written

end Timestamp

end FindQuery.Time
