import FindQuery.Proofs.Grammar.Local
import FindQuery.Proofs.Lexis.Rereading
import FindQuery.Proofs.Time.Layout

/-!
# Quoted timestamps

A timestamp that is written with all its digits and quoted in a query is one string.  One
layout reads it, and as a bound it is the instant that it names: on the clock of the present, or
on the clock that it carries itself.  Blanks between the quotes and the timestamp, tabs and line
breaks among them, make no difference.
-/

namespace FindQuery.Grammar

open FindQuery.Calendar
open FindQuery.Lexis
open FindQuery.Number
open FindQuery.Text
open FindQuery.Time

/-- A token is a string with a timestamp in it, and with nothing else but blanks. -/
structure Quotes (token : Token) (stamp : WrittenStamp) : Prop where
  isLiteral : token.kind = .literal
  isString : token.tag = .string
  padded :
    ∃ before after,
      token.text.toList = before ++ stamp.text ++ after ∧
        (∀ character ∈ before, isBlank character = true) ∧
          ∀ character ∈ after, isBlank character = true

namespace Quotes

variable {token : Token} {stamp : WrittenStamp}

theorem trim_text (quotes : Quotes token stamp) : trim token.text.toList = stamp.text := by
  rcases quotes.padded with ⟨before, after, shown, blankBefore, blankAfter⟩
  rw [shown, stamp.trim_append blankBefore blankAfter]

theorem ofText?_text (quotes : Quotes token stamp) :
    Timestamp.ofText? token.text.toList = some stamp.meaning := by
  rw [Timestamp.ofText?_eq_head?, quotes.trim_text, Timestamp.readings_text, List.head?_cons]

end Quotes

theorem isBlank_of_mem_map_straighten
    {gap : List Char} (blank : ∀ character ∈ gap, isBlank character = true) :
    ∀ character ∈ gap.map Segment.straighten, isBlank character = true := by
  intro character member
  rcases List.mem_map.1 member with ⟨original, inGap, rfl⟩
  rw [Segment.straighten]
  split
  · rfl
  · exact blank original inGap

/-- A timestamp between quotes is one token. -/
theorem exists_quotes_of_tokenize
    (stamp : WrittenStamp) {quote : Char} (isOne : isQuote quote = true)
    {before after : List Char} (blankBefore : ∀ character ∈ before, isBlank character = true)
    (blankAfter : ∀ character ∈ after, isBlank character = true) :
    ∃ token,
      tokenize (String.ofList (quote :: (before ++ stamp.text ++ after ++ [quote]))) =
          .ok [token] ∧
        Quotes token stamp := by
  have part := List.all_eq_true.1 stamp.all_text
  have straight : stamp.text.map Segment.straighten = stamp.text := by
    have same : ∀ character ∈ stamp.text, Segment.straighten character = id character :=
      fun character member => isStraight_of_class (by decide) (part character member)
    rw [List.map_congr_left same, List.map_id]
  have noBlank := isBlank_eq_false_of_isQuote isOne
  have noPart : isStampPart quote = false := by
    rcases (isQuote_iff quote).1 isOne with rfl | rfl <;> decide
  have fresh : quote ∉ before ++ stamp.text ++ after := by
    simp only [List.mem_append, not_or]
    refine ⟨⟨?_, ?_⟩, ?_⟩
    · exact fun member => absurd (blankBefore quote member) (ne_true_of_eq_false noBlank)
    · exact fun member => absurd (part quote member) (ne_true_of_eq_false noPart)
    · exact fun member => absurd (blankAfter quote member) (ne_true_of_eq_false noBlank)
  rcases tokenize_of_quoted isOne fresh with ⟨span, tokenized⟩
  refine ⟨_, tokenized, rfl, rfl, before.map Segment.straighten, after.map Segment.straighten,
    ?_, isBlank_of_mem_map_straighten blankBefore, isBlank_of_mem_map_straighten blankAfter⟩
  rw [String.toList_ofList, List.map_append, List.map_append, straight]

/--
A timestamp in quotes is read by one layout, and names an instant as either bound: a date and a
time, or a time of today, on the clock of the present; an instant on a clock of its own; and a
whole day from its midnight to the nanosecond before the next.
-/
theorem readBound_of_quotes (stamp : WrittenStamp) :
    (∀ quote before after,
        isQuote quote = true →
          (∀ character ∈ before, isBlank character = true) →
            (∀ character ∈ after, isBlank character = true) →
              ∃ token,
                tokenize (String.ofList (quote :: (before ++ stamp.text ++ after ++ [quote]))) =
                    .ok [token] ∧
                  Quotes token stamp) ∧
      ∀ token,
        Quotes token stamp →
          (Timestamp.readings (trim token.text.toList)).reduceOption = [stamp.meaning] ∧
            ∀ now bound,
              stamp.Fits now bound →
                ∀ rest,
                  readBound now bound (token :: rest) = .ok (stamp.nanos now bound) rest := by
  constructor
  · intro quote before after isOne blankBefore blankAfter
    exact exists_quotes_of_tokenize stamp isOne blankBefore blankAfter
  · intro token quotes
    constructor
    · rw [quotes.trim_text, Timestamp.readings_text]
    · intro now bound fits rest
      have spelled : (Shape.stamp token.text).IsSpelledBy [token] :=
        .cons ⟨quotes.isLiteral, quotes.isString, rfl⟩ .nil
      have read := readBound_eq_of_isSpelledBy spelled rest now bound
      rw [Shape.reference, Reference.resolve?, quotes.ofText?_text, Option.bind_some,
        epochNanos?_resolve_meaning fits] at read
      exact read

/-- A quarter of a second within the leap second of 2016, on a clock five hours behind. -/
def writtenLeapSecond : WrittenStamp :=
  .zoned ⟨⟨2016, 12, 31⟩, by decide, by decide, by decide⟩ 'T' (.inl rfl) ⟨18, 59⟩
    ⟨60, 2, 25, by decide, by decide⟩ (.behind ⟨5, 0⟩)

/-- The leap day of 2024. -/
def writtenLeapDay : WrittenStamp :=
  .wholeDate ⟨⟨2024, 2, 29⟩, by decide, by decide, by decide⟩

/-- The token of a string. -/
def stringToken (text : String) : Token :=
  ⟨.literal, .string, text, ⟨0, text.utf8ByteSize + 2⟩⟩

/--
On a clock eight hours behind, the leap day of 2024 closes at eight in the morning of the first
of March in universal time, with or without blanks around it.  The leap second has an offset of
its own.
-/
theorem readBound_leapDay :
    (∃ token,
        tokenize "\"\t2024-02-29\n\"" = .ok [token] ∧ Quotes token writtenLeapDay) ∧
      (Quotes (stringToken " 2024-02-29 ") writtenLeapDay ∧
          writtenLeapDay.Fits lastEvening .closing ∧
          (Timestamp.readings (trim " 2024-02-29 ".toList)).reduceOption = [.date 19782] ∧
            readBound lastEvening .closing [stringToken " 2024-02-29 "] =
              .ok 1709279999999999999 []) ∧
        Quotes (stringToken "2016-12-31T18:59:60.25-05:00") writtenLeapSecond ∧
          writtenLeapSecond.Fits lastEvening .opening ∧
            readBound lastEvening .opening [stringToken "2016-12-31T18:59:60.25-05:00"] =
              .ok 1483228800250000000 [] := by
  have blank : ∀ character ∈ ['\t', '\n', ' '], isBlank character = true :=
    List.all_eq_true.1 (by decide)
  have quoted : tokenize "\"\t2024-02-29\n\"" =
      tokenize (String.ofList ('"' :: (['\t'] ++ writtenLeapDay.text ++ ['\n'] ++ ['"']))) := by
    congr 1
  have day : Quotes (stringToken " 2024-02-29 ") writtenLeapDay := by
    refine ⟨rfl, rfl, [' '], [' '], ?_, by simpa using blank ' ', by simpa using blank ' '⟩
    decide +kernel
  have second : Quotes (stringToken "2016-12-31T18:59:60.25-05:00") writtenLeapSecond := by
    refine ⟨rfl, rfl, [], [], ?_, by simp, by simp⟩
    decide +kernel
  have dayFits : writtenLeapDay.Fits lastEvening .closing := by
    refine ⟨by decide +kernel, ?_⟩
    rintro written ⟨⟩
  have secondFits : writtenLeapSecond.Fits lastEvening .opening := by
    refine ⟨by decide +kernel, ?_⟩
    rintro written ⟨⟩ -
    decide +kernel
  refine ⟨?_, ⟨day, dayFits, ?_, ?_⟩, second, secondFits, ?_⟩
  · rw [quoted]
    exact (readBound_of_quotes writtenLeapDay).1 '"' ['\t'] ['\n'] (by decide)
      (by simpa using blank '\t') (by simpa using blank '\n')
  · exact ((readBound_of_quotes writtenLeapDay).2 _ day).1
  · exact ((readBound_of_quotes writtenLeapDay).2 _ day).2 lastEvening .closing dayFits []
  · exact ((readBound_of_quotes writtenLeapSecond).2 _ second).2 lastEvening .opening secondFits []

end FindQuery.Grammar
