import FindQuery.Text.LetterCase
import FindQuery.Token.Kind

/-!
# Spellings of the reserved words and signs

The table maps every spelling to its kind.  Words are looked up without regard
to ASCII case; no other folding takes place here.
-/

namespace FindQuery.Keyword

open FindQuery.Text

/-- Spellings in upper case with their kinds. -/
def spellings : List (String × Kind) :=
  [("FIND", .find), ("SORT", .sort), ("GROUP", .group), ("DISTINCT", .distinct),
    ("ALL", .all), ("|", .pipe), ("MATCHING", .matching),
    ("SINCE", .since), ("BETWEEN", .between),
    ("YESTERDAY", .yesterday), ("BEFORE", .before), ("LAST", .last),
    ("PREVIOUS", .previous), ("AGO", .ago), ("FOREVER", .forever),
    ("SECOND", .second), ("SECONDS", .second),
    ("MINUTE", .minute), ("MINUTES", .minute),
    ("HOUR", .hour), ("HOURS", .hour),
    ("DAY", .day), ("DAYS", .day),
    ("WEEK", .week), ("WEEKS", .week),
    ("FORTNIGHT", .fortnight), ("FORTNIGHTS", .fortnight),
    ("MONTH", .month), ("MONTHS", .month),
    ("QUARTER", .quarter), ("QUARTERS", .quarter),
    ("YEAR", .year), ("YEARS", .year),
    ("CENTURY", .century), ("CENTURIES", .century),
    ("MONDAY", .monday), ("MONDAYS", .monday),
    ("TUESDAY", .tuesday), ("TUESDAYS", .tuesday),
    ("WEDNESDAY", .wednesday), ("WEDNESDAYS", .wednesday),
    ("THURSDAY", .thursday), ("THURSDAYS", .thursday),
    ("FRIDAY", .friday), ("FRIDAYS", .friday),
    ("SATURDAY", .saturday), ("SATURDAYS", .saturday),
    ("SUNDAY", .sunday), ("SUNDAYS", .sunday),
    ("JANUARY", .january), ("JAN", .january),
    ("FEBRUARY", .february), ("FEB", .february),
    ("MARCH", .march), ("MAR", .march),
    ("APRIL", .april), ("APR", .april),
    ("MAY", .may),
    ("JUNE", .june), ("JUN", .june),
    ("JULY", .july), ("JUL", .july),
    ("AUGUST", .august), ("AUG", .august),
    ("SEPTEMBER", .september), ("SEP", .september),
    ("OCTOBER", .october), ("OCT", .october),
    ("NOVEMBER", .november), ("NOV", .november),
    ("DECEMBER", .december), ("DEC", .december),
    (",", .comma), ("(", .leftParen), (")", .rightParen),
    ("-", .minus), ("+", .plus),
    ("=", .equal), ("==", .equal), ("<>", .notEqual), ("!=", .notEqual),
    ("*", .times), ("/", .divide), ("DIV", .divide),
    ("%", .modulo), ("MOD", .modulo),
    ("<=", .lessEqual), (">=", .greaterEqual), ("<", .less), (">", .greater),
    ("AND", .and), ("OR", .or), ("NOT", .not), ("!", .not),
    ("LIKE", .like), ("IN", .inside), ("AS", .rename)]

/-- The kind of a run of characters that is a spelling, in any ASCII case. -/
def kindOf? (characters : List Char) : Option Kind :=
  (spellings.find? fun entry => entry.1.toList == asciiUpper characters).map Prod.snd

/-- The kind of a text that is a spelling, in any ASCII case. -/
def ofSpelling? (text : String) : Option Kind :=
  kindOf? text.toList

/-- Every spelling of the table has the kind that stands beside it. -/
theorem kindOf?_of_mem_spellings :
    ∀ entry ∈ spellings, kindOf? entry.1.toList = some entry.2 := by
  decide +kernel

end FindQuery.Keyword
