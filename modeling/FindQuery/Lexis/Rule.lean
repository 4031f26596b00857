import FindQuery.Lexis.Pattern
import FindQuery.Token.Tag

/-!
# The ordered lexical rules

The rules are tried in the order of the table, and the first that matches wins.
Reserved words and signs of several characters therefore stand before names and
before their own beginnings.
-/

namespace FindQuery.Lexis

/-- A pattern and the tag of the tokens that it recognises. -/
structure Rule where
  tag : Tag
  pattern : Pattern
  deriving DecidableEq, Repr

/-- The length of the lexeme that a rule finds at the start of a text; no lexeme is empty. -/
def Rule.matchLength (rule : Rule) (text : List Char) : Option Nat :=
  (rule.pattern.matchLength text).filter (0 < ·)

/-- The rules in order of precedence. -/
def rules : List Rule :=
  [⟨.command, .word ["FIND"]⟩,
    ⟨.selector, .word ["ALL"]⟩,
    ⟨.subcommand, .word ["SORT", "GROUP", "DISTINCT"]⟩,
    ⟨.condition, .word ["MATCHING"]⟩,
    ⟨.temporal, .word ["SINCE", "BETWEEN"]⟩,
    ⟨.relative, .word ["YESTERDAY", "BEFORE", "LAST", "PREVIOUS", "AGO", "FOREVER"]⟩,
    ⟨.clock, .word ["SECOND", "MINUTE", "HOUR"]⟩,
    ⟨.clocks, .word ["SECONDS", "MINUTES", "HOURS"]⟩,
    ⟨.calendar,
      .word ["DAY", "WEEK", "FORTNIGHT", "MONTH", "QUARTER", "YEAR", "CENTURY"]⟩,
    ⟨.calendars,
      .word ["DAYS", "WEEKS", "FORTNIGHTS", "MONTHS", "QUARTERS", "YEARS", "CENTURIES"]⟩,
    ⟨.weekday,
      .word ["MONDAY", "TUESDAY", "WEDNESDAY", "THURSDAY", "FRIDAY", "SATURDAY", "SUNDAY"]⟩,
    ⟨.weekdays,
      .word ["MONDAYS", "TUESDAYS", "WEDNESDAYS", "THURSDAYS", "FRIDAYS", "SATURDAYS",
        "SUNDAYS"]⟩,
    ⟨.months,
      .word ["JANUARY", "FEBRUARY", "MARCH", "APRIL", "MAY", "JUNE", "JULY", "AUGUST",
        "SEPTEMBER", "OCTOBER", "NOVEMBER", "DECEMBER"]⟩,
    ⟨.shortMonth,
      .word ["JAN", "FEB", "MAR", "APR", "JUN", "JUL", "AUG", "SEP", "OCT", "NOV", "DEC"]⟩,
    ⟨.and, .word ["AND"]⟩,
    ⟨.or, .word ["OR"]⟩,
    ⟨.not, .word ["NOT"]⟩,
    ⟨.like, .word ["LIKE"]⟩,
    ⟨.inside, .word ["IN"]⟩,
    ⟨.rename, .word ["AS"]⟩,
    ⟨.divide, .word ["DIV"]⟩,
    ⟨.modulo, .word ["MOD"]⟩,
    ⟨.pipe, .sign ["|"]⟩,
    ⟨.comma, .sign [","]⟩,
    ⟨.leftParen, .sign ["("]⟩,
    ⟨.rightParen, .sign [")"]⟩,
    ⟨.minus, .sign ["-"]⟩,
    ⟨.plus, .sign ["+"]⟩,
    ⟨.equal, .sign ["==", "="]⟩,
    ⟨.notEqual, .sign ["!=", "<>"]⟩,
    ⟨.not, .sign ["!"]⟩,
    ⟨.times, .sign ["*"]⟩,
    ⟨.divide, .sign ["/"]⟩,
    ⟨.modulo, .sign ["%"]⟩,
    ⟨.lessEqual, .sign ["<="]⟩,
    ⟨.greaterEqual, .sign [">="]⟩,
    ⟨.less, .sign ["<"]⟩,
    ⟨.greater, .sign [">"]⟩,
    ⟨.string, .quoted⟩,
    ⟨.ident, .name⟩,
    ⟨.float, .decimal⟩,
    ⟨.int, .integer⟩]

/-- The tag and length of the first rule that matches at the start of a text. -/
def firstMatch? (text : List Char) : Option (Tag × Nat) :=
  rules.findSome? fun rule =>
    (rule.matchLength text).map fun length => (rule.tag, length)

/-- The places in the table, tags and lengths of all rules that match at the start of a text. -/
def allMatches (text : List Char) : List (Nat × Tag × Nat) :=
  rules.zipIdx.filterMap fun entry =>
    (entry.1.matchLength text).map fun length => (entry.2, entry.1.tag, length)

theorem Rule.matchLength_pos
    {rule : Rule} {text : List Char} {length : Nat}
    (matched : rule.matchLength text = some length) :
    0 < length := by
  unfold Rule.matchLength at matched
  simpa using (Option.filter_eq_some_iff.1 matched).2

/-- A lexeme is never empty. -/
theorem firstMatch?_pos
    {text : List Char} {tag : Tag} {length : Nat}
    (found : firstMatch? text = some (tag, length)) :
    0 < length := by
  obtain ⟨rule, -, matched⟩ := List.exists_of_findSome?_eq_some found
  obtain ⟨measured, ruleMatch, equal⟩ := Option.map_eq_some_iff.1 matched
  cases equal
  exact Rule.matchLength_pos ruleMatch

end FindQuery.Lexis
