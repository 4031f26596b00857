/-!
# Tags of tokens

The tag of a token names the lexical rule that recognised it.  It is finer than
the kind for literals and plural forms, and coarser for families of words such
as the weekdays.  A tag has two names: its label stands in messages, its key in
written queries.
-/

namespace FindQuery

/-- The lexical rule that recognised a token. -/
inductive Tag where
  | command
  | selector
  | subcommand
  | pipe
  | condition
  | temporal
  | relative
  | clock
  | clocks
  | calendar
  | calendars
  | weekday
  | weekdays
  | months
  | shortMonth
  | comma
  | leftParen
  | rightParen
  | minus
  | plus
  | equal
  | notEqual
  | times
  | divide
  | modulo
  | lessEqual
  | greaterEqual
  | less
  | greater
  | and
  | or
  | not
  | like
  | inside
  | rename
  | string
  | ident
  | float
  | int
  deriving DecidableEq, Repr, Inhabited

namespace Tag

/-- The name of a tag in messages. -/
def label : Tag → String
  | command => "command"
  | selector => "cmdspec"
  | subcommand => "command2"
  | pipe => "pipe"
  | condition => "condition"
  | temporal => "temporal"
  | relative => "relative"
  | clock => "clock"
  | clocks => "clocks"
  | calendar => "calendar"
  | calendars => "calendars"
  | weekday => "weekday"
  | weekdays => "weekdays"
  | months => "months"
  | shortMonth => "mon"
  | comma => "comma"
  | leftParen => "lparen"
  | rightParen => "rparen"
  | minus => "minus"
  | plus => "plus"
  | equal => "equal"
  | notEqual => "not_equal"
  | times => "mul"
  | divide => "div"
  | modulo => "mod"
  | lessEqual => "less_equal"
  | greaterEqual => "greater_equal"
  | less => "less"
  | greater => "greater"
  | and => "and"
  | or => "or"
  | not => "not"
  | like => "like"
  | inside => "in"
  | rename => "alias"
  | string => "string"
  | ident => "ident"
  | float => "float"
  | int => "int"

/-- The name of a tag in a written query: its label, but for three tags of two words. -/
def key : Tag → String
  | selector => "cmd_spec"
  | leftParen => "l_paren"
  | rightParen => "r_paren"
  | tag => tag.label

/-- Every tag. -/
def every : List Tag :=
  [command, selector, subcommand, pipe, condition, temporal, relative, clock,
    clocks, calendar, calendars, weekday, weekdays, months, shortMonth, comma,
    leftParen, rightParen, minus, plus, equal, notEqual, times, divide, modulo,
    lessEqual, greaterEqual, less, greater, and, or, not, like, inside, rename,
    string, ident, float, int]

/-- The tag with a given label. -/
def ofLabel? (text : String) : Option Tag :=
  every.find? fun tag => tag.label == text

/-- Distinct tags have distinct labels. -/
@[simp]
theorem ofLabel?_label (tag : Tag) : ofLabel? tag.label = some tag := by
  cases tag <;> rfl

/-- A literal carries a value; every other token is a word or a sign of the language. -/
def isLiteral : Tag → Bool
  | string | ident | float | int => true
  | _ => false

/-- The tags of the two kinds of numeral. -/
def isNumeric : Tag → Bool
  | float | int => true
  | _ => false

/-- A name of a field is an identifier or a quoted text. -/
def isName : Tag → Bool
  | ident | string => true
  | _ => false

end Tag

end FindQuery
