/-!
# Kinds of tokens

The kind of a token says what it means in a statement.  All spellings of one
meaning share a kind: `DAY` and `DAYS`, `JAN` and `JANUARY`, `=` and `==`.  The
literals share one kind too; the tag of the token tells them apart.
-/

namespace FindQuery

/-- What a token means. -/
inductive Kind where
  | literal
  | find
  | sort
  | group
  | distinct
  | all
  | pipe
  | matching
  | since
  | between
  | yesterday
  | before
  | last
  | previous
  | ago
  | forever
  | second
  | minute
  | hour
  | day
  | week
  | fortnight
  | month
  | quarter
  | year
  | century
  | monday
  | tuesday
  | wednesday
  | thursday
  | friday
  | saturday
  | sunday
  | january
  | february
  | march
  | april
  | may
  | june
  | july
  | august
  | september
  | october
  | november
  | december
  | comma
  | leftParen
  | rightParen
  | minus
  | plus
  | equal
  | notEqual
  | times
  | divide
  | modulo
  | lessEqual
  | greaterEqual
  | less
  | greater
  | and
  | or
  | not
  | like
  | inside
  | rename
  deriving DecidableEq, Repr, Inhabited

namespace Kind

/-- The name of a kind in a written query. -/
def name : Kind → String
  | literal => "literal"
  | find => "find"
  | sort => "sort"
  | group => "group"
  | distinct => "distinct"
  | all => "all"
  | pipe => "pipe"
  | matching => "matching"
  | since => "since"
  | between => "between"
  | yesterday => "yesterday"
  | before => "before"
  | last => "last"
  | previous => "previous"
  | ago => "ago"
  | forever => "forever"
  | second => "second"
  | minute => "minute"
  | hour => "hour"
  | day => "day"
  | week => "week"
  | fortnight => "fortnight"
  | month => "month"
  | quarter => "quarter"
  | year => "year"
  | century => "century"
  | monday => "monday"
  | tuesday => "tuesday"
  | wednesday => "wednesday"
  | thursday => "thursday"
  | friday => "friday"
  | saturday => "saturday"
  | sunday => "sunday"
  | january => "january"
  | february => "february"
  | march => "march"
  | april => "april"
  | may => "may"
  | june => "june"
  | july => "july"
  | august => "august"
  | september => "september"
  | october => "october"
  | november => "november"
  | december => "december"
  | comma => "comma"
  | leftParen => "l_paren"
  | rightParen => "r_paren"
  | minus => "minus"
  | plus => "plus"
  | equal => "equal"
  | notEqual => "not_equal"
  | times => "mul"
  | divide => "div"
  | modulo => "mod"
  | lessEqual => "less_equal"
  | greaterEqual => "greater_equal"
  | less => "less"
  | greater => "greater"
  | and => "and"
  | or => "or"
  | not => "not"
  | like => "like"
  | inside => "in"
  | rename => "as"

/-- Every kind. -/
def every : List Kind :=
  [literal, find, sort, group, distinct, all, pipe, matching, since, between,
    yesterday, before, last, previous, ago, forever, second, minute, hour, day,
    week, fortnight, month, quarter, year, century, monday, tuesday, wednesday,
    thursday, friday, saturday, sunday, january, february, march, april, may,
    june, july, august, september, october, november, december, comma, leftParen,
    rightParen, minus, plus, equal, notEqual, times, divide, modulo, lessEqual,
    greaterEqual, less, greater, and, or, not, like, inside, rename]

/-- The kind with a given name. -/
def ofName? (text : String) : Option Kind :=
  every.find? fun kind => kind.name == text

/-- Distinct kinds have distinct names. -/
@[simp]
theorem ofName?_name (kind : Kind) : ofName? kind.name = some kind := by
  cases kind <;> rfl

end Kind

end FindQuery
