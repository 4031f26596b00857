import FindQuery.Json.Writer
import FindQuery.Query

/-!
# Queries as documents

A query is written as a JSON object with its parts in a fixed order.  Everything
that the query holds is in the document.
-/

namespace FindQuery

/-- The document of a field. -/
def Field.toJson (field : Field) : Json :=
  .object [("name", .string field.name), ("alias", .string field.label)]

/-- The document of a value. -/
def Value.toJson (value : Value) : Json :=
  .object [("kind", .string value.kind.name), ("raw", .string value.raw)]

/-- The document of a predicate. -/
def Predicate.toJson (predicate : Predicate) : Json :=
  .object
    [("left", predicate.left.toJson),
      ("op", .string predicate.comparison.name),
      ("right", predicate.right.toJson)]

/-- The document of a condition. -/
def Condition.toJson (condition : Condition) : Json :=
  .object
    [("groups",
      .array (condition.groups.map fun group =>
        .object [("predicates", .array (group.map Predicate.toJson))]))]

/-- The document of a range. -/
def Time.TimeRange.toJson (range : Time.TimeRange) : Json :=
  .object [("from", .ofInt range.start), ("to", .ofInt range.stop)]

/-- The document of a span. -/
def Span.toJson (span : Span) : Json :=
  .object [("start", .ofNat span.start), ("end", .ofNat span.stop)]

/-- The document of a token. -/
def Token.toJson (token : Token) : Json :=
  .object
    [("kind", .string token.kind.name),
      ("tag", .string token.tag.key),
      ("text", .string token.text),
      ("span", token.span.toJson)]

namespace Query

/-- The document of a query. -/
def toJson (query : Query) : Json :=
  .object
    [("fields", .array (query.fields.map Field.toJson)),
      ("all_flag", .bool query.all),
      ("condition", (query.condition.map Condition.toJson).getD .null),
      ("time_range", query.range.toJson),
      ("remainder_tokens", .array (query.remainder.map Token.toJson))]

/-- The text of a query, indented or compact. -/
def write (query : Query) (pretty : Bool) : String :=
  query.toJson.write pretty

end Query

end FindQuery
