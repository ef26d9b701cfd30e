import ODataToSql.Enumeration

/-!
# Functions of the filter language

All functions that the filter language knows, the two quantifiers among them. Not all of them have a
counterpart in SQL.
-/

namespace ODataToSql

/-- A function that is built into the filter language. -/
inductive FilterFunction where
  | contains
  | endsWith
  | startsWith
  | length
  | indexOf
  | substring
  | toLower
  | toUpper
  | trim
  | concat
  | year
  | month
  | day
  | hour
  | minute
  | second
  | fractionalSeconds
  | date
  | time
  | totalOffsetMinutes
  | now
  | maxDateTime
  | minDateTime
  | totalSeconds
  | round
  | floor
  | ceiling
  | isOf
  | cast
  | any
  | all
deriving DecidableEq, Repr

namespace FilterFunction

/-- The name of the function as it is written in a query. -/
def name : FilterFunction → String
  | .contains => "contains"
  | .endsWith => "endswith"
  | .startsWith => "startswith"
  | .length => "length"
  | .indexOf => "indexof"
  | .substring => "substring"
  | .toLower => "tolower"
  | .toUpper => "toupper"
  | .trim => "trim"
  | .concat => "concat"
  | .year => "year"
  | .month => "month"
  | .day => "day"
  | .hour => "hour"
  | .minute => "minute"
  | .second => "second"
  | .fractionalSeconds => "fractionalseconds"
  | .date => "date"
  | .time => "time"
  | .totalOffsetMinutes => "totaloffsetminutes"
  | .now => "now"
  | .maxDateTime => "maxdatetime"
  | .minDateTime => "mindatetime"
  | .totalSeconds => "totalseconds"
  | .round => "round"
  | .floor => "floor"
  | .ceiling => "ceiling"
  | .isOf => "isof"
  | .cast => "cast"
  | .any => "any"
  | .all => "all"

instance : Enumeration FilterFunction where
  values :=
    [.contains, .endsWith, .startsWith, .length, .indexOf, .substring, .toLower, .toUpper, .trim,
      .concat, .year, .month, .day, .hour, .minute, .second, .fractionalSeconds, .date, .time,
      .totalOffsetMinutes, .now, .maxDateTime, .minDateTime, .totalSeconds, .round, .floor,
      .ceiling, .isOf, .cast, .any, .all]
  complete function := by cases function <;> decide
  name := name
  distinct := by decide

/-- Looks a function up by its name, whose case matters. -/
def ofName? (name : String) : Option FilterFunction :=
  Enumeration.ofName? name

end FilterFunction
end ODataToSql
