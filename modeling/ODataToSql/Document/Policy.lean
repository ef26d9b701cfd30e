import ODataToSql.Document.Query
import ODataToSql.Policy.Basic

/-!
# Policy documents

The JSON form of policies. An allow list is an array of names, in which order and repetitions do not
matter; one that is left out allows everything, and an empty one nothing.
-/

namespace ODataToSql

open Json (orDefault orNone)

namespace AllowList

variable {α : Type} [Enumeration α]

/-- The allow list as the names of its values, in the order of the enumeration. -/
def toJson (allowed : AllowList α) : Json :=
  .array (allowed.toList.map fun a => .string (Enumeration.name a))

/-- Reads an allow list. -/
def ofJson? [DecidableEq α] (json : Json) : Option (AllowList α) :=
  (json.asList? (Json.asEnumerated? false)).map ofList

end AllowList

namespace Policy

/-- The policy as a record. -/
def toJson (policy : Policy) : Json :=
  .object <|
    ("allowedOptions", policy.options.toJson) ::
      ("allowedOperators", policy.operators.toJson) ::
      ("allowedFunctions", policy.functions.toJson) ::
      optionalField "maxSkip" policy.maxSkip Query.countToJson ++
      optionalField "maxTop" policy.maxTop Query.countToJson

/-- Reads a policy. -/
def ofJson? (json : Json) : Option Policy := do
  let field ← json.record?
    ["allowedOptions", "allowedOperators", "allowedFunctions", "maxSkip", "maxTop"]
  let options ← orDefault (field "allowedOptions") .all AllowList.ofJson?
  let operators ← orDefault (field "allowedOperators") .all AllowList.ofJson?
  let functions ← orDefault (field "allowedFunctions") .all AllowList.ofJson?
  let maxSkip ← orNone (field "maxSkip") Json.asUInt64?
  let maxTop ← orNone (field "maxTop") Json.asUInt64?
  return { options, operators, functions, maxSkip, maxTop }

end Policy
end ODataToSql
