import ODataToSql.Document.Record
import ODataToSql.Query.Basic

/-!
# Query documents

The JSON form of queries and of their parts. For each of them there are

* `toJson`, which leaves out what is missing, and
* `ofJson?`, which reads every form that a part may be written in.
-/

namespace ODataToSql

open Json (orDefault orNone)

/-- The entry of a field that is left out if it has no value. -/
def optionalField {α : Type} (name : String) (value : Option α) (write : α → Json) :
    List (String × Json) :=
  match value with
  | some value => [(name, write value)]
  | none => []

/-! ## Properties -/

namespace Property

/-- The property as a record. A property of the queried entity has no path. -/
def toJson (property : Property) : Json :=
  .object <| ("name", .string property.name) ::
    if property.isRoot then [] else [("path", .array (property.path.map .string))]

/-- Reads a property. -/
def ofJson? (json : Json) : Option Property := do
  let field ← json.record? ["name", "path"]
  let name ← (← field "name").asString?
  let path ← orDefault (field "path") [] (Json.asList? Json.asString?)
  return ⟨name, path⟩

end Property

/-! ## Expressions -/

namespace Expr

/-- A tagged value of a kind. -/
def taggedAs (kind : Kind) (fields : List (String × Json)) : Json :=
  .object (("type", .string kind.name) :: fields)

mutual

/-- The expression as a tagged value. -/
def toJson : Expr → Json
  | .constant value => taggedAs .constant [("value", value.json)]
  | .property target => taggedAs .property [("property", target.toJson)]
  | .binary op left right =>
    taggedAs .binary
      [("operator", .string op.name), ("left", left.toJson), ("right", right.toJson)]
  | .unary op operand =>
    taggedAs .unary [("operator", .string op.name), ("operand", operand.toJson)]
  | .call name arguments =>
    taggedAs .call [("name", .string name), ("arguments", .array (toJsons arguments))]
  | .cast operand => taggedAs .cast [("expression", operand.toJson)]
  | .lambda quantifier collection none =>
    taggedAs .lambda
      [("quantifier", .string quantifier.name), ("collection", collection.toJson)]
  | .lambda quantifier collection (some predicate) =>
    taggedAs .lambda
      [("quantifier", .string quantifier.name), ("collection", collection.toJson),
        ("predicate", predicate.toJson)]

/-- Expressions as tagged values. -/
def toJsons : List Expr → List Json
  | [] => []
  | expr :: rest => expr.toJson :: toJsons rest

end

/-- Reads an expression of a bounded height. Its parts are held back until its tag is known. -/
def ofJsonWithin? : (height : Nat) → (heldBack : Bool) → Json → Option Expr
  | 0, _, _ => none
  | height + 1, heldBack, json => do
    let (tag, body) ← json.tagged?
    match ← (Json.asTag? heldBack tag : Option Kind) with
    | .constant =>
      let field ← body.record? ["value"]
      return .constant (← Datum.ofJson? (← field "value"))
    | .property =>
      let field ← body.record? ["property"]
      return .property (← Property.ofJson? (← field "property"))
    | .binary =>
      let field ← body.record? ["operator", "left", "right"]
      let op ← (← field "operator").asEnumerated? true
      let left ← ofJsonWithin? height true (← field "left")
      let right ← ofJsonWithin? height true (← field "right")
      return .binary op left right
    | .unary =>
      let field ← body.record? ["operator", "operand"]
      let op ← (← field "operator").asEnumerated? true
      let operand ← ofJsonWithin? height true (← field "operand")
      return .unary op operand
    | .call =>
      let field ← body.record? ["name", "arguments"]
      let name ← (← field "name").asString?
      let arguments ← orDefault (field "arguments") [] (Json.asList? (ofJsonWithin? height true))
      return .call name arguments
    | .cast =>
      let field ← body.record? ["expression"]
      return .cast (← ofJsonWithin? height true (← field "expression"))
    | .lambda =>
      let field ← body.record? ["quantifier", "collection", "predicate"]
      let quantifier ← (← field "quantifier").asEnumerated? true
      let collection ← Property.ofJson? (← field "collection")
      let predicate ← orNone (field "predicate") (ofJsonWithin? height true)
      return .lambda quantifier collection predicate

/-- Reads an expression, no part of which is unreadable. -/
def ofJson? (json : Json) : Option Expr :=
  if json.isReadable then ofJsonWithin? json.height false json else none

end Expr

/-! ## Orderings -/

namespace OrderItem

/-- The criterion as a record. -/
def toJson (item : OrderItem) : Json :=
  .object [("expression", item.expr.toJson), ("direction", .string item.direction.name)]

/-- Reads a criterion. Without a direction it is ascending. -/
def ofJson? (json : Json) : Option OrderItem := do
  let field ← json.record? ["expression", "direction"]
  let expr ← Expr.ofJson? (← field "expression")
  let direction ← orDefault (field "direction") .ascending (Json.asEnumerated? false)
  return ⟨expr, direction⟩

/-- An ordering as the list of its criteria. -/
def listToJson (items : List OrderItem) : Json :=
  .array (items.map toJson)

/-- Reads an ordering. -/
def listOfJson? (json : Json) : Option (List OrderItem) :=
  json.asList? ofJson?

end OrderItem

/-! ## Projections -/

namespace SelectItem

/-- The item as a tagged value. -/
def toJson : SelectItem → Json
  | .wildcard => .object [("type", .string Kind.wildcard.name)]
  | .property target =>
    .object [("type", .string Kind.property.name), ("property", target.toJson)]
  | .expansion navigation =>
    .object [("type", .string Kind.expansion.name), ("navigation", navigation.toJson)]

/-- Reads the fields of an item of a kind. A wildcard has none of its own. -/
def ofBody? (body : Json) : Kind → Option SelectItem
  | .wildcard => do
    let _ ← body.record? []
    return .wildcard
  | .property => do
    let field ← body.record? ["property"]
    return .property (← Property.ofJson? (← field "property"))
  | .expansion => do
    let field ← body.record? ["navigation"]
    return .expansion (← Property.ofJson? (← field "navigation"))

/-- Reads an item, no part of which is unreadable. -/
def ofJson? (heldBack : Bool) (json : Json) : Option SelectItem :=
  if json.isReadable then do
    let (tag, body) ← json.tagged?
    ofBody? body (← Json.asTag? heldBack tag)
  else none

end SelectItem

namespace Projection

/-- The projection as its kind beside its items. -/
def toJson : Projection → Json
  | .all => .object [("type", .string Kind.all.name)]
  | .items list =>
    .object [("type", .string Kind.items.name), ("items", .array (list.map SelectItem.toJson))]

/-- Reads the items of a projection of a kind. All columns have none. -/
def ofContent? (heldBack : Bool) (content : Option Json) : Kind → Option Projection
  | .all =>
    match content with
    | none => some .all
    | some .null => some .all
    | some _ => none
  | .items => do
    return .items (← (← content).asList? (SelectItem.ofJson? heldBack))

/-- Reads a projection. Items that stand in front of the kind are held back until it is known. In an
array the kind is a plain name. -/
def ofJson? : Json → Option Projection
  | .object fields =>
    if Json.isSingle fields "type" && Json.isSingle fields "items" then do
      let kind ← (← Json.lookup? fields "type").asEnumerated? false
      let ownKeys := (fields.map Prod.fst).filter fun key => key == "type" || key == "items"
      let heldBack := ownKeys.head? == some "items"
      let content := Json.lookup? fields "items"
      guard (!heldBack || content.all Json.isReadable)
      ofContent? heldBack content kind
    else none
  | .array [tag, content] => do
    ofContent? false (some content) (← Json.asTag? false tag)
  | _ => none

end Projection

/-! ## Raw values -/

namespace RawValues

/-- The raw values as a dictionary of their keys. -/
def toJson (values : RawValues) : Json :=
  .object (values.toDict.entries.map fun entry => (entry.1, .string entry.2))

/-- Reads raw values. Values of keys that belong to no option are checked and dropped. -/
def ofJson? (json : Json) : Option RawValues :=
  (json.asDict? Json.asString?).map fun dict => ofPairs dict.entries

end RawValues

/-! ## Queries -/

namespace Query

/-- A number in an integer's form. -/
def countToJson (count : UInt64) : Json := .int count.toNat

/-- The query as a record. -/
def toJson (query : Query) : Json :=
  .object <|
    ("entity_type", .string query.entityType) ::
      optionalField "filter" query.filter Expr.toJson ++
      optionalField "order_by" query.orderBy OrderItem.listToJson ++
      optionalField "select" query.select Projection.toJson ++
      optionalField "skip" query.skip countToJson ++
      optionalField "top" query.top countToJson ++
      optionalField "count" query.count .bool ++
      if query.rawValues.isEmpty then [] else [("raw_values", query.rawValues.toJson)]

/-- Reads a query. -/
def ofJson? (json : Json) : Option Query := do
  let field ← json.record?
    ["entity_type", "filter", "order_by", "select", "skip", "top", "count", "raw_values"]
  let entityType ← (← field "entity_type").asString?
  let filter ← orNone (field "filter") Expr.ofJson?
  let orderBy ← orNone (field "order_by") OrderItem.listOfJson?
  let select ← orNone (field "select") Projection.ofJson?
  let skip ← orNone (field "skip") Json.asUInt64?
  let top ← orNone (field "top") Json.asUInt64?
  let count ← orNone (field "count") Json.asBool?
  let rawValues ← orDefault (field "raw_values") .empty RawValues.ofJson?
  return { entityType, filter, orderBy, select, skip, top, count, rawValues }

end Query
end ODataToSql
