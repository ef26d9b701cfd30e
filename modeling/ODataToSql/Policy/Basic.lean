import ODataToSql.Policy.Operator
import ODataToSql.Query.FilterFunction
import ODataToSql.Query.Option

/-!
# Policies

A policy says what queries may contain: which options, which operators and functions in a filter,
and how many rows may be skipped and asked for. An allow list is a set; in what order it was
written, and how often it names a value, makes no difference.
-/

namespace ODataToSql

/-- A set of values of an enumeration. -/
structure AllowList (α : Type) where
  /-- Whether the value is allowed. -/
  allows : α → Bool

namespace AllowList

variable {α : Type} [Enumeration α]

/-- Every value is allowed. -/
def all : AllowList α := ⟨fun _ => true⟩

/-- The values of a list are allowed. -/
def ofList [DecidableEq α] (values : List α) : AllowList α := ⟨fun a => values.contains a⟩

/-- The values that are allowed, in the order of the enumeration. -/
def toList (allowed : AllowList α) : List α :=
  (Enumeration.values (α := α)).filter allowed.allows

/-- Two allow lists are equal if they allow the same values. -/
instance : DecidableEq (AllowList α) := fun first second =>
  decidable_of_iff
    (((Enumeration.values (α := α)).all fun a => first.allows a == second.allows a) = true) <| by
    constructor
    · intro h
      obtain ⟨first⟩ := first
      obtain ⟨second⟩ := second
      congr
      funext a
      exact beq_iff_eq.1 (List.all_eq_true.1 h a (Enumeration.complete a))
    · rintro rfl
      simp

end AllowList

/-- What queries may contain. -/
structure Policy where
  options : AllowList QueryOption := .all
  operators : AllowList Policy.Operator := .all
  functions : AllowList FilterFunction := .all
  /-- The largest number of rows that may be skipped. -/
  maxSkip : Option UInt64 := none
  /-- The largest number of rows that may be asked for. -/
  maxTop : Option UInt64 := none
deriving DecidableEq

/-- The policy that allows every query. -/
def Policy.permissive : Policy := {}

end ODataToSql
