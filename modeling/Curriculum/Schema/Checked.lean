/-!
# Checked readings

Reading a value as something more definite either succeeds or reports
everything that is wrong with it. A success carries evidence of how well the
value fitted: how many known members it filled in, and whether any part of it
had to be converted. Evidence decides between several readings of one value.

Readings are combined side by side, not one after the other: `Checked.both`
collects the issues of both parts, in order.
-/

namespace Curriculum.Schema

/-- What is wrong with one part of a value. -/
inductive Fault where
  /-- A member that has to be there is not. -/
  | missing
  /-- A record was expected. -/
  | notRecord
  | notText
  /-- A text that must not be empty is. -/
  | emptyText
  /-- A text that must be an identifier is none. -/
  | notIdentifier
  /-- None of the listed names of an enumeration. -/
  | notListed
  /-- Not the one value that is possible here. -/
  | notLiteral
  /-- A number below the least one. -/
  | belowMinimum
  | notList
  | notSet
  | notMapping
  /-- Neither a whole number nor anything that stands for one. -/
  | notInteger
  /-- A text that does not spell a whole number. -/
  | unreadableInteger
  /-- A number that is not whole. -/
  | fractionalInteger
  /-- A number with too many bits, or too many digits, to be taken for a whole one here. -/
  | oversizedInteger
  /-- An infinity, or no number at all. -/
  | notFinite
  /-- Neither a truth value nor anything that stands for one. -/
  | notTruth
  /-- A number or text that stands for neither truth value. -/
  | unreadableTruth
  /-- A value of the right form that a rule of its own refuses, with the reason. -/
  | refused (reason : String)
deriving DecidableEq, Repr

/-- The code of a fault. -/
def Fault.code : Fault → String
  | .missing => "missing"
  | .notRecord => "model_type"
  | .notText => "string_type"
  | .emptyText => "string_too_short"
  | .notIdentifier => "string_pattern_mismatch"
  | .notListed => "enum"
  | .notLiteral => "literal_error"
  | .belowMinimum => "greater_than_equal"
  | .notList => "list_type"
  | .notSet => "set_type"
  | .notMapping => "dict_type"
  | .notInteger => "int_type"
  | .unreadableInteger => "int_parsing"
  | .fractionalInteger => "int_from_float"
  | .oversizedInteger => "int_parsing_size"
  | .notFinite => "finite_number"
  | .notTruth => "bool_type"
  | .unreadableTruth => "bool_parsing"
  | .refused _ => "value_error"

/-- A fault and where it is: the names of the members and the positions that lead to it, outermost
first. -/
structure Issue where
  path : List String
  fault : Fault
deriving DecidableEq, Repr

/-- The issue as seen from one step further out. -/
def Issue.within (step : String) (i : Issue) : Issue := { i with path := step :: i.path }

/-- How well a value fitted what it was read as. -/
structure Fit where
  /-- How many known members were filled in, those of nested records included. -/
  fields : Nat
  /-- Whether every part was of the expected form already. -/
  exact : Bool
deriving DecidableEq, Repr

namespace Fit

/-- A part that is just as expected and fills in no member. -/
def perfect : Fit := ⟨0, true⟩

/-- A part that had to be converted. -/
def converted : Fit := ⟨0, false⟩

/-- The fit of two parts together. -/
def and (a b : Fit) : Fit := ⟨a.fields + b.fields, a.exact && b.exact⟩

/-- Whether `b` is a strictly better fit than `a`: it fills in more members, or as many without a
conversion where `a` needed one. -/
def worseThan (a b : Fit) : Bool :=
  a.fields < b.fields || (a.fields == b.fields && !a.exact && b.exact)

end Fit

/-- The outcome of reading a value. -/
inductive Checked (α : Type u) where
  | accepted (value : α) (fit : Fit)
  | rejected (issues : List Issue)

namespace Checked

/-- The value that was read, if there is one. -/
def value? : Checked α → Option α
  | accepted v _ => some v
  | rejected _ => none

/-- The issues that were found. -/
def issues : Checked α → List Issue
  | accepted .. => []
  | rejected is => is

/-- Accepts a value just as it is. -/
def exactly (v : α) : Checked α := accepted v .perfect

/-- Rejects a value for a fault at its top. -/
def fail (fault : Fault) : Checked α := rejected [⟨[], fault⟩]

/-- Applies a function to the value that was read. -/
def map (f : α → β) : Checked α → Checked β
  | accepted v fit => accepted (f v) fit
  | rejected is => rejected is

/-- Two readings side by side: both succeed, or the issues of both are reported. -/
def both (f : Checked (α → β)) (x : Checked α) : Checked β :=
  match f, x with
  | accepted f a, accepted v b => accepted (f v) (a.and b)
  | accepted .., rejected is => rejected is
  | rejected is, accepted .. => rejected is
  | rejected is, rejected js => rejected (is ++ js)

instance : Applicative Checked where
  pure := exactly
  map := map
  seq f x := both f (x ())

/-- A further condition on the value that was read. -/
def refine (f : α → Except Fault β) : Checked α → Checked β
  | accepted v fit =>
    match f v with
    | .ok w => accepted w fit
    | .error fault => fail fault
  | rejected is => rejected is

/-- The reading of a part as seen from the whole: its issues lie one step further in. -/
def within (step : String) : Checked α → Checked α
  | accepted v fit => accepted v fit
  | rejected is => rejected (is.map (·.within step))

/-- Counts the value as one more member filled in. -/
def counted : Checked α → Checked α
  | accepted v fit => accepted v { fit with fields := fit.fields + 1 }
  | rejected is => rejected is

end Checked
end Curriculum.Schema
