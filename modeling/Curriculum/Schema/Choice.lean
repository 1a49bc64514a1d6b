import Curriculum.Schema.Reader

/-!
# Choosing between variants

A value that could be one of several variants is read as each of them. Among
the readings that succeed the best fit wins, the earliest of equally good ones.
If none succeeds, the issues of all variants are reported, each under the name
of its variant.
-/

namespace Curriculum.Schema

/-- The better of two readings; the first unless the second is strictly better. -/
def better (a b : α × Fit) : α × Fit := if a.2.worseThan b.2 then b else a

/-- The best of a list of readings. -/
def best : List (α × Fit) → Option (α × Fit)
  | [] => none
  | r :: rest => some (rest.foldl better r)

/-- The successful readings of a value, in the order of the variants. -/
def successes (v : Value) (variants : List (String × Reader α)) : List (α × Fit) :=
  variants.filterMap fun (_, read) =>
    match read v with
    | .accepted a fit => some (a, fit)
    | .rejected _ => none

/-- Reads a value as the variant that fits best. -/
def choose (variants : List (String × Reader α)) : Reader α := fun v =>
  match best (successes v variants) with
  | some (a, fit) => .accepted a fit
  | none => .rejected (variants.flatMap fun (name, read) => ((read v).within name).issues)

end Curriculum.Schema
