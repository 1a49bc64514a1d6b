import Curriculum.Value

/-!
# Depth of nesting

How many values stand one inside the other, the innermost included. A number is
one value, and so is an empty list; a list of numbers is two deep. The keys of a
mapping do not count.
-/

namespace Curriculum.Value

mutual

/-- How many values stand one inside the other, from a value down to its innermost part. -/
def depth : Value → Nat
  | .list items => itemsDepth items + 1
  | .mapping members => membersDepth members + 1
  | _ => 1

/-- The depth of the deepest item. -/
def itemsDepth : List Value → Nat
  | [] => 0
  | v :: rest => max v.depth (itemsDepth rest)

/-- The depth of the deepest member. -/
def membersDepth : List (Value × Value) → Nat
  | [] => 0
  | (_, v) :: rest => max v.depth (membersDepth rest)

end

example : depth (.list [.int 1, .mapping [(.text "a", .list []), (.text "b", .null)]]) = 3 := by
  decide

example : depth (.list []) = depth .null := by decide

end Curriculum.Value
