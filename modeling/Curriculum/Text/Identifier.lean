/-!
# Identifiers and texts that say something

Two kinds of texts that carry their condition: identifiers, which start with a
letter or a low line and go on with letters, digits and low lines (all ASCII),
and texts with at least one character.
-/

namespace Curriculum

/-- The letters of ASCII and the low line. -/
def isIdentifierStart (c : Char) : Bool := c.isAlpha || c == '_'

/-- The letters and digits of ASCII and the low line. -/
def isIdentifierPart (c : Char) : Bool := c.isAlphanum || c == '_'

/-- Whether a text is an identifier. -/
def isIdentifier (s : String) : Bool :=
  match s.toList with
  | [] => false
  | c :: rest => isIdentifierStart c && rest.all isIdentifierPart

/-- An identifier. -/
abbrev Identifier := { s : String // isIdentifier s = true }

/-- A text with at least one character. -/
abbrev NonEmptyText := { s : String // s ≠ "" }

/-- A text if it is there and not empty, and otherwise another one. -/
def textOr (s : Option String) (fallback : String) : String :=
  match s with
  | some s => if s = "" then fallback else s
  | none => fallback

end Curriculum
