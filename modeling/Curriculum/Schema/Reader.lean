import Curriculum.Schema.Checked
import Curriculum.OrderedMap
import Curriculum.NameSet
import Curriculum.Decimal.Spelled
import Curriculum.Text.Identifier
import Curriculum.Value.Flag

/-!
# Readers of values

The readers for simple values, lists, sets and mappings. Most are lenient in a
fixed way: a whole number may be written as a truth value, as a floating-point
number without a fraction or as a text; a truth value as one of a few numbers
and words. What was converted is remembered in the fit.
-/

namespace Curriculum.Schema

/-- A way to read values as `α`. -/
abbrev Reader (α : Type u) := Value → Checked α

namespace Reader

/-! ## Texts -/

/-- Texts, and only those. -/
def text : Reader String
  | .text s => .exactly s
  | _ => .fail .notText

/-- Texts with at least one character. -/
def nonEmptyText : Reader NonEmptyText := fun v =>
  (text v).refine fun s => if h : s ≠ "" then .ok ⟨s, h⟩ else .error .emptyText

/-- Identifiers. -/
def identifier : Reader Identifier := fun v =>
  (text v).refine fun s =>
    if h : isIdentifier s = true then .ok ⟨s, h⟩ else .error .notIdentifier

/-- One of the names of an enumeration. -/
def oneOf (ofLabel? : String → Option α) : Reader α
  | .text s =>
    match ofLabel? s with
    | some a => .accepted a .converted
    | none => .fail .notListed
  | _ => .fail .notListed

/-- One fixed text. -/
def literal (label : String) : Reader Unit
  | .text s => if s = label then .exactly () else .fail .notLiteral
  | _ => .fail .notLiteral

/-! ## Numbers and truth values -/

/-- The bound of the whole numbers of 64 bits. -/
def wordBound : Int := 9223372036854775808

/-- Whether a whole number has 64 bits. -/
def isWord (n : Int) : Bool := -wordBound ≤ n && n < wordBound

/-- The whole number that a floating-point number stands for, unless it reaches the bound. -/
def integerOfFloat (x : Binary64) : Except Fault Int :=
  match x with
  | .finite .. =>
    match x.toInt? with
    | none => .error .fractionalInteger
    | some n => if n.natAbs < wordBound.natAbs then .ok n else .error .oversizedInteger
  | _ => .error .notFinite

/-- The whole number that a text spells. -/
def integerOfText (s : String) : Except Fault Int :=
  (Decimal.spelledInteger s).mapError fun
    | .unreadable => .unreadableInteger
    | .oversized => .oversizedInteger

/-- Whole numbers. -/
def int : Reader Int
  | .int n => .exactly n
  | .bool b => .accepted (if b then 1 else 0) .converted
  | .float x => (Checked.accepted x .converted).refine integerOfFloat
  | .text s => (Checked.accepted s .converted).refine integerOfText
  | _ => .fail .notInteger

/-- Whole numbers from one on. -/
def positive : Reader Int := fun v =>
  (int v).refine fun n => if n < 1 then .error .belowMinimum else .ok n

/-- The words that stand for a truth value, in any case. -/
def spelledTruth (s : String) : Option Bool :=
  let word := s.map Char.toLower
  if ["0", "off", "f", "false", "n", "no"].contains word then some false
  else if ["1", "on", "t", "true", "y", "yes"].contains word then some true
  else none

/-- The truth value that a number stands for. -/
def truthOfInteger (n : Int) : Except Fault Bool :=
  if n = 0 then .ok false else if n = 1 then .ok true else .error .unreadableTruth

/-- Truth values. -/
def bool : Reader Bool
  | .bool b => .exactly b
  | .int n =>
    if isWord n then (Checked.accepted n .converted).refine truthOfInteger else .fail .notTruth
  | .float x =>
    match integerOfFloat x with
    | .ok n => (Checked.accepted n .converted).refine truthOfInteger
    | .error _ => .fail .notTruth
  | .text s =>
    match spelledTruth s with
    | some b => .accepted b .converted
    | none => .fail .unreadableTruth
  | _ => .fail .notTruth

/-- Flags that are kept as the number zero or one, and accept whatever equals one of them. -/
def flag : Reader Bool := fun v =>
  match decodeFlag v, v with
  | .ok b, _ => .exactly b
  | .error _, .int n => .fail (if isWord n then .notLiteral else .oversizedInteger)
  | .error _, _ => .fail .notLiteral

/-! ## Absent values, lists, sets and mappings -/

/-- A value that may be null. -/
def nullable (read : Reader α) : Reader (Option α)
  | .null => .exactly none
  | v => (read v).map some

/-- The items of a list from a position on. -/
def items (read : Reader α) : (position : Nat) → List Value → Checked (List α)
  | _, [] => .exactly []
  | position, v :: rest =>
    List.cons <$> (read v).within (toString position) <*> items read (position + 1) rest

/-- Lists. -/
def list (read : Reader α) : Reader (List α)
  | .list vs => items read 0 vs
  | _ => .fail .notList

/-- Sets of names, written as lists. -/
def names : Reader NameSet
  | .list vs => (items text 0 vs).map NameSet.ofList
  | _ => .fail .notSet

/-- The text of a key in a path: truth values count as numbers there. -/
def keyText : Value → String
  | .bool b => if b then "1" else "0"
  | key => key.plain

/-- The members of a mapping, each with its key and its value read. -/
def members {κ α : Type} (readKey : Reader κ) (read : Reader α) :
    List (Value × Value) → Checked (List (κ × α))
  | [] => .exactly []
  | (key, v) :: rest =>
    (fun k a more => (k, a) :: more)
      <$> ((readKey key).within "[key]").within (keyText key)
      <*> (read v).within (keyText key)
      <*> members readKey read rest

/-- Mappings. Keys that become equal by being read count as one key. -/
def mapping {κ α : Type} [DecidableEq κ] (readKey : Reader κ) (read : Reader α) :
    Reader (OrderedMap κ α)
  | .mapping ms => (members readKey read ms).map OrderedMap.ofList
  | _ => .fail .notMapping

/-- Mappings from texts to texts. -/
def texts : Reader (OrderedMap String String) := mapping text text

/-- Mappings of any kind, as they are. -/
def anyMapping : Reader Members
  | .mapping ms => .exactly ms
  | _ => .fail .notMapping

/-! ## Records -/

/-- A record: a mapping whose members are looked up by name; members that are not asked for are
passed over. -/
def record (build : Members → Checked α) : Reader α
  | .mapping ms => build ms
  | _ => .fail .notRecord

end Reader

/-- A member that has to be there. -/
def required (name : String) (read : Reader α) (ms : Members) : Checked α :=
  match ms.get? name with
  | some v => ((read v).within name).counted
  | none => .rejected [⟨[name], .missing⟩]

/-- A member that has a default value. -/
def defaulted (name : String) (read : Reader α) (default : α) (ms : Members) : Checked α :=
  match ms.get? name with
  | some v => ((read v).within name).counted
  | none => .exactly default

/-- A member that may be absent or null. -/
def optional (name : String) (read : Reader α) (ms : Members) : Checked (Option α) :=
  defaulted name (Reader.nullable read) none ms

/-- The member that tells the variants of a family of records apart. It may be absent. -/
def tagged (label : String) (ms : Members) : Checked Unit :=
  defaulted "type" (Reader.literal label) () ms

end Curriculum.Schema
