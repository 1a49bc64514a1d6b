import Curriculum.Form.Exercise
import Curriculum.Form.Inventory
import Curriculum.Directive

/-!
# Records of directives

How directives are read from and written as values. A directive is not read by
its mark alone: a value is tried as every variant, and the best fit wins. The
mark may be missing, but a mark that is there rules out all other variants.
-/

namespace Curriculum

open Schema Form

/-- Documentation has a kind and a name that is not empty. -/
def Doc.readFields (ms : Members) : Checked Doc :=
  Doc.mk
    <$> required "kind" Kind.read ms
    <*> required "name" Reader.nonEmptyText ms
    <*> optional "display_name" Reader.text ms
    <*> optional "category" Reader.text ms
    <*> defaulted "content" Reader.text "" ms

/-- An exercise has a signature; without a script nothing is proved. -/
def Exercise.readFields (ms : Members) : Checked Exercise :=
  Exercise.mk
    <$> optional "name" Reader.text ms
    <*> optional "description" Reader.text ms
    <*> required "signature" Signature.read ms
    <*> defaulted "script" (Reader.list ScriptStep.read) [] ms

namespace Directive

/-- Reads a value as one variant. -/
def readAs (tag : Tag) : Reader Directive := Reader.record fun ms =>
  let mark := tagged tag.label ms
  let text (field : TextField) : Checked Directive :=
    (fun _ => setText field) <$> mark <*> required "text" Reader.text ms
  let listing (l : Listing) : Checked Directive :=
    (fun _ => declareInventory l) <$> mark <*> required "kind" Kind.read ms
      <*> required "names" (Reader.list Reader.text) ms
  match tag with
  | .setGame => (fun _ => setGame) <$> mark <*> required "name" Reader.identifier ms
  | .addWorld => (fun _ => addWorld) <$> mark <*> required "id" Reader.identifier ms
  | .addPath =>
    (fun _ => addPath) <$> mark <*> required "from_id" Reader.text ms
      <*> required "to_id" Reader.text ms
  | .setLevelIndex => (fun _ => setLevelIndex) <$> mark <*> required "index" Reader.int ms
  | .setTitle => text .title
  | .setIntroduction => text .introduction
  | .setConclusion => text .conclusion
  | .registerDoc => (fun _ => registerDoc) <$> mark <*> Doc.readFields ms
  | .declareNew => listing .new
  | .declareDisabled => listing .disabled
  | .declareOnly => listing .only
  | .declareStatement => (fun _ => declareStatement) <$> mark <*> Exercise.readFields ms
  | .declareHint => declareHint <$> HintStep.read (.mapping ms)
  | .compile => (fun _ => compile) <$> mark

/-- The variants with the names of their records, in the order in which they are tried. -/
def variants : List (String × Reader Directive) :=
  Tag.all.map fun tag => (tag.recordName, readAs tag)

/-- Reads a value as the variant that fits best. -/
def read : Reader Directive := choose variants

/-- The fields of a directive beside its mark. -/
def fields : Directive → List (String × Value)
  | setGame name => [("name", .text name.val)]
  | addWorld id => [("id", .text id.val)]
  | addPath source target => [("from_id", .text source), ("to_id", .text target)]
  | setLevelIndex index => [("index", .int index)]
  | setText _ s => [("text", .text s)]
  | registerDoc doc => [("kind", doc.kind.write), ("name", .text doc.name.val),
      ("display_name", ofText? doc.displayName), ("category", ofText? doc.category),
      ("content", .text doc.content)]
  | declareInventory _ kind names => [("kind", kind.write), ("names", ofList .text names)]
  | declareStatement e => [("name", ofText? e.name), ("description", ofText? e.description),
      ("signature", e.signature.write), ("script", ofList ScriptStep.write e.script)]
  | declareHint s => [("strict", .bool s.strict), ("hidden", .bool s.hidden),
      ("context", s.context.write), ("text", .text s.text)]
  | compile => []

/-- Writes a directive with all its fields. -/
def write (d : Directive) : Value := record (("type", .text d.tag.label) :: d.fields)

end Directive

/-- Reads the mark of a record that is not known to be a directive. -/
def readMark : Reader String := Reader.record fun ms => required "type" Reader.text ms

end Curriculum
