import Curriculum.HintText

/-!
# Hints

The checker reports hints in one stream with everything else it has to say.
Here the stream is split: hint records become hints, with their texts filled
in, and what remains is passed on. Both parts keep the order of the stream.
-/

namespace Curriculum

/-- The hint that a record describes. -/
def HintRecord.hint (r : HintRecord) : Hint :=
  ⟨r.goal, HintText.render r.text r.context, r.strict, r.hidden⟩

/-- The hints of a stream. -/
def hintsOf (ds : List Diagnostic) : List Hint :=
  ds.filterMap fun
    | .hint r => some r.hint
    | .plain .. => none

/-- What remains of a stream without its hints. -/
def plainOf (ds : List Diagnostic) : List (Severity × String) :=
  ds.filterMap fun
    | .hint _ => none
    | .plain severity text => some (severity, text)

end Curriculum
