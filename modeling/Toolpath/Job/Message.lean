import Toolpath.Job.Transform
import Toolpath.Motion.Message

/-!
The texts for errors of whole transforms.
-/

namespace Toolpath

/-- The text for an error. -/
def TransformError.message : TransformError Float → String
  | .configuration fault => fault.message
  | .malformed index kind =>
    "malformed sequence at element " ++ toString index ++ ": unrecognized kind '" ++ kind ++ "'"
  | .notJson => ImportError.notJson.message
  | .controls cause => cause.message

end Toolpath
