import Toolpath.Motion.Action
import Toolpath.Decimal.Layout

/-!
The texts for remarks and faults.
-/

namespace Toolpath

open Decimal (plain)

/-- The name of a bead shape in messages. -/
def BeadShape.title : BeadShape → String
  | .rectangle => "Rectangle"
  | .stadium => "Stadium"
  | .circle => "Circle"

/-- The name of a dimension. -/
def Dimension.word : Dimension → String
  | .width => "width"
  | .height => "height"
  | .diameter => "diameter"

/-- The text for a defect. -/
def Defect.message : Defect Float → String
  | .filament diameter => "filament diameter must be positive, got " ++ plain diameter
  | .noBead => "no active cross-section"
  | .missing shape dimension => shape.title ++ " cross-section has no " ++ dimension.word
  | .unusable shape dimension size =>
    shape.title ++ " cross-section " ++ dimension.word ++ " must be positive, got " ++ plain size

/-- The text for a remark. -/
def Remark.message : Remark Float → String
  | .speedIgnored speed => "speed " ++ plain speed ++ " ignored"
  | .originOpen => "first point has unspecified axes; using 0"
  | .unmapped id => "no instruction mapped for device command '" ++ id ++ "'"
  | .fanIgnored percent => "fan speed " ++ plain percent ++ " ignored"
  | .unplaced label => "annotation '" ++ label ++ "' has no position"
  | .unrecognized key => "unrecognized key '" ++ key ++ "' ignored"

/-- The text for a fault. -/
def Fault.message (fault : Fault Float) : String :=
  "configuration error at element " ++ toString fault.index ++ " (" ++ fault.kind ++ "): "
    ++ fault.defect.message

end Toolpath
