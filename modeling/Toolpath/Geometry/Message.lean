import Toolpath.Geometry.Basic
import Toolpath.Decimal.Layout

/-!
The texts for errors of generators.
-/

namespace Toolpath

/-- The text for an error. -/
def GeometryError.message : GeometryError Float → String
  | .tooFew name least count =>
    name ++ " must be at least " ++ toString least ++ ", got " ++ toString count
  | .notFinite name value => name ++ " must be finite, got " ++ Decimal.plain value
  | .missingAxis axis => "point is missing its " ++ String.singleton axis ++ " coordinate"
  | .collinear => "points are collinear, no unique circle"

end Toolpath
