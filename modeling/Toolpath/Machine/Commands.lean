import Toolpath.Table

/-!
Tables of device commands: what a machine is told for a command that a design names.
-/

namespace Toolpath

/-- The instructions for a command, if a machine has any. -/
abbrev CommandTable := String → Option String

/-- The table whose only commands are those listed. -/
def CommandTable.ofTable (table : Table String) : CommandTable := fun id => table.find? id

/-- The commands that most machines know. -/
def CommandTable.generic : CommandTable := .ofTable <| .ofList
  [("home", "G28"), ("absolute_coords", "G90"), ("relative_coords", "G91"), ("units_mm", "G21"),
    ("pause", "M601"), ("retract", "G10"), ("unretract", "G11")]

end Toolpath
