import Toolpath.Machine.Commands
import Toolpath.Design.Step

/-!
The flavors of G-code, and what each does before and after a design.
-/

namespace Toolpath

/-- A dialect of G-code. -/
inductive Flavor where
  | marlin
  | klipper
  | bambu
  | repRap
deriving DecidableEq, Repr

namespace Flavor

/-- The instruction that pauses a print. -/
def pause : Flavor → String
  | .marlin => "M601"
  | .klipper => "PAUSE"
  | .bambu => "M400 U1"
  | .repRap => "M226"

/-- The commands of a flavor. -/
def table (flavor : Flavor) : Table String := .ofList
  [("home", "G28"), ("absolute_coords", "G90"), ("relative_coords", "G91"), ("units_mm", "G21"),
    ("pause", flavor.pause), ("retract", "G10"), ("unretract", "G11")]

/-- The instructions for a command. -/
def commands (flavor : Flavor) : CommandTable := .ofTable flavor.table

end Flavor

namespace Step

variable {α : Type}

/-- The step that is an event. -/
def ofEvent (event : Event α) : Step α := .element (.event event)

/-- The step of some instructions as they are. -/
def ofRaw (text : String) : Step α := ofEvent (.raw text)

/-- The step of a command by its name. -/
def ofCommand (id : String) : Step α := ofEvent (.command id)

/-- The step that switches the extruder. -/
def ofSwitch (on : Bool) : Step α := ofEvent (.toggle on)

/-- The step of a point. -/
def ofPoint (point : Point α) : Step α := .element (.point point)

end Step

/-- A banner of three comment lines. -/
def banner (title : String) : String := ";-----\n; " ++ title ++ "\n;-----"

namespace Flavor

open Step

variable {α : Type}

/-- How a flavor homes and levels. -/
def leveling : Flavor → Design α
  | .marlin => [ofCommand "home", ofRaw "G29 ; auto bed leveling"]
  | .klipper => [ofCommand "home", ofRaw "BED_MESH_CALIBRATE"]
  | .bambu =>
    [ofRaw "M400 ; wait for moves to finish", ofCommand "home",
      ofEvent (.comment none (some "including mesh bed level")),
      ofRaw "M106 P2 S255 ; enable aux fan"]
  | .repRap => [ofCommand "home", ofRaw "G29 ; probe bed"]

/-- What is done before a design: homing, leveling, and the system of coordinates. Temperatures and
the extruder mode are the initialization's. -/
def startingProcedure (flavor : Flavor) : Design α :=
  ofRaw (banner "START OF STARTING PROCEDURE") :: flavor.leveling
    ++ [ofCommand "absolute_coords", ofCommand "units_mm", ofRaw (banner "END OF STARTING PROCEDURE")]

variable [Scalar α]

/-- How a flavor turns its heaters off. -/
def cooling : Flavor → Design α
  | .klipper => [ofRaw "TURN_OFF_HEATERS"]
  | _ => [ofEvent (.bed 0.0 false), ofEvent (.hotend 0.0 false none)]

/-- What is done after a design. -/
def endingProcedure (flavor : Flavor) : Design α :=
  [ofRaw (banner "START OF ENDING PROCEDURE"),
    ofRaw "G91 ; relative coordinates\nG1 Z10 F3000 ; lift nozzle\nG90 ; absolute coordinates",
    ofEvent (.fan 0.0)]
    ++ flavor.cooling
    ++ (if flavor = .bambu then [ofRaw "M106 P2 S0 ; disable aux fan"] else [])
    ++ [ofRaw "M84 ; disable steppers"]

end Flavor

end Toolpath
