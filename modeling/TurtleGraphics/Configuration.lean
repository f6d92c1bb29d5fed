/-
  Configurations: settings as named pieces of text.

  A configuration maps keys to values.  `Settings.ofConfiguration` reads the
  settings from it: the variant first, then ten numbers in a fixed order, each
  with a default; the first thing that is wrong is the error.  The numbers are
  checked when all of them have been read.
-/
import TurtleGraphics.Decimal.Shortest
import TurtleGraphics.Settings
import TurtleGraphics.Text.Blank

namespace TurtleGraphics

/-- The values of a configuration, by their keys. -/
abbrev Configuration := String → Option String

/-- What is wrong with a configuration. -/
inductive ConfigurationError where
  /-- A value that has no default is missing. -/
  | missing (key : String)
  /-- There is no such variant. -/
  | unknownVariant (name : String)
  /-- A value is not a number of its kind. -/
  | unreadable (key value : String)
  /-- A value is out of its range. -/
  | outOfRange (problem : SettingsProblem Float)
deriving DecidableEq

namespace ConfigurationError

/-- The wording of an error. -/
def message : ConfigurationError → String
  | missing key => "Missing parameter: The parameter \x7b\"" ++ key ++ "\"\x7d was missing"
  | unknownVariant name => "Invalid input data: Invalid command:" ++ name
  | unreadable key value =>
    "Invalid input data: Invalid value for parameter \x7b\"" ++ key ++ "\"\x7d: \x7b\""
      ++ value ++ "\"\x7d"
  | outOfRange problem => "Invalid input data value: " ++ problem.message

end ConfigurationError

namespace Configuration

/-- The value of a key that has no default. -/
def required (c : Configuration) (key : String) : Except ConfigurationError String :=
  match c key with
  | some value => .ok value
  | none => .error (.missing key)

/-- The value of a key, read by `read?` without the blanks around it. -/
def readOr {β : Type} (c : Configuration) (read? : List Char → Option β) (key : String)
    (default : β) : Except ConfigurationError β :=
  match c key with
  | none => .ok default
  | some value => match read? (trim value.toList) with
    | some b => .ok b
    | none => .error (.unreadable key value)

/-- A double, or its default. -/
def number (c : Configuration) (key : String) (default : Float) :
    Except ConfigurationError Float :=
  c.readOr (fun text => (Literal.read? text).map Literal.toFloat) key default

/-- A count, or its default. -/
def count (c : Configuration) (key : String) (default : UInt32) :
    Except ConfigurationError UInt32 :=
  c.readOr readCount? key default

end Configuration

namespace Settings

/-- The settings of a configuration, before their ranges are checked. -/
def readAll (c : Configuration) : Except ConfigurationError (Settings Float) := do
  let name ← c.required "command"
  match Variant.ofName? name with
  | none => .error (.unknownVariant name)
  | some variant =>
    let d : Settings Float := .standard variant
    let width ← c.number "surface.width" d.surfaceSize.x
    let height ← c.number "surface.height" d.surfaceSize.y
    let boardExtent ← c.number "board.extent" d.boardExtent
    let koch ← c.count "koch.max_level" d.limits.koch
    let sierpinski ← c.count "sierp.max_level" d.limits.sierpinski
    let repeatDepth ← c.count "repeat.max_depth" d.limits.repeatDepth
    let repeatIterations ← c.count "repeat.max_iterations" d.limits.repeatIterations
    let cameraDistance ← c.number "camera.distance" d.cameraDistance
    let dragX ← c.number "view.drag_x" d.drag.x
    let dragY ← c.number "view.drag_y" d.drag.y
    return { variant, surfaceSize := ⟨width, height⟩, boardExtent
             limits := { koch, sierpinski, repeatDepth, repeatIterations }
             cameraDistance, drag := ⟨dragX, dragY⟩ }

/-- The settings of a configuration. -/
def ofConfiguration (c : Configuration) : Except ConfigurationError (Settings Float) := do
  let settings ← readAll c
  match settings.problem? with
  | some problem => .error (.outOfRange problem)
  | none => return settings

end Settings

end TurtleGraphics
