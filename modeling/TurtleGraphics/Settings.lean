/-
  Settings: everything a drawing needs besides its program.

  A drawing is of one of three variants, each with its own defaults.
  `Settings.problem?` checks the numbers: lengths must be positive and finite,
  and the drag of the view must be finite.
-/
import TurtleGraphics.Geometry.Vector
import TurtleGraphics.Program.Limits

namespace TurtleGraphics

/-- The kinds of drawings. -/
inductive Variant where
  /-- Lines of the plane. -/
  | plane
  /-- Lines of the plane, as SVG markup. -/
  | svg
  /-- Lines of space, seen by a camera. -/
  | space
deriving DecidableEq

namespace Variant

/-- The name of a variant. -/
def name : Variant → String
  | plane => "turtle_2d"
  | svg => "turtle_svg"
  | space => "turtle_3d"

/-- All variants. -/
def all : List Variant := [plane, svg, space]

/-- The variant with a name. -/
def ofName? (name : String) : Option Variant :=
  all.find? fun v => v.name = name

theorem ofName?_name (v : Variant) : ofName? v.name = some v := by
  cases v <;> decide

end Variant

/-- What a drawing is made with. -/
structure Settings (α : Type) where
  variant : Variant
  /-- Width and height of the surface. -/
  surfaceSize : Vec2 α
  /-- The board units across the surface, for drawings of the plane. -/
  boardExtent : α
  limits : Limits
  /-- The focal distance of the camera, for drawings of space. -/
  cameraDistance : α
  /-- The drag of the view, for drawings of space. -/
  drag : Vec2 α
deriving DecidableEq

/-- What is wrong with settings. -/
inductive SettingsProblem (α : Type) where
  /-- A length is not a positive number. -/
  | notPositive (key : String) (value : α)
  /-- The drag is not finite. -/
  | dragNotFinite (drag : Vec2 α)
deriving DecidableEq

namespace Settings

variable {α : Type} [Scalar α]

/-- The settings of a variant where none are given. -/
def standard (variant : Variant) : Settings α :=
  let (surfaceSize, boardExtent) : Vec2 α × α := match variant with
    | .plane => (⟨(1000 : Nat), (1000 : Nat)⟩, (1000 : Nat))
    | .svg => (⟨(500 : Nat), (500 : Nat)⟩, (500 : Nat))
    | .space => (⟨(800 : Nat), (600 : Nat)⟩, (1000 : Nat))
  { variant, surfaceSize, boardExtent, limits := .standard, cameraDistance := (350 : Nat)
    drag := ⟨(0 : Nat), (0 : Nat)⟩ }

/-- A number that a length may be. -/
def IsLength (value : α) : Prop := Scalar.isFinite value = true ∧ (0 : Nat) < value

instance (value : α) : Decidable (IsLength value) := inferInstanceAs (Decidable (_ ∧ _))

/-- The lengths among the settings, by the keys that configure them. -/
def lengths (s : Settings α) : List (String × α) :=
  [("surface.width", s.surfaceSize.x), ("surface.height", s.surfaceSize.y),
    ("board.extent", s.boardExtent), ("camera.distance", s.cameraDistance)]

/-- The first thing that is wrong with the settings. -/
def problem? (s : Settings α) : Option (SettingsProblem α) :=
  match s.lengths.find? fun (_, value) => ¬ IsLength value with
  | some (key, value) => some (.notPositive key value)
  | none =>
    if Scalar.isFinite s.drag.x && Scalar.isFinite s.drag.y then none
    else some (.dragNotFinite s.drag)

end Settings

/-- The wording of a problem. -/
def SettingsProblem.message {α : Type} [NumberText α] : SettingsProblem α → String
  | notPositive key value =>
    "\"" ++ key ++ "\" must be a positive number, got " ++ NumberText.text value
  | dragNotFinite drag =>
    "The view drag must be finite, got [" ++ NumberText.text drag.x ++ ", "
      ++ NumberText.text drag.y ++ "]"

end TurtleGraphics
