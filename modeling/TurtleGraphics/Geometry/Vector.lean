/-
  Vectors of the plane and of space, with the componentwise operations.
-/
import TurtleGraphics.Scalar

namespace TurtleGraphics

/-- A point of the plane, or a displacement in it. -/
@[ext] structure Vec2 (α : Type) where
  x : α
  y : α
deriving DecidableEq

/-- A point of space, or a displacement in it. -/
@[ext] structure Vec3 (α : Type) where
  x : α
  y : α
  z : α
deriving DecidableEq

variable {α : Type} [Scalar α]

/-! ## The plane -/

namespace Vec2

instance : Add (Vec2 α) := ⟨fun u v => ⟨u.x + v.x, u.y + v.y⟩⟩

instance : Sub (Vec2 α) := ⟨fun u v => ⟨u.x - v.x, u.y - v.y⟩⟩

/-- The vector stretched by a factor. -/
def scale (v : Vec2 α) (factor : α) : Vec2 α := ⟨v.x * factor, v.y * factor⟩

/-- The midpoint of the vector and the origin. -/
def half (v : Vec2 α) : Vec2 α := ⟨v.x / (2 : Nat), v.y / (2 : Nat)⟩

@[simp] theorem add_x (u v : Vec2 α) : (u + v).x = u.x + v.x := rfl
@[simp] theorem add_y (u v : Vec2 α) : (u + v).y = u.y + v.y := rfl
@[simp] theorem sub_x (u v : Vec2 α) : (u - v).x = u.x - v.x := rfl
@[simp] theorem sub_y (u v : Vec2 α) : (u - v).y = u.y - v.y := rfl

end Vec2

/-! ## Space -/

namespace Vec3

instance : Add (Vec3 α) := ⟨fun u v => ⟨u.x + v.x, u.y + v.y, u.z + v.z⟩⟩

instance : Sub (Vec3 α) := ⟨fun u v => ⟨u.x - v.x, u.y - v.y, u.z - v.z⟩⟩

/-- The vector stretched by a factor. -/
def scale (v : Vec3 α) (factor : α) : Vec3 α := ⟨v.x * factor, v.y * factor, v.z * factor⟩

/-- The vector with three equal components. -/
def splat (a : α) : Vec3 α := ⟨a, a, a⟩

/-- The origin of space. -/
def zero : Vec3 α := splat (0 : Nat)

@[simp] theorem add_x (u v : Vec3 α) : (u + v).x = u.x + v.x := rfl
@[simp] theorem add_y (u v : Vec3 α) : (u + v).y = u.y + v.y := rfl
@[simp] theorem add_z (u v : Vec3 α) : (u + v).z = u.z + v.z := rfl
@[simp] theorem sub_x (u v : Vec3 α) : (u - v).x = u.x - v.x := rfl
@[simp] theorem sub_y (u v : Vec3 α) : (u - v).y = u.y - v.y := rfl
@[simp] theorem sub_z (u v : Vec3 α) : (u - v).z = u.z - v.z := rfl

/-- One vector is at most another when each of its components is. -/
def AtMost (u v : Vec3 α) : Prop := u.x ≤ v.x ∧ u.y ≤ v.y ∧ u.z ≤ v.z

instance (u v : Vec3 α) : Decidable (u.AtMost v) := inferInstanceAs (Decidable (_ ∧ _ ∧ _))

end Vec3

end TurtleGraphics
