import Mathlib.Logic.Function.Basic

/-!
# Geometry — points, displacements and sizes

The three value types of `mir::geometry` that the bridge moves between the X side and the
scene side. A point plus a displacement is a point, a point minus a displacement is a point,
and `asDisplacement` reads a point as the displacement from the origin, exactly as
`geom::Point`, `geom::Displacement` and `as_displacement` do. Coordinates are unbounded
integers: the X protocol's 16-bit fields and Mir's 32-bit wrappers both embed, and no result
here depends on a bound.

The two laws proved (`add_sub_cancel`, `sub_add_cancel`) are the whole of what the position
results need: adding the content offset undoes subtracting it, and back.
-/

set_option autoImplicit false

namespace XWaylandBridge

/-- `geom::Point`. -/
structure Point where
  x : Int
  y : Int
  deriving DecidableEq, Repr

/-- `geom::Displacement`; the default is no displacement. -/
structure Displacement where
  dx : Int := 0
  dy : Int := 0
  deriving DecidableEq, Repr

/-- `geom::Size`. -/
structure Size where
  width : Int
  height : Int
  deriving DecidableEq, Repr

/-- `geom::Rectangle`: a top-left corner and a size. -/
structure Rectangle where
  topLeft : Point
  size : Size
  deriving DecidableEq, Repr

namespace Point

instance : HAdd Point Displacement Point := ⟨fun p d => ⟨p.x + d.dx, p.y + d.dy⟩⟩

instance : HSub Point Displacement Point := ⟨fun p d => ⟨p.x - d.dx, p.y - d.dy⟩⟩

/-- `as_displacement`: the displacement from the origin to the point. -/
def asDisplacement (p : Point) : Displacement := ⟨p.x, p.y⟩

@[simp] theorem add_x (p : Point) (d : Displacement) : (p + d).x = p.x + d.dx := rfl
@[simp] theorem add_y (p : Point) (d : Displacement) : (p + d).y = p.y + d.dy := rfl
@[simp] theorem sub_x (p : Point) (d : Displacement) : (p - d).x = p.x - d.dx := rfl
@[simp] theorem sub_y (p : Point) (d : Displacement) : (p - d).y = p.y - d.dy := rfl
@[simp] theorem asDisplacement_dx (p : Point) : p.asDisplacement.dx = p.x := rfl
@[simp] theorem asDisplacement_dy (p : Point) : p.asDisplacement.dy = p.y := rfl

theorem ext' {p q : Point} (hx : p.x = q.x) (hy : p.y = q.y) : p = q := by
  cases p; cases q; simp_all

@[simp] theorem sub_add_cancel (p : Point) (d : Displacement) : p - d + d = p :=
  ext' (by simp) (by simp)

@[simp] theorem add_sub_cancel (p : Point) (d : Displacement) : p + d - d = p :=
  ext' (by simp) (by simp)

@[simp] theorem add_zero (p : Point) : p + ({} : Displacement) = p := ext' (by simp) (by simp)

end Point

end XWaylandBridge
