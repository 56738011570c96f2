import XWaylandBridge.Position
import XWaylandBridge.ShellLedger

/-!
# `configure_request` on an attached window

An X client asks to move or resize its window with a configure request; the value mask says
which of `x`, `y`, `width` and `height` it sets. For a window with a live scene surface the
bridge does not configure the X window itself: it asks the shell to modify the surface, through
`set_position` for the position, and the X window follows through `scene_surface_moved_to` and
`scene_surface_resized`.

What the X side calls the window's geometry is the surface's content: its decoration top-left
plus the content offset, and its content size (`SceneSurface.contentGeometry`). The request
asks for its masked fields and keeps the rest (`ConfigureRequestEvent.requested`).

**What is proved.** For every world in which the window has a live surface and every request,
`configure_request` is the abstract operation: the surface ends with its content at the
requested geometry, decorations following, and nothing else of it or of any other surface
changes (`configureRequest_geometry`); and the run changes nothing at all exactly when the
request asks for the geometry the content has. Unlike the end of `property_notify`, it never
sends the shell a modification that changes nothing.

**What this does not decide.** The window without a surface, whose request goes to the X
server as it is, and runs with other threads.
-/

set_option autoImplicit false

namespace XWaylandBridge

namespace SceneSurface

/-- Where the X side sees the surface: the content's top-left and the content size. -/
def contentGeometry (s : SceneSurface) : Point × Size := (s.topLeft + s.contentOffset, s.contentSize)

/-- The surface moved so that its content is at `g.1` and resized to `g.2`; the decorations
follow the content. -/
def withContentGeometry (s : SceneSurface) (g : Point × Size) : SceneSurface :=
  { s with topLeft := g.1 - s.contentOffset, contentSize := g.2 }

@[simp] theorem contentGeometry_withContentGeometry (s : SceneSurface) (g : Point × Size) :
    (s.withContentGeometry g).contentGeometry = g := by
  simp [contentGeometry, withContentGeometry]

@[simp] theorem withContentGeometry_self (s : SceneSurface) : s.withContentGeometry s.contentGeometry = s := by
  simp [contentGeometry, withContentGeometry]

end SceneSurface

/-- The geometry a configure request asks for, from the current one: the masked fields, and
the current values of the others. -/
def ConfigureRequestEvent.requested (ev : ConfigureRequestEvent) (g : Point × Size) : Point × Size :=
  (maskedPosition ev g.1, maskedSize ev g.2)

open SceneSurface

section Mods

variable (ev : ConfigureRequestEvent) (s : SceneSurface) (parent : Option SceneSurface)

/-- `set_position` always sets something: the top-left, or the aux rect. -/
theorem setPosition_ne_empty (t : Point) : setPosition parent t {} ≠ {} := by
  cases parent <;> simp [setPosition]

theorem configureRequestMods_parent : (configureRequestMods ev s parent).parent = none := by
  unfold configureRequestMods
  dsimp only
  split_ifs <;> simp

/-- The modification is empty exactly when the request asks for the current geometry. -/
theorem configureRequestMods_isEmpty :
    (configureRequestMods ev s parent).isEmpty = true ↔
      ev.requested s.contentGeometry = s.contentGeometry := by
  simp only [configureRequestMods, ConfigureRequestEvent.requested, contentGeometry,
    SurfaceSpecification.isEmpty, decide_eq_true_eq, Prod.mk.injEq]
  by_cases hp : maskedPosition ev (s.topLeft + s.contentOffset) = s.topLeft + s.contentOffset <;>
    by_cases hz : maskedSize ev s.contentSize = s.contentSize
  · simp [hp, hz]
  · simp [hp, hz, Ne.symm hz]
  · simp [hp, hz, Ne.symm hp, setPosition_ne_empty]
  · simp [hp, hz, Ne.symm hp, Ne.symm hz]

/-- `set_position` sets where the surface goes and nothing else the shell applies. -/
theorem setPosition_unset (t : Point) (spec : SurfaceSpecification) :
    (setPosition parent t spec).applicationId = spec.applicationId ∧
      (setPosition parent t spec).name = spec.name ∧ (setPosition parent t spec).width = spec.width ∧
      (setPosition parent t spec).height = spec.height ∧ (setPosition parent t spec).state = spec.state := by
  cases parent <;> exact ⟨rfl, rfl, rfl, rfl, rfl⟩

/-- Against the parent it was computed for, the modification moves the content to the
requested position and resizes it to the requested size. -/
theorem applySpec_configureRequestMods :
    Shell.applySpec parent (configureRequestMods ev s parent) s =
      s.withContentGeometry (ev.requested s.contentGeometry) := by
  have hnone : placedTopLeft parent none none = none := by cases parent <;> rfl
  have hplaced := placedTopLeft_setPosition parent
    (maskedPosition ev (s.topLeft + s.contentOffset) - s.contentOffset) {}
  obtain ⟨h₁, h₂, h₃, h₄, h₅⟩ := setPosition_unset parent
    (maskedPosition ev (s.topLeft + s.contentOffset) - s.contentOffset) {}
  simp only [configureRequestMods, ConfigureRequestEvent.requested, contentGeometry,
    withContentGeometry, Shell.applySpec]
  by_cases hp : maskedPosition ev (s.topLeft + s.contentOffset) = s.topLeft + s.contentOffset <;>
    by_cases hz : maskedSize ev s.contentSize = s.contentSize
  · simp [hp, hz, hnone]
  · simp [hp, hz, Ne.symm hz, hnone]
  · simp [hp, hz, Ne.symm hp, hplaced, h₁, h₂, h₃, h₄, h₅]
  · simp [hp, hz, Ne.symm hp, Ne.symm hz, hplaced, h₁, h₂, h₅]

end Mods

/-- A live surface is one the shell holds. -/
theorem Shell.surfaces_of_lock {sh : Shell} {id : SurfaceId} (h : sh.lock id = some id) :
    ∃ s, sh.surfaces id = some s := by
  unfold Shell.lock at h
  rcases hs : sh.surfaces id with _ | s
  · simp [hs] at h
  · exact ⟨s, rfl⟩

open Prog World

namespace XWaylandSurface

variable (win : Window)

open Section

/-- **`configure_request` on an attached window sets the content geometry it asks for**: the
window's surface ends with its content at the requested position and size, its decorations
following, and no other surface changes; and the run leaves the whole world as it was exactly
when the request asks for the geometry the content already has. -/
theorem configureRequest_geometry (ev : ConfigureRequestEvent) (w : World) {id : SurfaceId}
    (hid : w.sceneSurfaceOf win = some id) :
    ((configureRequest win ev).run w).2.shell.surfaces =
        Function.update w.shell.surfaces id
          ((w.shell.surfaces id).map fun s => s.withContentGeometry (ev.requested s.contentGeometry)) ∧
      (((configureRequest win ev).run w).2 = w ↔
        (w.shell.surfaces id).map (fun s => ev.requested s.contentGeometry) =
          (w.shell.surfaces id).map contentGeometry) := by
  obtain ⟨s, hs⟩ := Shell.surfaces_of_lock (lock_of_sceneSurfaceOf hid)
  -- the request the section computes, against the surface's own parent
  have hrun : ((configureRequest win ev).run w).2 =
      if (configureRequestMods ev s (w.shell.live s.parent)).isEmpty then w
      else { w with shell := w.shell.modify id (configureRequestMods ev s (w.shell.live s.parent)) } := by
    simp only [configureRequest, sceneSurface, run_atomic_bind, hid, hs]
    split <;> simp_all
    rfl
  have hmod : (w.shell.modify id (configureRequestMods ev s (w.shell.live s.parent))).surfaces =
      Function.update w.shell.surfaces id (some (s.withContentGeometry (ev.requested s.contentGeometry))) := by
    simp only [Shell.modify, Shell.update, hs, configureRequestMods_parent, Option.getD_none,
      Option.some_bind, Option.map_some', applySpec_configureRequestMods]
  simp only [hs, Option.map_some', Option.some.injEq]
  rw [hrun]
  by_cases he : (configureRequestMods ev s (w.shell.live s.parent)).isEmpty
  · have hg := (configureRequestMods_isEmpty ev s _).mp he
    rw [if_pos he, hg, withContentGeometry_self, ← hs, Function.update_eq_self]
    exact ⟨rfl, iff_of_true rfl rfl⟩
  · rw [if_neg he]
    refine ⟨hmod, fun h => ?_, fun h => absurd ((configureRequestMods_isEmpty ev s _).mpr h) he⟩
    have hs' := congrArg (fun x : World => x.shell.surfaces id) h
    simp only [hmod, Function.update_same, hs, Option.some.injEq] at hs'
    simpa using congrArg contentGeometry hs'

/-- A request for `x = 5` alone. -/
def moveToFive : ConfigureRequestEvent := ⟨xcbConfigWindowX, 5, 0, 0, 0⟩

theorem configureRequest_geometry_attachedOne :
    attachedOne.sceneSurfaceOf 1 = some 0 ∧
      ((configureRequest 1 moveToFive).run attachedOne).2.shell.surfaces =
          Function.update attachedOne.shell.surfaces 0 ((attachedOne.shell.surfaces 0).map
            fun s => s.withContentGeometry (moveToFive.requested s.contentGeometry)) ∧
        (((configureRequest 1 moveToFive).run attachedOne).2 = attachedOne ↔
          (attachedOne.shell.surfaces 0).map (fun s => moveToFive.requested s.contentGeometry) =
            (attachedOne.shell.surfaces 0).map contentGeometry) :=
  ⟨by decide, configureRequest_geometry 1 moveToFive attachedOne (by decide)⟩

end XWaylandSurface

end XWaylandBridge
