import XWaylandBridge.Runs

/-!
# Positions — the frame `scene_surface_moved_to` inverts

The scene side places a surface by its decoration top-left; the X side knows the window by
its content position, which is the decoration top-left plus the surface's content offset.
`scene_surface_moved_to` crosses from the scene side to the X side by adding the offset, so a
request that crosses the other way has to subtract it. `set_position` asks for exactly the
decoration top-left it is given, toplevel or child (`placedTopLeft_setPosition`), so what
matters is what each caller passes:

* `configure_request` passes the masked content position less the content offset, and the
  echo of `scene_surface_moved_to` gives the masked position back (`configureRequest_echo`);
* `is_transient_for` passes `cached.top_left`, the content position itself, so its request
  lands the decorations where the content was (`transientSpec_placed`). With a non-zero content
  offset the echo moves the X window by the offset, every time `WM_TRANSIENT_FOR` is read
  (`transient_reread_moves_window`).

The second path is the one `set_position`'s own comment rules out ("top_left should be desired
global top_left of the decorations of this window").
-/

set_option autoImplicit false

namespace XWaylandBridge

/-- **`set_position` asks for what it is given**: against the same parent, the request
resolves to the decoration top-left passed in, toplevel or child. -/
theorem placedTopLeft_setPosition (parent : Option SceneSurface) (t : Point)
    (spec : SurfaceSpecification) :
    placedTopLeft parent (setPosition parent t spec).auxRect (setPosition parent t spec).topLeft =
      some t := by
  cases parent with
  | none => rfl
  | some p =>
    simp only [setPosition, placedTopLeft, Option.some.injEq]
    exact Point.ext' (by simp only [Point.add_x, Point.sub_x, Point.asDisplacement_dx]; omega)
      (by simp only [Point.add_y, Point.sub_y, Point.asDisplacement_dy]; omega)

/-- The size half of a configure request leaves its position half alone. -/
theorem configureRequestMods_position (ev : ConfigureRequestEvent) (s : SceneSurface)
    (parent : Option SceneSurface)
    (h : s.topLeft + s.contentOffset ≠ maskedPosition ev (s.topLeft + s.contentOffset)) :
    placedTopLeft parent (configureRequestMods ev s parent).auxRect
        (configureRequestMods ev s parent).topLeft =
      some (maskedPosition ev (s.topLeft + s.contentOffset) - s.contentOffset) := by
  have := placedTopLeft_setPosition parent
    (maskedPosition ev (s.topLeft + s.contentOffset) - s.contentOffset) {}
  unfold configureRequestMods
  dsimp only
  rw [if_pos h]
  split <;> exact this

/-- **`configure_request` inverts the echo**: a moved attached window asks for a decoration
top-left whose `scene_surface_moved_to` echo is exactly the masked content position, for
every request, content offset and parent. -/
theorem configureRequest_echo (ev : ConfigureRequestEvent) (s : SceneSurface)
    (parent : Option SceneSurface)
    (h : s.topLeft + s.contentOffset ≠ maskedPosition ev (s.topLeft + s.contentOffset)) :
    ∃ t, placedTopLeft parent (configureRequestMods ev s parent).auxRect
        (configureRequestMods ev s parent).topLeft = some t ∧
      t + s.contentOffset = maskedPosition ev (s.topLeft + s.contentOffset) :=
  ⟨_, configureRequestMods_position ev s parent h, Point.sub_add_cancel _ _⟩

/-- `is_transient_for` asks for the decorations at `cached.top_left`, whatever the content
offset of the window's surface. -/
theorem transientSpec_placed (win : Window) (w : World) (t : Window) (spec : SurfaceSpecification) :
    placedTopLeft ((w.transientParent t).bind w.shell.surfaces)
        (XWaylandSurface.transientSpec win w t spec).auxRect
        (XWaylandSurface.transientSpec win w t spec).topLeft =
      some (w.bridges win).cached.topLeft :=
  placedTopLeft_setPosition _ _ _

/-- A toplevel window in sync with its decorated surface: content at (10, 20) on the X side,
a title bar 30 high, so the surface's decorations start at (10, -10). -/
def decoratedToplevel : World where
  managed v := v = 1
  bridges _ :=
    { cached := { topLeft := ⟨10, 20⟩, size := ⟨300, 200⟩, state := { withdrawn := false } }
      weakSceneSurface := some 0, surfaceObserver := some 0, weakSession := some 0 }
  shell :=
    { surfaces := fun i => if i = 0 then some
        { session := 0, applicationId := "", name := "", parent := none, topLeft := ⟨10, -10⟩,
          contentOffset := ⟨0, 30⟩, contentSize := ⟨300, 200⟩, state := .restored,
          observers := [0], destroyed := 0 } else none
      nextSurface := 1
      decoration := ⟨0, 30⟩ }
  observerRefs o := if o = 0 then 2 else 0
  nextObserver := 1

set_option maxRecDepth 4000 in
/-- **Re-reading `WM_TRANSIENT_FOR` moves the window**: the window has no transient-for
parent and nothing changed, yet `property_notify` moves the surface's decorations to the
content position (10, 20), and the echo of that move configures the X window at (10, 50). -/
theorem transient_reread_moves_window :
    (((XWaylandSurface.propertyNotify Atoms.fresh 1 xcbAtomWmTransientFor).run
      decoratedToplevel).2.shell.surfaces 0).map (·.topLeft) = some ⟨10, 20⟩ ∧
    ((XWaylandSurface.sceneSurfaceMovedTo 1 ⟨10, 20⟩).run
      ((XWaylandSurface.propertyNotify Atoms.fresh 1 xcbAtomWmTransientFor).run
        decoratedToplevel).2).2.xlog.head? =
      some (.configureWindow 1 (some ⟨10, 50⟩) none none none) := by
  decide

end XWaylandBridge
