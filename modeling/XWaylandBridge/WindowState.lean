import Mathlib.Tactic.Common

/-!
# The window-state model

`XWaylandSurface::WindowState` is four flags, and the bridge translates it both ways against
the compositor's `MirWindowState`:

* `mirWindowState` (`WindowState::mir_window_state`): minimized before fullscreen before
  maximized before restored; `withdrawn` is ignored.
* `updatedFrom` (`WindowState::updated_from`): the compositor reported a state; `withdrawn`
  clears, and each native state sets and clears the flags of its row of the spec's table.

**Modelled from the spec**: the flags' initial values. The class declaration is not part of
the sources; the spec's "initial state on construction: unmapped" fixes `withdrawn`, and the
other three start cleared.
-/

set_option autoImplicit false

namespace XWaylandBridge

/-- `MirWindowState`, the compositor's native window state, with its `mir_window_states`
count, which `updated_from` also handles. -/
inductive MirWindowState where
  | unknown
  | restored
  | minimized
  | maximized
  | vertmaximized
  | fullscreen
  | horizmaximized
  | hidden
  | attached
  | states
  deriving DecidableEq, Repr

/-- `XWaylandSurface::WindowState`. Its `operator==` compares the four flags, which is the
structure's own equality. -/
structure WindowState where
  withdrawn : Bool := true
  minimized : Bool := false
  maximized : Bool := false
  fullscreen : Bool := false
  deriving DecidableEq, Repr

namespace WindowState

/-- `WindowState::mir_window_state`. -/
def mirWindowState (s : WindowState) : MirWindowState :=
  if s.minimized then .minimized
  else if s.fullscreen then .fullscreen
  else if s.maximized then .maximized
  else .restored

/-- `WindowState::updated_from`. -/
def updatedFrom (s : WindowState) : MirWindowState → WindowState
  | .hidden | .minimized => { s with withdrawn := false, minimized := true }
  | .fullscreen => { s with withdrawn := false, minimized := false, fullscreen := true }
  | .maximized | .vertmaximized | .horizmaximized =>
    { s with withdrawn := false, minimized := false, maximized := true, fullscreen := false }
  | .restored | .unknown | .attached =>
    { s with withdrawn := false, minimized := false, maximized := false, fullscreen := false }
  | .states => { s with withdrawn := false }

@[simp] theorem updatedFrom_withdrawn (s : WindowState) (m : MirWindowState) :
    (s.updatedFrom m).withdrawn = false := by
  cases m <;> rfl

/-- `withdrawn` takes no part in the native state. -/
@[simp] theorem mirWindowState_withdrawn (s : WindowState) (b : Bool) :
    { s with withdrawn := b }.mirWindowState = s.mirWindowState := rfl

end WindowState

end XWaylandBridge
