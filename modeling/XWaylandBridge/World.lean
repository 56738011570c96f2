import Mathlib.Data.Finset.Basic
import XWaylandBridge.Prog
import XWaylandBridge.Shell

/-!
# The world a bridge lives in, and its primitive sections

`XWaylandSurface` is the per-window bridge object: its `cached` state, its nullable pending
specification, and the three references to the Wayland side (`surface_observer`,
`weak_session`, `weak_scene_surface`). `World` is everything the bridges share: the window
manager's table of bridges and its focused window, the X server's properties, map states and
request log, the connection's log of property reads with the value each reply carries, the
shell, and the use counts of the surface observers.

The primitive sections below are the only ways the member functions touch the world: one
section with the mutex held, one request on the X connection, one call into the shell, one
shared-pointer copy or release of an observer. Each is one `Prog.atomic` step, so a schedule can
put another thread's step between any two of them and nowhere else.

A use count is what `std::shared_ptr` keeps in its control block: `makeObserver` starts it at
one, every copy adds one and every release takes one. A weak reference to the observer locks
exactly while the count is positive, which is what `close`'s `fatal_error` check asks.
-/

set_option autoImplicit false

namespace XWaylandBridge

/-- `XWaylandSurface::cached`. -/
structure Cached where
  overrideRedirect : Bool := false
  topLeft : Point := ⟨0, 0⟩
  size : Size := ⟨0, 0⟩
  supportedWmProtocols : Finset Atom := ∅
  state : WindowState := {}
  deriving DecidableEq

/-- The fields of one `XWaylandSurface` object that its member functions read and write. -/
structure XWaylandSurface where
  cached : Cached := {}
  nullablePendingSpec : Option SurfaceSpecification := none
  surfaceObserver : Option ObserverId := none
  weakSession : Option SessionId := none
  weakSceneSurface : Option SurfaceId := none
  deriving DecidableEq

/-- Everything the bridges share. -/
structure World where
  /-- The window manager's table: the windows `get_wm_surface` finds a bridge for. -/
  managed : Window → Bool := fun _ => false
  /-- Each window's bridge object. -/
  bridges : Window → XWaylandSurface := fun _ => {}
  /-- `XWaylandWM::get_focused_window`. -/
  focused : Option Window := none
  /-- The X server's window properties. -/
  props : Window → Atom → Option PropValue := fun _ _ => none
  /-- The X server's map state: the last of `xcb_map_window` and `xcb_unmap_window` was a map. -/
  mapped : Window → Bool := fun _ => false
  /-- The requests sent, newest first; property reads are in `reads`. -/
  xlog : List XRequest := []
  /-- Whether `configure_window` throws. -/
  refusesConfigure : Bool := false
  /-- Every property read issued, with the value its reply carries, newest first. -/
  reads : List (Window × Atom × Option PropValue) := []
  shell : Shell := {}
  /-- Use counts of the surface observers. -/
  observerRefs : ObserverId → Nat := fun _ => 0
  /-- `XWaylandSurfaceObserver::latest_timestamp`, per observer. -/
  observerTimestamp : ObserverId → Nat := fun _ => 0
  nextObserver : ObserverId := 0
  /-- `fatal_error` was reached. -/
  fatal : Bool := false

namespace World

variable (w : World) (win : Window)

/-- The world with window `win`'s bridge replaced. -/
def setBridge (b : XWaylandSurface) : World :=
  { w with bridges := Function.update w.bridges win b }

/-- `weak_scene_surface.lock()` on window `win`'s bridge. -/
def sceneSurfaceOf : Option SurfaceId := (w.bridges win).weakSceneSurface.bind w.shell.lock

/-- The world with observer `o`'s use count moved by `f`. -/
def setRefs (o : ObserverId) (f : Nat → Nat) : World :=
  { w with observerRefs := Function.update w.observerRefs o (f (w.observerRefs o)) }

@[simp] theorem setBridge_bridges_self (b : XWaylandSurface) : (w.setBridge win b).bridges win = b :=
  by simp [setBridge]

theorem setBridge_bridges_ne (b : XWaylandSurface) {v : Window} (h : v ≠ win) :
    (w.setBridge win b).bridges v = w.bridges v := by
  simp [setBridge, Function.update_noteq h]

@[simp] theorem setBridge_shell (b : XWaylandSurface) : (w.setBridge win b).shell = w.shell := rfl
@[simp] theorem setBridge_props (b : XWaylandSurface) : (w.setBridge win b).props = w.props := rfl
@[simp] theorem setBridge_mapped (b : XWaylandSurface) : (w.setBridge win b).mapped = w.mapped := rfl
@[simp] theorem setBridge_managed (b : XWaylandSurface) : (w.setBridge win b).managed = w.managed := rfl
@[simp] theorem setBridge_focused (b : XWaylandSurface) : (w.setBridge win b).focused = w.focused := rfl
@[simp] theorem setBridge_observerRefs (b : XWaylandSurface) :
    (w.setBridge win b).observerRefs = w.observerRefs := rfl
@[simp] theorem setBridge_fatal (b : XWaylandSurface) : (w.setBridge win b).fatal = w.fatal := rfl
@[simp] theorem setBridge_reads (b : XWaylandSurface) : (w.setBridge win b).reads = w.reads := rfl

@[simp] theorem setBridge_same : w.setBridge win (w.bridges win) = w := by
  simp [setBridge]

@[simp] theorem setBridge_setBridge (b c : XWaylandSurface) :
    (w.setBridge win b).setBridge win c = w.setBridge win c := by
  simp [setBridge]

@[simp] theorem setRefs_self (o : ObserverId) (f : Nat → Nat) :
    (w.setRefs o f).observerRefs o = f (w.observerRefs o) := by simp [setRefs]

theorem setRefs_ne (o : ObserverId) (f : Nat → Nat) {p : ObserverId} (h : p ≠ o) :
    (w.setRefs o f).observerRefs p = w.observerRefs p := by
  simp [setRefs, Function.update_noteq h]

end World

/-! ## Primitive sections -/

namespace Section

variable (win : Window)

/-- A section with window `win`'s mutex held, on its bridge alone. -/
def locked {α : Type} (f : XWaylandSurface → α × XWaylandSurface) : Prog World α :=
  .atomic fun w => ((f (w.bridges win)).1, w.setBridge win (f (w.bridges win)).2)

/-- `weak_scene_surface.lock()` under the mutex. -/
def sceneSurface : Prog World (Option SurfaceId) :=
  .atomic fun w => (w.sceneSurfaceOf win, w)

/-- `connection->set_property`: the request sent, and the property set. -/
def setProperty (atom : Atom) (v : PropValue) : Prog World Unit :=
  .atomic fun w =>
    ((), { w with props := Function.update w.props win (Function.update (w.props win) atom (some v))
                  xlog := .changeProperty win atom v :: w.xlog })

/-- `connection->delete_property` and `xcb_delete_property`: the request sent, and the property
gone. -/
def deleteProperty (atom : Atom) : Prog World Unit :=
  .atomic fun w =>
    ((), { w with props := Function.update w.props win (Function.update (w.props win) atom none)
                  xlog := .deleteProperty win atom :: w.xlog })

/-- `xcb_map_window`: the request sent, and the window mapped. -/
def mapWindow : Prog World Unit :=
  .atomic fun w =>
    ((), { w with mapped := Function.update w.mapped win true, xlog := .mapWindow win :: w.xlog })

/-- `xcb_unmap_window`: the request sent, and the window unmapped. -/
def unmapWindow : Prog World Unit :=
  .atomic fun w =>
    ((), { w with mapped := Function.update w.mapped win false, xlog := .unmapWindow win :: w.xlog })

/-- A request that changes nothing the bridge reads back: only logged. -/
def send (r : XRequest) : Prog World Unit :=
  .atomic fun w => ((), { w with xlog := r :: w.xlog })

/-- `connection->configure_window`; throws where the world says it does. -/
def configureWindow (position : Option Point) (size : Option Size) (sibling : Option Window)
    (stackMode : Option StackMode) : Prog World Unit :=
  .atomicE fun w =>
    if w.refusesConfigure then (.error "configure_window failed", w)
    else (.ok (), { w with xlog := .configureWindow win position size sibling stackMode :: w.xlog })

/-- The first phase of a property read: the request goes out, and its reply carries the value
the property has now. -/
def readProperty (atom : Atom) : Prog World (Option PropValue) :=
  .atomic fun w => (w.props win atom, { w with reads := (win, atom, w.props win atom) :: w.reads })

/-- A read of the shell's record of a surface (its getters). -/
def surface {β : Type} (id : SurfaceId) (f : SceneSurface → β) : Prog World (Option β) :=
  .atomic fun w => ((w.shell.surfaces id).map f, w)

/-- `shell->create_surface`: the new surface holds a copy of the observer's reference. -/
def createSurface (session : SessionId) (params : SurfaceCreationParameters) (o : ObserverId) :
    Prog World SurfaceId :=
  .atomicE fun w =>
    if w.shell.refusesCreate then (.error "create_surface failed", w)
    else (.ok w.shell.nextSurface,
      { w with shell := w.shell.create session params o }.setRefs o (· + 1))

/-- `shell->modify_surface`. -/
def modifySurface (id : SurfaceId) (spec : SurfaceSpecification) : Prog World Unit :=
  .atomic fun w => ((), { w with shell := w.shell.modify id spec })

/-- `shell->destroy_surface`. -/
def destroySurface (id : SurfaceId) : Prog World Unit :=
  .atomic fun w => ((), { w with shell := w.shell.destroy id })

/-- `scene_surface->remove_observer`: the surface's reference goes, if it held one. -/
def removeObserver (id : SurfaceId) (o : ObserverId) : Prog World Unit :=
  .atomic fun w =>
    ((), { w with shell := w.shell.removeObserver id o }.setRefs o fun n =>
      if ((w.shell.surfaces id).map fun s : SceneSurface => decide (o ∈ s.observers)).getD false
      then n - 1
      else n)

/-- `shell->request_move`. -/
def requestMove (id : SurfaceId) (timestamp : Nat) : Prog World Unit :=
  .atomic fun w => ((), { w with shell := { w.shell with log := .requestMove id timestamp :: w.shell.log } })

/-- `shell->request_resize`. -/
def requestResize (id : SurfaceId) (timestamp : Nat) (edge : MirResizeEdge) : Prog World Unit :=
  .atomic fun w =>
    ((), { w with shell := { w.shell with log := .requestResize id timestamp edge :: w.shell.log } })

/-- `std::make_shared<XWaylandSurfaceObserver>`: a fresh observer with one reference. -/
def makeObserver : Prog World ObserverId :=
  .atomic fun w => (w.nextObserver,
    { w with nextObserver := w.nextObserver + 1 }.setRefs w.nextObserver fun _ => 1)

/-- A shared reference to the observer released. -/
def releaseObserver (o : ObserverId) : Prog World Unit :=
  .atomic fun w => ((), w.setRefs o (· - 1))

/-- `weak_observer.lock()` after the last release `close` expects: a reference that survives is
`fatal_error`. -/
def observerMustBeDead (o : ObserverId) : Prog World Unit :=
  .atomic fun w => ((), { w with fatal := w.fatal || decide (0 < w.observerRefs o) })

end Section

end XWaylandBridge
