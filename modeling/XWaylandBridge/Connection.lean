import XWaylandBridge.Geometry
import XWaylandBridge.WindowState

/-!
# The X connection — atoms, property values, requests

What the bridge reads from and writes to the X server through `XCBConnection`:

* window and atom identifiers, with xproto's predefined atoms the bridge names
  (`XCB_ATOM_WM_NAME`, `XCB_ATOM_WM_CLASS`, `XCB_ATOM_WM_TRANSIENT_FOR`) and the connection's
  interned ones (`Atoms`, the atom cache, shared and immutable after start-up);
* property values, by the type the typed reads decode (`PropValue`);
* the requests whose effect is not a property or the map state (`XRequest`), kept in a log;
* the ICCCM `WM_STATE` and EWMH `_NET_WM_STATE` encodings that
  `inform_client_of_window_state` writes (`WindowState.wmState`, `WindowState.netWmStates`).

`Atoms` carries what the X server guarantees of interned atoms as fields: they follow the
predefined ones and are pairwise distinct. Every lookup by atom in the bridge (the property
handler table, the `_NET_WM_STATE` targets) relies on exactly that, so an atom cache that could
alias two of them cannot be built.
-/

set_option autoImplicit false

namespace XWaylandBridge

/-- `xcb_window_t`. -/
abbrev Window := Nat

/-- `xcb_atom_t`. -/
abbrev Atom := Nat

/-- `XCB_WINDOW_NONE`. -/
def xcbWindowNone : Window := 0

/-- `XCB_ATOM_WM_NAME`, predefined atom 39. -/
def xcbAtomWmName : Atom := 39

/-- `XCB_ATOM_WM_CLASS`, predefined atom 67. -/
def xcbAtomWmClass : Atom := 67

/-- `XCB_ATOM_WM_TRANSIENT_FOR`, predefined atom 68, the last predefined one. -/
def xcbAtomWmTransientFor : Atom := 68

/-- The atoms `XCBConnection` interns at start-up and the bridge reads. -/
structure Atoms where
  wmProtocols : Atom
  wmTakeFocus : Atom
  wmDeleteWindow : Atom
  wmState : Atom
  netWmName : Atom
  netWmState : Atom
  netWmStateHidden : Atom
  netWmStateMaximizedHorz : Atom
  netWmStateMaximizedVert : Atom
  netWmStateFullscreen : Atom
  netWmDesktop : Atom
  /-- An interned atom comes after every predefined one. -/
  interned : ∀ x ∈ [wmProtocols, wmTakeFocus, wmDeleteWindow, wmState, netWmName, netWmState,
    netWmStateHidden, netWmStateMaximizedHorz, netWmStateMaximizedVert, netWmStateFullscreen,
    netWmDesktop], xcbAtomWmTransientFor < x
  /-- Two interned names are two atoms. -/
  distinct : [wmProtocols, wmTakeFocus, wmDeleteWindow, wmState, netWmName, netWmState,
    netWmStateHidden, netWmStateMaximizedHorz, netWmStateMaximizedVert, netWmStateFullscreen,
    netWmDesktop].Nodup

namespace Atoms

variable (a : Atoms)

theorem transientFor_lt_netWmName : xcbAtomWmTransientFor < a.netWmName :=
  a.interned _ (by simp)

theorem transientFor_lt_wmProtocols : xcbAtomWmTransientFor < a.wmProtocols :=
  a.interned _ (by simp)

/-- Two places of the interned list hold two different atoms. -/
private theorem interned_getElem_ne (i j : Nat) (hi : i < 11) (hj : j < 11) (hij : i < j) :
    [a.wmProtocols, a.wmTakeFocus, a.wmDeleteWindow, a.wmState, a.netWmName, a.netWmState,
      a.netWmStateHidden, a.netWmStateMaximizedHorz, a.netWmStateMaximizedVert,
      a.netWmStateFullscreen, a.netWmDesktop][i] ≠
    [a.wmProtocols, a.wmTakeFocus, a.wmDeleteWindow, a.wmState, a.netWmName, a.netWmState,
      a.netWmStateHidden, a.netWmStateMaximizedHorz, a.netWmStateMaximizedVert,
      a.netWmStateFullscreen, a.netWmDesktop][j] :=
  List.pairwise_iff_getElem.mp a.distinct i j hi hj hij

theorem netWmName_ne_wmProtocols : a.netWmName ≠ a.wmProtocols :=
  (a.interned_getElem_ne 0 4 (by decide) (by decide) (by decide)).symm

theorem hidden_ne_maximizedHorz : a.netWmStateHidden ≠ a.netWmStateMaximizedHorz :=
  a.interned_getElem_ne 6 7 (by decide) (by decide) (by decide)

theorem hidden_ne_fullscreen : a.netWmStateHidden ≠ a.netWmStateFullscreen :=
  a.interned_getElem_ne 6 9 (by decide) (by decide) (by decide)

theorem maximizedHorz_ne_fullscreen : a.netWmStateMaximizedHorz ≠ a.netWmStateFullscreen :=
  a.interned_getElem_ne 7 9 (by decide) (by decide) (by decide)

/-! The two state properties the bridge writes are distinct from each other, from the desktop
property it also writes, and from every property its handlers read. -/

theorem wmState_ne_netWmState : a.wmState ≠ a.netWmState :=
  a.interned_getElem_ne 3 5 (by decide) (by decide) (by decide)
theorem netWmDesktop_ne_wmState : a.netWmDesktop ≠ a.wmState :=
  (a.interned_getElem_ne 3 10 (by decide) (by decide) (by decide)).symm
theorem netWmDesktop_ne_netWmState : a.netWmDesktop ≠ a.netWmState :=
  (a.interned_getElem_ne 5 10 (by decide) (by decide) (by decide)).symm
theorem netWmName_ne_wmState : a.netWmName ≠ a.wmState :=
  (a.interned_getElem_ne 3 4 (by decide) (by decide) (by decide)).symm
theorem netWmName_ne_netWmState : a.netWmName ≠ a.netWmState :=
  a.interned_getElem_ne 4 5 (by decide) (by decide) (by decide)
theorem wmProtocols_ne_wmState : a.wmProtocols ≠ a.wmState :=
  a.interned_getElem_ne 0 3 (by decide) (by decide) (by decide)
theorem wmProtocols_ne_netWmState : a.wmProtocols ≠ a.netWmState :=
  a.interned_getElem_ne 0 5 (by decide) (by decide) (by decide)

theorem transientFor_lt_wmState : xcbAtomWmTransientFor < a.wmState :=
  a.interned _ (by simp)

theorem transientFor_lt_netWmState : xcbAtomWmTransientFor < a.netWmState :=
  a.interned _ (by simp)

/-- An atom cache as an X server with nothing else interned hands it out: the interned atoms
numbered from 69 in the order the connection interns them. -/
def fresh : Atoms where
  wmProtocols := 69
  wmTakeFocus := 70
  wmDeleteWindow := 71
  wmState := 72
  netWmName := 73
  netWmState := 74
  netWmStateHidden := 75
  netWmStateMaximizedHorz := 76
  netWmStateMaximizedVert := 77
  netWmStateFullscreen := 78
  netWmDesktop := 79
  interned := by decide
  distinct := by decide

end Atoms

/-- A property's value as the typed reads decode it. -/
inductive PropValue where
  | string (s : String)
  | window (w : Window)
  | atoms (l : List Atom)
  | cardinals (l : List Nat)
  deriving DecidableEq, Repr

/-- `XCB_STACK_MODE_ABOVE` and `XCB_STACK_MODE_BELOW`. -/
inductive StackMode where
  | above
  | below
  deriving DecidableEq, Repr

/-- A request the bridges send the X server. The property reads are logged with their replies
(`World.reads`) instead. -/
inductive XRequest where
  /-- `ChangeProperty`: `connection->set_property`. -/
  | changeProperty (w : Window) (property : Atom) (value : PropValue)
  /-- `DeleteProperty`: `connection->delete_property` and `xcb_delete_property`. -/
  | deleteProperty (w : Window) (property : Atom)
  /-- `xcb_map_window`. -/
  | mapWindow (w : Window)
  /-- `xcb_unmap_window`. -/
  | unmapWindow (w : Window)
  /-- `XCBConnection::configure_window`: position, size, sibling, stack mode. -/
  | configureWindow (w : Window) (position : Option Point) (size : Option Size)
      (sibling : Option Window) (stackMode : Option StackMode)
  /-- `xcb_set_input_focus` to the window, pointer-root revert. -/
  | setInputFocus (w : Window)
  /-- `send_client_message<WM_PROTOCOLS>` with its event mask and data. -/
  | sendClientMessage (w : Window) (type : Atom) (mask : Nat) (data : List Nat)
  /-- `xcb_kill_client`. -/
  | killClient (w : Window)
  /-- `xcb_change_window_attributes` of the event mask. -/
  | changeWindowAttributes (w : Window) (eventMask : Nat)
  deriving DecidableEq, Repr

/-- ICCCM `WmState`: `WITHDRAWN = 0`, `NORMAL = 1`, `ICONIC = 3`. -/
inductive WmState where
  | withdrawn
  | normal
  | iconic
  deriving DecidableEq, Repr

/-- The value of an ICCCM state on the wire. -/
def WmState.toNat : WmState → Nat
  | .withdrawn => 0
  | .normal => 1
  | .iconic => 3

namespace WindowState

/-- The ICCCM state `inform_client_of_window_state` writes for a window state. -/
def wmState (s : WindowState) : WmState :=
  if s.withdrawn then .withdrawn else if s.minimized then .iconic else .normal

/-- The `_NET_WM_STATE` atoms `inform_client_of_window_state` lists for a window state that is
not withdrawn. -/
def netWmStates (a : Atoms) (s : WindowState) : List Atom :=
  (if s.minimized then [a.netWmStateHidden] else []) ++
  (if s.maximized then [a.netWmStateMaximizedHorz, a.netWmStateMaximizedVert] else []) ++
  (if s.fullscreen then [a.netWmStateFullscreen] else [])

/-- The `WM_STATE` property: the state, then `XCB_WINDOW_NONE` for the icon window. -/
def wmStateProperty (s : WindowState) : PropValue :=
  .cardinals [s.wmState.toNat, xcbWindowNone]

end WindowState

end XWaylandBridge
