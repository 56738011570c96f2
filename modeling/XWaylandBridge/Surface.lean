import Mathlib.Data.Fin.VecNotation
import XWaylandBridge.World

/-!
# `XWaylandSurface` — the member functions

Each member function of `xwayland_surface.cpp` as a program of atomic sections over `World`,
for the bridge of window `win` on a connection with atom cache `a`. The lock sections are the
`std::lock_guard` scopes of the source; every call on the connection, the shell, a scene surface
or the observer is a section of its own (`XWaylandBridge.Section`). Logging is left out: it
reads nothing the bridge keeps and writes nothing it reads.

The order below is the order of definition Lean needs: first the private helpers
(`pending_spec`, `consume_pending_spec`, `inform_client_of_window_state`,
`request_scene_surface_state`, `latest_input_timestamp`, `is_transient_for`, the property
handler table), then the public functions in the order of the source.

**Modelled from the spec**: `XWaylandWM::set_focus`, called by `scene_surface_focus_set` and
not part of the sources: gaining focus makes the window the focused one, losing it clears the
focus if the window held it.
-/

set_option autoImplicit false

namespace XWaylandBridge

/-- `XCB_EVENT_MASK_SUBSTRUCTURE_REDIRECT`. -/
def xcbEventMaskSubstructureRedirect : Nat := 1048576

/-- `XCB_EVENT_MASK_FOCUS_CHANGE`. -/
def xcbEventMaskFocusChange : Nat := 2097152

/-- `XCB_EVENT_MASK_PROPERTY_CHANGE`. -/
def xcbEventMaskPropertyChange : Nat := 4194304

/-- `XCB_EVENT_MASK_NO_EVENT`. -/
def xcbEventMaskNoEvent : Nat := 0

/-- `XCB_TIME_CURRENT_TIME`. -/
def xcbTimeCurrentTime : Nat := 0

/-- `XCB_CONFIG_WINDOW_X`, `_Y`, `_WIDTH`, `_HEIGHT`: bits of a configure request's mask. -/
def xcbConfigWindowX : Nat := 1
def xcbConfigWindowY : Nat := 2
def xcbConfigWindowWidth : Nat := 4
def xcbConfigWindowHeight : Nat := 8

/-- The fields of `xcb_create_notify_event_t` the constructor reads. -/
structure CreateNotifyEvent where
  x : Int
  y : Int
  width : Int
  height : Int
  overrideRedirect : Bool

/-- The fields of `xcb_configure_request_event_t` `configure_request` reads. -/
structure ConfigureRequestEvent where
  valueMask : Nat
  x : Int
  y : Int
  width : Int
  height : Int

/-- The fields of `xcb_configure_notify_event_t` `configure_notify` reads. -/
structure ConfigureNotifyEvent where
  x : Int
  y : Int
  width : Int
  height : Int
  overrideRedirect : Bool

/-- A client message's `uint32_t data[5]`. -/
abbrev ClientMessageData := Fin 5 → Nat

/-- What `attach_wl_surface` reads of its `WlSurface`: the session `get_session` finds for the
surface's client, if it finds one. -/
structure WlSurface where
  session : Option SessionId

/-- The five entries of the property handler table, by what the handler does. -/
inductive Handler where
  | wmClass
  | wmName
  | netWmName
  | wmTransientFor
  | wmProtocols
  deriving DecidableEq, Repr

/-- `property_handlers`, a `std::map` from atom to handler, in the map's order: the three
predefined atoms by number, then the two interned ones by number. -/
def propertyHandlers (a : Atoms) : List (Atom × Handler) :=
  [(xcbAtomWmName, .wmName), (xcbAtomWmClass, .wmClass), (xcbAtomWmTransientFor, .wmTransientFor)] ++
    if a.netWmName < a.wmProtocols then [(a.netWmName, .netWmName), (a.wmProtocols, .wmProtocols)]
    else [(a.wmProtocols, .wmProtocols), (a.netWmName, .netWmName)]

/-- `wm_resize_edge_to_mir_resize_edge`, on the raw `_NET_WM_MOVERESIZE` detail: the eight
edges, and nothing for `MOVE`, the keyboard and cancel values, and any other value. -/
def wmResizeEdgeToMirResizeEdge (detail : Nat) : Option MirResizeEdge :=
  match detail with
  | 0 => some .northwest
  | 1 => some .north
  | 2 => some .northeast
  | 3 => some .east
  | 4 => some .southeast
  | 5 => some .south
  | 6 => some .southwest
  | 7 => some .west
  | _ => none

/-- The `_NET_WM_STATE` action on one flag: `REMOVE = 0`, `ADD = 1`, `TOGGLE = 2`. Any other
value matches no case of the switch and leaves the flag. -/
def netWmStateAction (action : Nat) (b : Bool) : Bool :=
  if action = 0 then false else if action = 1 then true else if action = 2 then !b else b

@[simp] theorem netWmStateAction_toggle (b : Bool) : netWmStateAction 2 b = !b := rfl

/-- One target property of a `_NET_WM_STATE` message applied to the state. A zero property is
skipped; one that names no flag is applied to a local `nil` and changes nothing. -/
def applyNetWmStateProperty (a : Atoms) (action : Nat) (s : WindowState) (property : Atom) :
    WindowState :=
  if property = 0 then s
  else if property = a.netWmStateHidden then { s with minimized := netWmStateAction action s.minimized }
  else if property = a.netWmStateMaximizedHorz then
    { s with maximized := netWmStateAction action s.maximized }
  else if property = a.netWmStateFullscreen then
    { s with fullscreen := netWmStateAction action s.fullscreen }
  else s

/-- The state a `_NET_WM_STATE` message asks for: its action on `data[1]`, then on `data[2]`. -/
def netWmStateRequested (a : Atoms) (data : ClientMessageData) (s : WindowState) : WindowState :=
  applyNetWmStateProperty a (data 0) (applyNetWmStateProperty a (data 0) s (data 1)) (data 2)

@[simp] theorem applyNetWmStateProperty_withdrawn (a : Atoms) (action : Nat) (s : WindowState)
    (property : Atom) : (applyNetWmStateProperty a action s property).withdrawn = s.withdrawn := by
  unfold applyNetWmStateProperty; split_ifs <;> rfl

@[simp] theorem netWmStateRequested_withdrawn (a : Atoms) (data : ClientMessageData)
    (s : WindowState) : (netWmStateRequested a data s).withdrawn = s.withdrawn := by
  simp [netWmStateRequested]

/-- The message `wm_change_state_client_message` throws with. -/
def invalidWmChangeState (requested : Nat) : String :=
  "WM_CHANGE_STATE client message sent invalid state " ++ toString requested

/-- The state a `WM_CHANGE_STATE` message asks for: `NORMAL` clears `minimized`, `ICONIC` sets
it, and any other value throws. -/
def wmChangeStateRequested (data : ClientMessageData) (s : WindowState) : Except String WindowState :=
  if data 0 = WmState.normal.toNat then .ok { s with minimized := false }
  else if data 0 = WmState.iconic.toNat then .ok { s with minimized := true }
  else .error (invalidWmChangeState (data 0))

theorem wmChangeStateRequested_withdrawn {data : ClientMessageData} {s s' : WindowState}
    (h : wmChangeStateRequested data s = .ok s') : s'.withdrawn = s.withdrawn := by
  unfold wmChangeStateRequested at h
  split_ifs at h <;> cases h <;> rfl

/-- The position a configure request asks for: its `x` and `y` where the mask sets them, the
old position's elsewhere. -/
def maskedPosition (ev : ConfigureRequestEvent) (old : Point) : Point :=
  ⟨if ev.valueMask &&& xcbConfigWindowX ≠ 0 then ev.x else old.x,
   if ev.valueMask &&& xcbConfigWindowY ≠ 0 then ev.y else old.y⟩

/-- The size a configure request asks for, the same way. -/
def maskedSize (ev : ConfigureRequestEvent) (old : Size) : Size :=
  ⟨if ev.valueMask &&& xcbConfigWindowWidth ≠ 0 then ev.width else old.width,
   if ev.valueMask &&& xcbConfigWindowHeight ≠ 0 then ev.height else old.height⟩

/-- The modifications `configure_request` asks of an attached surface `s` with parent `parent`:
a moved position through `set_position` (the content position less the content offset), a
changed size as both width and height. -/
def configureRequestMods (ev : ConfigureRequestEvent) (s : SceneSurface)
    (parent : Option SceneSurface) : SurfaceSpecification :=
  let oldPosition := s.topLeft + s.contentOffset
  let newPosition := maskedPosition ev oldPosition
  let newSize := maskedSize ev s.contentSize
  let mods : SurfaceSpecification :=
    if oldPosition ≠ newPosition then setPosition parent (newPosition - s.contentOffset) {} else {}
  if s.contentSize ≠ newSize then { mods with width := some newSize.width, height := some newSize.height }
  else mods

/-- `property_notify`'s no-op filter: the consumed specification without the application id,
name and parent that already match the surface. The source makes the three checks one after
another; each reads and clears its own field only. -/
def dropUnchanged (sh : Shell) (s : SceneSurface) (spec : SurfaceSpecification) :
    SurfaceSpecification :=
  { spec with
    applicationId := if spec.applicationId = some s.applicationId then none else spec.applicationId
    name := if spec.name = some s.name then none else spec.name
    parent :=
      match spec.parent with
      | some p => if p.bind sh.lock = s.parent.bind sh.lock then none else some p
      | none => none }

namespace XWaylandSurface

/-- The constructor: the cached geometry and `override_redirect` of the create event. -/
def ofCreateNotify (ev : CreateNotifyEvent) : XWaylandSurface :=
  { cached := { overrideRedirect := ev.overrideRedirect, size := ⟨ev.width, ev.height⟩,
                topLeft := ⟨ev.x, ev.y⟩ } }

/-- `pending_spec(lock)`: the pending specification, created empty on first use. -/
def pendingSpec (b : XWaylandSurface) : SurfaceSpecification := b.nullablePendingSpec.getD {}

/-- The bridge with its pending specification (created if need be) changed by `f`. -/
def withPendingSpec (b : XWaylandSurface) (f : SurfaceSpecification → SurfaceSpecification) :
    XWaylandSurface :=
  { b with nullablePendingSpec := some (f b.pendingSpec) }

/-- `latest_input_timestamp(lock)`: the observer's latest timestamp, or zero without one. -/
def latestInputTimestamp (w : World) (b : XWaylandSurface) : Nat :=
  match b.surfaceObserver with
  | some o => w.observerTimestamp o
  | none => 0

section Members

variable (a : Atoms) (win : Window)

open Section

/-- The construction of the bridge for a created window: its fields, then the event mask. -/
def construct (ev : CreateNotifyEvent) : Prog World Unit := do
  locked win fun _ => ((), ofCreateNotify ev)
  send (.changeWindowAttributes win (xcbEventMaskPropertyChange ||| xcbEventMaskFocusChange))

/-- `consume_pending_spec(lock)`, with the scene surface locked in the same section, as
`property_notify` does. -/
def consumePendingSpec : Prog World (Option SurfaceSpecification) :=
  locked win fun b => (b.nullablePendingSpec, { b with nullablePendingSpec := none })

/-- `inform_client_of_window_state`: nothing if the state is the cached one; otherwise the
cache takes it under the lock, and after the lock `WM_STATE` and `_NET_WM_STATE` are written
(the latter deleted for a withdrawn window). -/
def informClientOfWindowState (s : WindowState) : Prog World Unit := do
  let changed ← locked win fun b =>
    if s = b.cached.state then (false, b) else (true, { b with cached := { b.cached with state := s } })
  if changed then
    setProperty win a.wmState s.wmStateProperty
    if s.withdrawn then deleteProperty win a.netWmState
    else setProperty win a.netWmState (.atoms (s.netWmStates a))

/-- `request_scene_surface_state`: a modification of the attached surface's state, if it is
not that state already. -/
def requestSceneSurfaceState (m : MirWindowState) : Prog World Unit := do
  match ← sceneSurface win with
  | none => pure ()
  | some id =>
    let current ← surface id (·.state)
    if current ≠ some m then modifySurface id { state := some m }

/-- `get_scene_surface_from` in `is_transient_for`: the live scene surface of the window's
bridge, read under that bridge's mutex, if the window manager has a bridge for it. -/
def getSceneSurfaceFrom (x : Window) : Prog World (Option SurfaceId) :=
  .atomic fun w => (if w.managed x then w.sceneSurfaceOf x else none, w)

/-- The parent `is_transient_for` resolves: the surface of the transient-for window's bridge,
else that of the focused window's bridge, else none; nothing for `XCB_WINDOW_NONE`. -/
def resolveTransientFor (transientFor : Window) : Prog World (Option SurfaceId) :=
  if transientFor ≠ xcbWindowNone then do
    match ← getSceneSurfaceFrom transientFor with
    | some p => pure (some p)
    | none =>
      match ← Prog.atomic fun w => (w.focused, w) with
      | some f => getSceneSurfaceFrom f
      | none => pure none
  else pure none

/-- `is_transient_for`: the resolved parent and the position it implies go into the pending
specification. The position is `cached.top_left` through `set_position`. -/
def isTransientFor (transientFor : Window) : Prog World Unit := do
  let parent ← resolveTransientFor transientFor
  .atomic fun w =>
    let b := w.bridges win
    ((), w.setBridge win (b.withPendingSpec fun spec =>
      setPosition (parent.bind w.shell.surfaces) b.cached.topLeft { spec with parent := some parent }))

/-- The second phase of a property read: the reply decoded to the handler's type and handed to
the handler. Modelled from the spec: `XCBConnection::read_property` is not in the source, and
the spec's property-fetch protocol runs the handler's error path instead when the property is
missing or its reply does not decode to the handler's type. That path is
`is_transient_for(XCB_WINDOW_NONE)` for `WM_TRANSIENT_FOR`, clearing the protocols for
`WM_PROTOCOLS`, and the default no-op for the others. -/
def applyReply : Handler → Option PropValue → Prog World Unit
  | .wmClass, some (.string v) =>
    locked win fun b => ((), b.withPendingSpec fun s => { s with applicationId := some v })
  | .wmName, some (.string v) | .netWmName, some (.string v) =>
    locked win fun b => ((), b.withPendingSpec fun s => { s with name := some v })
  | .wmTransientFor, some (.window t) => isTransientFor win t
  | .wmProtocols, some (.atoms l) =>
    locked win fun b => ((), { b with cached := { b.cached with supportedWmProtocols := l.toFinset } })
  | .wmTransientFor, _ => isTransientFor win xcbWindowNone
  | .wmProtocols, _ =>
    locked win fun b => ((), { b with cached := { b.cached with supportedWmProtocols := ∅ } })
  | _, _ => pure ()

/-- Phase one for every handler in the table's order: the reads go out, their replies wait. -/
def issueReads : List (Atom × Handler) → Prog World (List (Handler × Option PropValue))
  | [] => pure []
  | (atom, h) :: rest => do
    let reply ← readProperty win atom
    let replies ← issueReads rest
    pure ((h, reply) :: replies)

/-- Phase two for the replies in order. -/
def processReplies : List (Handler × Option PropValue) → Prog World Unit
  | [] => pure ()
  | (h, reply) :: rest => do
    applyReply win h reply
    processReplies rest

/-- `XWaylandSurface::map`. -/
def map : Prog World Unit := do
  let state ← locked win fun b => (b.cached.state, b)
  setProperty win a.netWmDesktop (.cardinals [1])
  let state := { state with withdrawn := false }
  informClientOfWindowState a win state
  requestSceneSurfaceState win state.mirWindowState
  mapWindow win

/-- The end of `close`, on what its first section took: the observer removed from the surface,
the surface destroyed, and last the observer released, with `fatal_error` if a reference
survives. -/
def closeDetach (sceneSurface : Option SurfaceId) (observer : Option ObserverId) :
    Prog World Unit := do
  match sceneSurface, observer with
  | some s, some o => removeObserver s o
  | _, _ => pure ()
  match sceneSurface with
  | some s => destroySurface s
  | none => pure ()
  match observer with
  | some o => do
    releaseObserver o
    observerMustBeDead o
  | none => pure ()

/-- `XWaylandSurface::close`: the references taken and cleared under the lock; then the
desktop, the withdrawn state and the unmap; then `closeDetach`. -/
def close : Prog World Unit := do
  let (state, sceneSurface, observer) ← Prog.atomic fun w =>
    let b := w.bridges win
    ((b.cached.state, w.sceneSurfaceOf win, b.surfaceObserver),
     w.setBridge win { b with weakSceneSurface := none, weakSession := none, surfaceObserver := none })
  deleteProperty win a.netWmDesktop
  informClientOfWindowState a win { state with withdrawn := true }
  unmapWindow win
  closeDetach sceneSurface observer

/-- `XWaylandSurface::take_focus`. -/
def takeFocus : Prog World Unit := do
  let supports ← locked win fun b =>
    (if b.cached.overrideRedirect then none
     else some (decide (a.wmTakeFocus ∈ b.cached.supportedWmProtocols)), b)
  match supports with
  | none => pure ()
  | some supportsTakeFocus =>
    if supportsTakeFocus then
      send (.sendClientMessage win a.wmProtocols xcbEventMaskSubstructureRedirect
        [a.wmTakeFocus, xcbTimeCurrentTime])
    send (.setInputFocus win)

/-- `XWaylandSurface::configure_request`. -/
def configureRequest (ev : ConfigureRequestEvent) : Prog World Unit := do
  match ← sceneSurface win with
  | some id =>
    let mods ← Prog.atomic fun w =>
      (match w.shell.surfaces id with
       | some s => configureRequestMods ev s (w.shell.live s.parent)
       | none => {}, w)
    if !mods.isEmpty then modifySurface id mods
  | none =>
    let (topLeft, size) ← Prog.atomic fun w =>
      let c := (w.bridges win).cached
      ((maskedPosition ev c.topLeft, maskedSize ev c.size), w)
    configureWindow win (some topLeft) (some size) none none

/-- `XWaylandSurface::configure_notify`. -/
def configureNotify (ev : ConfigureNotifyEvent) : Prog World Unit :=
  locked win fun b => ((), { b with cached := { b.cached with
    overrideRedirect := ev.overrideRedirect, topLeft := ⟨ev.x, ev.y⟩, size := ⟨ev.width, ev.height⟩ } })

/-- `XWaylandSurface::net_wm_state_client_message`. -/
def netWmStateClientMessage (data : ClientMessageData) : Prog World Unit := do
  let newWindowState ← locked win fun b => (netWmStateRequested a data b.cached.state, b)
  informClientOfWindowState a win newWindowState
  requestSceneSurfaceState win newWindowState.mirWindowState

/-- `XWaylandSurface::wm_change_state_client_message`: the throw is inside the lock section. -/
def wmChangeStateClientMessage (data : ClientMessageData) : Prog World Unit := do
  let newWindowState ← Prog.atomicE fun w => (wmChangeStateRequested data (w.bridges win).cached.state, w)
  informClientOfWindowState a win newWindowState
  requestSceneSurfaceState win newWindowState.mirWindowState

/-- The end of `property_notify`: the pending specification consumed with the surface locked
in the same section, filtered against the surface, and applied if anything is left. -/
def applyPendingSpec : Prog World Unit := do
  let (sceneSurface, spec) ← Prog.atomic fun w =>
    let b := w.bridges win
    ((w.sceneSurfaceOf win, b.nullablePendingSpec), w.setBridge win { b with nullablePendingSpec := none })
  match spec, sceneSurface with
  | some spec, some id =>
    let spec ← Prog.atomic fun w =>
      (match w.shell.surfaces id with
       | some s => dropUnchanged w.shell s spec
       | none => spec, w)
    if !spec.isEmpty then modifySurface id spec
  | _, _ => pure ()

/-- `XWaylandSurface::property_notify`: both phases of the atom's handler, then the pending
specification applied. -/
def propertyNotify (property : Atom) : Prog World Unit :=
  match (propertyHandlers a).lookup property with
  | none => pure ()
  | some h => do
    let reply ← readProperty win property
    applyReply win h reply
    applyPendingSpec win

/-- The exception of a second `attach_wl_surface`. -/
def attachedTwice : String := "XWaylandSurface::set_wl_surface() called multiple times"

/-- The exception `get_session` throws for a surface whose client has no session. -/
def noSession : String := "no session for the wl_surface's client"

/-- The first lock section of `attach_wl_surface`: the multiple-call check, `get_session`,
the observer and session published, and the creation parameters from the cache. -/
def attachBegin (wl : WlSurface) (o : ObserverId) (w : World) :
    Except String (WindowState × SessionId × SurfaceCreationParameters) × World :=
  let b := w.bridges win
  if b.surfaceObserver.isSome || b.weakSession.isSome || (w.sceneSurfaceOf win).isSome then
    (.error attachedTwice, w)
  else match wl.session with
    | none => (.error noSession, w)
    | some session =>
      let state := { b.cached.state with withdrawn := false }
      (.ok (state, session,
        { size := b.cached.size, topLeft := b.cached.topLeft, state := state.mirWindowState,
          serverSideDecorated := !b.cached.overrideRedirect }),
       (w.setBridge win { b with surfaceObserver := some o, weakSession := some session }).setRefs o
         (· + 1))

/-- The rest of `attach_wl_surface` after its first lock section: the property reads and
their replies, the pending specification consumed into the parameters, the surface created,
the state pushed, the X window configured to the surface, and last the surface published. -/
def attachRest (observer : ObserverId) :
    WindowState × SessionId × SurfaceCreationParameters → Prog World Unit
  | (state, session, params) => do
    let replies ← issueReads win (propertyHandlers a)
    processReplies win replies
    let params ← locked win fun b =>
      ((match b.nullablePendingSpec with
        | some spec => params.updateFrom spec
        | none => params), { b with nullablePendingSpec := none })
    let id ← createSurface session params observer
    informClientOfWindowState a win state
    let geometry ← surface id fun s => (s.topLeft + s.contentOffset, s.contentSize)
    configureWindow win (geometry.map (·.1)) (geometry.map (·.2)) none (some .above)
    locked win fun b => ((), { b with weakSceneSurface := some id })

/-- The body of `attach_wl_surface` after the observer is made. -/
def attachBody (wl : WlSurface) (observer : ObserverId) : Prog World Unit :=
  Prog.atomicE (attachBegin win wl observer) >>= attachRest a win observer

/-- `XWaylandSurface::attach_wl_surface`. The observer's local reference is released on every
way out of the body, as its destructor does. -/
def attachWlSurface (wl : WlSurface) : Prog World Unit := do
  let observer ← makeObserver
  (attachBody a win wl observer).andFinally (releaseObserver observer)

/-- `XWaylandSurface::move_resize`. -/
def moveResize (detail : Nat) : Prog World Unit := do
  let (sceneSurface, timestamp) ← Prog.atomic fun w =>
    ((w.sceneSurfaceOf win, latestInputTimestamp w (w.bridges win)), w)
  if detail = 8 then
    match sceneSurface with
    | some s => requestMove s timestamp
    | none => pure ()
  else
    match wmResizeEdgeToMirResizeEdge detail, sceneSurface with
    | some edge, some s => requestResize s timestamp edge
    | _, _ => pure ()

/-- `XWaylandWM::set_focus`, modelled from the spec. -/
def setFocus (hasFocus : Bool) : Prog World Unit :=
  .atomic fun w =>
    ((), { w with focused := if hasFocus then some win else if w.focused = some win then none
                             else w.focused })

/-- `XWaylandSurface::scene_surface_focus_set`. -/
def sceneSurfaceFocusSet (hasFocus : Bool) : Prog World Unit := do
  setFocus win hasFocus
  configureWindow win none none none (some .above)

/-- `XWaylandSurface::scene_surface_state_set`. The stacking test compares with `minimized`
twice, as the source does. -/
def sceneSurfaceStateSet (newState : MirWindowState) : Prog World Unit := do
  let state ← locked win fun b => (b.cached.state.updatedFrom newState, b)
  informClientOfWindowState a win state
  if newState = .minimized ∨ newState = .minimized then
    configureWindow win none none none (some .below)

/-- `XWaylandSurface::scene_surface_resized`. -/
def sceneSurfaceResized (newSize : Size) : Prog World Unit :=
  configureWindow win none (some newSize) none none

/-- `XWaylandSurface::scene_surface_moved_to`: the new decoration top-left plus the attached
surface's content offset. -/
def sceneSurfaceMovedTo (newTopLeft : Point) : Prog World Unit := do
  let contentOffset ← match ← sceneSurface win with
    | some id => do
      let o ← surface id (·.contentOffset)
      pure (o.getD {})
    | none => pure {}
  configureWindow win (some (newTopLeft + contentOffset)) none none none

/-- `XWaylandSurface::scene_surface_close_requested`. -/
def sceneSurfaceCloseRequested : Prog World Unit := do
  let deleteWindow ← locked win fun b => (decide (a.wmDeleteWindow ∈ b.cached.supportedWmProtocols), b)
  if deleteWindow then
    send (.sendClientMessage win a.wmProtocols xcbEventMaskNoEvent
      [a.wmDeleteWindow, xcbTimeCurrentTime])
  else send (.killClient win)

/-- `XWaylandSurface::wl_surface_destroyed`. -/
def wlSurfaceDestroyed : Prog World Unit := close a win

/-- `XWaylandSurface::scene_surface()`. -/
def sceneSurfaceAccessor : Prog World (Option SurfaceId) := sceneSurface win

end Members

end XWaylandSurface

end XWaylandBridge
