import XWaylandBridge.Frames

/-!
# Calls one after another

The window manager, the compositor and the Wayland side call into the bridges, and the X
clients change the properties of their own windows. `Call` is one such event, and
`serialRun` performs calls one after another, each to its end (an exception ends the call and
is caught by whoever made it), with nothing else in between. The sequential results are
stated over every list of calls, from a world with no window yet, whose shell and X server
refuse `create_surface` and `configure_window` or not (`World.start`). One result holds of
every interleaving: calls for other windows never touch a window's entry in the window manager's
table, its bridge, its properties or its map state (`runSchedule_other`).

**Modelled from the spec**: the window manager's dispatch. It makes a window's bridge once,
on the window's create notify, and puts the window in its table then; it hands every other
event to the bridge of a window in its table and drops events for any other window. X clients
write only their own properties, the ones the bridges read with their property handlers.
-/

set_option autoImplicit false

namespace XWaylandBridge

/-- One event, from the window manager, the compositor, the Wayland side or an X client. -/
inductive Call where
  | create (win : Window) (ev : CreateNotifyEvent)
  | map (win : Window)
  | close (win : Window)
  | takeFocus (win : Window)
  | configureRequest (win : Window) (ev : ConfigureRequestEvent)
  | configureNotify (win : Window) (ev : ConfigureNotifyEvent)
  | netWmStateClientMessage (win : Window) (data : ClientMessageData)
  | wmChangeStateClientMessage (win : Window) (data : ClientMessageData)
  | propertyNotify (win : Window) (property : Atom)
  | attachWlSurface (win : Window) (wl : WlSurface)
  | moveResize (win : Window) (detail : Nat)
  | sceneSurfaceFocusSet (win : Window) (hasFocus : Bool)
  | sceneSurfaceStateSet (win : Window) (newState : MirWindowState)
  | sceneSurfaceResized (win : Window) (newSize : Size)
  | sceneSurfaceMovedTo (win : Window) (newTopLeft : Point)
  | sceneSurfaceCloseRequested (win : Window)
  | wlSurfaceDestroyed (win : Window)
  /-- An X client sets or deletes a property of its window. -/
  | clientProperty (win : Window) (property : Atom) (value : Option PropValue)

/-- The window manager puts a window in its table, on the window's create notify. -/
def enterWindow (win : Window) : Prog World Unit :=
  .atomic fun w => ((), { w with managed := Function.update w.managed win true })

/-- `w'` agrees with `w` on every window but `win`: its entry in the window manager's table, its
bridge, its properties and its map state. -/
def World.Apart (win : Window) (w w' : World) : Prop :=
  ∀ v, v ≠ win → w'.managed v = w.managed v ∧ w'.bridges v = w.bridges v ∧
    w'.props v = w.props v ∧ w'.mapped v = w.mapped v

/-- A world is apart from itself. -/
theorem World.Apart.refl {win : Window} (w : World) : Apart win w w := fun _ _ => ⟨rfl, rfl, rfl, rfl⟩

/-- Two moves apart from the other windows make one. -/
theorem World.Apart.trans {win : Window} {w w' w'' : World} (h : Apart win w w')
    (h' : Apart win w' w'') : Apart win w w'' := fun v hv =>
  have ⟨h₁, h₂, h₃, h₄⟩ := h v hv
  have ⟨h₁', h₂', h₃', h₄'⟩ := h' v hv
  ⟨h₁'.trans h₁, h₂'.trans h₂, h₃'.trans h₃, h₄'.trans h₄⟩

/-- A local move, which keeps the whole table, is apart from the other windows. -/
theorem World.Local.apart {win : Window} {w w' : World} (h : Local win w w') : Apart win w w' :=
  fun v hv => ⟨congrFun h.1 v, h.2 v hv⟩

/-- The atoms X clients write: the ones with a property handler. -/
def clientAtoms (a : Atoms) : List Atom := (propertyHandlers a).map Prod.fst

/-- An X client's write of a property of its window: the value set, or `none` for a delete. -/
def clientWrite (win : Window) (property : Atom) (value : Option PropValue) : Prog World Unit :=
  .atomic fun w =>
    ((), { w with props := Function.update w.props win (Function.update (w.props win) property value) })

/-- Clients write neither of the two state properties. -/
theorem clientAtoms_ne_state {a : Atoms} {atom : Atom} (h : atom ∈ clientAtoms a) :
    atom ≠ a.wmState ∧ atom ≠ a.netWmState := by
  have h₁ := a.transientFor_lt_wmState
  have h₂ := a.transientFor_lt_netWmState
  unfold clientAtoms propertyHandlers at h
  split at h <;> simp only [List.cons_append, List.nil_append, List.map_cons, List.map_nil,
    List.mem_cons, List.mem_singleton, List.not_mem_nil, or_false] at h <;>
    rcases h with rfl | rfl | rfl | rfl | rfl
  -- the two interned atoms, then the three predefined ones, all below the state atoms
  all_goals first
    | exact ⟨a.netWmName_ne_wmState, a.netWmName_ne_netWmState⟩
    | exact ⟨a.wmProtocols_ne_wmState, a.wmProtocols_ne_netWmState⟩
    | exact ⟨(lt_of_le_of_lt (by decide) h₁).ne, (lt_of_le_of_lt (by decide) h₂).ne⟩

namespace Call

open XWaylandSurface

variable (a : Atoms)

/-- The program a call runs: the member function on its window's bridge, after, for a create,
the window manager's entry of the window in its table. -/
def prog : Call → Prog World Unit
  | create win ev => enterWindow win >>= fun _ => construct win ev
  | map win => XWaylandSurface.map a win
  | close win => XWaylandSurface.close a win
  | takeFocus win => XWaylandSurface.takeFocus a win
  | configureRequest win ev => XWaylandSurface.configureRequest win ev
  | configureNotify win ev => XWaylandSurface.configureNotify win ev
  | netWmStateClientMessage win data => XWaylandSurface.netWmStateClientMessage a win data
  | wmChangeStateClientMessage win data => XWaylandSurface.wmChangeStateClientMessage a win data
  | propertyNotify win property => XWaylandSurface.propertyNotify a win property
  | attachWlSurface win wl => XWaylandSurface.attachWlSurface a win wl
  | moveResize win detail => XWaylandSurface.moveResize win detail
  | sceneSurfaceFocusSet win hasFocus => XWaylandSurface.sceneSurfaceFocusSet win hasFocus
  | sceneSurfaceStateSet win newState => XWaylandSurface.sceneSurfaceStateSet a win newState
  | sceneSurfaceResized win newSize => XWaylandSurface.sceneSurfaceResized win newSize
  | sceneSurfaceMovedTo win newTopLeft => XWaylandSurface.sceneSurfaceMovedTo win newTopLeft
  | sceneSurfaceCloseRequested win => XWaylandSurface.sceneSurfaceCloseRequested a win
  | wlSurfaceDestroyed win => XWaylandSurface.wlSurfaceDestroyed a win
  | clientProperty win property value => clientWrite win property value

/-- The window a call is for. -/
def window : Call → Window
  | create win _ | map win | close win | takeFocus win | configureRequest win _
  | configureNotify win _ | netWmStateClientMessage win _ | wmChangeStateClientMessage win _
  | propertyNotify win _ | attachWlSurface win _ | moveResize win _ | sceneSurfaceFocusSet win _
  | sceneSurfaceStateSet win _ | sceneSurfaceResized win _ | sceneSurfaceMovedTo win _
  | sceneSurfaceCloseRequested win | wlSurfaceDestroyed win | clientProperty win _ _ => win

/-- Whether the call goes ahead in world `w`: a create for a window not yet in the table, a
client's write of one of its own properties, any other call for a window in the table. -/
def enabled (w : World) : Call → Bool
  | create win _ => !w.managed win
  | clientProperty _ property _ => property ∈ clientAtoms a
  | c => w.managed c.window

/-- One call to its end, if it goes ahead. -/
def perform (c : Call) (w : World) : World :=
  if c.enabled a w then ((c.prog a).run w).2 else w

open Prog World

/-- Every call but a create runs a member function of its window's bridge, and so touches that
window only and leaves the table as it is. -/
theorem prog_local {c : Call} (hc : ∀ win ev, c ≠ create win ev) :
    Guarantees (Local c.window) (c.prog a) := by
  cases c with
  | create win ev => exact absurd rfl (hc win ev)
  | map win => exact map_local a win
  | close win => exact close_local a win
  | takeFocus win => exact (takeFocus_quiet a win).toLocal
  | configureRequest win ev => exact (configureRequest_quiet win ev).toLocal
  | configureNotify win ev => exact (configureNotify_quiet win ev).toLocal
  | netWmStateClientMessage win data => exact netWmStateClientMessage_local a win data
  | wmChangeStateClientMessage win data => exact wmChangeStateClientMessage_local a win data
  | propertyNotify win property => exact (propertyNotify_quiet a win property).toLocal
  | attachWlSurface win wl => exact attachWlSurface_local a win wl
  | moveResize win detail => exact (moveResize_quiet win detail).toLocal
  | sceneSurfaceFocusSet win hasFocus => exact (sceneSurfaceFocusSet_quiet win hasFocus).toLocal
  | sceneSurfaceStateSet win newState => exact sceneSurfaceStateSet_local a win newState
  | sceneSurfaceResized win newSize => exact (sceneSurfaceResized_quiet win newSize).toLocal
  | sceneSurfaceMovedTo win newTopLeft => exact (sceneSurfaceMovedTo_quiet win newTopLeft).toLocal
  | sceneSurfaceCloseRequested win => exact (sceneSurfaceCloseRequested_quiet a win).toLocal
  | wlSurfaceDestroyed win => exact close_local a win
  | clientProperty win property value =>
    exact guarantees_atomic fun _ => ⟨rfl, fun _ hv => ⟨rfl, Function.update_noteq hv _ _, rfl⟩⟩

/-- Every call touches its own window only; a create enters it in the table. -/
theorem prog_apart (c : Call) : Guarantees (Apart c.window) (c.prog a) := by
  cases c with
  | create win ev =>
    exact guarantees_bind (guarantees_atomic fun _ v hv => ⟨Function.update_noteq hv _ _, rfl, rfl, rfl⟩)
      fun _ => (construct_local win ev).mono fun _ _ => Local.apart
  | _ => exact (prog_local a fun _ _ h => by cases h).mono fun _ _ => Local.apart

/-- **A call changes nothing of another window**: its table entry, bridge, properties and map
state. -/
theorem perform_other (c : Call) (w : World) {v : Window} (hv : v ≠ c.window) :
    (c.perform a w).managed v = w.managed v ∧ (c.perform a w).bridges v = w.bridges v ∧
      (c.perform a w).props v = w.props v ∧ (c.perform a w).mapped v = w.mapped v := by
  unfold perform
  split
  · exact (c.prog_apart a).run Apart.refl (fun _ _ _ => Apart.trans) w v hv
  · exact ⟨rfl, rfl, rfl, rfl⟩

/-- **Calls for other windows, interleaved in any order, leave a window alone**: whatever
threads run the calls for windows other than `u`, and however their sections interleave,
`u`'s entry in the window manager's table, its bridge, its properties and its map state are as
they were. -/
theorem runSchedule_other (w : World) (calls : List Call) {u : Window}
    (hu : ∀ c ∈ calls, c.window ≠ u) (sched : List Nat) :
    ((Threads.mk w (calls.map (prog a))).runSchedule sched).state.managed u = w.managed u ∧
      ((Threads.mk w (calls.map (prog a))).runSchedule sched).state.bridges u = w.bridges u ∧
      ((Threads.mk w (calls.map (prog a))).runSchedule sched).state.props u = w.props u ∧
      ((Threads.mk w (calls.map (prog a))).runSchedule sched).state.mapped u = w.mapped u := by
  refine Threads.AllGuarantee.runSchedule
    (R := fun x y : World => y.managed u = x.managed u ∧ y.bridges u = x.bridges u ∧
      y.props u = x.props u ∧ y.mapped u = x.mapped u)
    (fun _ => ⟨rfl, rfl, rfl, rfl⟩)
    (fun _ _ _ h h' => ⟨h'.1.trans h.1, h'.2.1.trans h.2.1, h'.2.2.1.trans h.2.2.1,
      h'.2.2.2.trans h.2.2.2⟩) sched _ fun p hp => ?_
  obtain ⟨c, hc, rfl⟩ := List.mem_map.mp hp
  exact (c.prog_apart a).mono fun _ _ h => h u (hu c hc).symm

/-- A create of window 2 and a close of window 3, interleaved, leave window 1 alone, its entry in
the table included, while window 2 enters it. -/
theorem runSchedule_other_create_close :
    (∀ c ∈ [Call.create 2 ⟨0, 0, 10, 10, false⟩, Call.close 3], c.window ≠ 1) ∧
      ((Threads.mk ({} : World) ([Call.create 2 ⟨0, 0, 10, 10, false⟩, Call.close 3].map (prog Atoms.fresh))).runSchedule
        [0, 1, 1, 0, 0]).state.managed 1 = ({} : World).managed 1 :=
  ⟨by decide, (runSchedule_other Atoms.fresh {} _ (by decide) _).1⟩

/-- There window 2 is entered in the table. -/
example : ((Threads.mk ({} : World) ([Call.create 2 ⟨0, 0, 10, 10, false⟩, Call.close 3].map (prog Atoms.fresh))).runSchedule
    [0, 1, 1, 0, 0]).state.managed 2 = true := by decide

/-- A create runs the window manager's entry of the window, then the constructor. -/
theorem perform_create (win : Window) (ev : CreateNotifyEvent) (w : World) :
    (create win ev).perform a w =
      if w.managed win then w
      else ((construct win ev).run { w with managed := Function.update w.managed win true }).2 := by
  unfold perform
  cases h : w.managed win <;> simp [enabled, h, prog, enterWindow]

/-- A call other than a create runs its member function when it is enabled. -/
theorem perform_of_ne_create {c : Call} (hc : ∀ win ev, c ≠ create win ev) (w : World) :
    c.perform a w = if c.enabled a w then ((c.prog a).run w).2 else w := by
  cases c <;> first | exact absurd rfl (hc _ _) | rfl

end Call

/-- The calls one after another, from `w`. -/
def serialRun (a : Atoms) (w : World) (calls : List Call) : World :=
  calls.foldl (fun w c => c.perform a w) w

/-- A world with no window yet, whose shell refuses every `create_surface` when
`refusesCreate` holds and whose X server refuses every `configure_window` when
`refusesConfigure` holds. -/
def World.start (refusesCreate refusesConfigure : Bool) : World :=
  { shell := { refusesCreate := refusesCreate }, refusesConfigure := refusesConfigure }

/-- The worlds some serial run reaches from a world with no window, whichever of the two
requests that can fail do. -/
def Reachable (a : Atoms) (w : World) : Prop :=
  ∃ refusesCreate refusesConfigure calls,
    serialRun a (World.start refusesCreate refusesConfigure) calls = w

/-- **An invariant of every call is an invariant of every serial run.** -/
theorem serialRun_invariant (a : Atoms) {I : World → Prop}
    (h : ∀ (c : Call) w, I w → I (c.perform a w))
    (calls : List Call) : ∀ w, I w → I (serialRun a w calls) := by
  induction calls with
  | nil => exact fun _ hw => hw
  | cons c calls ih => exact fun w hw => ih _ (h c w hw)

/-- An invariant of every call that holds at every start holds at every reachable world. -/
theorem Reachable.invariant {a : Atoms} {I : World → Prop} (h₀ : ∀ rc rf, I (World.start rc rf))
    (h : ∀ (c : Call) w, I w → I (c.perform a w)) {w : World} (hw : Reachable a w) : I w := by
  obtain ⟨rc, rf, calls, rfl⟩ := hw
  exact serialRun_invariant a h calls _ (h₀ rc rf)

end XWaylandBridge
