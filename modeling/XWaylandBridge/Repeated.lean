import XWaylandBridge.StateSync
import XWaylandBridge.ConfigureRequest
import XWaylandBridge.NoOpFilter

/-!
# Calls made twice

X clients resend their messages, and the window manager may map a window it has mapped. The
window manager's state calls absorb a repeat by construction: each computes the new state
from the cached one, `inform_client_of_window_state` writes nothing for a state the bridge has
cached already, and `request_scene_surface_state` asks the shell nothing for a surface that is
in the state already.

**What is proved.** From every world, a `_NET_WM_STATE` message whose action is not `TOGGLE`,
and a `WM_CHANGE_STATE` message, each run twice in a row, are the call run once
(`stateCalls_twice`): the second changes no property, no cached state and no map state, and
asks the shell and the X server nothing. A second `map` changes nothing either and asks the
shell nothing, but it writes `_NET_WM_DESKTOP` and maps the window again: the source sends both
unconditionally, so the X server's request log grows by those two requests. The state each message asks for is what it asks for
of its own result (`netWmStateRequested_idem`, `wmChangeStateRequested_idem`), and a state
asked of the shell twice is asked once (`requestSceneSurfaceState_twice`).

**What this does not decide.** `TOGGLE`, whose second message undoes the first
(`StateSync.lean`); and `scene_surface_state_set`, which restacks a minimized window on every
call, so that the X server's request log grows each time.
-/

set_option autoImplicit false

namespace XWaylandBridge

/-- `REMOVE`, `ADD` and an action the switch does not know set a flag to what they set it to. -/
theorem netWmStateAction_idem {action : Nat} (h : action ≠ 2) (b : Bool) :
    netWmStateAction action (netWmStateAction action b) = netWmStateAction action b := by
  unfold netWmStateAction
  split_ifs <;> simp_all

/-- Window states are equal when their four flags are. -/
theorem WindowState.eq_of_flags {s t : WindowState} (h₁ : s.withdrawn = t.withdrawn)
    (h₂ : s.minimized = t.minimized) (h₃ : s.maximized = t.maximized) (h₄ : s.fullscreen = t.fullscreen) :
    s = t := by
  cases s; cases t; simp_all

/-- **One target acts on one flag**: the flag its atom names, if it is not zero and names
one. -/
theorem applyNetWmStateProperty_eq (a : Atoms) (action : Nat) (s : WindowState) (p : Atom) :
    applyNetWmStateProperty a action s p =
      { s with
        minimized := if p ≠ 0 ∧ p = a.netWmStateHidden then netWmStateAction action s.minimized
          else s.minimized
        maximized := if p ≠ 0 ∧ p = a.netWmStateMaximizedHorz then netWmStateAction action s.maximized
          else s.maximized
        fullscreen := if p ≠ 0 ∧ p = a.netWmStateFullscreen then netWmStateAction action s.fullscreen
          else s.fullscreen } := by
  have h₁ := a.hidden_ne_maximizedHorz
  have h₂ := a.hidden_ne_fullscreen
  have h₃ := a.maximizedHorz_ne_fullscreen
  unfold applyNetWmStateProperty
  by_cases h₀ : p = 0
  · simp [h₀]
  by_cases hh : p = a.netWmStateHidden
  · subst hh; simp [h₀, h₁, h₂]
  by_cases hm : p = a.netWmStateMaximizedHorz
  · subst hm; simp [h₀, hh, h₃]
  by_cases hf : p = a.netWmStateFullscreen
  · subst hf; simp [h₀, hh, hm]
  · simp [h₀, hh, hm, hf]

/-- A target other than under `TOGGLE`, applied twice, is applied once. -/
theorem applyNetWmStateProperty_idem (a : Atoms) {action : Nat} (h : action ≠ 2) (s : WindowState)
    (p : Atom) :
    applyNetWmStateProperty a action (applyNetWmStateProperty a action s p) p =
      applyNetWmStateProperty a action s p := by
  refine WindowState.eq_of_flags (by simp) ?_ ?_ ?_ <;> simp only [applyNetWmStateProperty_eq] <;>
    split_ifs <;> simp [netWmStateAction_idem h]

/-- The two targets of a message act on the state in either order. -/
theorem applyNetWmStateProperty_comm (a : Atoms) (action : Nat) (s : WindowState) (p q : Atom) :
    applyNetWmStateProperty a action (applyNetWmStateProperty a action s p) q =
      applyNetWmStateProperty a action (applyNetWmStateProperty a action s q) p := by
  refine WindowState.eq_of_flags (by simp) ?_ ?_ ?_ <;> simp only [applyNetWmStateProperty_eq] <;>
    split_ifs <;> rfl

/-- A `_NET_WM_STATE` message other than `TOGGLE` asks, of the state it asks for, that state. -/
theorem netWmStateRequested_idem (a : Atoms) {data : ClientMessageData} (h : data 0 ≠ 2)
    (s : WindowState) :
    netWmStateRequested a data (netWmStateRequested a data s) = netWmStateRequested a data s := by
  unfold netWmStateRequested
  rw [applyNetWmStateProperty_comm a _ _ (data 2) (data 1), applyNetWmStateProperty_idem a h,
    applyNetWmStateProperty_idem a h]

/-- A `WM_CHANGE_STATE` message asks, of the state it asks for, that state. -/
theorem wmChangeStateRequested_idem {data : ClientMessageData} {s s' : WindowState}
    (hs : wmChangeStateRequested data s = .ok s') : wmChangeStateRequested data s' = .ok s' := by
  unfold wmChangeStateRequested at hs ⊢
  split_ifs at hs ⊢ <;> cases hs <;> rfl

namespace XWaylandSurface

variable (a : Atoms) (win : Window)

open Prog World Section

/-- A surface in the requested state, if there is one, is asked nothing. -/
theorem requestSceneSurfaceState_shown {m : MirWindowState} {w : World}
    (h : ∀ id, w.sceneSurfaceOf win = some id → (w.shell.surfaces id).map (·.state) = some m) :
    (requestSceneSurfaceState win m).run w = (.ok (), w) := by
  simp only [requestSceneSurfaceState, sceneSurface, surface, run_atomic_bind]
  rcases hid : w.sceneSurfaceOf win with _ | id
  · rfl
  · simp [h id hid]

/-- After `request_scene_surface_state`, the live surface, if there is one, is in the requested
state. -/
theorem requestSceneSurfaceState_run_shown (m : MirWindowState) (w : World) (id : SurfaceId)
    (hid : ((requestSceneSurfaceState win m).run w).2.sceneSurfaceOf win = some id) :
    ((((requestSceneSurfaceState win m).run w).2.shell.surfaces id).map (·.state)) = some m := by
  revert hid
  simp only [requestSceneSurfaceState, sceneSurface, surface, run_atomic_bind]
  rcases hj : w.sceneSurfaceOf win with _ | j
  · intro hid
    simp_all
  obtain ⟨s, hs⟩ := Shell.surfaces_of_lock (lock_of_sceneSurfaceOf hj)
  simp only [run_atomic_bind]
  split
  · intro hid
    have hij : id = j := by
      simp only [modifySurface, run_atomic, sceneSurfaceOf, Shell.lock_modify] at hid
      exact Option.some.inj (hid.symm.trans hj)
    subst hij
    simp [modifySurface, Shell.modify, Shell.update, hs, Shell.applySpec]
  · next hm =>
    intro hid
    obtain rfl : id = j := Option.some.inj (hid.symm.trans hj)
    simpa using hm

/-- **Asking the shell for a state twice is asking once.** -/
theorem requestSceneSurfaceState_twice (m : MirWindowState) (w : World) :
    (requestSceneSurfaceState win m).run ((requestSceneSurfaceState win m).run w).2 =
      (.ok (), ((requestSceneSurfaceState win m).run w).2) :=
  requestSceneSurfaceState_shown win (requestSceneSurfaceState_run_shown win m w)

/-- Informing a state, then asking the shell for it, leaves it cached. -/
theorem informRequest_state (s : WindowState) (w : World) :
    (((informClientOfWindowState a win s >>= fun _ => requestSceneSurfaceState win s.mirWindowState).run
      w).2.bridges win).cached.state = s := by
  rw [run_bind_of_ok (informClientOfWindowState_ok a win w s)]
  have h := congrArg WindowView.state (windowView_of_quiet a win ((informClientOfWindowState a win s).run w).2
    (requestSceneSurfaceState_quiet win s.mirWindowState))
  rw [informClientOfWindowState_windowView, WindowView.inform_state] at h
  exact h

/-- **Informing a state and asking the shell for it, twice, is doing it once.** -/
theorem informRequest_twice (s : WindowState) (w : World) :
    (informClientOfWindowState a win s >>= fun _ => requestSceneSurfaceState win s.mirWindowState).run
        ((informClientOfWindowState a win s >>= fun _ => requestSceneSurfaceState win s.mirWindowState).run w).2 =
      (.ok (), ((informClientOfWindowState a win s >>= fun _ =>
        requestSceneSurfaceState win s.mirWindowState).run w).2) := by
  rw [run_bind_ok (informClientOfWindowState_cached a win _ (informRequest_state a win s w)),
    run_bind_of_ok (informClientOfWindowState_ok a win w s), requestSceneSurfaceState_twice]

theorem informRequest_ok (s : WindowState) (w : World) :
    ((informClientOfWindowState a win s >>= fun _ => requestSceneSurfaceState win s.mirWindowState).run w).1 =
      .ok () := by
  rw [run_bind_of_ok (informClientOfWindowState_ok a win w s)]
  exact requestSceneSurfaceState_ok win _ _

theorem netWmStateClientMessage_twice (data : ClientMessageData) (h : data 0 ≠ 2) (w : World) :
    (netWmStateClientMessage a win data >>= fun _ => netWmStateClientMessage a win data).run w =
      (netWmStateClientMessage a win data).run w := by
  have hrun (x : World) : (netWmStateClientMessage a win data).run x =
      (informClientOfWindowState a win (netWmStateRequested a data (x.bridges win).cached.state) >>= fun _ =>
        requestSceneSurfaceState win (netWmStateRequested a data (x.bridges win).cached.state).mirWindowState).run x := by
    simp only [netWmStateClientMessage, locked, run_atomic_bind, setBridge_same]
  rw [run_bind_of_ok (by rw [hrun]; exact informRequest_ok a win _ w), hrun, hrun w, informRequest_state,
    netWmStateRequested_idem a h, informRequest_twice]
  exact Prod.ext (informRequest_ok a win _ w).symm rfl

theorem wmChangeStateClientMessage_twice (data : ClientMessageData) (w : World) :
    (wmChangeStateClientMessage a win data >>= fun _ => wmChangeStateClientMessage a win data).run w =
      (wmChangeStateClientMessage a win data).run w := by
  have hrun (x : World) : (wmChangeStateClientMessage a win data).run x =
      match wmChangeStateRequested data (x.bridges win).cached.state with
      | .ok s => (informClientOfWindowState a win s >>= fun _ =>
          requestSceneSurfaceState win s.mirWindowState).run x
      | .error e => (.error e, x) := by
    simp only [wmChangeStateClientMessage, run_atomicE_bind]
    rcases wmChangeStateRequested data (x.bridges win).cached.state with _ | _ <;> rfl
  rcases hs : wmChangeStateRequested data (w.bridges win).cached.state with e | s
  · rw [run_bind_error (by rw [hrun, hs]), hrun, hs]
  · rw [run_bind_of_ok (by rw [hrun, hs]; exact informRequest_ok a win s w), hrun, hrun w, hs,
      informRequest_state, wmChangeStateRequested_idem hs]
    dsimp only
    rw [informRequest_twice]
    exact Prod.ext (informRequest_ok a win s w).symm rfl

/-- A property written with the value it has changes nothing but the request log. -/
theorem setProperty_same {x : World} {atom : Atom} {v : PropValue} (h : x.props win atom = some v) :
    (setProperty win atom v).run x = (.ok (), { x with xlog := .changeProperty win atom v :: x.xlog }) := by
  simp only [setProperty, run_atomic, ← h, Function.update_eq_self]

/-- A mapped window mapped again changes nothing but the request log. -/
theorem mapWindow_same {x : World} (h : x.mapped win = true) :
    (mapWindow win).run x = (.ok (), { x with xlog := .mapWindow win :: x.xlog }) := by
  simp only [mapWindow, run_atomic, ← h, Function.update_eq_self]

/-- `map`'s run, from the state it finds cached: the desktop written, the state without
`withdrawn` informed and asked of the shell, and the window mapped. -/
theorem map_run {x : World} {s : WindowState} (hs : (x.bridges win).cached.state = s) :
    (map a win).run x = (mapWindow win).run
      ((requestSceneSurfaceState win { s with withdrawn := false }.mirWindowState).run
        ((informClientOfWindowState a win { s with withdrawn := false }).run
          ((setProperty win a.netWmDesktop (.cardinals [1])).run x).2).2).2 := by
  subst hs
  simp only [map, locked, run_atomic_bind, setBridge_same]
  rw [run_bind_of_ok (p := setProperty win a.netWmDesktop _) rfl,
    run_bind_of_ok (informClientOfWindowState_ok a win _ _),
    run_bind_of_ok (requestSceneSurfaceState_ok win _ _)]

theorem mapWindow_frame (y : World) : ((mapWindow win).run y).2.props = y.props ∧
    ((mapWindow win).run y).2.shell = y.shell ∧ ((mapWindow win).run y).2.bridges = y.bridges :=
  ⟨rfl, rfl, rfl⟩

/-- A second `map` finds its state cached, the desktop set, the surface in the state and the
window mapped: it asks the shell nothing and changes nothing, but sends the X server the
desktop and the map again. -/
theorem map_twice (w : World) : (map a win >>= fun _ => map a win).run w =
    (.ok (), { ((map a win).run w).2 with
      xlog := .mapWindow win :: .changeProperty win a.netWmDesktop (.cardinals [1]) ::
        ((map a win).run w).2.xlog }) := by
  have hview := map_windowView a win w
  have hs₁ : (((map a win).run w).2.bridges win).cached.state =
      { (w.bridges win).cached.state with withdrawn := false } := by
    simpa using congrArg WindowView.state hview
  have hmapped : ((map a win).run w).2.mapped win = true := by
    simpa using congrArg WindowView.mapped hview
  have hdesktop : ((map a win).run w).2.props win a.netWmDesktop = some (.cardinals [1]) := by
    rw [map_run a win rfl, (mapWindow_frame win _).1,
      ((requestSceneSurfaceState_quiet win _).run Quiet.refl (fun _ _ _ => Quiet.trans) _).props,
      informClientOfWindowState_props a win a.netWmDesktop_ne_wmState a.netWmDesktop_ne_netWmState]
    simp [setProperty]
  have hshown : ∀ id, ((map a win).run w).2.sceneSurfaceOf win = some id →
      ((((map a win).run w).2.shell.surfaces id).map (·.state)) =
        some { (w.bridges win).cached.state with withdrawn := false }.mirWindowState := by
    rw [map_run a win rfl]
    simp only [sceneSurfaceOf, (mapWindow_frame win _).2.1, (mapWindow_frame win _).2.2]
    exact requestSceneSurfaceState_run_shown win _ _
  have hok : ((map a win).run w).1 = .ok () := by rw [map_run a win rfl]; rfl
  rw [run_bind_of_ok hok, map_run a win hs₁, setProperty_same win hdesktop]
  generalize ((map a win).run w).2 = y at hs₁ hmapped hshown ⊢
  set y₁ := { y with xlog := .changeProperty win a.netWmDesktop (.cardinals [1]) :: y.xlog }
  rw [informClientOfWindowState_cached a win y₁ hs₁, requestSceneSurfaceState_shown (w := y₁) win hshown,
    mapWindow_same (x := y₁) win hmapped]

/-- **The window manager's state calls absorb a repeat**: from every world, a `_NET_WM_STATE`
message whose action is not `TOGGLE`, and a `WM_CHANGE_STATE` message, each run twice in a row,
are the call run once; `map` run twice is `map` run once, but for the `_NET_WM_DESKTOP` write and
the `MapWindow` it sends the X server again. -/
theorem stateCalls_twice (w : World) (data : ClientMessageData) :
    (map a win >>= fun _ => map a win).run w =
      (.ok (), { ((map a win).run w).2 with
        xlog := .mapWindow win :: .changeProperty win a.netWmDesktop (.cardinals [1]) ::
          ((map a win).run w).2.xlog }) ∧
      (data 0 ≠ 2 → (netWmStateClientMessage a win data >>= fun _ =>
        netWmStateClientMessage a win data).run w = (netWmStateClientMessage a win data).run w) ∧
      (wmChangeStateClientMessage a win data >>= fun _ => wmChangeStateClientMessage a win data).run w =
        (wmChangeStateClientMessage a win data).run w :=
  ⟨map_twice a win w, fun h => netWmStateClientMessage_twice a win data h w,
    wmChangeStateClientMessage_twice a win data w⟩

/-- An `ADD` of `_NET_WM_STATE_FULLSCREEN` to window 1, sent twice from the empty world. -/
theorem stateCalls_twice_addFullscreen : StateOp.addFullscreen 0 ≠ 2 ∧
    (netWmStateClientMessage Atoms.fresh 1 StateOp.addFullscreen >>= fun _ =>
      netWmStateClientMessage Atoms.fresh 1 StateOp.addFullscreen).run {} =
      (netWmStateClientMessage Atoms.fresh 1 StateOp.addFullscreen).run {} :=
  ⟨by decide, (stateCalls_twice Atoms.fresh 1 {} StateOp.addFullscreen).2.1 (by decide)⟩

end XWaylandSurface

end XWaylandBridge
