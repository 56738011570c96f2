import XWaylandBridge.StateSync

/-!
# What the X server shows of a window's state

`inform_client_of_window_state` caches the new state under the bridge's lock and writes
`WM_STATE` and `_NET_WM_STATE` after it; `map` and `close` map and unmap the window after
that. The X server's view agrees with the bridge (`WindowView.Agrees`) when both properties
encode the cached state, or were never written while the cached state is still the initial
one, and a withdrawn window is unmapped.

**What is proved.** Every step of `StateOp.act` keeps the agreement (`StateOp.act_agrees`), so
it holds after every call of every serial run of calls, for every window
(`serialRun_xViewAgrees`).

**What this does not decide.** Calls on two threads: a schedule that runs the steps of one
call between those of another breaks the agreement (`close_inside_map_maps_withdrawn`).
-/

set_option autoImplicit false

namespace XWaylandBridge

namespace WindowView

variable (a : Atoms)

/-- `WM_STATE` and `_NET_WM_STATE` were never written and the state is the initial one, or
they encode the cached state. -/
def Written (v : WindowView) : Prop :=
  (v.wmState = none ∧ v.netWmState = none ∧ v.state = {}) ∨
    (v.wmState = some v.state.wmStateProperty ∧ v.netWmState = netWmStateValue a v.state)

/-- The X server shows the cached state, and a withdrawn window is unmapped. -/
def Agrees (v : WindowView) : Prop :=
  v.Written a ∧ (v.state.withdrawn = true → v.mapped = false)

/-- The view of a window nothing has happened to. -/
def initial : WindowView := ⟨{}, none, none, false⟩

theorem initial_agrees : initial.Agrees a := ⟨.inl ⟨rfl, rfl, rfl⟩, fun _ => rfl⟩

theorem written_inform {v : WindowView} (h : v.Written a) (s : WindowState) :
    (v.inform a s).Written a := by
  unfold inform
  split
  · exact h
  · exact .inr ⟨rfl, rfl⟩

end WindowView

open WindowView

/-- **Every step keeps the X server's view in agreement with the cache.** -/
theorem StateOp.act_agrees (a : Atoms) (op : StateOp) {v : WindowView} (g : AttachGate)
    (h : v.Agrees a) : (op.act a (v, g)).1.Agrees a := by
  cases op with
  | map => exact ⟨written_inform a h.1 _, fun hw => by simp [StateOp.act] at hw⟩
  | close => exact ⟨written_inform a h.1 _, fun _ => rfl⟩
  | netWmStateClientMessage data =>
    exact ⟨written_inform a h.1 _, by simpa [StateOp.act] using h.2⟩
  | wmChangeStateClientMessage data =>
    simp only [StateOp.act]
    split
    · next s hs =>
      exact ⟨written_inform a h.1 _, by simpa [wmChangeStateRequested_withdrawn hs] using h.2⟩
    · exact h
  | sceneSurfaceStateSet newState =>
    exact ⟨written_inform a h.1 _, fun hw => by simp [StateOp.act] at hw⟩
  | attachWlSurface wl =>
    simp only [StateOp.act]
    split
    · split
      · exact h
      · exact ⟨written_inform a h.1 _, fun hw => by simp at hw⟩
    · exact h

namespace World

variable (a : Atoms)

/-- Window `win`'s view agrees, and is the initial one while the window is outside the table. -/
def WindowAgrees (w : World) (win : Window) : Prop :=
  (w.windowView a win).Agrees a ∧ (w.managed win = false → w.windowView a win = initial)

/-- Every window's view agrees. -/
def XViewAgrees (w : World) : Prop := ∀ win, WindowAgrees a w win

theorem xViewAgrees_start (rc rf : Bool) : XViewAgrees a (World.start rc rf) :=
  fun _ => ⟨initial_agrees a, fun _ => rfl⟩

variable {a} {w w' : World} {win : Window}

theorem WindowAgrees.of_eq (hv : w'.windowView a win = w.windowView a win)
    (hm : w'.managed win = w.managed win) (h : WindowAgrees a w win) : WindowAgrees a w' win := by
  rw [WindowAgrees, hv, hm]
  exact h

theorem WindowAgrees.of_step {op : StateOp} {g : AttachGate}
    (hs : w'.windowView a win = (op.act a (w.windowView a win, g)).1)
    (hm : w'.managed win = true) (h : WindowAgrees a w win) : WindowAgrees a w' win :=
  ⟨hs ▸ op.act_agrees a g h.1, fun hf => by simp [hm] at hf⟩

end World

open World Prog

namespace Call

variable (a : Atoms)

theorem windowAgrees_other (c : Call) (w : World) {win : Window} (hwin : win ≠ c.window)
    (h : WindowAgrees a w win) : WindowAgrees a (c.perform a w) win := by
  obtain ⟨hm, hb, hp, hmap⟩ := c.perform_other a w hwin
  exact h.of_eq (by simp [windowView, hb, hp, hmap]) hm

theorem windowAgrees_quiet {c : Call} (hc : ∀ win ev, c ≠ create win ev)
    (hq : Guarantees (Quiet c.window) (c.prog a)) (w : World) (h : WindowAgrees a w c.window) :
    WindowAgrees a (c.perform a w) c.window := by
  rw [perform_of_ne_create a hc]
  split
  · exact h.of_eq (windowView_of_quiet a _ w hq)
      (congrFun (hq.run Quiet.refl (fun _ _ _ => Quiet.trans) w).managed _)
  · exact h

theorem windowAgrees_stateOp {c : Call} (hc : ∀ win ev, c ≠ create win ev) (op : StateOp)
    (hp : c.prog a = op.prog a c.window) (he : ∀ w, c.enabled a w = w.managed c.window)
    (w : World) (h : WindowAgrees a w c.window) : WindowAgrees a (c.perform a w) c.window := by
  have hl := prog_local a hc
  rw [perform_of_ne_create a hc, he]
  split
  · next hm =>
    rw [hp] at hl ⊢
    refine h.of_step (congrArg Prod.fst (op.prog_step a c.window w)) ?_
    rw [congrFun (hl.run Local.refl (fun _ _ _ => Local.trans) w).1, hm]
  · exact h

open XWaylandSurface Section in
/-- **Every call keeps the agreement of every window.** -/
theorem perform_xViewAgrees (c : Call) (w : World) (h : XViewAgrees a w) :
    XViewAgrees a (c.perform a w) := by
  intro win
  by_cases hwin : win = c.window
  · subst hwin
    have hq {p : Prog World Unit} (hp : c.prog a = p) (hq : Guarantees (Quiet c.window) p)
        (hc : ∀ win ev, c ≠ create win ev) := windowAgrees_quiet a hc (hp ▸ hq) w (h _)
    have hs (op : StateOp) (hp : c.prog a = op.prog a c.window)
        (he : ∀ w, c.enabled a w = w.managed c.window) (hc : ∀ win ev, c ≠ create win ev) :=
      windowAgrees_stateOp a hc op hp he w (h _)
    cases c with
    | create win ev =>
      rw [perform_create]
      split
      · exact h win
      · next hen =>
        have hinit := (h win).2 (by simpa using hen)
        simp only [windowView, initial, WindowView.mk.injEq] at hinit
        dsimp only [window]
        refine ⟨?_, fun hm => by simp [construct, locked, send] at hm⟩
        have : windowView a win ((construct win ev).run
            { w with managed := Function.update w.managed win true }).2 = initial := by
          simp [construct, locked, send, windowView, initial, ofCreateNotify, hinit]
        exact this ▸ initial_agrees a
    | map win => exact hs .map rfl (fun _ => rfl) fun _ _ => nofun
    | close win => exact hs .close rfl (fun _ => rfl) fun _ _ => nofun
    | takeFocus win => exact hq rfl (takeFocus_quiet a win) fun _ _ => nofun
    | configureRequest win ev => exact hq rfl (configureRequest_quiet win ev) fun _ _ => nofun
    | configureNotify win ev => exact hq rfl (configureNotify_quiet win ev) fun _ _ => nofun
    | netWmStateClientMessage win data =>
      exact hs (.netWmStateClientMessage data) rfl (fun _ => rfl) fun _ _ => nofun
    | wmChangeStateClientMessage win data =>
      exact hs (.wmChangeStateClientMessage data) rfl (fun _ => rfl) fun _ _ => nofun
    | propertyNotify win property =>
      exact hq rfl (propertyNotify_quiet a win property) fun _ _ => nofun
    | attachWlSurface win wl => exact hs (.attachWlSurface wl) rfl (fun _ => rfl) fun _ _ => nofun
    | moveResize win detail => exact hq rfl (moveResize_quiet win detail) fun _ _ => nofun
    | sceneSurfaceFocusSet win hasFocus =>
      exact hq rfl (sceneSurfaceFocusSet_quiet win hasFocus) fun _ _ => nofun
    | sceneSurfaceStateSet win newState =>
      exact hs (.sceneSurfaceStateSet newState) rfl (fun _ => rfl) fun _ _ => nofun
    | sceneSurfaceResized win newSize =>
      exact hq rfl (sceneSurfaceResized_quiet win newSize) fun _ _ => nofun
    | sceneSurfaceMovedTo win newTopLeft =>
      exact hq rfl (sceneSurfaceMovedTo_quiet win newTopLeft) fun _ _ => nofun
    | sceneSurfaceCloseRequested win =>
      exact hq rfl (sceneSurfaceCloseRequested_quiet a win) fun _ _ => nofun
    | wlSurfaceDestroyed win => exact hs .close rfl (fun _ => rfl) fun _ _ => nofun
    | clientProperty win property value =>
      rw [perform_of_ne_create a (c := clientProperty win property value) fun _ _ => nofun]
      split
      · next hen =>
        obtain ⟨h₁, h₂⟩ := clientAtoms_ne_state (by simpa [enabled] using hen)
        exact WindowAgrees.of_eq (w := w) (by simp [prog, clientWrite, windowView, window,
          Function.update_noteq h₁.symm, Function.update_noteq h₂.symm]) rfl (h win)
      · exact h win
  · exact windowAgrees_other a c w hwin (h win)

end Call

/-- **The X server agrees with every bridge after every serial run**: for every window, the
last `WM_STATE` and `_NET_WM_STATE` written encode the cached state (or none was written and the
state is the initial one), and a withdrawn window is unmapped. -/
theorem serialRun_xViewAgrees (a : Atoms) (rc rf : Bool) (calls : List Call) :
    XViewAgrees a (serialRun a (World.start rc rf) calls) :=
  serialRun_invariant a (fun c w => c.perform_xViewAgrees a w) calls _ (xViewAgrees_start a rc rf)

/-- A fresh managed window: `map` on the X thread, `close` through `wl_surface_destroyed` on the
Wayland thread. -/
def mapAndClose : Threads World where
  state := { managed := fun v => v = 1 }
  progs := [XWaylandSurface.map Atoms.fresh 1, XWaylandSurface.wlSurfaceDestroyed Atoms.fresh 1]

/-- `map` runs up to its `xcb_map_window`, `close` runs to its end, and `map` finishes. -/
def closeInsideMap : List Nat := List.replicate 5 0 ++ List.replicate 6 1 ++ List.replicate 2 0

set_option maxRecDepth 4000 in
/-- **`close` inside `map` leaves a withdrawn window mapped.** -/
theorem close_inside_map_maps_withdrawn :
    (mapAndClose.runSchedule closeInsideMap).Done ∧
    ((mapAndClose.runSchedule closeInsideMap).state.bridges 1).cached.state.withdrawn = true ∧
    (mapAndClose.runSchedule closeInsideMap).state.mapped 1 = true := by
  decide

end XWaylandBridge
