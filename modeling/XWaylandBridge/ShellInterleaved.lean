import XWaylandBridge.RelyGuarantee
import XWaylandBridge.NoOpFilter
import XWaylandBridge.ShellLedger

/-!
# The shell's log under every interleaving without a close

`configure_request`, `property_notify`, `request_scene_surface_state` and `move_resize` lock
the window's surface in one section and make their request on it in a later one. Between the
two, another thread may run. `notify_inside_attach_loses_title` and `configureAndClose` show
what an interleaving can do: a `close` on another thread destroys the surface in between, and
the request names a destroyed surface.

The other threads' sections never destroy a surface, and never create one over a live one. So
a surface found live stays live, and a request made on it later is one the shell serves. In
rely–guarantee terms (`RelyGuarantee.lean`), every section of every call but `close` moves the
world along `KeepsLive`: it keeps the ledger and every live surface live. The calls that
request something on a surface they locked rely on `LiveAt`, which such moves keep.

**What is proved.** From every world a serial run reaches, every interleaving of calls none of
which is a `close` (or `wl_surface_destroyed`, which is one) leaves a log the shell serves
(`runSchedule_served`). With `configureAndClose`, this makes `close` the only call whose
interleaving can make the bridge name a destroyed surface.

**What this does not decide.** Interleavings with a `close`.
-/

set_option autoImplicit false

namespace XWaylandBridge

namespace Shell

/-- A creation leaves every other surface, and so its liveness, as it was. -/
theorem lock_create_ne (sh : Shell) (session : SessionId) (params : SurfaceCreationParameters)
    (o : ObserverId) {j : SurfaceId} (hj : j ≠ sh.nextSurface) :
    (sh.create session params o).lock j = sh.lock j := by
  simp only [lock, create, Function.update_noteq hj]

end Shell

open Prog

namespace World

/-- **A move of a thread that does not close**: it keeps the shell's ledger, and every surface
live before it is live after it. -/
def KeepsLive (w w' : World) : Prop :=
  w.ShellLedger → w'.ShellLedger ∧ ∀ id, w.shell.lock id = some id → w'.shell.lock id = some id

/-- The ledger holds, and what a lock returned is live. -/
def LiveAt (r : Option SurfaceId) (w : World) : Prop :=
  w.ShellLedger ∧ ∀ id, r = some id → w.shell.lock id = some id

theorem KeepsLive.refl (w : World) : KeepsLive w w := fun h => ⟨h, fun _ => id⟩

theorem KeepsLive.trans {w w' w'' : World} (h : KeepsLive w w') (h' : KeepsLive w' w'') :
    KeepsLive w w'' := fun hw =>
  have ⟨hw', hl⟩ := h hw
  have ⟨hw'', hl'⟩ := h' hw'
  ⟨hw'', fun id hid => hl' id (hl id hid)⟩

theorem KeepsLive.of_shell {w w' : World} (h : w'.shell = w.shell) : KeepsLive w w' :=
  fun hw => ⟨by unfold ShellLedger; rw [h]; exact hw, fun _ hl => by rw [h]; exact hl⟩

theorem stable_shellLedger : Stable KeepsLive ShellLedger := fun _ _ hw h => (h hw).1

theorem stable_liveAt (r : Option SurfaceId) : Stable KeepsLive (LiveAt r) :=
  fun _ _ hw h => ⟨(h hw.1).1, fun id hr => (h hw.1).2 id (hw.2 id hr)⟩

end World

open World

/-- A program that keeps the shell's ledger and liveness from every state needs nothing. -/
theorem Prog.Guarantees.safe {α : Type} {p : Prog World α} (h : Guarantees KeepsLive p) :
    Safe KeepsLive p ShellLedger fun _ => ShellLedger :=
  Safe.of_guarantees h stable_shellLedger

/-! ## Sections -/

namespace Section

theorem keepsLive_atomic {α : Type} {f : World → α × World} (h : ∀ w, (f w).2.shell = w.shell) :
    Guarantees KeepsLive (Prog.atomic f) :=
  guarantees_atomic fun w => .of_shell (h w)

theorem configureWindow_keepsLive (win : Window) (position : Option Point) (size : Option Size)
    (sibling : Option Window) (stackMode : Option StackMode) :
    Guarantees KeepsLive (configureWindow win position size sibling stackMode) :=
  guarantees_atomicE fun _ => .of_shell (by split <;> rfl)

/-- `create_surface` from any state: the new surface takes an identity no live one has. -/
theorem createSurface_keepsLive (session : SessionId) (params : SurfaceCreationParameters)
    (o : ObserverId) : Guarantees KeepsLive (createSurface session params o) :=
  guarantees_atomicE fun w hw => by
    split
    · exact ⟨hw, fun _ => id⟩
    · refine ⟨hw.create session params o, fun id hl => ?_⟩
      have hne : id ≠ w.shell.nextSurface := fun he => by
        rw [he, Shell.lock, hw.fresh _ le_rfl] at hl
        cases hl
      exact (w.shell.lock_create_ne session params o hne).trans hl

/-- What the lock returns is live. -/
theorem sceneSurface_safe (win : Window) :
    Safe KeepsLive (sceneSurface win) ShellLedger LiveAt :=
  safe_atomic (fun w hw => ⟨.refl w, hw, fun _ h => lock_of_sceneSurfaceOf h⟩) stable_liveAt

/-- `modify_surface` of a surface that is still live. -/
theorem modifySurface_safe (id : SurfaceId) (spec : SurfaceSpecification) :
    Safe KeepsLive (modifySurface id spec) (LiveAt (some id)) fun _ => ShellLedger :=
  safe_atomic (fun w hw =>
    have hl := hw.2 id rfl
    ⟨fun _ => ⟨hw.1.modify hl spec, fun j hj => by
      show (w.shell.modify id spec).lock j = some j
      rw [Shell.lock_modify]; exact hj⟩, hw.1.modify hl spec⟩)
    fun _ => stable_shellLedger

/-- A request that neither creates nor destroys, on a surface that is still live. -/
theorem push_safe {r : ShellRequest} (hr : ∀ j, r.creates j = false ∧ r.destroys j = false) :
    Safe KeepsLive (Prog.atomic fun w : World => ((), { w with shell := { w.shell with log := r :: w.shell.log } }))
      (LiveAt (some r.target)) fun _ => ShellLedger :=
  safe_atomic (fun _ hw =>
    have hl := hw.1.push hr (hw.2 _ rfl)
    ⟨fun _ => ⟨hl, fun _ => id⟩, hl⟩) fun _ => stable_shellLedger

end Section

/-! ## Member functions -/

namespace XWaylandSurface

variable (a : Atoms) (win : Window)

open Section

theorem informClientOfWindowState_keepsLive (s : WindowState) :
    Guarantees KeepsLive (informClientOfWindowState a win s) := by
  refine guarantees_bind (keepsLive_atomic fun _ => rfl) fun changed => ?_
  cases changed
  · exact guarantees_pure _
  · refine guarantees_bind (keepsLive_atomic fun _ => rfl) fun _ => ?_
    split <;> exact keepsLive_atomic fun _ => rfl

theorem isTransientFor_keepsLive (t : Window) : Guarantees KeepsLive (isTransientFor win t) := by
  refine guarantees_bind ?_ fun _ => keepsLive_atomic fun _ => rfl
  unfold resolveTransientFor
  split
  · refine guarantees_bind (keepsLive_atomic fun _ => rfl) fun p => ?_
    rcases p with _ | p
    · refine guarantees_bind (keepsLive_atomic fun _ => rfl) fun f => ?_
      rcases f with _ | f
      · exact guarantees_pure _
      · exact keepsLive_atomic fun _ => rfl
    · exact guarantees_pure _
  · exact guarantees_pure _

theorem applyReply_keepsLive (h : Handler) (v : Option PropValue) :
    Guarantees KeepsLive (applyReply win h v) := by
  rcases applyReply_shape win h v with ⟨f, hf, -⟩ | ⟨t, ht⟩ | hp
  · rw [hf]; exact keepsLive_atomic fun _ => rfl
  · rw [ht]; exact isTransientFor_keepsLive win t
  · rw [hp]; exact guarantees_pure _

theorem attachRest_keepsLive (o : ObserverId)
    (args : WindowState × SessionId × SurfaceCreationParameters) :
    Guarantees KeepsLive (attachRest a win o args) := by
  have hreads (hs : List (Atom × Handler)) : Guarantees KeepsLive (issueReads win hs) := by
    induction hs with
    | nil => exact guarantees_pure _
    | cons e hs ih =>
      exact guarantees_bind (keepsLive_atomic fun _ => rfl) fun _ =>
        guarantees_bind ih fun _ => guarantees_pure _
  have hreplies (rs : List (Handler × Option PropValue)) :
      Guarantees KeepsLive (processReplies win rs) := by
    induction rs with
    | nil => exact guarantees_pure _
    | cons e rest ih => exact guarantees_bind (applyReply_keepsLive win _ _) fun _ => ih
  exact guarantees_bind (hreads _) fun _ =>
    guarantees_bind (hreplies _) fun _ =>
    guarantees_bind (keepsLive_atomic fun _ => rfl) fun _ =>
    guarantees_bind (createSurface_keepsLive _ _ _) fun _ =>
    guarantees_bind (informClientOfWindowState_keepsLive a win _) fun _ =>
    guarantees_bind (keepsLive_atomic fun _ => rfl) fun _ =>
    guarantees_bind (configureWindow_keepsLive win _ _ _ _) fun _ => keepsLive_atomic fun _ => rfl

theorem attachWlSurface_keepsLive (wl : WlSurface) :
    Guarantees KeepsLive (attachWlSurface a win wl) :=
  guarantees_bind (keepsLive_atomic fun _ => rfl) fun o =>
    guarantees_andFinally (guarantees_bind (guarantees_atomicE fun w => .of_shell (attachBegin_shell win wl o w))
      (attachRest_keepsLive a win o)) (keepsLive_atomic fun _ => rfl)

theorem takeFocus_keepsLive : Guarantees KeepsLive (takeFocus a win) := by
  refine guarantees_bind (keepsLive_atomic fun _ => rfl) fun supports => ?_
  rcases supports with _ | supportsTakeFocus
  · exact guarantees_pure _
  · dsimp only
    split
    · exact guarantees_bind (keepsLive_atomic fun _ => rfl) fun _ => keepsLive_atomic fun _ => rfl
    · exact guarantees_bind (guarantees_pure _) fun _ => keepsLive_atomic fun _ => rfl

theorem sceneSurfaceStateSet_keepsLive (newState : MirWindowState) :
    Guarantees KeepsLive (sceneSurfaceStateSet a win newState) := by
  refine guarantees_bind (keepsLive_atomic fun _ => rfl) fun _ =>
    guarantees_bind (informClientOfWindowState_keepsLive a win _) fun _ => ?_
  split
  · exact configureWindow_keepsLive win _ _ _ _
  · exact guarantees_pure _

theorem sceneSurfaceMovedTo_keepsLive (newTopLeft : Point) :
    Guarantees KeepsLive (sceneSurfaceMovedTo win newTopLeft) := by
  refine guarantees_bind (keepsLive_atomic fun _ => rfl) fun id => ?_
  dsimp only
  rcases id with _ | id
  · exact guarantees_bind (guarantees_pure _) fun _ => configureWindow_keepsLive win _ _ _ _
  · exact guarantees_bind (keepsLive_atomic fun _ => rfl) fun _ =>
      guarantees_bind (guarantees_pure _) fun _ => configureWindow_keepsLive win _ _ _ _

theorem sceneSurfaceCloseRequested_keepsLive :
    Guarantees KeepsLive (sceneSurfaceCloseRequested a win) := by
  refine guarantees_bind (keepsLive_atomic fun _ => rfl) fun deleteWindow => ?_
  split <;> exact keepsLive_atomic fun _ => rfl

/-! ### The calls that request something on the surface they locked -/

theorem requestSceneSurfaceState_safe (m : MirWindowState) :
    Safe KeepsLive (requestSceneSurfaceState win m) ShellLedger fun _ => ShellLedger := by
  refine safe_bind (sceneSurface_safe win) fun r => ?_
  rcases r with _ | id
  · exact safe_pure _ fun _ h => h.1
  · refine safe_bind (Safe.of_guarantees (keepsLive_atomic fun _ => rfl) (stable_liveAt _)) fun _ => ?_
    split
    · exact modifySurface_safe id _
    · exact safe_pure _ fun _ h => h.1

theorem configureRequest_safe (ev : ConfigureRequestEvent) :
    Safe KeepsLive (configureRequest win ev) ShellLedger fun _ => ShellLedger := by
  refine safe_bind (sceneSurface_safe win) fun r => ?_
  rcases r with _ | id
  · exact (guarantees_bind (keepsLive_atomic fun _ => rfl) fun _ =>
      configureWindow_keepsLive win _ _ _ _).safe.mono (fun _ h => h.1) fun _ _ => id
  · refine safe_bind (Safe.of_guarantees (keepsLive_atomic fun _ => rfl) (stable_liveAt _)) fun _ => ?_
    split
    · exact modifySurface_safe id _
    · exact safe_pure _ fun _ h => h.1

theorem applyPendingSpec_safe : Safe KeepsLive (applyPendingSpec win) ShellLedger fun _ => ShellLedger := by
  refine safe_bind (R := fun x => LiveAt x.1)
    (safe_atomic (fun w hw => ⟨.of_shell rfl, hw, fun _ h => (lock_of_sceneSurfaceOf h : w.shell.lock _ = _)⟩)
      fun _ => stable_liveAt _) fun x => ?_
  obtain ⟨sceneSurface, spec⟩ := x
  rcases spec with _ | spec <;> rcases sceneSurface with _ | id
  case some.some =>
    refine safe_bind (Safe.of_guarantees (keepsLive_atomic fun _ => rfl) (stable_liveAt _)) fun _ => ?_
    dsimp only
    split
    · exact modifySurface_safe id _
    · exact safe_pure _ fun _ h => h.1
  all_goals exact safe_pure _ fun _ h => h.1

theorem propertyNotify_safe (property : Atom) :
    Safe KeepsLive (propertyNotify a win property) ShellLedger fun _ => ShellLedger := by
  unfold propertyNotify
  split
  · exact safe_pure _ fun _ => id
  · exact safe_bind (keepsLive_atomic fun _ => rfl).safe fun _ =>
      safe_bind (applyReply_keepsLive win _ _).safe fun _ => applyPendingSpec_safe win

theorem moveResize_safe (detail : Nat) :
    Safe KeepsLive (moveResize win detail) ShellLedger fun _ => ShellLedger := by
  refine safe_bind (R := fun x => LiveAt x.1)
    (safe_atomic (fun w hw => ⟨.refl w, hw, fun _ h => lock_of_sceneSurfaceOf h⟩)
      fun _ => stable_liveAt _) fun x => ?_
  obtain ⟨sceneSurface, timestamp⟩ := x
  have skip : Safe KeepsLive (pure () : Prog World Unit) (fun w => LiveAt sceneSurface w)
      fun _ => ShellLedger := safe_pure _ fun _ h => h.1
  rcases sceneSurface with _ | s <;>
    rcases wmResizeEdgeToMirResizeEdge detail with _ | edge <;> dsimp only <;> split_ifs
  all_goals first
    | exact skip
    | exact push_safe (r := .requestMove s timestamp) fun _ => ⟨rfl, rfl⟩
    | exact push_safe (r := .requestResize s timestamp edge) fun _ => ⟨rfl, rfl⟩

theorem map_safe : Safe KeepsLive (map a win) ShellLedger fun _ => ShellLedger :=
  safe_bind (keepsLive_atomic fun _ => rfl).safe fun _ =>
  safe_bind (keepsLive_atomic fun _ => rfl).safe fun _ =>
  safe_bind (informClientOfWindowState_keepsLive a win _).safe fun _ =>
  safe_bind (requestSceneSurfaceState_safe win _) fun _ => (keepsLive_atomic fun _ => rfl).safe

theorem netWmStateClientMessage_safe (data : ClientMessageData) :
    Safe KeepsLive (netWmStateClientMessage a win data) ShellLedger fun _ => ShellLedger :=
  safe_bind (keepsLive_atomic fun _ => rfl).safe fun _ =>
  safe_bind (informClientOfWindowState_keepsLive a win _).safe fun _ =>
  requestSceneSurfaceState_safe win _

theorem wmChangeStateClientMessage_safe (data : ClientMessageData) :
    Safe KeepsLive (wmChangeStateClientMessage a win data) ShellLedger fun _ => ShellLedger :=
  safe_bind (guarantees_atomicE (R := KeepsLive) fun w => .refl w).safe fun _ =>
  safe_bind (informClientOfWindowState_keepsLive a win _).safe fun _ =>
  requestSceneSurfaceState_safe win _

end XWaylandSurface

/-! ## Calls, in any interleaving -/

namespace Call

open XWaylandSurface Section

variable (a : Atoms)

/-- Whether the call runs `close`: a close, or the destruction of the Wayland surface. -/
def closes : Call → Bool
  | close _ | wlSurfaceDestroyed _ => true
  | _ => false

/-- **Every call but a close is safe**: from a world with a ledger, each of its sections keeps
the ledger and every live surface live, whatever the other threads do in between. -/
theorem prog_safe (c : Call) (hc : c.closes = false) :
    Safe KeepsLive (c.prog a) ShellLedger fun _ _ => True := by
  refine Safe.mono (fun _ => id) (fun _ _ _ => trivial) (Q := fun _ => ShellLedger) ?_
  cases c with
  | create win ev =>
    exact (guarantees_bind (keepsLive_atomic fun _ => rfl) fun _ =>
      guarantees_bind (keepsLive_atomic fun _ => rfl) fun _ => keepsLive_atomic fun _ => rfl).safe
  | map win => exact map_safe a win
  | close win => cases hc
  | takeFocus win => exact (takeFocus_keepsLive a win).safe
  | configureRequest win ev => exact configureRequest_safe win ev
  | configureNotify win ev => exact (keepsLive_atomic fun _ => rfl).safe
  | netWmStateClientMessage win data => exact netWmStateClientMessage_safe a win data
  | wmChangeStateClientMessage win data => exact wmChangeStateClientMessage_safe a win data
  | propertyNotify win property => exact propertyNotify_safe a win property
  | attachWlSurface win wl => exact (attachWlSurface_keepsLive a win wl).safe
  | moveResize win detail => exact moveResize_safe win detail
  | sceneSurfaceFocusSet win hasFocus =>
    exact (guarantees_bind (keepsLive_atomic fun _ => rfl) fun _ =>
      configureWindow_keepsLive win _ _ _ _).safe
  | sceneSurfaceStateSet win newState => exact (sceneSurfaceStateSet_keepsLive a win newState).safe
  | sceneSurfaceResized win newSize => exact (configureWindow_keepsLive win _ _ _ _).safe
  | sceneSurfaceMovedTo win newTopLeft => exact (sceneSurfaceMovedTo_keepsLive win newTopLeft).safe
  | sceneSurfaceCloseRequested win => exact (sceneSurfaceCloseRequested_keepsLive a win).safe
  | wlSurfaceDestroyed win => cases hc
  | clientProperty win property value => exact (keepsLive_atomic fun _ => rfl).safe

/-- **Without a close, no interleaving makes the bridge name a destroyed surface**: from every
world a serial run reaches, however the threads of a list of calls with no `close` interleave,
the shell's log is one the shell serves. -/
theorem runSchedule_served (w : World) (hw : Reachable a w) (calls : List Call)
    (hc : ∀ c ∈ calls, c.closes = false) (sched : List Nat) :
    ShellRequest.served ((Threads.mk w (calls.map (prog a))).runSchedule sched).state.shell.log = true := by
  have hl : w.ShellLedger :=
    hw.invariant (fun rc _ => Shell.ledger_empty rc) fun c w h => c.perform_shellLedger a w h
  refine ((Threads.AllSafe.runSchedule (G := KeepsLive) KeepsLive.refl
    (fun _ _ _ => KeepsLive.trans) sched _ fun p hp => ?_) hl).1.served
  obtain ⟨c, hc', rfl⟩ := List.mem_map.mp hp
  exact ⟨ShellLedger, stable_shellLedger, hl, c.prog_safe a (hc c hc')⟩

/-- A configure request, a title notification and a move on the attached window 1, interleaved,
leave a served log. -/
theorem runSchedule_served_attachedOne :
    Reachable Atoms.fresh attachedOne ∧
      (∀ c ∈ [Call.configureRequest 1 ⟨xcbConfigWindowX, 5, 0, 0, 0⟩, .propertyNotify 1 xcbAtomWmName, .moveResize 1 8],
        c.closes = false) ∧
      ShellRequest.served ((Threads.mk attachedOne ([Call.configureRequest 1 ⟨xcbConfigWindowX, 5, 0, 0, 0⟩,
        .propertyNotify 1 xcbAtomWmName, .moveResize 1 8].map (prog Atoms.fresh))).runSchedule
          [0, 1, 2, 1, 0, 2, 1, 0]).state.shell.log = true :=
  have hw : Reachable Atoms.fresh attachedOne := ⟨false, false, _, rfl⟩
  ⟨hw, by decide, runSchedule_served Atoms.fresh attachedOne hw _ (by decide) _⟩

end Call

end XWaylandBridge
