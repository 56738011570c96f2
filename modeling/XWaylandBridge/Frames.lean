import XWaylandBridge.Runs

/-!
# What each member function touches

A member function of the bridge of window `win` writes that bridge, the properties and the
map state of `win`, and what belongs to no window: the shell, the request logs, the
observers, the focus. The table entries, bridges, properties and map states of every other
window stay as they are (`World.Local`). Most member functions do less: they change no
property and no map state, and only the bridge of `win`, leaving its cached window state
alone (`World.Quiet`).

Both are stated as `Prog.Guarantees`, of every atomic section from every world, so they hold
of a function run alone and between any two sections of any interleaving.
-/

set_option autoImplicit false

namespace XWaylandBridge

namespace World

variable (win : Window)

/-- `w'` agrees with `w` on every window but `win`: the bridge, the properties and the map
state; and the window manager's table is the same. -/
def Local (w w' : World) : Prop :=
  w'.managed = w.managed ∧
    ∀ v, v ≠ win → w'.bridges v = w.bridges v ∧ w'.props v = w.props v ∧ w'.mapped v = w.mapped v

/-- `w'` differs from `w` at most in the bridge of `win`, and there neither in the cached state
nor in the published surface; no property, map state or table entry changes, and the shell
hands out no identity twice. -/
structure Quiet (w w' : World) : Prop where
  managed : w'.managed = w.managed
  props : w'.props = w.props
  mapped : w'.mapped = w.mapped
  state : (w'.bridges win).cached.state = (w.bridges win).cached.state
  scene : (w'.bridges win).weakSceneSurface = (w.bridges win).weakSceneSurface
  others : ∀ v, v ≠ win → w'.bridges v = w.bridges v
  nextSurface : w.shell.nextSurface ≤ w'.shell.nextSurface

variable {win}

/-- A world is local to itself. -/
theorem Local.refl (w : World) : Local win w w := ⟨rfl, fun _ _ => ⟨rfl, rfl, rfl⟩⟩

/-- Two local moves make one: the windows other than `win` are untouched by both. -/
theorem Local.trans {w w' w'' : World} (h : Local win w w') (h' : Local win w' w'') :
    Local win w w'' :=
  ⟨h'.1.trans h.1, fun v hv =>
    have ⟨h₁, h₂, h₃⟩ := h.2 v hv
    have ⟨h₁', h₂', h₃'⟩ := h'.2 v hv
    ⟨h₁'.trans h₁, h₂'.trans h₂, h₃'.trans h₃⟩⟩

/-- A world is a quiet move from itself. -/
theorem Quiet.refl (w : World) : Quiet win w w :=
  ⟨rfl, rfl, rfl, rfl, rfl, fun _ _ => rfl, le_rfl⟩

/-- Two quiet moves make one; the shell's next identity only grows along both. -/
theorem Quiet.trans {w w' w'' : World} (h : Quiet win w w') (h' : Quiet win w' w'') :
    Quiet win w w'' :=
  ⟨h'.managed.trans h.managed, h'.props.trans h.props, h'.mapped.trans h.mapped,
    h'.state.trans h.state, h'.scene.trans h.scene,
    fun v hv => (h'.others v hv).trans (h.others v hv), h.nextSurface.trans h'.nextSurface⟩

/-- A quiet move is local. -/
theorem Quiet.local {w w' : World} (h : Quiet win w w') : Local win w w' :=
  ⟨h.managed, fun v hv => ⟨h.others v hv, congrFun h.props v, congrFun h.mapped v⟩⟩

/-- A write to nothing a window owns, where the shell's next identity does not go back. -/
theorem Quiet.of_eq {w w' : World} (hm : w'.managed = w.managed) (hb : w'.bridges = w.bridges)
    (hp : w'.props = w.props) (hmap : w'.mapped = w.mapped)
    (hn : w.shell.nextSurface ≤ w'.shell.nextSurface) : Quiet win w w' :=
  ⟨hm, hp, hmap, by rw [hb], by rw [hb], fun _ _ => by rw [hb], hn⟩

variable (win)

/-- Replacing the bridge of `win` is local to `win`. -/
theorem local_setBridge (w : World) (b : XWaylandSurface) : Local win w (w.setBridge win b) :=
  ⟨rfl, fun _ hv => ⟨w.setBridge_bridges_ne win b hv, rfl, rfl⟩⟩

/-- Replacing the bridge of `win` by one with the same cached state and published surface is
quiet. -/
theorem quiet_setBridge (w : World) {b : XWaylandSurface}
    (h : b.cached.state = (w.bridges win).cached.state ∧
      b.weakSceneSurface = (w.bridges win).weakSceneSurface) :
    Quiet win w (w.setBridge win b) :=
  ⟨rfl, rfl, rfl, by simpa using h.1, by simpa using h.2,
    fun _ hv => w.setBridge_bridges_ne win b hv, le_rfl⟩

end World

open World Prog

/-! ## Sections -/

namespace Section

variable (win : Window)

/-- A section under `win`'s mutex touches only `win`'s bridge. -/
theorem locked_local {α : Type} (f : XWaylandSurface → α × XWaylandSurface) :
    Guarantees (Local win) (locked win f) :=
  guarantees_atomic fun w => local_setBridge win w _

/-- A section under the mutex that keeps the cached state and the published surface is quiet. -/
theorem locked_quiet {α : Type} {f : XWaylandSurface → α × XWaylandSurface}
    (h : ∀ b, (f b).2.cached.state = b.cached.state ∧ (f b).2.weakSceneSurface = b.weakSceneSurface) :
    Guarantees (Quiet win) (locked win f) :=
  guarantees_atomic fun w => quiet_setBridge win w (h _)

/-- A property write on `win` changes only `win`'s properties. -/
theorem setProperty_local (atom : Atom) (v : PropValue) :
    Guarantees (Local win) (setProperty win atom v) :=
  guarantees_atomic fun _ => ⟨rfl, fun _ hv => ⟨rfl, Function.update_noteq hv _ _, rfl⟩⟩

/-- A property delete on `win` changes only `win`'s properties. -/
theorem deleteProperty_local (atom : Atom) : Guarantees (Local win) (deleteProperty win atom) :=
  guarantees_atomic fun _ => ⟨rfl, fun _ hv => ⟨rfl, Function.update_noteq hv _ _, rfl⟩⟩

/-- A map of `win` changes only `win`'s map state. -/
theorem mapWindow_local : Guarantees (Local win) (mapWindow win) :=
  guarantees_atomic fun _ => ⟨rfl, fun _ hv => ⟨rfl, rfl, Function.update_noteq hv _ _⟩⟩

/-- An unmap of `win` changes only `win`'s map state. -/
theorem unmapWindow_local : Guarantees (Local win) (unmapWindow win) :=
  guarantees_atomic fun _ => ⟨rfl, fun _ hv => ⟨rfl, rfl, Function.update_noteq hv _ _⟩⟩

/-! Sections that write nothing a window owns are quiet for every window. -/

variable (v : Window)

/-- Locking the weak scene surface reads only. -/
theorem sceneSurface_quiet : Guarantees (Quiet v) (sceneSurface win) :=
  guarantees_atomic fun _ => Quiet.of_eq rfl rfl rfl rfl le_rfl

/-- A request that is only logged is quiet for every window. -/
theorem send_quiet (r : XRequest) : Guarantees (Quiet v) (send r) :=
  guarantees_atomic fun _ => Quiet.of_eq rfl rfl rfl rfl le_rfl

/-- `configure_window` only logs its request, or throws. -/
theorem configureWindow_quiet (position : Option Point) (size : Option Size)
    (sibling : Option Window) (stackMode : Option StackMode) :
    Guarantees (Quiet v) (configureWindow win position size sibling stackMode) :=
  guarantees_atomicE fun _ => by split <;> exact Quiet.of_eq rfl rfl rfl rfl le_rfl

/-- A property read only adds to the log of reads. -/
theorem readProperty_quiet (atom : Atom) : Guarantees (Quiet v) (readProperty win atom) :=
  guarantees_atomic fun _ => Quiet.of_eq rfl rfl rfl rfl le_rfl

/-- A read of the shell's record of a surface changes nothing. -/
theorem surface_quiet {β : Type} (id : SurfaceId) (f : SceneSurface → β) :
    Guarantees (Quiet v) (surface id f) :=
  guarantees_atomic fun _ => Quiet.of_eq rfl rfl rfl rfl le_rfl

/-- `create_surface` changes the shell and the observer counts only, and moves the next identity
on. -/
theorem createSurface_quiet (session : SessionId) (params : SurfaceCreationParameters)
    (o : ObserverId) : Guarantees (Quiet v) (createSurface session params o) :=
  guarantees_atomicE fun _ => by
    split
    · exact Quiet.of_eq rfl rfl rfl rfl le_rfl
    · exact Quiet.of_eq rfl rfl rfl rfl (Nat.le_succ _)

/-- `modify_surface` changes the shell only. -/
theorem modifySurface_quiet (id : SurfaceId) (spec : SurfaceSpecification) :
    Guarantees (Quiet v) (modifySurface id spec) :=
  guarantees_atomic fun _ => Quiet.of_eq rfl rfl rfl rfl le_rfl

/-- `destroy_surface` changes the shell only. -/
theorem destroySurface_quiet (id : SurfaceId) : Guarantees (Quiet v) (destroySurface id) :=
  guarantees_atomic fun _ => Quiet.of_eq rfl rfl rfl rfl le_rfl

/-- `remove_observer` changes the shell and the observer counts only. -/
theorem removeObserver_quiet (id : SurfaceId) (o : ObserverId) :
    Guarantees (Quiet v) (removeObserver id o) :=
  guarantees_atomic fun _ => Quiet.of_eq rfl rfl rfl rfl le_rfl

/-- Making an observer changes the observer counts only. -/
theorem makeObserver_quiet : Guarantees (Quiet v) makeObserver :=
  guarantees_atomic fun _ => Quiet.of_eq rfl rfl rfl rfl le_rfl

/-- Releasing a reference changes the observer counts only. -/
theorem releaseObserver_quiet (o : ObserverId) : Guarantees (Quiet v) (releaseObserver o) :=
  guarantees_atomic fun _ => Quiet.of_eq rfl rfl rfl rfl le_rfl

/-- `close`'s check of the observer sets at most the fatal flag. -/
theorem observerMustBeDead_quiet (o : ObserverId) : Guarantees (Quiet v) (observerMustBeDead o) :=
  guarantees_atomic fun _ => Quiet.of_eq rfl rfl rfl rfl le_rfl

/-- `configure_window` leaves the shell alone. -/
theorem configureWindow_shell (position : Option Point) (size : Option Size)
    (sibling : Option Window) (stackMode : Option StackMode) :
    Preserves World.shell (configureWindow win position size sibling stackMode) :=
  preserves_atomicE fun _ => by split <;> rfl

end Section

/-- A quiet program is local. -/
theorem Prog.Guarantees.toLocal {α : Type} {win : Window} {p : Prog World α}
    (h : Guarantees (Quiet win) p) : Guarantees (Local win) p :=
  h.mono fun _ _ => Quiet.local

/-! ## Member functions -/

namespace XWaylandSurface

variable (a : Atoms) (win : Window)

open Section

/-- The constructor sets the bridge's cache and asks for the window's events. -/
theorem construct_local (ev : CreateNotifyEvent) : Guarantees (Local win) (construct win ev) :=
  guarantees_bind (locked_local win _) fun _ => (send_quiet win _).toLocal

/-- `inform_client_of_window_state` writes the window's bridge and its two state properties. -/
theorem informClientOfWindowState_local (s : WindowState) :
    Guarantees (Local win) (informClientOfWindowState a win s) := by
  refine guarantees_bind (locked_local win _) fun changed => ?_
  cases changed
  · exact guarantees_pure _
  · refine guarantees_bind (setProperty_local win _ _) fun _ => ?_
    split
    · exact deleteProperty_local win _
    · exact setProperty_local win _ _

/-- `request_scene_surface_state` asks the shell, and touches no window. -/
theorem requestSceneSurfaceState_quiet (m : MirWindowState) :
    Guarantees (Quiet win) (requestSceneSurfaceState win m) := by
  refine guarantees_bind (sceneSurface_quiet win win) fun id => ?_
  rcases id with _ | id
  · exact guarantees_pure _
  · refine guarantees_bind (surface_quiet win _ _) fun _ => ?_
    split
    · exact modifySurface_quiet win _ _
    · exact guarantees_pure _

/-- `get_scene_surface_from` only reads another bridge. -/
theorem getSceneSurfaceFrom_quiet (x : Window) : Guarantees (Quiet win) (getSceneSurfaceFrom x) :=
  guarantees_atomic fun _ => Quiet.of_eq rfl rfl rfl rfl le_rfl

/-- `is_transient_for` writes only the pending specification of its bridge. -/
theorem isTransientFor_quiet (t : Window) : Guarantees (Quiet win) (isTransientFor win t) := by
  refine guarantees_bind ?_ fun _ => guarantees_atomic fun w => quiet_setBridge win w ⟨rfl, rfl⟩
  unfold resolveTransientFor
  split
  · refine guarantees_bind (getSceneSurfaceFrom_quiet win t) fun p => ?_
    rcases p with _ | p
    · refine guarantees_bind (guarantees_atomic fun _ => Quiet.refl _) fun f => ?_
      rcases f with _ | f
      · exact guarantees_pure _
      · exact getSceneSurfaceFrom_quiet win f
    · exact guarantees_pure _
  · exact guarantees_pure _

/-- A reply writes only its bridge's pending specification or protocols. -/
theorem applyReply_quiet (h : Handler) (v : Option PropValue) :
    Guarantees (Quiet win) (applyReply win h v) := by
  rcases applyReply_shape win h v with ⟨f, hf, hb⟩ | ⟨t, ht⟩ | hp
  · rw [hf]; exact locked_quiet win fun b => by rw [hb]; exact ⟨rfl, rfl⟩
  · rw [ht]; exact isTransientFor_quiet win t
  · rw [hp]; exact guarantees_pure _

/-- Issuing the reads only logs them. -/
theorem issueReads_quiet (hs : List (Atom × Handler)) :
    Guarantees (Quiet win) (issueReads win hs) := by
  induction hs with
  | nil => exact guarantees_pure _
  | cons e hs ih =>
    exact guarantees_bind (readProperty_quiet win win _) fun _ =>
      guarantees_bind ih fun _ => guarantees_pure _

/-- The replies, one after another, are quiet as each is. -/
theorem processReplies_quiet (replies : List (Handler × Option PropValue)) :
    Guarantees (Quiet win) (processReplies win replies) := by
  induction replies with
  | nil => exact guarantees_pure _
  | cons e rest ih => exact guarantees_bind (applyReply_quiet win _ _) fun _ => ih

/-- `map` writes its bridge's cached state, its window's properties and its map state. -/
theorem map_local : Guarantees (Local win) (map a win) :=
  guarantees_bind (locked_local win _) fun _ =>
  guarantees_bind (setProperty_local win _ _) fun _ =>
  guarantees_bind (informClientOfWindowState_local a win _) fun _ =>
  guarantees_bind (requestSceneSurfaceState_quiet win _).toLocal fun _ => mapWindow_local win

/-- The end of `close` changes the shell and the observer counts only. -/
theorem closeDetach_quiet (sceneSurface : Option SurfaceId) (observer : Option ObserverId) :
    Guarantees (Quiet win) (closeDetach sceneSurface observer) := by
  have skip := guarantees_pure (R := Quiet win) ()
  have release (o : ObserverId) := guarantees_bind (releaseObserver_quiet win o) fun _ =>
    observerMustBeDead_quiet win o
  rcases sceneSurface with _ | s <;> rcases observer with _ | o <;> dsimp only [closeDetach]
  · exact guarantees_bind skip fun _ => guarantees_bind skip fun _ => skip
  · exact guarantees_bind skip fun _ => guarantees_bind skip fun _ => release o
  · exact guarantees_bind skip fun _ => guarantees_bind (destroySurface_quiet win s) fun _ => skip
  · exact guarantees_bind (removeObserver_quiet win s o) fun _ =>
      guarantees_bind (destroySurface_quiet win s) fun _ => release o

/-- `close` clears its bridge's references, writes its window's properties and unmaps it. -/
theorem close_local : Guarantees (Local win) (close a win) :=
  guarantees_bind (guarantees_atomic fun w => local_setBridge win w _) fun _ =>
  guarantees_bind (deleteProperty_local win _) fun _ =>
  guarantees_bind (informClientOfWindowState_local a win _) fun _ =>
  guarantees_bind (unmapWindow_local win) fun _ => (closeDetach_quiet win _ _).toLocal

/-- `take_focus` only sends requests. -/
theorem takeFocus_quiet : Guarantees (Quiet win) (takeFocus a win) := by
  refine guarantees_bind (locked_quiet win fun _ => ⟨rfl, rfl⟩) fun supports => ?_
  rcases supports with _ | supportsTakeFocus
  · exact guarantees_pure _
  · dsimp only
    split
    · exact guarantees_bind (send_quiet win _) fun _ => send_quiet win _
    · exact guarantees_bind (guarantees_pure _) fun _ => send_quiet win _

/-- `configure_request` asks the shell or configures the window, and touches no window state. -/
theorem configureRequest_quiet (ev : ConfigureRequestEvent) :
    Guarantees (Quiet win) (configureRequest win ev) := by
  refine guarantees_bind (sceneSurface_quiet win win) fun id => ?_
  rcases id with _ | id
  · exact guarantees_bind (guarantees_atomic fun _ => Quiet.refl _) fun _ =>
      configureWindow_quiet win win _ _ _ _
  · refine guarantees_bind (guarantees_atomic fun _ => Quiet.refl _) fun _ => ?_
    split
    · exact modifySurface_quiet win _ _
    · exact guarantees_pure _

/-- `configure_notify` sets the cached geometry only. -/
theorem configureNotify_quiet (ev : ConfigureNotifyEvent) :
    Guarantees (Quiet win) (configureNotify win ev) :=
  locked_quiet win fun _ => ⟨rfl, rfl⟩

/-- A `_NET_WM_STATE` message informs its window and asks the shell. -/
theorem netWmStateClientMessage_local (data : ClientMessageData) :
    Guarantees (Local win) (netWmStateClientMessage a win data) :=
  guarantees_bind (locked_local win _) fun _ =>
  guarantees_bind (informClientOfWindowState_local a win _) fun _ =>
  (requestSceneSurfaceState_quiet win _).toLocal

/-- A `WM_CHANGE_STATE` message informs its window and asks the shell, or throws first. -/
theorem wmChangeStateClientMessage_local (data : ClientMessageData) :
    Guarantees (Local win) (wmChangeStateClientMessage a win data) :=
  guarantees_bind (guarantees_atomicE fun _ => Local.refl _) fun _ =>
  guarantees_bind (informClientOfWindowState_local a win _) fun _ =>
  (requestSceneSurfaceState_quiet win _).toLocal

/-- Applying the pending specification consumes it and asks the shell. -/
theorem applyPendingSpec_quiet : Guarantees (Quiet win) (applyPendingSpec win) := by
  refine guarantees_bind (guarantees_atomic fun w => quiet_setBridge win w ⟨rfl, rfl⟩) fun x => ?_
  obtain ⟨sceneSurface, spec⟩ := x
  rcases spec with _ | spec <;> rcases sceneSurface with _ | id
  all_goals first
    | exact guarantees_pure _
    | refine guarantees_bind (guarantees_atomic fun _ => Quiet.refl _) fun _ => ?_
  dsimp only
  split
  · exact modifySurface_quiet win _ _
  · exact guarantees_pure _

/-- `property_notify` reads, fills and consumes the pending specification, and asks the shell. -/
theorem propertyNotify_quiet (property : Atom) :
    Guarantees (Quiet win) (propertyNotify a win property) := by
  unfold propertyNotify
  split
  · exact guarantees_pure _
  · exact guarantees_bind (readProperty_quiet win win _) fun _ =>
      guarantees_bind (applyReply_quiet win _ _) fun _ => applyPendingSpec_quiet win

/-- The rest of an attach informs its window and touches nothing of another. -/
theorem attachRest_local (o : ObserverId)
    (args : WindowState × SessionId × SurfaceCreationParameters) :
    Guarantees (Local win) (attachRest a win o args) :=
  guarantees_bind (issueReads_quiet win _).toLocal fun _ =>
  guarantees_bind (processReplies_quiet win _).toLocal fun _ =>
  guarantees_bind (locked_local win _) fun _ =>
  guarantees_bind (createSurface_quiet win _ _ _).toLocal fun _ =>
  guarantees_bind (informClientOfWindowState_local a win _) fun _ =>
  guarantees_bind (surface_quiet win _ _).toLocal fun _ =>
  guarantees_bind (configureWindow_quiet win win _ _ _ _).toLocal fun _ => locked_local win _

/-- `attach_wl_surface` touches only its own window among the windows. -/
theorem attachWlSurface_local (wl : WlSurface) :
    Guarantees (Local win) (attachWlSurface a win wl) := by
  refine guarantees_bind (makeObserver_quiet win).toLocal fun o =>
    guarantees_andFinally (guarantees_bind (guarantees_atomicE fun w => ?_)
      (attachRest_local a win o)) (releaseObserver_quiet win o).toLocal
  unfold attachBegin
  dsimp only
  split
  · exact Local.refl w
  · split
    · exact Local.refl w
    · exact local_setBridge win w _

/-- `move_resize` only asks the shell. -/
theorem moveResize_quiet (detail : Nat) : Guarantees (Quiet win) (moveResize win detail) := by
  refine guarantees_bind (guarantees_atomic fun _ => Quiet.refl _) fun x => ?_
  obtain ⟨sceneSurface, timestamp⟩ := x
  repeat' first
    | exact guarantees_pure _
    | exact guarantees_atomic fun _ => Quiet.of_eq rfl rfl rfl rfl le_rfl
    | split

/-- `scene_surface_focus_set` moves the focus and restacks the window. -/
theorem sceneSurfaceFocusSet_quiet (hasFocus : Bool) :
    Guarantees (Quiet win) (sceneSurfaceFocusSet win hasFocus) :=
  guarantees_bind (guarantees_atomic fun _ => Quiet.of_eq rfl rfl rfl rfl le_rfl) fun _ =>
    configureWindow_quiet win win _ _ _ _

/-- `scene_surface_state_set` informs its window and may restack it. -/
theorem sceneSurfaceStateSet_local (newState : MirWindowState) :
    Guarantees (Local win) (sceneSurfaceStateSet a win newState) := by
  refine guarantees_bind (locked_local win _) fun _ =>
    guarantees_bind (informClientOfWindowState_local a win _) fun _ => ?_
  split
  · exact (configureWindow_quiet win win _ _ _ _).toLocal
  · exact guarantees_pure _

/-- `scene_surface_resized` only configures the window. -/
theorem sceneSurfaceResized_quiet (newSize : Size) :
    Guarantees (Quiet win) (sceneSurfaceResized win newSize) :=
  configureWindow_quiet win win _ _ _ _

/-- `scene_surface_moved_to` only configures the window. -/
theorem sceneSurfaceMovedTo_quiet (newTopLeft : Point) :
    Guarantees (Quiet win) (sceneSurfaceMovedTo win newTopLeft) := by
  refine guarantees_bind (sceneSurface_quiet win win) fun id => ?_
  dsimp only
  rcases id with _ | id
  · exact guarantees_bind (guarantees_pure _) fun _ => configureWindow_quiet win win _ _ _ _
  · exact guarantees_bind (surface_quiet win _ _) fun _ =>
      guarantees_bind (guarantees_pure _) fun _ => configureWindow_quiet win win _ _ _ _

/-- `scene_surface_close_requested` only sends requests. -/
theorem sceneSurfaceCloseRequested_quiet :
    Guarantees (Quiet win) (sceneSurfaceCloseRequested a win) := by
  refine guarantees_bind (locked_quiet win fun _ => ⟨rfl, rfl⟩) fun deleteWindow => ?_
  split
  · exact send_quiet win _
  · exact send_quiet win _

/-! ## Member functions that leave the shell alone -/

/-- `inform_client_of_window_state` writes the bridge and the X server only. -/
theorem informClientOfWindowState_shell (s : WindowState) :
    Preserves World.shell (informClientOfWindowState a win s) := by
  refine preserves_bind (preserves_atomic fun _ => rfl) fun changed => ?_
  cases changed
  · exact preserves_pure _
  · refine preserves_bind (preserves_atomic fun _ => rfl) fun _ => ?_
    split <;> exact preserves_atomic fun _ => rfl

/-- `is_transient_for` only reads the shell. -/
theorem isTransientFor_shell (t : Window) : Preserves World.shell (isTransientFor win t) := by
  refine preserves_bind ?_ fun _ => preserves_atomic fun _ => rfl
  unfold resolveTransientFor
  split
  · refine preserves_bind (preserves_atomic fun _ => rfl) fun p => ?_
    rcases p with _ | p
    · refine preserves_bind (preserves_atomic fun _ => rfl) fun f => ?_
      rcases f with _ | f
      · exact preserves_pure _
      · exact preserves_atomic fun _ => rfl
    · exact preserves_pure _
  · exact preserves_pure _

/-- A reply writes its bridge only. -/
theorem applyReply_shell (h : Handler) (v : Option PropValue) :
    Preserves World.shell (applyReply win h v) := by
  rcases applyReply_shape win h v with ⟨f, hf, -⟩ | ⟨t, ht⟩ | hp
  · rw [hf]; exact preserves_atomic fun _ => rfl
  · rw [ht]; exact isTransientFor_shell win t
  · rw [hp]; exact preserves_pure _

/-- Issuing the reads leaves the shell alone. -/
theorem issueReads_shell (hs : List (Atom × Handler)) : Preserves World.shell (issueReads win hs) := by
  induction hs with
  | nil => exact preserves_pure _
  | cons e hs ih =>
    exact preserves_bind (preserves_atomic fun _ => rfl) fun _ =>
      preserves_bind ih fun _ => preserves_pure _

/-- Nor does any reply. -/
theorem processReplies_shell (replies : List (Handler × Option PropValue)) :
    Preserves World.shell (processReplies win replies) := by
  induction replies with
  | nil => exact preserves_pure _
  | cons e rest ih => exact preserves_bind (applyReply_shell win _ _) fun _ => ih

/-- `take_focus` asks the shell nothing. -/
theorem takeFocus_shell : Preserves World.shell (takeFocus a win) := by
  refine preserves_bind (preserves_atomic fun _ => rfl) fun supports => ?_
  rcases supports with _ | supportsTakeFocus
  · exact preserves_pure _
  · dsimp only
    split
    · exact preserves_bind (preserves_atomic fun _ => rfl) fun _ => preserves_atomic fun _ => rfl
    · exact preserves_bind (preserves_pure _) fun _ => preserves_atomic fun _ => rfl

/-- The compositor's state report is passed on to the X client, never back to the shell. -/
theorem sceneSurfaceStateSet_shell (newState : MirWindowState) :
    Preserves World.shell (sceneSurfaceStateSet a win newState) := by
  refine preserves_bind (preserves_atomic fun _ => rfl) fun _ =>
    preserves_bind (informClientOfWindowState_shell a win _) fun _ => ?_
  split
  · exact configureWindow_shell win _ _ _ _
  · exact preserves_pure _

/-- `scene_surface_moved_to` only reads the surface it configures the window to. -/
theorem sceneSurfaceMovedTo_shell (newTopLeft : Point) :
    Preserves World.shell (sceneSurfaceMovedTo win newTopLeft) := by
  refine preserves_bind (preserves_atomic fun _ => rfl) fun id => ?_
  dsimp only
  rcases id with _ | id
  · exact preserves_bind (preserves_pure _) fun _ => configureWindow_shell win _ _ _ _
  · exact preserves_bind (preserves_atomic fun _ => rfl) fun _ =>
      preserves_bind (preserves_pure _) fun _ => configureWindow_shell win _ _ _ _

/-- `scene_surface_close_requested` only sends the client a request. -/
theorem sceneSurfaceCloseRequested_shell : Preserves World.shell (sceneSurfaceCloseRequested a win) := by
  refine preserves_bind (preserves_atomic fun _ => rfl) fun _ => ?_
  split <;> exact preserves_atomic fun _ => rfl

end XWaylandSurface

end XWaylandBridge
