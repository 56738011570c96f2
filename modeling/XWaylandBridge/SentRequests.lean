import XWaylandBridge.Serial

/-!
# The requests the bridges send the X server and the shell

A bridge sends the X server requests of three sorts. It writes the properties it owns
(`ChangeProperty` and `DeleteProperty` of `WM_STATE`, `_NET_WM_STATE` and `_NET_WM_DESKTOP`) and
maps and unmaps its window; it reads the properties of its client (`GetProperty`, logged with
the reply in `World.reads`); and it sends requests whose effect it never reads back:
`configure_window`, `xcb_set_input_focus`, `send_client_message<WM_PROTOCOLS>`,
`xcb_kill_client`, and `xcb_change_window_attributes` when it is built. Which of them a call may
send is a short table (`Call.mayRequest`, `Call.mayRead`): every request names the call's own
window; only the calls that run `inform_client_of_window_state` write `WM_STATE` and
`_NET_WM_STATE`; only `map` sets `_NET_WM_DESKTOP` (to desktop 1) and maps, only `close`
deletes it and unmaps; only `property_notify` (the notified property) and `attach_wl_surface`
(the handler table's) read; no `configure_window` names a sibling; a window is restacked above
only by an attach or a focus change and below only when the compositor minimizes it; the input
focus is set only by `take_focus`; a client is sent a message only by `take_focus` and
`scene_surface_close_requested`, and killed only by the latter; a `scene_surface_resized` never
moves the window and a `scene_surface_moved_to` never resizes it.

The requests a bridge makes of the shell have a table of their own (`Call.mayAsk`): only
`attach_wl_surface` creates a surface, only `close` destroys one, only `move_resize` starts an
interactive move (for the detail `MOVE`) or resize (at the edge its detail names), and the
window manager's state calls modify nothing of a surface but its state. The compositor's
notifications (`scene_surface_*`) ask the shell nothing: what the compositor decided is passed
on to the X client and never echoed back.

**What is proved.** The three logs only grow, and every request that any interleaving of any
calls adds to them is one the tables allow to one of the calls (`Call.runSchedule_requests` for
the X server's requests and reads, `Call.runSchedule_asks` for the shell). Each member function
is checked once, section by section, as a `Prog.Guarantees` of the relation `World.Sends` on the
three logs, so the results hold between any two sections of any schedule.

**What this does not decide.** The order of the requests, the surfaces they name, and the
values, positions, sizes, specifications and messages they carry: those are `XView.lean`'s,
`Position.lean`'s, `ConfigureRequest.lean`'s, `ShellLedger.lean`'s and
`CompositorRequests.lean`'s subjects. The specifications of `configure_request` and
`property_notify` are computed from the world in an earlier section, so the table does not bound
them. Nor `remove_observer`, which the shell does not log.
-/

set_option autoImplicit false

namespace XWaylandBridge

/-- The window a request names. -/
def XRequest.window : XRequest → Window
  | .changeProperty w .. | .deleteProperty w _ | .mapWindow w | .unmapWindow w
  | .configureWindow w .. | .setInputFocus w | .sendClientMessage w .. | .killClient w
  | .changeWindowAttributes w _ => w

/-- The property requests of `inform_client_of_window_state`: `WM_STATE` or `_NET_WM_STATE` set,
or `_NET_WM_STATE` deleted. -/
def XRequest.informs (a : Atoms) : XRequest → Bool
  | .changeProperty _ property _ => decide (property = a.wmState) || decide (property = a.netWmState)
  | .deleteProperty _ property => decide (property = a.netWmState)
  | _ => false

namespace Call

/-- Whether the call runs `inform_client_of_window_state`. -/
def informs : Call → Bool
  | map _ | close _ | wlSurfaceDestroyed _ | netWmStateClientMessage .. | wmChangeStateClientMessage ..
  | sceneSurfaceStateSet .. | attachWlSurface .. => true
  | _ => false

/-- The kinds of request a call may send besides the state properties, whatever window they
name: the desktop `map` sets, and the stacking, position and size a `configure_window` carries,
are given where the source fixes them. -/
def requestShape (a : Atoms) : Call → XRequest → Bool
  | create .., .changeWindowAttributes .. => true
  | map _, .changeProperty _ property value =>
    decide (property = a.netWmDesktop) && decide (value = .cardinals [1])
  | map _, .mapWindow _ => true
  | close _, .deleteProperty _ property | wlSurfaceDestroyed _, .deleteProperty _ property =>
    decide (property = a.netWmDesktop)
  | close _, .unmapWindow _ | wlSurfaceDestroyed _, .unmapWindow _ => true
  | takeFocus _, .sendClientMessage .. | takeFocus _, .setInputFocus _ => true
  | configureRequest .., .configureWindow _ (some _) (some _) none none => true
  | attachWlSurface .., .configureWindow _ _ _ none (some .above) => true
  | sceneSurfaceFocusSet .., .configureWindow _ none none none (some .above) => true
  | sceneSurfaceStateSet _ newState, .configureWindow _ none none none (some .below) =>
    decide (newState = .minimized)
  | sceneSurfaceResized .., .configureWindow _ none (some _) none none => true
  | sceneSurfaceMovedTo .., .configureWindow _ (some _) none none none => true
  | sceneSurfaceCloseRequested _, .sendClientMessage .. | sceneSurfaceCloseRequested _, .killClient _ =>
    true
  | _, _ => false

/-- The requests a call may send: the state properties if it informs, or one of its kinds, each
naming the call's window. -/
def mayRequest (a : Atoms) (c : Call) (r : XRequest) : Bool :=
  decide (r.window = c.window) && (c.informs && r.informs a || c.requestShape a r)

variable {a : Atoms} {c : Call} {r : XRequest}

theorem mayRequest_of (hw : r.window = c.window) (hs : c.requestShape a r = true) :
    c.mayRequest a r = true := by
  simp [mayRequest, hw, hs]

/-- A call that informs may write the state properties of its window. -/
theorem mayRequest_of_informs (hc : c.informs = true) (hw : r.window = c.window)
    (hr : r.informs a = true) : c.mayRequest a r = true := by
  simp [mayRequest, hw, hc, hr]

/-- Every request a call may send names the call's window. -/
theorem mayRequest_window (h : c.mayRequest a r = true) : r.window = c.window := by
  simp only [mayRequest, Bool.and_eq_true, decide_eq_true_eq] at h
  exact h.1

/-- The properties a call reads: `property_notify` the one it is notified of, and an attach
every property of the handler table. -/
def mayRead (a : Atoms) : Call → Atom → Bool
  | propertyNotify _ property, atom => decide (atom = property)
  | attachWlSurface .., atom => decide (atom ∈ (propertyHandlers a).map Prod.fst)
  | _, _ => false

/-- The reads a call may make: of one of its properties, on the call's window, whatever the
reply carries. -/
def mayReadEntry (a : Atoms) (c : Call) (r : Window × Atom × Option PropValue) : Bool :=
  decide (r.1 = c.window) && c.mayRead a r.2.1

/-- The requests a call may make of the shell, whatever surface they name. The window manager's
state calls modify the state and nothing else; no call but these, `configure_request`,
`property_notify`, the attach, the close and `move_resize` asks anything. -/
def mayAsk : Call → ShellRequest → Bool
  | attachWlSurface .., .create .. => true
  | map _, .modify _ spec | netWmStateClientMessage _ _, .modify _ spec
  | wmChangeStateClientMessage _ _, .modify _ spec => decide (spec = { state := spec.state })
  | configureRequest .., .modify .. | propertyNotify .., .modify .. => true
  | close _, .destroy _ | wlSurfaceDestroyed _, .destroy _ => true
  | moveResize _ detail, .requestMove .. => decide (detail = 8)
  | moveResize _ detail, .requestResize _ _ edge => decide (wmResizeEdgeToMirResizeEdge detail = some edge)
  | _, _ => false

end Call

namespace World

/-- The shell's log of the requests made of it. -/
def shellLog (w : World) : List ShellRequest := w.shell.log

/-- `w'` is `w` with entries added to the log `log` that `ok` allows: the log only grows, and by
those. -/
def Grows {ρ : Type} (log : World → List ρ) (ok : ρ → Prop) (w w' : World) : Prop :=
  ∃ added, log w' = added ++ log w ∧ ∀ r ∈ added, ok r

section Grows

variable {ρ : Type} {log : World → List ρ} {ok ok' : ρ → Prop} {w w' w'' : World}

theorem Grows.refl (w : World) : Grows log ok w w := ⟨[], rfl, fun _ h => absurd h (List.not_mem_nil _)⟩

theorem Grows.trans (h : Grows log ok w w') (h' : Grows log ok w' w'') : Grows log ok w w'' := by
  obtain ⟨added, hs, hok⟩ := h
  obtain ⟨added', hs', hok'⟩ := h'
  exact ⟨added' ++ added, by rw [hs', hs, List.append_assoc],
    fun r hr => (List.mem_append.mp hr).elim (hok' r) (hok r)⟩

theorem Grows.mono (hok : ∀ r, ok r → ok' r) (h : Grows log ok w w') : Grows log ok' w w' :=
  let ⟨added, hs, h⟩ := h
  ⟨added, hs, fun r hr => hok r (h r hr)⟩

/-- A section that leaves the log adds nothing, whatever is allowed. -/
theorem Grows.of_eq (h : log w' = log w) : Grows log ok w w' := ⟨[], h, fun _ h => absurd h (List.not_mem_nil _)⟩

/-- A section that adds one allowed entry. -/
theorem Grows.cons {r : ρ} (hr : ok r) (h : log w' = r :: log w) : Grows log ok w w' :=
  ⟨[r], h, fun _ h' => List.mem_singleton.mp h' ▸ hr⟩

end Grows

/-- `w'` is `w` with requests sent to the X server that `okX` allows, reads that `okR` allows,
and requests made of the shell that `okS` allows, and no other entry in the three logs. -/
def Sends (okX : XRequest → Prop) (okR : Window × Atom × Option PropValue → Prop)
    (okS : ShellRequest → Prop) (w w' : World) : Prop :=
  Grows xlog okX w w' ∧ Grows reads okR w w' ∧ Grows shellLog okS w w'

variable {okX : XRequest → Prop} {okR : Window × Atom × Option PropValue → Prop}
  {okS : ShellRequest → Prop} {w w' w'' : World}

theorem Sends.refl (w : World) : Sends okX okR okS w w := ⟨.refl w, .refl w, .refl w⟩

theorem Sends.trans (h : Sends okX okR okS w w') (h' : Sends okX okR okS w' w'') :
    Sends okX okR okS w w'' :=
  ⟨h.1.trans h'.1, h.2.1.trans h'.2.1, h.2.2.trans h'.2.2⟩

/-- A section that leaves the three logs sends nothing, whatever is allowed. -/
theorem Sends.of_logs (h : (w'.xlog, w'.reads, w'.shell.log) = (w.xlog, w.reads, w.shell.log)) :
    Sends okX okR okS w w' :=
  ⟨.of_eq (congrArg Prod.fst h), .of_eq (congrArg (·.2.1) h), .of_eq (congrArg (·.2.2) h)⟩

end World

/-- A move whose every request, to the X server or to the shell, and every read, is one the
call may make. -/
def Call.Allows (a : Atoms) (c : Call) : World → World → Prop :=
  World.Sends (fun r => c.mayRequest a r = true) (fun r => c.mayReadEntry a r = true)
    (fun r => c.mayAsk r = true)

open Prog World

/-! ## Sections

Six sections send the X server something: `send`, the two property writes, the map, the unmap,
and `configure_window` (which sends nothing when it throws); one reads a property. Five ask the
shell something: `create_surface` (nothing when it throws), `modify_surface`,
`destroy_surface`, `request_move` and `request_resize`. Every other section leaves the three
logs. -/

namespace Section

variable (win : Window) {okX : XRequest → Prop} {okR : Window × Atom × Option PropValue → Prop}
  {okS : ShellRequest → Prop}

theorem sends_atomic {α : Type} {f : World → α × World}
    (h : ∀ w, ((f w).2.xlog, (f w).2.reads, (f w).2.shell.log) = (w.xlog, w.reads, w.shell.log)) :
    Guarantees (Sends okX okR okS) (Prog.atomic f) :=
  guarantees_atomic fun w => .of_logs (h w)

theorem locked_sends {α : Type} (f : XWaylandSurface → α × XWaylandSurface) :
    Guarantees (Sends okX okR okS) (locked win f) :=
  sends_atomic fun _ => rfl

/-- A section that sends one request and reads nothing. -/
theorem sends_one {α : Type} {f : World → α × World} {r : XRequest} (hr : okX r)
    (h : ∀ w, ((f w).2.xlog, (f w).2.reads, (f w).2.shell.log) = (r :: w.xlog, w.reads, w.shell.log)) :
    Guarantees (Sends okX okR okS) (Prog.atomic f) :=
  guarantees_atomic fun w =>
    ⟨.cons hr (congrArg Prod.fst (h w)), .of_eq (congrArg (·.2.1) (h w)), .of_eq (congrArg (·.2.2) (h w))⟩

theorem send_sends {r : XRequest} (h : okX r) : Guarantees (Sends okX okR okS) (send r) :=
  sends_one h fun _ => rfl

theorem setProperty_sends {atom : Atom} {v : PropValue} (h : okX (.changeProperty win atom v)) :
    Guarantees (Sends okX okR okS) (setProperty win atom v) :=
  sends_one h fun _ => rfl

theorem deleteProperty_sends {atom : Atom} (h : okX (.deleteProperty win atom)) :
    Guarantees (Sends okX okR okS) (deleteProperty win atom) :=
  sends_one h fun _ => rfl

theorem mapWindow_sends (h : okX (.mapWindow win)) : Guarantees (Sends okX okR okS) (mapWindow win) :=
  sends_one h fun _ => rfl

theorem unmapWindow_sends (h : okX (.unmapWindow win)) :
    Guarantees (Sends okX okR okS) (unmapWindow win) :=
  sends_one h fun _ => rfl

/-- A read is logged with its reply, whatever the reply carries. -/
theorem readProperty_sends {atom : Atom} (h : ∀ v, okR (win, atom, v)) :
    Guarantees (Sends okX okR okS) (readProperty win atom) :=
  guarantees_atomic fun _ => ⟨.of_eq rfl, .cons (h _) rfl, .of_eq rfl⟩

theorem configureWindow_sends {position : Option Point} {size : Option Size} {sibling : Option Window}
    {stackMode : Option StackMode} (h : okX (.configureWindow win position size sibling stackMode)) :
    Guarantees (Sends okX okR okS) (configureWindow win position size sibling stackMode) :=
  guarantees_atomicE fun _ => by
    split
    · exact .refl _
    · exact ⟨.cons h rfl, .of_eq rfl, .of_eq rfl⟩

theorem createSurface_sends {session : SessionId} {params : SurfaceCreationParameters} (o : ObserverId)
    (h : ∀ id, okS (.create id params)) :
    Guarantees (Sends okX okR okS) (createSurface session params o) :=
  guarantees_atomicE fun _ => by
    split
    · exact .refl _
    · exact ⟨.of_eq rfl, .of_eq rfl, .cons (h _) rfl⟩

theorem modifySurface_sends {id : SurfaceId} {spec : SurfaceSpecification} (h : okS (.modify id spec)) :
    Guarantees (Sends okX okR okS) (modifySurface id spec) :=
  guarantees_atomic fun _ => ⟨.of_eq rfl, .of_eq rfl, .cons h rfl⟩

theorem destroySurface_sends {id : SurfaceId} (h : okS (.destroy id)) :
    Guarantees (Sends okX okR okS) (destroySurface id) :=
  guarantees_atomic fun _ => ⟨.of_eq rfl, .of_eq rfl, .cons h rfl⟩

theorem requestMove_sends {id : SurfaceId} {timestamp : Nat} (h : okS (.requestMove id timestamp)) :
    Guarantees (Sends okX okR okS) (requestMove id timestamp) :=
  guarantees_atomic fun _ => ⟨.of_eq rfl, .of_eq rfl, .cons h rfl⟩

theorem requestResize_sends {id : SurfaceId} {timestamp : Nat} {edge : MirResizeEdge}
    (h : okS (.requestResize id timestamp edge)) :
    Guarantees (Sends okX okR okS) (requestResize id timestamp edge) :=
  guarantees_atomic fun _ => ⟨.of_eq rfl, .of_eq rfl, .cons h rfl⟩

end Section

/-! ## Member functions

The functions that send nothing guarantee `Sends okX okR okS` for every `okX`, `okR` and `okS`;
those that only inform, read, destroy, set a state or apply the pending specification, for
every table that allows it; each of the others, what its own call allows. -/

namespace XWaylandSurface

variable (a : Atoms) (win : Window) {okX : XRequest → Prop}
  {okR : Window × Atom × Option PropValue → Prop} {okS : ShellRequest → Prop}

open Section

theorem informClientOfWindowState_sends (s : WindowState)
    (h : ∀ r : XRequest, r.window = win → r.informs a = true → okX r) :
    Guarantees (Sends okX okR okS) (informClientOfWindowState a win s) := by
  refine guarantees_bind (locked_sends win _) fun changed => ?_
  cases changed
  · exact guarantees_pure _
  · refine guarantees_bind (setProperty_sends win (h _ rfl (by simp [XRequest.informs]))) fun _ => ?_
    split
    · exact deleteProperty_sends win (h _ rfl (by simp [XRequest.informs]))
    · exact setProperty_sends win (h _ rfl (by simp [XRequest.informs]))

theorem requestSceneSurfaceState_sends (m : MirWindowState) (h : ∀ id, okS (.modify id { state := some m })) :
    Guarantees (Sends okX okR okS) (requestSceneSurfaceState win m) := by
  refine guarantees_bind (sends_atomic fun _ => rfl) fun id => ?_
  rcases id with _ | id
  · exact guarantees_pure _
  · refine guarantees_bind (sends_atomic fun _ => rfl) fun _ => ?_
    split
    · exact modifySurface_sends (h id)
    · exact guarantees_pure _

theorem isTransientFor_sends (t : Window) : Guarantees (Sends okX okR okS) (isTransientFor win t) := by
  refine guarantees_bind ?_ fun _ => sends_atomic fun _ => rfl
  unfold resolveTransientFor
  split
  · refine guarantees_bind (sends_atomic fun _ => rfl) fun p => ?_
    rcases p with _ | p
    · refine guarantees_bind (sends_atomic fun _ => rfl) fun f => ?_
      rcases f with _ | f
      · exact guarantees_pure _
      · exact sends_atomic fun _ => rfl
    · exact guarantees_pure _
  · exact guarantees_pure _

theorem applyReply_sends (h : Handler) (v : Option PropValue) :
    Guarantees (Sends okX okR okS) (applyReply win h v) := by
  rcases applyReply_shape win h v with ⟨f, hf, -⟩ | ⟨t, ht⟩ | hp
  · rw [hf]; exact locked_sends win f
  · rw [ht]; exact isTransientFor_sends win t
  · rw [hp]; exact guarantees_pure _

/-- The reads of a handler list, each logged with its reply. -/
theorem issueReads_sends (hs : List (Atom × Handler)) (h : ∀ e ∈ hs, ∀ v, okR (win, e.1, v)) :
    Guarantees (Sends okX okR okS) (issueReads win hs) := by
  induction hs with
  | nil => exact guarantees_pure _
  | cons e hs ih =>
    exact guarantees_bind (readProperty_sends win (h e (.head _))) fun _ =>
      guarantees_bind (ih fun e' he' => h e' (.tail _ he')) fun _ => guarantees_pure _

theorem processReplies_sends (replies : List (Handler × Option PropValue)) :
    Guarantees (Sends okX okR okS) (processReplies win replies) := by
  induction replies with
  | nil => exact guarantees_pure _
  | cons e rest ih => exact guarantees_bind (applyReply_sends win _ _) fun _ => ih

theorem closeDetach_sends (sceneSurface : Option SurfaceId) (observer : Option ObserverId)
    (h : ∀ id, okS (.destroy id)) : Guarantees (Sends okX okR okS) (closeDetach sceneSurface observer) := by
  have skip := guarantees_pure (R := Sends okX okR okS) ()
  have release (o : ObserverId) :
      Guarantees (Sends okX okR okS) (releaseObserver o >>= fun _ => observerMustBeDead o) :=
    guarantees_bind (sends_atomic fun _ => rfl) fun _ => sends_atomic fun _ => rfl
  rcases sceneSurface with _ | s <;> rcases observer with _ | o <;> dsimp only [closeDetach]
  · exact guarantees_bind skip fun _ => guarantees_bind skip fun _ => skip
  · exact guarantees_bind skip fun _ => guarantees_bind skip fun _ => release o
  · exact guarantees_bind skip fun _ => guarantees_bind (destroySurface_sends (h s)) fun _ => skip
  · exact guarantees_bind (sends_atomic fun _ => rfl) fun _ =>
      guarantees_bind (destroySurface_sends (h s)) fun _ => release o

/-- `close` deletes `_NET_WM_DESKTOP`, informs, unmaps and destroys, and sends nothing else;
`wl_surface_destroyed` is the same program. -/
theorem close_sends (hdel : okX (.deleteProperty win a.netWmDesktop)) (hun : okX (.unmapWindow win))
    (hi : ∀ r : XRequest, r.window = win → r.informs a = true → okX r) (hd : ∀ id, okS (.destroy id)) :
    Guarantees (Sends okX okR okS) (close a win) :=
  guarantees_bind (sends_atomic fun _ => rfl) fun _ =>
  guarantees_bind (deleteProperty_sends win hdel) fun _ =>
  guarantees_bind (informClientOfWindowState_sends a win _ hi) fun _ =>
  guarantees_bind (unmapWindow_sends win hun) fun _ => closeDetach_sends _ _ hd

theorem applyPendingSpec_sends (h : ∀ id spec, okS (.modify id spec)) :
    Guarantees (Sends okX okR okS) (applyPendingSpec win) := by
  refine guarantees_bind (sends_atomic fun _ => rfl) fun x => ?_
  obtain ⟨sceneSurface, spec⟩ := x
  rcases spec with _ | spec <;> rcases sceneSurface with _ | id
  all_goals first
    | exact guarantees_pure _
    | refine guarantees_bind (sends_atomic fun _ => rfl) fun _ => ?_
  dsimp only
  split
  · exact modifySurface_sends (h _ _)
  · exact guarantees_pure _

/-! The member functions of one call each. -/

theorem construct_sends (ev : CreateNotifyEvent) :
    Guarantees ((Call.create win ev).Allows a) (construct win ev) :=
  guarantees_bind (locked_sends win _) fun _ => send_sends (Call.mayRequest_of rfl rfl)

theorem map_sends : Guarantees ((Call.map win).Allows a) (map a win) :=
  guarantees_bind (locked_sends win _) fun _ =>
  guarantees_bind (setProperty_sends win (Call.mayRequest_of rfl
    ((Bool.and_eq_true _ _).mpr ⟨decide_eq_true rfl, decide_eq_true rfl⟩))) fun _ =>
  guarantees_bind (informClientOfWindowState_sends a win _ fun _ hw hr =>
    Call.mayRequest_of_informs rfl hw hr) fun _ =>
  guarantees_bind (requestSceneSurfaceState_sends win _ fun _ => decide_eq_true rfl) fun _ =>
  mapWindow_sends win (Call.mayRequest_of rfl rfl)

theorem takeFocus_sends : Guarantees ((Call.takeFocus win).Allows a) (takeFocus a win) := by
  refine guarantees_bind (locked_sends win _) fun supports => ?_
  rcases supports with _ | supportsTakeFocus
  · exact guarantees_pure _
  · have focus : Guarantees ((Call.takeFocus win).Allows a) (send (.setInputFocus win)) :=
      send_sends (Call.mayRequest_of rfl rfl)
    dsimp only
    split
    · exact guarantees_bind (send_sends (Call.mayRequest_of rfl rfl)) fun _ => focus
    · exact guarantees_bind (guarantees_pure _) fun _ => focus

theorem configureRequest_sends (ev : ConfigureRequestEvent) :
    Guarantees ((Call.configureRequest win ev).Allows a) (configureRequest win ev) := by
  refine guarantees_bind (sends_atomic fun _ => rfl) fun id => ?_
  rcases id with _ | id
  · exact guarantees_bind (sends_atomic fun _ => rfl) fun _ =>
      configureWindow_sends win (Call.mayRequest_of rfl rfl)
  · refine guarantees_bind (sends_atomic fun _ => rfl) fun _ => ?_
    split
    · exact modifySurface_sends rfl
    · exact guarantees_pure _

theorem netWmStateClientMessage_sends (data : ClientMessageData) :
    Guarantees ((Call.netWmStateClientMessage win data).Allows a) (netWmStateClientMessage a win data) :=
  guarantees_bind (locked_sends win _) fun _ =>
  guarantees_bind (informClientOfWindowState_sends a win _ fun _ hw hr =>
    Call.mayRequest_of_informs rfl hw hr) fun _ =>
  requestSceneSurfaceState_sends win _ fun _ => decide_eq_true rfl

theorem wmChangeStateClientMessage_sends (data : ClientMessageData) :
    Guarantees ((Call.wmChangeStateClientMessage win data).Allows a)
      (wmChangeStateClientMessage a win data) :=
  guarantees_bind (guarantees_atomicE fun _ => .refl _) fun _ =>
  guarantees_bind (informClientOfWindowState_sends a win _ fun _ hw hr =>
    Call.mayRequest_of_informs rfl hw hr) fun _ =>
  requestSceneSurfaceState_sends win _ fun _ => decide_eq_true rfl

theorem propertyNotify_sends (property : Atom) :
    Guarantees ((Call.propertyNotify win property).Allows a) (propertyNotify a win property) := by
  unfold propertyNotify
  split
  · exact guarantees_pure _
  · exact guarantees_bind (readProperty_sends win fun _ => by simp [Call.mayReadEntry, Call.mayRead, Call.window])
      fun _ => guarantees_bind (applyReply_sends win _ _) fun _ => applyPendingSpec_sends win fun _ _ => rfl

theorem moveResize_sends (detail : Nat) :
    Guarantees ((Call.moveResize win detail).Allows a) (moveResize win detail) := by
  refine guarantees_bind (sends_atomic fun _ => rfl) fun x => ?_
  obtain ⟨sceneSurface, timestamp⟩ := x
  dsimp only
  split
  · next hmove =>
    split
    · exact requestMove_sends (decide_eq_true hmove)
    · exact guarantees_pure _
  · split
    · next hedge => exact requestResize_sends (decide_eq_true hedge)
    · exact guarantees_pure _

theorem attachRest_sends (wl : WlSurface) (o : ObserverId)
    (args : WindowState × SessionId × SurfaceCreationParameters) :
    Guarantees ((Call.attachWlSurface win wl).Allows a) (attachRest a win o args) :=
  guarantees_bind (issueReads_sends win _ fun e he _ => by
    simpa [Call.mayReadEntry, Call.mayRead, Call.window] using List.mem_map_of_mem Prod.fst he) fun _ =>
  guarantees_bind (processReplies_sends win _) fun _ =>
  guarantees_bind (locked_sends win _) fun _ =>
  guarantees_bind (createSurface_sends _ fun _ => rfl) fun _ =>
  guarantees_bind (informClientOfWindowState_sends a win _ fun _ hw hr =>
    Call.mayRequest_of_informs rfl hw hr) fun _ =>
  guarantees_bind (sends_atomic fun _ => rfl) fun _ =>
  guarantees_bind (configureWindow_sends win (Call.mayRequest_of rfl rfl)) fun _ => locked_sends win _

theorem attachWlSurface_sends (wl : WlSurface) :
    Guarantees ((Call.attachWlSurface win wl).Allows a) (attachWlSurface a win wl) := by
  refine guarantees_bind (sends_atomic fun _ => rfl) fun o =>
    guarantees_andFinally (guarantees_bind (guarantees_atomicE fun w => Sends.of_logs ?_)
      (attachRest_sends a win wl o)) (sends_atomic fun _ => rfl)
  unfold attachBegin
  dsimp only
  split
  · rfl
  · split <;> rfl

theorem sceneSurfaceFocusSet_sends (hasFocus : Bool) :
    Guarantees ((Call.sceneSurfaceFocusSet win hasFocus).Allows a) (sceneSurfaceFocusSet win hasFocus) :=
  guarantees_bind (sends_atomic fun _ => rfl) fun _ => configureWindow_sends win (Call.mayRequest_of rfl rfl)

theorem sceneSurfaceStateSet_sends (newState : MirWindowState) :
    Guarantees ((Call.sceneSurfaceStateSet win newState).Allows a) (sceneSurfaceStateSet a win newState) := by
  refine guarantees_bind (locked_sends win _) fun _ =>
    guarantees_bind (informClientOfWindowState_sends a win _ fun _ hw hr =>
      Call.mayRequest_of_informs rfl hw hr) fun _ => ?_
  split
  · next h => exact configureWindow_sends win (Call.mayRequest_of rfl (decide_eq_true (h.elim id id)))
  · exact guarantees_pure _

theorem sceneSurfaceResized_sends (newSize : Size) :
    Guarantees ((Call.sceneSurfaceResized win newSize).Allows a) (sceneSurfaceResized win newSize) :=
  configureWindow_sends win (Call.mayRequest_of rfl rfl)

theorem sceneSurfaceMovedTo_sends (newTopLeft : Point) :
    Guarantees ((Call.sceneSurfaceMovedTo win newTopLeft).Allows a) (sceneSurfaceMovedTo win newTopLeft) := by
  refine guarantees_bind (sends_atomic fun _ => rfl) fun id => ?_
  dsimp only
  rcases id with _ | id
  · exact guarantees_bind (guarantees_pure _) fun _ => configureWindow_sends win (Call.mayRequest_of rfl rfl)
  · exact guarantees_bind (sends_atomic fun _ => rfl) fun _ =>
      guarantees_bind (guarantees_pure _) fun _ => configureWindow_sends win (Call.mayRequest_of rfl rfl)

theorem sceneSurfaceCloseRequested_sends :
    Guarantees ((Call.sceneSurfaceCloseRequested win).Allows a) (sceneSurfaceCloseRequested a win) := by
  refine guarantees_bind (locked_sends win _) fun deleteWindow => ?_
  split
  · exact send_sends (Call.mayRequest_of rfl rfl)
  · exact send_sends (Call.mayRequest_of rfl rfl)

end XWaylandSurface

namespace Call

open XWaylandSurface

variable (a : Atoms)

/-- Every call makes only the requests and reads its tables allow it. -/
theorem prog_sends (c : Call) : Guarantees (c.Allows a) (c.prog a) := by
  have close (c : Call) (hc : c.informs = true)
      (hdel : c.requestShape a (.deleteProperty c.window a.netWmDesktop) = true)
      (hun : c.requestShape a (.unmapWindow c.window) = true) :
      Guarantees (c.Allows a) (XWaylandSurface.close a c.window) :=
    close_sends a c.window (mayRequest_of rfl hdel) (mayRequest_of rfl hun)
      (fun _ hw hr => mayRequest_of_informs hc hw hr) fun _ => by
        cases c <;> first | rfl | cases hun
  cases c with
  | create win ev => exact guarantees_bind (Section.sends_atomic fun _ => rfl) fun _ => construct_sends a win ev
  | map win => exact map_sends a win
  | close win => exact close (.close win) rfl (decide_eq_true rfl) rfl
  | takeFocus win => exact takeFocus_sends a win
  | configureRequest win ev => exact configureRequest_sends a win ev
  | configureNotify win ev => exact Section.sends_atomic fun _ => rfl
  | netWmStateClientMessage win data => exact netWmStateClientMessage_sends a win data
  | wmChangeStateClientMessage win data => exact wmChangeStateClientMessage_sends a win data
  | propertyNotify win property => exact propertyNotify_sends a win property
  | attachWlSurface win wl => exact attachWlSurface_sends a win wl
  | moveResize win detail => exact moveResize_sends a win detail
  | sceneSurfaceFocusSet win hasFocus => exact sceneSurfaceFocusSet_sends a win hasFocus
  | sceneSurfaceStateSet win newState => exact sceneSurfaceStateSet_sends a win newState
  | sceneSurfaceResized win newSize => exact sceneSurfaceResized_sends a win newSize
  | sceneSurfaceMovedTo win newTopLeft => exact sceneSurfaceMovedTo_sends a win newTopLeft
  | sceneSurfaceCloseRequested win => exact sceneSurfaceCloseRequested_sends a win
  | wlSurfaceDestroyed win => exact close (.wlSurfaceDestroyed win) rfl (decide_eq_true rfl) rfl
  | clientProperty win property value => exact Section.sends_atomic fun _ => rfl

/-- **The bridges send the X server only the requests and reads of the table, in every
interleaving**: whatever calls run, for whatever windows, and however their sections
interleave, the request log and the log of reads only grow, and every request or read added is
one that one of the calls may make; so it names that call's window and has that call's kind. -/
theorem runSchedule_requests (w : World) (calls : List Call) (sched : List Nat) :
    (∃ sent, ((Threads.mk w (calls.map (prog a))).runSchedule sched).state.xlog = sent ++ w.xlog ∧
      ∀ r ∈ sent, ∃ c ∈ calls, c.mayRequest a r = true) ∧
    ∃ read, ((Threads.mk w (calls.map (prog a))).runSchedule sched).state.reads = read ++ w.reads ∧
      ∀ r ∈ read, ∃ c ∈ calls, c.mayReadEntry a r = true :=
  ⟨Threads.AllGuarantee.runSchedule (R := Grows xlog fun r => ∃ c ∈ calls, c.mayRequest a r = true)
    Grows.refl (fun _ _ _ => Grows.trans) sched _ fun p hp => by
      obtain ⟨c, hc, rfl⟩ := List.mem_map.mp hp
      exact (c.prog_sends a).mono fun _ _ h => h.1.mono fun r hr => ⟨c, hc, hr⟩,
   Threads.AllGuarantee.runSchedule (R := Grows reads fun r => ∃ c ∈ calls, c.mayReadEntry a r = true)
    Grows.refl (fun _ _ _ => Grows.trans) sched _ fun p hp => by
      obtain ⟨c, hc, rfl⟩ := List.mem_map.mp hp
      exact (c.prog_sends a).mono fun _ _ h => h.2.1.mono fun r hr => ⟨c, hc, hr⟩⟩

/-- **The bridges ask the shell only what the table allows, in every interleaving**: whatever
calls run and however their sections interleave, the shell's log only grows, and every request
added is one that one of the calls may make. So a surface is created only by an attach and
destroyed only by a close, and the compositor's notifications, with `take_focus`,
`configure_notify` and the constructor, ask the shell nothing. -/
theorem runSchedule_asks (w : World) (calls : List Call) (sched : List Nat) :
    ∃ asked, ((Threads.mk w (calls.map (prog a))).runSchedule sched).state.shell.log = asked ++ w.shell.log ∧
      ∀ r ∈ asked, ∃ c ∈ calls, c.mayAsk r = true :=
  Threads.AllGuarantee.runSchedule (R := Grows shellLog fun r => ∃ c ∈ calls, c.mayAsk r = true)
    Grows.refl (fun _ _ _ => Grows.trans) sched _ fun p hp => by
    obtain ⟨c, hc, rfl⟩ := List.mem_map.mp hp
    exact (c.prog_sends a).mono fun _ _ h => h.2.2.mono fun r hr => ⟨c, hc, hr⟩

end Call

end XWaylandBridge
