import XWaylandBridge.Serial
import XWaylandBridge.Failure

/-!
# The window state, step by step

A window's state lives in four places: the bridge's `cached.state`, the `WM_STATE` and
`_NET_WM_STATE` properties on the X server, and the X server's map state. `WindowView` is
those four, and `StateOp.act` says what each state-changing call does to them, as one step:
read the cached state, compute the new one, and `inform` (cache it, and write both properties
if it changed); `map` and `close` then map or unmap the window.

**What is proved.** Each state-changing member function, run alone, does exactly its step to
the view and to the window's attach gate (`StateOp.prog_step`). The gate is what decides an
attach: whether the bridge is free of an observer, a session and a live surface, and whether
the shell refuses `create_surface`. An attach on a free bridge, for a surface with a session,
takes the bridge and informs its state unless `create_surface` throws; any other attach throws
in its first lock section and changes nothing. Calls one after another therefore lose no
update (`StateOp.runAll_steps`), while two threads can (`StateOp.minimize_lost_to_fullscreen`).
-/

set_option autoImplicit false

namespace XWaylandBridge

/-- The four places a window's state is kept. -/
structure WindowView where
  state : WindowState
  wmState : Option PropValue
  netWmState : Option PropValue
  mapped : Bool
  deriving DecidableEq

/-- Window `win`'s view in world `w`. -/
def World.windowView (a : Atoms) (win : Window) (w : World) : WindowView :=
  ⟨(w.bridges win).cached.state, w.props win a.wmState, w.props win a.netWmState, w.mapped win⟩

/-- What `inform_client_of_window_state` leaves in `_NET_WM_STATE`: nothing for a withdrawn
window, its list of states otherwise. -/
def netWmStateValue (a : Atoms) (s : WindowState) : Option PropValue :=
  if s.withdrawn then none else some (.atoms (s.netWmStates a))

namespace WindowView

/-- `inform_client_of_window_state(s)` on the view: nothing if `s` is the cached state, else
`s` cached and both properties written for it. -/
def inform (a : Atoms) (s : WindowState) (v : WindowView) : WindowView :=
  if s = v.state then v
  else { v with state := s, wmState := some s.wmStateProperty, netWmState := netWmStateValue a s }

@[simp] theorem inform_state (a : Atoms) (s : WindowState) (v : WindowView) :
    (v.inform a s).state = s := by
  unfold inform; split <;> simp_all

@[simp] theorem inform_mapped (a : Atoms) (s : WindowState) (v : WindowView) :
    (v.inform a s).mapped = v.mapped := by
  unfold inform; split <;> rfl

end WindowView

/-! ## Sections on the view -/

section Sections

variable (a : Atoms) (win : Window) (w : World)

open Prog Section World

theorem windowView_of_quiet {α : Type} {p : Prog World α} (h : Guarantees (Quiet win) p) :
    windowView a win (p.run w).2 = windowView a win w := by
  have hq := h.run Quiet.refl (fun _ _ _ => Quiet.trans) w
  simp only [windowView, hq.props, hq.mapped, hq.state]

theorem setProperty_windowView {atom : Atom} (h₁ : atom ≠ a.wmState) (h₂ : atom ≠ a.netWmState)
    (v : PropValue) : windowView a win ((setProperty win atom v).run w).2 = windowView a win w := by
  simp [windowView, setProperty, Function.update_noteq h₁.symm, Function.update_noteq h₂.symm]

theorem deleteProperty_windowView {atom : Atom} (h₁ : atom ≠ a.wmState)
    (h₂ : atom ≠ a.netWmState) :
    windowView a win ((deleteProperty win atom).run w).2 = windowView a win w := by
  simp [windowView, deleteProperty, Function.update_noteq h₁.symm, Function.update_noteq h₂.symm]

theorem preserves_windowView {α : Type} {p : Prog World α} (h : Guarantees (Quiet win) p) :
    Preserves (windowView a win) p := fun w => windowView_of_quiet a win w h

theorem windowView_setBridge (b : XWaylandSurface) :
    windowView a win (w.setBridge win b) = { windowView a win w with state := b.cached.state } := by
  simp [windowView]

/-- A section on the bridge that keeps its cached state keeps the view. -/
theorem preserves_windowView_locked {α : Type} {f : XWaylandSurface → α × XWaylandSurface}
    (h : ∀ b, (f b).2.cached.state = b.cached.state) :
    Preserves (windowView a win) (locked win f) := fun w => by
  simp [locked, windowView_setBridge, h]
  rfl

theorem mapWindow_windowView :
    windowView a win ((mapWindow win).run w).2 = { windowView a win w with mapped := true } := by
  simp [windowView, mapWindow]

theorem unmapWindow_windowView :
    windowView a win ((unmapWindow win).run w).2 = { windowView a win w with mapped := false } := by
  simp [windowView, unmapWindow]

end Sections

/-! ## The attach gate -/

/-- What decides how far `attach_wl_surface` gets: whether the bridge holds nothing its
multiple-call check refuses (no observer, no session, no live surface), and whether the shell
refuses `create_surface`. -/
structure AttachGate where
  free : Bool
  refusesCreate : Bool
  deriving DecidableEq

/-- Window `win`'s attach gate in world `w`. -/
def World.attachGate (win : Window) (w : World) : AttachGate :=
  ⟨!((w.bridges win).surfaceObserver.isSome || (w.bridges win).weakSession.isSome ||
      (w.sceneSurfaceOf win).isSome), w.shell.refusesCreate⟩

/-- The bridge's references and the shell's refusal: the gate, but for the liveness of the
published surface. -/
def World.gateRefs (win : Window) (w : World) :
    (Option ObserverId × Option SessionId × Option SurfaceId) × Bool :=
  (XWaylandSurface.refs (w.bridges win), w.shell.refusesCreate)

section Gate

variable (win : Window) (w : World)

open Prog Section World

/-- The gate reads the bridge's references, the shell's liveness and its refusal only. -/
theorem attachGate_eq {w' : World} (hr : XWaylandSurface.refs (w'.bridges win) = XWaylandSurface.refs (w.bridges win))
    (hl : w'.shell.lock = w.shell.lock) (hc : w'.shell.refusesCreate = w.shell.refusesCreate) :
    w'.attachGate win = w.attachGate win := by
  simp only [XWaylandSurface.refs, Prod.mk.injEq] at hr
  simp only [attachGate, sceneSurfaceOf, hr.1, hr.2.1, hr.2.2, hl, hc]

/-- A bridge that holds no reference is free, whatever the shell holds. -/
theorem attachGate_of_refs (h : w.gateRefs win = ((none, none, none), w.shell.refusesCreate)) :
    w.attachGate win = ⟨true, w.shell.refusesCreate⟩ := by
  simp only [gateRefs, XWaylandSurface.refs, Prod.mk.injEq] at h
  simp [attachGate, sceneSurfaceOf, h.1.1, h.1.2.1, h.1.2.2]

/-- A member function that keeps the bridge's references keeps the gate. -/
theorem locked_attachGate {α : Type} {f : XWaylandSurface → α × XWaylandSurface}
    (h : ∀ b, XWaylandSurface.refs (f b).2 = XWaylandSurface.refs b) : Preserves (attachGate win) (locked win f) :=
  preserves_atomic fun w => attachGate_eq win w (by simpa using h _) rfl rfl

/-- A surface's modification keeps the gate. -/
theorem modifySurface_attachGate (id : SurfaceId) (spec : SurfaceSpecification) :
    Preserves (attachGate win) (modifySurface id spec) :=
  preserves_atomic fun w => attachGate_eq win w rfl (w.shell.lock_modify id spec) rfl

end Gate

namespace XWaylandSurface

variable (a : Atoms) (win : Window) (w : World)

open Prog Section World

theorem informClientOfWindowState_ok (s : WindowState) :
    ((informClientOfWindowState a win s).run w).1 = .ok () := by
  obtain ⟨_, h⟩ := informClientOfWindowState_returns a win s w
  exact h

/-- **`inform_client_of_window_state` does `inform` to the view.** -/
theorem informClientOfWindowState_windowView (s : WindowState) :
    windowView a win ((informClientOfWindowState a win s).run w).2 =
      (windowView a win w).inform a s := by
  unfold informClientOfWindowState locked
  rw [run_atomic_bind]
  by_cases hs : s = (w.bridges win).cached.state
  · simp [hs, WindowView.inform, windowView]
  · have hne := a.wmState_ne_netWmState
    cases hw : s.withdrawn <;>
      simp [hs, hw, WindowView.inform, windowView, setProperty, deleteProperty, netWmStateValue,
        World.setBridge, Function.update_noteq hne, Function.update_noteq hne.symm]

/-- A state the bridge has cached already is informed by doing nothing. -/
theorem informClientOfWindowState_cached {s : WindowState}
    (h : (w.bridges win).cached.state = s) :
    (informClientOfWindowState a win s).run w = (.ok (), w) := by
  simp [informClientOfWindowState, locked, h]

theorem requestSceneSurfaceState_ok (m : MirWindowState) :
    ((requestSceneSurfaceState win m).run w).1 = .ok () := by
  obtain ⟨_, h⟩ := requestSceneSurfaceState_returns win m w
  exact h

theorem map_windowView :
    windowView a win ((map a win).run w).2 =
      { (windowView a win w).inform a { (windowView a win w).state with withdrawn := false } with
        mapped := true } := by
  simp only [map, locked, run_atomic_bind, World.setBridge_same]
  rw [run_bind_of_ok (p := setProperty win a.netWmDesktop _) rfl,
    run_bind_of_ok (informClientOfWindowState_ok a win _ _),
    run_bind_of_ok (requestSceneSurfaceState_ok win _ _), mapWindow_windowView,
    windowView_of_quiet a win _ (requestSceneSurfaceState_quiet win _),
    informClientOfWindowState_windowView,
    setProperty_windowView a win _ a.netWmDesktop_ne_wmState a.netWmDesktop_ne_netWmState]
  rfl

theorem close_windowView :
    windowView a win ((close a win).run w).2 =
      { (windowView a win w).inform a { (windowView a win w).state with withdrawn := true } with
        mapped := false } := by
  simp only [close, run_atomic_bind]
  rw [run_bind_of_ok (p := deleteProperty win a.netWmDesktop) rfl,
    run_bind_of_ok (informClientOfWindowState_ok a win _ _),
    run_bind_of_ok (p := unmapWindow win) rfl,
    windowView_of_quiet a win _ (closeDetach_quiet win _ _), unmapWindow_windowView,
    informClientOfWindowState_windowView,
    deleteProperty_windowView a win _ a.netWmDesktop_ne_wmState a.netWmDesktop_ne_netWmState,
    windowView_setBridge]
  rfl

theorem netWmStateClientMessage_windowView (data : ClientMessageData) :
    windowView a win ((netWmStateClientMessage a win data).run w).2 =
      (windowView a win w).inform a (netWmStateRequested a data (windowView a win w).state) := by
  simp only [netWmStateClientMessage, locked, run_atomic_bind, World.setBridge_same]
  rw [run_bind_of_ok (informClientOfWindowState_ok a win _ _),
    windowView_of_quiet a win _ (requestSceneSurfaceState_quiet win _),
    informClientOfWindowState_windowView]
  rfl

theorem wmChangeStateClientMessage_windowView (data : ClientMessageData) :
    windowView a win ((wmChangeStateClientMessage a win data).run w).2 =
      match wmChangeStateRequested data (windowView a win w).state with
      | .ok s => (windowView a win w).inform a s
      | .error _ => windowView a win w := by
  simp only [wmChangeStateClientMessage, run_atomicE_bind]
  split
  · next s hs =>
    rw [run_bind_of_ok (informClientOfWindowState_ok a win _ _),
      windowView_of_quiet a win _ (requestSceneSurfaceState_quiet win _),
      informClientOfWindowState_windowView]
    simp only [windowView] at hs ⊢
    rw [hs]
  · next e he =>
    simp only [windowView] at he ⊢
    rw [he]

theorem sceneSurfaceStateSet_windowView (newState : MirWindowState) :
    windowView a win ((sceneSurfaceStateSet a win newState).run w).2 =
      (windowView a win w).inform a ((windowView a win w).state.updatedFrom newState) := by
  simp only [sceneSurfaceStateSet, locked, run_atomic_bind, World.setBridge_same]
  rw [run_bind_of_ok (informClientOfWindowState_ok a win _ _), windowView_of_quiet a win _ ?_,
    informClientOfWindowState_windowView]
  · rfl
  · split
    · exact configureWindow_quiet win win _ _ _ _
    · exact guarantees_pure _

theorem informClientOfWindowState_triple (s : WindowState) (v : WindowView) (E : World → Prop) :
    Triple (fun w => windowView a win w = v) (informClientOfWindowState a win s)
      (fun _ w => windowView a win w = v.inform a s) E := fun w hw => by
  have hv := informClientOfWindowState_windowView a win w s
  rw [← Prod.mk.eta (p := (informClientOfWindowState a win s).run w),
    informClientOfWindowState_ok a win w s, outcome_ok, hv, hw]

/-- The rest of an attach from its state `s`: the view stays until `create_surface`; a shell
that refuses it leaves the view as it was, and otherwise `inform` does its step, which the
remaining sections keep, whether or not `configure_window` throws. -/
theorem attachRest_triple (o : ObserverId) (s : WindowState) (session : SessionId)
    (params : SurfaceCreationParameters) (v : WindowView) (rc : Bool) :
    Triple (fun w => windowView a win w = v ∧ w.shell.refusesCreate = rc)
      (attachRest a win o (s, session, params))
      (fun _ w => windowView a win w = if rc then v else v.inform a s)
      (fun w => windowView a win w = if rc then v else v.inform a s) := by
  -- up to `create_surface` nothing throws, and the view and the shell's refusal stay
  have before {α : Type} {p : Prog World α} (hr : Returns p) (hq : Guarantees (Quiet win) p)
      (hs : Preserves World.shell p) :
      Triple (fun w => windowView a win w = v ∧ w.shell.refusesCreate = rc) p
        (fun _ w => windowView a win w = v ∧ w.shell.refusesCreate = rc)
        (fun w => windowView a win w = if rc then v else v.inform a s) :=
    hr.triple fun w ⟨hv, hc⟩ => ⟨(preserves_windowView a win hq w).trans hv, by rw [hs w]; exact hc⟩
  -- after `inform` only the view matters, and nothing changes it
  have after {α : Type} {p : Prog World α} (h : Preserves (windowView a win) p) :
      Triple (fun w => windowView a win w = if rc then v else v.inform a s) p
        (fun _ w => windowView a win w = if rc then v else v.inform a s)
        (fun w => windowView a win w = if rc then v else v.inform a s) :=
    (h.keeps fun _ _ h₁ h₂ => h₁ ▸ h₂).triple
  refine triple_bind (before (issueReads_returns win _) (issueReads_quiet win _) (issueReads_shell win _))
    fun _ => triple_bind (before (processReplies_returns win _) (processReplies_quiet win _)
      (processReplies_shell win _))
    fun _ => triple_bind (before (returns_atomic _) (locked_quiet win fun _ => ⟨rfl, rfl⟩)
      (preserves_atomic fun _ => rfl))
    fun _ => triple_bind (R := fun _ w => windowView a win w = v ∧ rc = false)
      (triple_atomicE fun w ⟨hv, hc⟩ => ?_)
    fun _ => triple_bind (fun w ⟨hv, hc⟩ => by subst hc; exact informClientOfWindowState_triple a win s v _ w hv)
    fun _ => triple_bind (after (preserves_windowView a win (surface_quiet win _ _)))
    fun _ => triple_bind (after (preserves_windowView a win (configureWindow_quiet win win _ _ _ _)))
    fun _ => after (preserves_windowView_locked a win fun _ => rfl)
  -- `create_surface` throws exactly when the shell refuses it
  cases hr : w.shell.refusesCreate
  · exact ⟨hv, hr ▸ hc.symm⟩
  · subst hc
    simpa [hr] using hv

theorem attachBegin_windowView (wl : WlSurface) (o : ObserverId) :
    windowView a win (attachBegin win wl o w).2 = windowView a win w := by
  unfold attachBegin
  dsimp only
  split
  · rfl
  · split
    · rfl
    · simp [windowView, World.setRefs]

theorem attachBegin_state (wl : WlSurface) (o : ObserverId) {s : WindowState} {session : SessionId}
    {params : SurfaceCreationParameters} (h : (attachBegin win wl o w).1 = .ok (s, session, params)) :
    s = { (w.bridges win).cached.state with withdrawn := false } := by
  unfold attachBegin at h
  dsimp only at h
  split at h
  · cases h
  · split at h
    · cases h
    · cases h; rfl

/-- The first lock section goes ahead exactly when the gate is free and the surface's client
has a session; then it takes the bridge, and leaves the shell. -/
theorem attachBegin_gate (wl : WlSurface) (o : ObserverId) :
    (((w.attachGate win).free && wl.session.isSome) = false ∧
      ∃ e, attachBegin win wl o w = (.error e, w)) ∨
    (((w.attachGate win).free && wl.session.isSome) = true ∧ ∃ x, (attachBegin win wl o w).1 = .ok x ∧
      ((attachBegin win wl o w).2.bridges win).surfaceObserver = some o ∧
      (attachBegin win wl o w).2.shell = w.shell) := by
  unfold attachBegin World.attachGate
  dsimp only
  split
  · next h => exact .inl ⟨by simp [h], _, rfl⟩
  · next h =>
    rcases wl.session with _ | session
    · exact .inl ⟨by simp, _, rfl⟩
    · exact .inr ⟨by simpa using h, _, rfl, by simp [World.setRefs], rfl⟩

/-- **`attach_wl_surface` on the view**: when its first section goes ahead, its step, unless
the shell refuses `create_surface`; otherwise nothing. -/
theorem attachWlSurface_windowView (wl : WlSurface) :
    windowView a win ((attachWlSurface a win wl).run w).2 =
      if (w.attachGate win).free && wl.session.isSome then
        (if w.shell.refusesCreate then windowView a win w
         else (windowView a win w).inform a { (windowView a win w).state with withdrawn := false })
      else windowView a win w := by
  have hw₁ := windowView_of_quiet a win w (makeObserver_quiet win)
  rw [attachWlSurface_run, windowView_of_quiet a win _ (releaseObserver_quiet win _), ← hw₁]
  simp only [attachBody, run_atomicE_bind]
  rw [show w.attachGate win = (makeObserver.run w).2.attachGate win from rfl,
    show w.shell.refusesCreate = (makeObserver.run w).2.shell.refusesCreate from rfl]
  generalize (makeObserver.run w).2 = w₁ at hw₁ ⊢
  rcases attachBegin_gate win w₁ wl w.nextObserver with ⟨hf, e, he⟩ | ⟨hf, ⟨s, session, params⟩, hx, -, hs⟩
  · rw [he, hf]
    rfl
  · rw [hx, hf]
    obtain rfl := attachBegin_state win w₁ wl _ hx
    exact (outcome_const _).mp (attachRest_triple a win w.nextObserver _ session params
      (windowView a win w₁) w₁.shell.refusesCreate (attachBegin win wl w.nextObserver w₁).2
      ⟨attachBegin_windowView a win w₁ wl _, by rw [hs]⟩)

/-! ### The gate under each call -/

theorem informClientOfWindowState_attachGate (s : WindowState) :
    Preserves (attachGate win) (informClientOfWindowState a win s) := by
  refine preserves_bind (locked_attachGate win fun b => by dsimp only; split <;> rfl) fun changed => ?_
  cases changed
  · exact preserves_pure _
  · refine preserves_bind (preserves_atomic fun _ => rfl) fun _ => ?_
    split <;> exact preserves_atomic fun _ => rfl

theorem requestSceneSurfaceState_attachGate (m : MirWindowState) :
    Preserves (attachGate win) (requestSceneSurfaceState win m) := by
  refine preserves_bind (preserves_atomic fun _ => rfl) fun id => ?_
  rcases id with _ | id
  · exact preserves_pure _
  · refine preserves_bind (preserves_atomic fun _ => rfl) fun _ => ?_
    split
    · exact modifySurface_attachGate win _ _
    · exact preserves_pure _

theorem map_attachGate : Preserves (attachGate win) (map a win) :=
  preserves_bind (locked_attachGate win fun _ => rfl) fun _ =>
  preserves_bind (preserves_atomic fun _ => rfl) fun _ =>
  preserves_bind (informClientOfWindowState_attachGate a win _) fun _ =>
  preserves_bind (requestSceneSurfaceState_attachGate win _) fun _ => preserves_atomic fun _ => rfl

theorem netWmStateClientMessage_attachGate (data : ClientMessageData) :
    Preserves (attachGate win) (netWmStateClientMessage a win data) :=
  preserves_bind (locked_attachGate win fun _ => rfl) fun _ =>
  preserves_bind (informClientOfWindowState_attachGate a win _) fun _ =>
  requestSceneSurfaceState_attachGate win _

theorem wmChangeStateClientMessage_attachGate (data : ClientMessageData) :
    Preserves (attachGate win) (wmChangeStateClientMessage a win data) :=
  preserves_bind (preserves_atomicE fun _ => rfl) fun _ =>
  preserves_bind (informClientOfWindowState_attachGate a win _) fun _ =>
  requestSceneSurfaceState_attachGate win _

theorem sceneSurfaceStateSet_attachGate (newState : MirWindowState) :
    Preserves (attachGate win) (sceneSurfaceStateSet a win newState) := by
  refine preserves_bind (locked_attachGate win fun _ => rfl) fun _ =>
    preserves_bind (informClientOfWindowState_attachGate a win _) fun _ => ?_
  split
  · exact preserves_atomicE fun _ => by split <;> rfl
  · exact preserves_pure _

/-- The end of `close` leaves the bridges and the shell's refusal alone. -/
theorem closeDetach_gateRefs (sceneSurface : Option SurfaceId) (observer : Option ObserverId) :
    Preserves (gateRefs win) (closeDetach sceneSurface observer) := by
  have skip := preserves_pure (V := gateRefs win) (σ := World) ()
  have release (o : ObserverId) : Preserves (gateRefs win) (releaseObserver o >>= fun _ => observerMustBeDead o) :=
    preserves_bind (preserves_atomic fun _ => rfl) fun _ => preserves_atomic fun _ => rfl
  rcases sceneSurface with _ | s <;> rcases observer with _ | o <;> dsimp only [closeDetach]
  · exact preserves_bind skip fun _ => preserves_bind skip fun _ => skip
  · exact preserves_bind skip fun _ => preserves_bind skip fun _ => release o
  · exact preserves_bind skip fun _ => preserves_bind (preserves_atomic fun _ => rfl) fun _ => skip
  · exact preserves_bind (preserves_atomic fun _ => rfl) fun _ =>
      preserves_bind (preserves_atomic fun _ => rfl) fun _ => release o

theorem informClientOfWindowState_gateRefs (s : WindowState) :
    Preserves (gateRefs win) (informClientOfWindowState a win s) := fun x =>
  Prod.ext (informClientOfWindowState_keeps_refs a win _ s x rfl)
    (congrArg Shell.refusesCreate (informClientOfWindowState_shell a win s x))

/-- **`close` frees the bridge**: after it, the multiple-call check lets an attach through. -/
theorem close_attachGate :
    ((close a win).run w).2.attachGate win = ⟨true, w.shell.refusesCreate⟩ := by
  -- the sections after the first keep the references it cleared, and the shell's refusal
  have tail (st : WindowState) (s : Option SurfaceId) (o : Option ObserverId) :
      Preserves (gateRefs win) (do
        deleteProperty win a.netWmDesktop
        informClientOfWindowState a win { st with withdrawn := true }
        unmapWindow win
        closeDetach s o) :=
    preserves_bind (preserves_atomic fun _ => rfl) fun _ =>
    preserves_bind (informClientOfWindowState_gateRefs a win _) fun _ =>
    preserves_bind (preserves_atomic fun _ => rfl) fun _ => closeDetach_gateRefs win s o
  have free (x : World) (hx : gateRefs win x = ((none, none, none), w.shell.refusesCreate)) :
      x.attachGate win = ⟨true, w.shell.refusesCreate⟩ := by
    have hc := congrArg Prod.snd hx
    rw [attachGate_of_refs win x (hx.trans (Prod.ext rfl hc.symm))]
    exact congrArg (AttachGate.mk true) hc
  simp only [close, run_atomic_bind]
  exact free _ ((tail _ _ _ _).trans (by simp [gateRefs, refs]))

/-- The rest of an attach leaves the shell's refusal alone. -/
theorem attachRest_refusesCreate (o : ObserverId)
    (args : WindowState × SessionId × SurfaceCreationParameters) :
    Preserves (fun w => w.shell.refusesCreate) (attachRest a win o args) := by
  obtain ⟨state, session, params⟩ := args
  have shell {α : Type} {p : Prog World α} (h : Preserves World.shell p) :
      Preserves (fun w => w.shell.refusesCreate) p := fun w => congrArg Shell.refusesCreate (h w)
  exact preserves_bind (shell (issueReads_shell win _)) fun _ =>
    preserves_bind (shell (processReplies_shell win _)) fun _ =>
    preserves_bind (preserves_atomic fun _ => rfl) fun _ =>
    preserves_bind (preserves_atomicE fun _ => by split <;> rfl) fun _ =>
    preserves_bind (shell (informClientOfWindowState_shell a win _)) fun _ =>
    preserves_bind (preserves_atomic fun _ => rfl) fun _ =>
    preserves_bind (shell (configureWindow_shell win _ _ _ _)) fun _ => preserves_atomic fun _ => rfl

/-- **An attach that goes past its first section takes the bridge**, whether or not it
creates its surface. -/
theorem attachWlSurface_attachGate (wl : WlSurface) :
    ((attachWlSurface a win wl).run w).2.attachGate win =
      if (w.attachGate win).free && wl.session.isSome then { w.attachGate win with free := false }
      else w.attachGate win := by
  rw [attachWlSurface_run]
  show ((attachBody a win wl w.nextObserver).run (makeObserver.run w).2).2.attachGate win = _
  simp only [attachBody, run_atomicE_bind]
  rw [show w.attachGate win = (makeObserver.run w).2.attachGate win from rfl]
  generalize (makeObserver.run w).2 = w₁
  rcases attachBegin_gate win w₁ wl w.nextObserver with ⟨hf, e, he⟩ | ⟨hf, x, hx, ho, hs⟩
  · rw [he, hf]
    rfl
  · rw [hx, hf]
    have hkeep := attachRest_keeps_attachment a win w.nextObserver x _
      (attachBegin win wl w.nextObserver w₁).2 rfl
    have hrc := attachRest_refusesCreate a win w.nextObserver x (attachBegin win wl w.nextObserver w₁).2
    simp only [attachment, Prod.mk.injEq, ho] at hkeep
    simp only [hs] at hrc
    simp [World.attachGate, hkeep.1, hrc]

end XWaylandSurface

/-! ## The state-changing calls as steps -/

/-- The calls that change a window's state: from the X side `map`, `close` and the two client
messages, from the compositor `scene_surface_state_set` and `attach_wl_surface`. -/
inductive StateOp where
  | map
  | close
  | netWmStateClientMessage (data : ClientMessageData)
  | wmChangeStateClientMessage (data : ClientMessageData)
  | sceneSurfaceStateSet (newState : MirWindowState)
  | attachWlSurface (wl : WlSurface)

/-- A window's view, with its attach gate. -/
def World.stateView (a : Atoms) (win : Window) (w : World) : WindowView × AttachGate :=
  (w.windowView a win, w.attachGate win)

namespace StateOp

variable (a : Atoms)

/-- The member function a call runs on the bridge of `win`. -/
def prog (win : Window) : StateOp → Prog World Unit
  | map => XWaylandSurface.map a win
  | close => XWaylandSurface.close a win
  | netWmStateClientMessage data => XWaylandSurface.netWmStateClientMessage a win data
  | wmChangeStateClientMessage data => XWaylandSurface.wmChangeStateClientMessage a win data
  | sceneSurfaceStateSet newState => XWaylandSurface.sceneSurfaceStateSet a win newState
  | attachWlSurface wl => XWaylandSurface.attachWlSurface a win wl

/-- Each call as one step of the view: the new state computed from the cached one and
informed, for `map` and `close` the map state set, and `close` frees the bridge. An attach
goes ahead only on a free bridge and for a surface with a session, and then takes the bridge
and informs its state unless the shell refuses `create_surface`. -/
def act : StateOp → WindowView × AttachGate → WindowView × AttachGate
  | map, (v, g) => ({ v.inform a { v.state with withdrawn := false } with mapped := true }, g)
  | close, (v, g) => ({ v.inform a { v.state with withdrawn := true } with mapped := false }, { g with free := true })
  | netWmStateClientMessage data, (v, g) => (v.inform a (netWmStateRequested a data v.state), g)
  | wmChangeStateClientMessage data, (v, g) =>
    (match wmChangeStateRequested data v.state with
     | .ok s => v.inform a s
     | .error _ => v, g)
  | sceneSurfaceStateSet newState, (v, g) => (v.inform a (v.state.updatedFrom newState), g)
  | attachWlSurface wl, (v, g) =>
    if g.free && wl.session.isSome then
      (if g.refusesCreate then v else v.inform a { v.state with withdrawn := false }, { g with free := false })
    else (v, g)

/-- **Each call, run alone, is its step.** -/
theorem prog_step (win : Window) (op : StateOp) (w : World) :
    ((op.prog a win).run w).2.stateView a win = op.act a (w.stateView a win) := by
  cases op with
  | map =>
    exact Prod.ext (XWaylandSurface.map_windowView a win w) (XWaylandSurface.map_attachGate a win w)
  | close =>
    exact Prod.ext (XWaylandSurface.close_windowView a win w) (XWaylandSurface.close_attachGate a win w)
  | netWmStateClientMessage data =>
    exact Prod.ext (XWaylandSurface.netWmStateClientMessage_windowView a win w data)
      (XWaylandSurface.netWmStateClientMessage_attachGate a win data w)
  | wmChangeStateClientMessage data =>
    exact Prod.ext (XWaylandSurface.wmChangeStateClientMessage_windowView a win w data)
      (XWaylandSurface.wmChangeStateClientMessage_attachGate a win data w)
  | sceneSurfaceStateSet newState =>
    exact Prod.ext (XWaylandSurface.sceneSurfaceStateSet_windowView a win w newState)
      (XWaylandSurface.sceneSurfaceStateSet_attachGate a win newState w)
  | attachWlSurface wl =>
    simp only [World.stateView, act, prog, XWaylandSurface.attachWlSurface_windowView,
      XWaylandSurface.attachWlSurface_attachGate]
    split <;> rfl

/-- The calls on the bridge of `win`, one after another. -/
def runAll (win : Window) (w : World) (ops : List StateOp) : World :=
  ops.foldl (fun w op => ((op.prog a win).run w).2) w

/-- **No update is lost when the calls run one after another**: the window's state ends as
the steps of the calls, in their order, make it. -/
theorem runAll_steps (win : Window) (ops : List StateOp) (w : World) :
    (runAll a win w ops).stateView a win = ops.foldl (fun x op => op.act a x) (w.stateView a win) := by
  induction ops generalizing w with
  | nil => rfl
  | cons op ops ih => exact (ih _).trans (congrArg (ops.foldl _) (prog_step a win op w))

/-- `_NET_WM_STATE_ADD` of `_NET_WM_STATE_FULLSCREEN`. -/
def addFullscreen : ClientMessageData := fun i =>
  if i = 0 then 1 else if i = 1 then Atoms.fresh.netWmStateFullscreen else 0

/-- A mapped window with no surface and no state flag set: a fullscreen request from the X
thread and the compositor's report that the window is minimized, on two threads. -/
def fullscreenAndMinimize : Threads World where
  state := { managed := fun v => v = 1, bridges := fun _ => { cached := { state := {
    withdrawn := false } } } }
  progs := [(netWmStateClientMessage addFullscreen).prog Atoms.fresh 1,
    (sceneSurfaceStateSet .minimized).prog Atoms.fresh 1]

/-- Both threads read the state, then the compositor's call and the X call finish in turn. -/
def bothRead : List Nat := [1, 0, 1, 1, 1, 1, 0, 0, 0, 0]

set_option maxRecDepth 4000 in
/-- **A lost update**: both calls return, and the window is fullscreen but not minimized; run
one after the other, in either order, they leave it both. -/
theorem minimize_lost_to_fullscreen :
    (fullscreenAndMinimize.runSchedule bothRead).Done ∧
    ((fullscreenAndMinimize.runSchedule bothRead).state.bridges 1).cached.state.minimized = false ∧
    ((fullscreenAndMinimize.runSchedule bothRead).state.bridges 1).cached.state.fullscreen = true ∧
    ((runAll Atoms.fresh 1 fullscreenAndMinimize.state
      [netWmStateClientMessage addFullscreen, sceneSurfaceStateSet .minimized]).bridges 1).cached.state.minimized = true ∧
    ((runAll Atoms.fresh 1 fullscreenAndMinimize.state
      [sceneSurfaceStateSet .minimized, netWmStateClientMessage addFullscreen]).bridges 1).cached.state.minimized = true := by
  decide

end StateOp

end XWaylandBridge
