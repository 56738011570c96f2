import XWaylandBridge.Observers

/-!
# The requests the bridge makes of the shell

The bridge asks the shell for five things: `create_surface` in `attach_wl_surface`,
`modify_surface` in `configure_request`, `property_notify` and `request_scene_surface_state`,
`destroy_surface` in `close`, and `request_move` or `request_resize` in `move_resize`. Every
request but the creation names a surface the bridge found live through
`weak_scene_surface.lock()` a section earlier, in the same call. The shell's log keeps the
requests, newest first.

`ShellRequest.served` says of a log what a shell that checked its arguments would accept: a
creation names an identity no earlier request names, and every other request a surface an
earlier request created and none destroyed. `Shell.Ledger` ties the log to the surfaces the
shell holds.

**What is proved.** Every serial run from a world with no window leaves a served log
(`serialRun_served`): the bridge never modifies, moves, resizes or destroys a surface it
destroyed before, destroys none twice, and names none the shell did not create. Each member
function keeps the ledger on its own, and the calls that make a request do so on the surface
their first section locked.

**What this does not decide.** Interleaved calls. The reference a section locks is not held
across sections in the model, so a `close` on another thread between `configure_request`'s lock
and its `modify_surface` leaves a request for a destroyed surface; the source holds the
`shared_ptr` across the call, and whether the shell accepts that request is the shell's
business.
-/

set_option autoImplicit false

namespace XWaylandBridge

namespace ShellRequest

/-- The surface a request is about. -/
def target : ShellRequest → SurfaceId
  | create id _ | modify id _ | destroy id | requestMove id _ | requestResize id _ _ => id

/-- Whether the request creates surface `id`. -/
def creates (id : SurfaceId) : ShellRequest → Bool
  | create i _ => i = id
  | _ => false

/-- Whether the request destroys surface `id`. -/
def destroys (id : SurfaceId) : ShellRequest → Bool
  | destroy i => i = id
  | _ => false

/-- Whether a shell that checks its arguments serves a log, newest request first: a creation
names an identity no earlier request names, and every other request names a surface that an
earlier request created and none destroyed. -/
def served : List ShellRequest → Bool
  | [] => true
  | r :: rest => served rest && match r with
    | create id _ => rest.all fun r' => r'.target ≠ id
    | r => rest.any (creates r.target) && !rest.any (destroys r.target)

/-- A request other than a creation extends a served log when an earlier request created its
surface and none destroyed it. -/
theorem served_cons {r : ShellRequest} (hr : ∀ id p, r ≠ create id p) (rest : List ShellRequest) :
    served (r :: rest) =
      (served rest && (rest.any (creates r.target) && !rest.any (destroys r.target))) := by
  cases r with
  | create id p => exact absurd rfl (hr id p)
  | _ => rfl

/-- In a served log every request names a surface the log creates. -/
theorem served_created {log : List ShellRequest} (h : served log = true) {r : ShellRequest}
    (hr : r ∈ log) : log.any (creates r.target) = true := by
  induction log with
  | nil => cases hr
  | cons r₀ rest ih =>
    simp only [served, Bool.and_eq_true] at h
    rw [List.any_cons, Bool.or_eq_true]
    rcases List.mem_cons.mp hr with rfl | hr
    · cases r with
      | create id p => exact .inl (by simp [creates, target])
      | _ => exact .inr (Bool.and_eq_true _ _ ▸ h.2).1
    · exact .inr (ih h.1 hr)

end ShellRequest

open ShellRequest

namespace Shell

variable (sh : Shell)

/-- The shell agrees with its log: it holds exactly the surfaces the log created, a surface is
live exactly while the log has not destroyed it, no identity from the next one on is taken,
and the log is served. -/
structure Ledger : Prop where
  served : ShellRequest.served sh.log = true
  created : ∀ id, (sh.surfaces id).isSome = sh.log.any (creates id)
  live : ∀ id s, sh.surfaces id = some s → (s.destroyed = 0 ↔ sh.log.any (destroys id) = false)
  fresh : ∀ id, sh.nextSurface ≤ id → sh.surfaces id = none

/-- A shell with no surface yet keeps the ledger, whether or not it refuses creations. -/
theorem ledger_empty (rc : Bool) : Ledger { refusesCreate := rc } :=
  ⟨rfl, fun _ => rfl, fun _ _ h => (nomatch h), fun _ _ => rfl⟩

theorem update_surfaces_self (id : SurfaceId) (f : SceneSurface → SceneSurface) :
    (sh.update id f).surfaces id = (sh.surfaces id).map f := by
  simp [update]

theorem update_surfaces_ne {id j : SurfaceId} (h : j ≠ id) (f : SceneSurface → SceneSurface) :
    (sh.update id f).surfaces j = sh.surfaces j := by
  simp [update, h]

@[simp] theorem update_surfaces_isSome (id j : SurfaceId) (f : SceneSurface → SceneSurface) :
    ((sh.update id f).surfaces j).isSome = (sh.surfaces j).isSome := by
  by_cases h : j = id
  · subst h; rw [update_surfaces_self, Option.isSome_map']
  · rw [update_surfaces_ne _ h]

theorem update_surfaces_none {id j : SurfaceId} (f : SceneSurface → SceneSurface)
    (h : sh.surfaces j = none) : (sh.update id f).surfaces j = none := by
  rw [← Option.not_isSome_iff_eq_none, update_surfaces_isSome, Option.not_isSome_iff_eq_none, h]

/-- A weak reference locks to itself or to nothing. -/
theorem lock_self {i id : SurfaceId} (h : sh.lock i = some id) : sh.lock id = some id := by
  unfold lock at h ⊢
  rcases hs : sh.surfaces i with _ | s <;> simp only [hs] at h
  · cases h
  split_ifs at h with hd
  cases h
  simp [hs, hd]

/-- A change that keeps the destruction count keeps what the weak references lock to. -/
theorem lock_update {f : SceneSurface → SceneSurface} (hf : ∀ s, (f s).destroyed = s.destroyed)
    (id : SurfaceId) : (sh.update id f).lock = sh.lock := by
  funext j
  by_cases h : j = id
  · subst h
    simp only [lock, update_surfaces_self]
    cases sh.surfaces j <;> simp [hf]
  · simp only [lock, update_surfaces_ne _ h]

theorem lock_removeObserver (id : SurfaceId) (o : ObserverId) :
    (sh.removeObserver id o).lock = sh.lock :=
  sh.lock_update (by intro; rfl) id

variable {sh}

/-- A live surface is one the log created and has not destroyed. -/
theorem Ledger.of_lock (h : sh.Ledger) {id : SurfaceId} (hl : sh.lock id = some id) :
    sh.log.any (creates id) = true ∧ sh.log.any (destroys id) = false := by
  unfold lock at hl
  rcases hs : sh.surfaces id with _ | s
  · simp [hs] at hl
  · simp only [hs] at hl
    split_ifs at hl with hd
    exact ⟨(h.created id).symm.trans (by rw [hs]; rfl), (h.live id s hs).1 hd⟩

/-- No request of a ledger's log names an identity the shell has not handed out. -/
theorem Ledger.target_ne (h : sh.Ledger) {r : ShellRequest} (hr : r ∈ sh.log) :
    r.target ≠ sh.nextSurface := fun he => by
  have hc := (h.created _).trans (served_created h.served hr)
  rw [he, h.fresh _ le_rfl] at hc
  cases hc

/-- A change of one surface that keeps its destruction count, with nothing logged. -/
theorem Ledger.update (h : sh.Ledger) {f : SceneSurface → SceneSurface}
    (hf : ∀ s, (f s).destroyed = s.destroyed) (id : SurfaceId) : (sh.update id f).Ledger := by
  refine ⟨h.served, fun j => ?_, fun j s' hs' => ?_,
    fun j hj => sh.update_surfaces_none f (h.fresh j hj)⟩
  · rw [update_surfaces_isSome]; exact h.created j
  · by_cases hj : j = id
    · subst hj
      rw [update_surfaces_self] at hs'
      obtain ⟨s, hs, rfl⟩ := Option.map_eq_some'.mp hs'
      rw [hf]; exact h.live j s hs
    · rw [update_surfaces_ne _ hj] at hs'
      exact h.live j s' hs'

/-- `remove_observer`. -/
theorem Ledger.removeObserver (h : sh.Ledger) (id : SurfaceId) (o : ObserverId) :
    (sh.removeObserver id o).Ledger :=
  h.update (by intro; rfl) id

/-- A logged request that neither creates nor destroys, on a live surface. -/
theorem Ledger.push (h : sh.Ledger) {r : ShellRequest}
    (hr : ∀ j, r.creates j = false ∧ r.destroys j = false) (hl : sh.lock r.target = some r.target) :
    Ledger { sh with log := r :: sh.log } := by
  obtain ⟨hc, hd⟩ := h.of_lock hl
  have hne : ∀ id p, r ≠ ShellRequest.create id p := fun id p he => by
    subst he; exact absurd (hr id).1 (by simp [creates])
  refine ⟨?_, fun j => ?_, fun j s hs => ?_, h.fresh⟩
  · rw [served_cons hne, h.served, hc, hd]; rfl
  · rw [List.any_cons, (hr j).1, Bool.false_or]; exact h.created j
  · rw [List.any_cons, (hr j).2, Bool.false_or]; exact h.live j s hs

/-- `modify_surface` of a live surface. -/
theorem Ledger.modify (h : sh.Ledger) {id : SurfaceId} (hl : sh.lock id = some id)
    (spec : SurfaceSpecification) : (sh.modify id spec).Ledger := by
  refine (h.update ?_ id).push (r := .modify id spec) (fun _ => ⟨rfl, rfl⟩) ?_
  · exact fun _ => rfl
  · rw [lock_update _ (f := applySpec _ spec) (fun _ => rfl)]; exact hl

/-- `destroy_surface` of a live surface. -/
theorem Ledger.destroy (h : sh.Ledger) {id : SurfaceId} (hl : sh.lock id = some id) :
    (sh.destroy id).Ledger := by
  obtain ⟨hc, hd⟩ := h.of_lock hl
  let f : SceneSurface → SceneSurface := fun s => { s with destroyed := s.destroyed + 1 }
  have hlog : (sh.destroy id).log = .destroy id :: sh.log := rfl
  refine ⟨?_, fun j => ?_, fun j s hs => ?_, fun j hj => sh.update_surfaces_none f (h.fresh j hj)⟩
  · rw [hlog, served_cons (r := .destroy id) (fun _ _ => nofun), h.served]
    simp [target, hc, hd]
  · change ((sh.update id f).surfaces j).isSome = _
    rw [update_surfaces_isSome, hlog, List.any_cons]; exact h.created j
  · change (sh.update id f).surfaces j = some s at hs
    rw [hlog, List.any_cons]
    by_cases hj : j = id
    · subst hj
      rw [update_surfaces_self] at hs
      obtain ⟨s₀, -, rfl⟩ := Option.map_eq_some'.mp hs
      simp [f, destroys]
    · rw [update_surfaces_ne _ hj] at hs
      rw [show (ShellRequest.destroy id).destroys j = false by simp [destroys, Ne.symm hj],
        Bool.false_or]
      exact h.live j s hs

/-- No request of a ledger's log destroys the identity the shell hands out next. -/
theorem Ledger.destroys_next (h : sh.Ledger) : sh.log.any (destroys sh.nextSurface) = false :=
  List.any_eq_false.mpr fun r hr hd => h.target_ne hr (by
    cases r <;> simp only [destroys, decide_eq_true_eq, Bool.false_eq_true] at hd; exact hd)

/-- `create_surface`: the next identity, which no request of the log names. -/
theorem Ledger.create (h : sh.Ledger) (session : SessionId) (params : SurfaceCreationParameters)
    (o : ObserverId) : (sh.create session params o).Ledger := by
  have hlog : (sh.create session params o).log = .create sh.nextSurface params :: sh.log := rfl
  have hnew : sh.log.all (fun r => r.target ≠ sh.nextSurface) = true :=
    List.all_eq_true.mpr fun r hr => decide_eq_true (h.target_ne hr)
  refine ⟨?_, fun j => ?_, fun j s hs => ?_, fun j hj => ?_⟩
  · rw [hlog]
    show (ShellRequest.served sh.log && _) = true
    rw [h.served]; exact hnew
  · rw [hlog, List.any_cons]
    by_cases hj : j = sh.nextSurface
    · subst hj; simp [Shell.create, creates]
    · simp [Shell.create, creates, Function.update_noteq hj, Ne.symm hj, h.created j]
  · rw [hlog, List.any_cons]
    by_cases hj : j = sh.nextSurface
    · subst hj
      simp only [Shell.create, Function.update_same, Option.some.injEq] at hs
      subst hs
      simp [destroys, h.destroys_next]
    · simp only [Shell.create, Function.update_noteq hj] at hs
      simpa [destroys] using h.live j s hs
  · have hlt : sh.nextSurface < j := hj
    simp only [Shell.create, Function.update_noteq hlt.ne']
    exact h.fresh j hlt.le

end Shell

/-! ## The world's shell -/

namespace Prog

variable {σ α β : Type} {I : σ → Prop}

/-- A read of the state, then code that keeps `I` from each state given the value read there. -/
theorem keeps_read_bind {g : σ → α} {f : α → Prog σ β} (h : ∀ s, I s → I ((f (g s)).run s).2) :
    Keeps I (atomic (fun s => (g s, s)) >>= f) :=
  fun s hs => by rw [run_atomic_bind]; exact h s hs

end Prog

namespace World

/-- The world's shell agrees with its log. -/
def ShellLedger (w : World) : Prop := w.shell.Ledger

variable {w : World}

/-- What `weak_scene_surface.lock()` gives is live. -/
theorem lock_of_sceneSurfaceOf {win : Window} {id : SurfaceId} (h : w.sceneSurfaceOf win = some id) :
    w.shell.lock id = some id := by
  obtain ⟨i, -, hi⟩ := Option.bind_eq_some.mp h
  exact w.shell.lock_self hi

end World

open Prog World

/-- A program that leaves the shell alone keeps the ledger. -/
theorem Prog.Preserves.shellLedger {α : Type} {p : Prog World α} (h : Preserves World.shell p) :
    Keeps ShellLedger p :=
  h.keeps fun _ _ hst hs => by unfold ShellLedger; rw [hst]; exact hs

/-- A section that leaves the shell alone keeps the ledger. -/
theorem shellLedger_atomic {α : Type} {f : World → α × World} (h : ∀ w, (f w).2.shell = w.shell) :
    Keeps ShellLedger (atomic f) :=
  (preserves_atomic h).shellLedger

namespace Section

variable {w : World}

theorem createSurface_shellLedger (session : SessionId) (params : SurfaceCreationParameters)
    (o : ObserverId) : Keeps ShellLedger (createSurface session params o) :=
  keeps_atomicE fun w hw => by
    split
    · exact hw
    · exact Shell.Ledger.create hw session params o

theorem modifySurface_shellLedger (hw : w.ShellLedger) {id : SurfaceId}
    (hl : w.shell.lock id = some id) (spec : SurfaceSpecification) :
    ((modifySurface id spec).run w).2.ShellLedger :=
  Shell.Ledger.modify hw hl spec

end Section

namespace XWaylandSurface

variable (a : Atoms) (win : Window)

open Section

/-! ### Member functions that make requests -/

theorem requestSceneSurfaceState_shellLedger (m : MirWindowState) :
    Keeps ShellLedger (requestSceneSurfaceState win m) := by
  refine keeps_read_bind fun w hw => ?_
  rcases hs : w.sceneSurfaceOf win with _ | id
  · exact hw
  · simp only [surface, run_atomic_bind]
    split
    · exact modifySurface_shellLedger hw (lock_of_sceneSurfaceOf hs) _
    · exact hw

theorem map_shellLedger : Keeps ShellLedger (map a win) :=
  keeps_bind (shellLedger_atomic fun _ => rfl) fun _ =>
  keeps_bind (shellLedger_atomic fun _ => rfl) fun _ =>
  keeps_bind (informClientOfWindowState_shell a win _).shellLedger fun _ =>
  keeps_bind (requestSceneSurfaceState_shellLedger win _) fun _ => shellLedger_atomic fun _ => rfl

theorem netWmStateClientMessage_shellLedger (data : ClientMessageData) :
    Keeps ShellLedger (netWmStateClientMessage a win data) :=
  keeps_bind (shellLedger_atomic fun _ => rfl) fun _ =>
  keeps_bind (informClientOfWindowState_shell a win _).shellLedger fun _ =>
  requestSceneSurfaceState_shellLedger win _

theorem wmChangeStateClientMessage_shellLedger (data : ClientMessageData) :
    Keeps ShellLedger (wmChangeStateClientMessage a win data) :=
  keeps_bind (keeps_atomicE fun _ hw => hw) fun _ =>
  keeps_bind (informClientOfWindowState_shell a win _).shellLedger fun _ =>
  requestSceneSurfaceState_shellLedger win _

theorem configureRequest_shellLedger (ev : ConfigureRequestEvent) :
    Keeps ShellLedger (configureRequest win ev) := by
  refine keeps_read_bind fun w hw => ?_
  rcases hs : w.sceneSurfaceOf win with _ | id
  · simp only [run_atomic_bind]
    exact (configureWindow_shell win _ _ _ _).shellLedger w hw
  · simp only [run_atomic_bind]
    split
    · exact modifySurface_shellLedger hw (lock_of_sceneSurfaceOf hs) _
    · exact hw

theorem applyPendingSpec_shellLedger : Keeps ShellLedger (applyPendingSpec win) := fun w hw => by
  simp only [applyPendingSpec, run_atomic_bind]
  rcases hs : w.sceneSurfaceOf win with _ | id <;>
    rcases (w.bridges win).nullablePendingSpec with _ | spec
  case some.some =>
    simp only [run_atomic_bind]
    split
    · exact modifySurface_shellLedger hw (lock_of_sceneSurfaceOf hs) _
    · exact hw
  all_goals exact hw

theorem propertyNotify_shellLedger (property : Atom) :
    Keeps ShellLedger (propertyNotify a win property) := by
  unfold propertyNotify
  split
  · exact keeps_pure _
  · exact keeps_bind (shellLedger_atomic fun _ => rfl) fun _ =>
      keeps_bind (applyReply_shell win _ _).shellLedger fun _ => applyPendingSpec_shellLedger win

theorem moveResize_shellLedger (detail : Nat) : Keeps ShellLedger (moveResize win detail) := by
  refine keeps_read_bind fun w hw => ?_
  rcases hs : w.sceneSurfaceOf win with _ | s
  · -- no surface: nothing is sent
    rcases wmResizeEdgeToMirResizeEdge detail with _ | edge <;> dsimp only <;> split_ifs <;> exact hw
  · have hl := lock_of_sceneSurfaceOf hs
    rcases wmResizeEdgeToMirResizeEdge detail with _ | edge <;> dsimp only <;> split_ifs
    · exact Shell.Ledger.push hw (r := .requestMove s _) (fun _ => ⟨rfl, rfl⟩) hl
    · exact hw
    · exact Shell.Ledger.push hw (r := .requestMove s _) (fun _ => ⟨rfl, rfl⟩) hl
    · exact Shell.Ledger.push hw (r := .requestResize s _ edge) (fun _ => ⟨rfl, rfl⟩) hl

/-- The end of `close`, from a world whose shell is that of a ledger in which the surface the
first section locked is live. -/
theorem closeDetach_shellLedger (sceneSurface : Option SurfaceId) (observer : Option ObserverId)
    {w : World} (hw : w.ShellLedger) (hl : ∀ id, sceneSurface = some id → w.shell.lock id = some id)
    (y : World) (hy : y.shell = w.shell) : ((closeDetach sceneSurface observer).run y).2.ShellLedger := by
  have hy' : y.ShellLedger := by unfold ShellLedger; rw [hy]; exact hw
  rcases sceneSurface with _ | s <;> rcases observer with _ | o
  · exact hy'
  · exact hy'
  · exact Shell.Ledger.destroy hy' (hy ▸ hl s rfl)
  · exact Shell.Ledger.destroy (hy'.removeObserver s o)
      (by rw [Shell.lock_removeObserver, hy]; exact hl s rfl)

theorem close_shellLedger : Keeps ShellLedger (close a win) := fun w hw => by
  -- the sections between the first and the detach leave the shell alone
  have hv (s : WindowState) (t : World) : ((unmapWindow win).run ((informClientOfWindowState a win s).run
      ((deleteProperty win a.netWmDesktop).run t).2).2).2.shell = t.shell :=
    informClientOfWindowState_shell a win s ((deleteProperty win a.netWmDesktop).run t).2
  simp only [close, run_atomic_bind]
  rw [run_bind_of_ok (p := deleteProperty win a.netWmDesktop) rfl,
    run_bind_of_ok (informClientOfWindowState_ok a win _ _),
    run_bind_of_ok (p := unmapWindow win) rfl]
  exact closeDetach_shellLedger _ _ hw (fun _ => lock_of_sceneSurfaceOf) _ (hv _ _)

theorem attachRest_shellLedger (o : ObserverId)
    (args : WindowState × SessionId × SurfaceCreationParameters) :
    Keeps ShellLedger (attachRest a win o args) :=
  keeps_bind (issueReads_shell win _).shellLedger fun _ =>
  keeps_bind (processReplies_shell win _).shellLedger fun _ =>
  keeps_bind (shellLedger_atomic fun _ => rfl) fun _ =>
  keeps_bind (createSurface_shellLedger _ _ _) fun _ =>
  keeps_bind (informClientOfWindowState_shell a win _).shellLedger fun _ =>
  keeps_bind (shellLedger_atomic fun _ => rfl) fun _ =>
  keeps_bind (configureWindow_shell win _ _ _ _).shellLedger fun _ =>
  shellLedger_atomic fun _ => rfl

theorem attachBegin_shell (wl : WlSurface) (o : ObserverId) (w : World) :
    (attachBegin win wl o w).2.shell = w.shell := by
  unfold attachBegin
  dsimp only
  split
  · rfl
  · split <;> rfl

theorem attachWlSurface_shellLedger (wl : WlSurface) : Keeps ShellLedger (attachWlSurface a win wl) :=
  keeps_bind (shellLedger_atomic fun _ => rfl) fun o =>
    keeps_andFinally
      (keeps_bind (keeps_atomicE fun w hw => by unfold ShellLedger; rw [attachBegin_shell]; exact hw)
        fun args => attachRest_shellLedger a win o args)
      (shellLedger_atomic fun _ => rfl) fun _ => rfl

end XWaylandSurface

/-! ## Serial runs -/

namespace Call

open XWaylandSurface Section

variable (a : Atoms)

theorem prog_shellLedger (c : Call) : Keeps ShellLedger (c.prog a) := by
  cases c with
  | create win ev =>
    exact keeps_bind (shellLedger_atomic fun _ => rfl) fun _ => shellLedger_atomic fun _ => rfl
  | map win => exact map_shellLedger a win
  | close win => exact close_shellLedger a win
  | takeFocus win => exact (takeFocus_shell a win).shellLedger
  | configureRequest win ev => exact configureRequest_shellLedger win ev
  | configureNotify win ev => exact shellLedger_atomic fun _ => rfl
  | netWmStateClientMessage win data => exact netWmStateClientMessage_shellLedger a win data
  | wmChangeStateClientMessage win data => exact wmChangeStateClientMessage_shellLedger a win data
  | propertyNotify win property => exact propertyNotify_shellLedger a win property
  | attachWlSurface win wl => exact attachWlSurface_shellLedger a win wl
  | moveResize win detail => exact moveResize_shellLedger win detail
  | sceneSurfaceFocusSet win hasFocus =>
    exact keeps_bind (shellLedger_atomic fun _ => rfl) fun _ =>
      (configureWindow_shell win _ _ _ _).shellLedger
  | sceneSurfaceStateSet win newState => exact (sceneSurfaceStateSet_shell a win newState).shellLedger
  | sceneSurfaceResized win newSize => exact (configureWindow_shell win _ _ _ _).shellLedger
  | sceneSurfaceMovedTo win newTopLeft => exact (sceneSurfaceMovedTo_shell win newTopLeft).shellLedger
  | sceneSurfaceCloseRequested win => exact (sceneSurfaceCloseRequested_shell a win).shellLedger
  | wlSurfaceDestroyed win => exact close_shellLedger a win
  | clientProperty win property value => exact shellLedger_atomic fun _ => rfl

theorem perform_shellLedger (c : Call) (w : World) (h : w.ShellLedger) :
    (c.perform a w).ShellLedger := by
  unfold perform
  split
  · exact prog_shellLedger a _ _ h
  · exact h

end Call

/-- **The bridge makes only requests the shell can serve.** After any calls made one after
another from a world with no window, whichever requests the shell and the X server refuse,
every request in the shell's log names a surface: a creation one that no earlier request named,
a modification, move, resize or destruction one that an earlier request created and none
destroyed. -/
theorem serialRun_served (a : Atoms) (rc rf : Bool) (calls : List Call) :
    ShellRequest.served (serialRun a (World.start rc rf) calls).shell.log = true :=
  Shell.Ledger.served
    (serialRun_invariant a (I := ShellLedger) (fun c w h => c.perform_shellLedger a w h) calls _
      (Shell.ledger_empty rc))

/-- Window 1 created and then attached, one call after the other: it publishes surface 0. -/
def attachedOne : World :=
  serialRun Atoms.fresh {} [.create 1 ⟨0, 0, 10, 10, false⟩, .attachWlSurface 1 ⟨some 7⟩]

/-- The window of `attachedOne`, then a configure request on one thread and a `close` on
another. -/
def configureAndClose : Threads World where
  state := attachedOne
  progs := [XWaylandSurface.configureRequest 1 ⟨xcbConfigWindowX, 5, 0, 0, 0⟩,
    XWaylandSurface.close Atoms.fresh 1]

set_option maxRecDepth 4000 in
/-- `close` between `configure_request`'s lock and its `modify_surface`: the modification names
the surface `close` destroyed, and the log is not served. -/
example : ShellRequest.served (configureAndClose.runSchedule
    ([0] ++ List.replicate 12 1 ++ [0, 0])).state.shell.log = false := by
  decide

end XWaylandBridge
