import XWaylandBridge.Parent
import XWaylandBridge.StateSync

/-!
# The observers of the serial runs

`attach_wl_surface` makes an `XWaylandSurfaceObserver` and shares it three ways: its own local
reference, the bridge's `surface_observer`, and the observer list of the surface the shell
creates. `close` takes the bridge's reference, removes the observer from the surface it
publishes, destroys that surface, releases its copy, and reaches `fatal_error` if a reference
survives.

`ObserverView` is all that this bookkeeping reads of a world: what each bridge holds (its
observer and its published surface), the table, the surfaces' observer lists and destruction
counts, the use counts, the next identities, `fatal_error`, and whether `configure_window`
throws. Every section that touches it acts on it by one of the view's own operations
(`observerView_setBridge`, `createSurface_observerView`, `removeObserver_observerView`, ...), and
every other section leaves it as it is. `ObserverView.Consistent` is the bookkeeping as the
serial runs keep it.

**What is proved.** From the world with no window, every serial run of calls ends in a world
whose view is consistent (`serialRun_observersHeld`): a bridge that publishes a surface holds
an observer with exactly two references, its own and the surface's, and the surface lists that
observer once and is live; a bridge that holds an observer and no surface holds it with its
own reference alone; no two bridges hold one observer; a surface no bridge publishes was never
created, or had its observer removed and was destroyed once; and `close` never reached
`fatal_error`. This is the lifecycle `close` asserts, for calls made one after another.
`close` run twice, as the destructor does after `wl_surface_destroyed`, is `close` run once
(`close_twice`).

**What this does not decide.** Interleaved calls: `close` inside an attach is fatal
(`close_inside_attach_fatal`). The consistent views are those where `configure_window` does not
throw: when it throws after `create_surface`, the created surface keeps its reference to the
observer, no bridge publishes it, and a later `close` reaches `fatal_error`.
-/

set_option autoImplicit false

namespace XWaylandBridge

/-! ## What the bookkeeping reads of the shell -/

namespace Shell

variable (sh : Shell)

/-- The observer list of surface `id` and how often it was destroyed. -/
def observersAt (id : SurfaceId) : Option (List ObserverId × Nat) :=
  (sh.surfaces id).map fun s => (s.observers, s.destroyed)

theorem observersAt_update_ne {f : SceneSurface → SceneSurface} {id j : SurfaceId} (h : j ≠ id) :
    (sh.update id f).observersAt j = sh.observersAt j := by
  simp [observersAt, update, Function.update_noteq h]

/-- A change to one surface that moves its observer list and destruction count by `g`. -/
theorem observersAt_update {f : SceneSurface → SceneSurface}
    {g : List ObserverId × Nat → List ObserverId × Nat}
    (hf : ∀ s, ((f s).observers, (f s).destroyed) = g (s.observers, s.destroyed)) (id : SurfaceId) :
    (sh.update id f).observersAt = Function.update sh.observersAt id ((sh.observersAt id).map g) := by
  funext j
  by_cases h : j = id
  · subst h
    simp [observersAt, update, Option.map_map, Function.comp_def, hf]
  · rw [Function.update_noteq h]
    exact sh.observersAt_update_ne h

@[simp] theorem observersAt_modify (id : SurfaceId) (spec : SurfaceSpecification) :
    (sh.modify id spec).observersAt = sh.observersAt := by
  funext j
  by_cases h : j = id
  · subst h
    simp only [modify, observersAt, update, Function.update_same, Option.map_map]
    rfl
  · exact sh.observersAt_update_ne h

theorem observersAt_create (session : SessionId) (params : SurfaceCreationParameters)
    (o : ObserverId) :
    (sh.create session params o).observersAt =
      Function.update sh.observersAt sh.nextSurface (some ([o], 0)) := by
  funext j
  by_cases h : j = sh.nextSurface
  · subst h
    simp [observersAt, create]
  · simp [observersAt, create, Function.update_noteq h]

theorem observersAt_removeObserver (id : SurfaceId) (o : ObserverId) :
    (sh.removeObserver id o).observersAt =
      Function.update sh.observersAt id ((sh.observersAt id).map fun l => (l.1.erase o, l.2)) :=
  sh.observersAt_update (fun _ => rfl) id

theorem observersAt_destroy (id : SurfaceId) :
    (sh.destroy id).observersAt =
      Function.update sh.observersAt id ((sh.observersAt id).map fun l => (l.1, l.2 + 1)) :=
  sh.observersAt_update (fun _ => rfl) id

/-- A surface never destroyed locks to itself. -/
theorem lock_of_observersAt {id : SurfaceId} {l : List ObserverId}
    (h : sh.observersAt id = some (l, 0)) : sh.lock id = some id := by
  unfold observersAt at h
  unfold lock
  rcases hs : sh.surfaces id with _ | s <;> simp only [hs, Option.map_none', Option.map_some',
    Option.some.injEq, Prod.mk.injEq, reduceCtorEq] at h ⊢
  rw [if_pos h.2]

end Shell

/-! ## The view -/

/-- What the observer bookkeeping reads of a world. -/
structure ObserverView where
  /-- Each bridge's `surface_observer` and `weak_scene_surface`. -/
  holdings : Window → Option ObserverId × Option SurfaceId
  managed : Window → Bool
  /-- Each surface's observer list and destruction count. -/
  listings : SurfaceId → Option (List ObserverId × Nat)
  nextSurface : SurfaceId
  refs : ObserverId → Nat
  nextObserver : ObserverId
  fatal : Bool
  refusesConfigure : Bool

/-- What a bridge holds of the Wayland side that the bookkeeping reads. -/
def holding (b : XWaylandSurface) : Option ObserverId × Option SurfaceId :=
  (b.surfaceObserver, b.weakSceneSurface)

namespace ObserverView

variable (V : ObserverView)

/-! ### The operations the sections perform on it -/

/-- Window `v`'s bridge now holds `h`. -/
@[simps] def setHolding (v : Window) (h : Option ObserverId × Option SurfaceId) : ObserverView :=
  { V with holdings := Function.update V.holdings v h }

/-- Observer `o`'s use count moved by `f`. -/
@[simps] def setRefs (o : ObserverId) (f : Nat → Nat) : ObserverView :=
  { V with refs := Function.update V.refs o (f (V.refs o)) }

/-- A fresh observer with one reference. -/
@[simps] def makeObserver : ObserverView :=
  { V with nextObserver := V.nextObserver + 1, refs := Function.update V.refs V.nextObserver 1 }

/-- A new surface listing observer `o`, whose reference it holds. -/
@[simps] def create (o : ObserverId) : ObserverView :=
  { V with listings := Function.update V.listings V.nextSurface (some ([o], 0)),
           nextSurface := V.nextSurface + 1,
           refs := Function.update V.refs o (V.refs o + 1) }

/-- Observer `o` taken off surface `id`'s list, and its reference with it if it was listed. -/
@[simps] def removeObserver (id : SurfaceId) (o : ObserverId) : ObserverView :=
  { V with
    listings := Function.update V.listings id
      ((V.listings id).map fun l : List ObserverId × Nat => (l.1.erase o, l.2))
    refs := Function.update V.refs o
      (if ((V.listings id).map fun l : List ObserverId × Nat => decide (o ∈ l.1)).getD false
       then V.refs o - 1 else V.refs o) }

/-- Surface `id` destroyed once more. -/
@[simps] def destroy (id : SurfaceId) : ObserverView :=
  { V with
    listings := Function.update V.listings id
      ((V.listings id).map fun l : List ObserverId × Nat => (l.1, l.2 + 1)) }

/-- `close`'s check that observer `o` is dead. -/
@[simps] def mustBeDead (o : ObserverId) : ObserverView :=
  { V with fatal := V.fatal || decide (0 < V.refs o) }

/-! ### The bookkeeping the serial runs keep -/

/-- What bridge `v` holds, with the references it accounts for: nothing; an observer with the
bridge's reference alone; or an observer with the bridge's reference and that of the live
published surface, which lists it once. A published surface without an observer is not. -/
def Held (v : Window) : Prop :=
  match V.holdings v with
  | (none, none) => True
  | (some o, none) => V.refs o = 1
  | (some o, some id) => V.refs o = 2 ∧ V.listings id = some ([o], 0)
  | (none, some _) => False

/-- Surface `id` holds no reference: it was never created, or its observer was removed and it
was destroyed once. -/
def Retired (id : SurfaceId) : Prop :=
  V.listings id = none ∨ V.listings id = some ([], 1)

/-- **The observers between calls.** -/
structure Consistent : Prop where
  held : ∀ v, V.Held v
  made : ∀ v o, (V.holdings v).1 = some o → o < V.nextObserver
  unique : ∀ v v' o, (V.holdings v).1 = some o → (V.holdings v').1 = some o → v = v'
  retired : ∀ id, (∀ v, (V.holdings v).2 ≠ some id) → V.Retired id
  unmanaged : ∀ v, V.managed v = false → (V.holdings v).1 = none
  fatal : V.fatal = false
  configures : V.refusesConfigure = false

variable {V} {V' : ObserverView}

/-- A bridge holding no observer holds no surface either. -/
theorem Held.scene_of_observer {v : Window} (h : V.Held v) (ho : (V.holdings v).1 = none) :
    V.holdings v = (none, none) := by
  unfold Held at h
  rcases hv : V.holdings v with ⟨_ | o, _ | id⟩ <;> simp_all

/-- The holdings and the listings stay, the table only grows, the observers held keep their
counts, and no observer identity is handed out twice. -/
theorem Consistent.of_agree (h : V.Consistent) (hb : V'.holdings = V.holdings)
    (hm : ∀ v, V'.managed v = false → V.managed v = false) (hl : V'.listings = V.listings)
    (hr : ∀ v o, (V.holdings v).1 = some o → V'.refs o = V.refs o)
    (hn : V.nextObserver ≤ V'.nextObserver) (hf : V'.fatal = false)
    (hc : V'.refusesConfigure = false) : V'.Consistent := by
  refine ⟨fun v => ?_, fun v o ho => ?_, fun v v' o => ?_, fun id hid => ?_, fun v hv => ?_, hf, hc⟩
  · have held := h.held v
    unfold Held at held ⊢
    rw [hb, hl]
    rcases hv : V.holdings v with ⟨_ | o, _ | id⟩ <;> rw [hv] at held
    all_goals first | exact held | exact (hr v o (by rw [hv])).trans held |
      exact ⟨(hr v o (by rw [hv])).trans held.1, held.2⟩
  · rw [hb] at ho
    exact lt_of_lt_of_le (h.made v o ho) hn
  · rw [hb]
    exact h.unique v v' o
  · rw [hb] at hid
    unfold Retired
    rw [hl]
    exact h.retired id hid
  · rw [hb]
    exact h.unmanaged v (hm v hv)

/-- The published surfaces are surfaces the shell handed out, each published by one bridge. -/
def Owned : Prop :=
  ∀ v id, (V.holdings v).2 = some id →
    id < V.nextSurface ∧ ∀ v', (V.holdings v').2 = some id → v' = v

/-- **One bridge's holding changes.** Every other bridge keeps its holding, the use count of its
observer and the listing of its surface; the changed bridge is accounted for, with an observer
no other bridge holds and a surface no other bridge publishes; a surface it published before and
no longer does is retired, and every other listing stays. -/
theorem Consistent.update (h : V.Consistent) (win : Window) (hwin : V.managed win = true)
    (hb : ∀ v, v ≠ win → V'.holdings v = V.holdings v) (hm : V'.managed = V.managed)
    (hr : ∀ v o, v ≠ win → (V.holdings v).1 = some o → V'.refs o = V.refs o)
    (hl : ∀ id, (V.holdings win).2 ≠ some id → (V'.holdings win).2 ≠ some id →
      V'.listings id = V.listings id)
    (hret : ∀ id, (V.holdings win).2 = some id → (V'.holdings win).2 ≠ some id → V'.Retired id)
    (hpub : ∀ v id, v ≠ win → (V.holdings v).2 = some id →
      (V.holdings win).2 ≠ some id ∧ (V'.holdings win).2 ≠ some id)
    (hheld : V'.Held win)
    (hnew : ∀ o, (V'.holdings win).1 = some o →
      o < V'.nextObserver ∧ ∀ v, v ≠ win → (V.holdings v).1 ≠ some o)
    (hn : V.nextObserver ≤ V'.nextObserver) (hf : V'.fatal = false)
    (hc : V'.refusesConfigure = false) : V'.Consistent := by
  refine ⟨fun v => ?_, fun v o ho => ?_, fun v v' o ho ho' => ?_, fun id hid => ?_,
    fun v hv => ?_, hf, hc⟩
  · -- the bridges other than `win` keep what they hold and its references
    by_cases hv : v = win
    · exact hv ▸ hheld
    have held := h.held v
    unfold Held at held ⊢
    rw [hb v hv]
    rcases hvh : V.holdings v with ⟨_ | o, _ | id⟩ <;> rw [hvh] at held
    · trivial
    · exact held
    · exact (hr v o hv (by rw [hvh])).trans held
    · obtain ⟨h₁, h₂⟩ := hpub v id hv (by rw [hvh])
      exact ⟨(hr v o hv (by rw [hvh])).trans held.1, (hl id h₁ h₂).trans held.2⟩
  · by_cases hv : v = win
    · exact (hnew o (hv ▸ ho)).1
    · rw [hb v hv] at ho
      exact lt_of_lt_of_le (h.made v o ho) hn
  · by_cases hv : v = win <;> by_cases hv' : v' = win
    · exact hv.trans hv'.symm
    · subst hv
      rw [hb v' hv'] at ho'
      exact absurd ho' ((hnew o ho).2 v' hv')
    · subst hv'
      rw [hb v hv] at ho
      exact absurd ho ((hnew o ho').2 v hv)
    · rw [hb v hv] at ho
      rw [hb v' hv'] at ho'
      exact h.unique v v' o ho ho'
  · -- a surface nobody publishes now: `win`'s old one, or one nobody published before
    by_cases hw : (V.holdings win).2 = some id
    · exact hret id hw (hid win)
    unfold Retired
    rw [hl id hw (hid win)]
    refine h.retired id fun v hv => ?_
    by_cases hvw : v = win
    · exact hw (hvw ▸ hv)
    · exact hid v (by rw [hb v hvw]; exact hv)
  · have hv' : v ≠ win := fun e => by rw [e, hm, hwin] at hv; cases hv
    rw [hb v hv']
    exact h.unmanaged v (hm ▸ hv)

/-! ### What `close` and `attach_wl_surface` do to a consistent view -/

variable {win : Window} {o : ObserverId} {id : SurfaceId}

/-- `close` of a bridge that holds an observer and no surface: the bridge's reference was the
last one. -/
theorem Consistent.close_observer (h : V.Consistent) (hw : V.holdings win = (some o, none))
    (hm : V.managed win = true) :
    (((V.setHolding win (none, none)).setRefs o (· - 1)).mustBeDead o).Consistent := by
  have held := h.held win
  simp only [Held, hw] at held
  refine h.update win hm (fun v hv => by simp [Function.update_noteq hv]) rfl
    (fun v p hv hp => ?_) (fun _ _ _ => rfl) (fun _ hid => by simp [hw] at hid)
    (fun _ _ _ _ => by simp [hw]) (by simp [Held]) (fun _ hp => by simp at hp) le_rfl
    (by simp [held, h.fatal]) h.configures
  have hpo : p ≠ o := fun e => hv (h.unique v win p hp (by rw [hw, e]))
  simp [Function.update_noteq hpo]

/-- `close` of a bridge that publishes a surface: the observer comes off the surface, the
surface is destroyed, and the bridge's reference was the last one. -/
theorem Consistent.close_published (h : V.Consistent) (ho : V.Owned)
    (hw : V.holdings win = (some o, some id)) (hm : V.managed win = true) :
    (((((V.setHolding win (none, none)).removeObserver id o).destroy id).setRefs o (· - 1)).mustBeDead
      o).Consistent := by
  have held := h.held win
  simp only [Held, hw] at held
  refine h.update win hm (fun v hv => by simp [Function.update_noteq hv]) rfl
    (fun v p hv hp => ?_) (fun j hj _ => ?_) (fun j hj _ => ?_)
    (fun v j hv hj => ⟨fun hwj => hv ((ho win j hwj).2 v hj), by simp⟩) (by simp [Held])
    (fun _ hp => by simp at hp) le_rfl (by simp [held, h.fatal]) h.configures
  · have hpo : p ≠ o := fun e => hv (h.unique v win p hp (by rw [hw, e]))
    simp [Function.update_noteq hpo]
  · have hji : j ≠ id := fun e => hj (by rw [hw, e])
    simp [Function.update_noteq hji]
  · -- the surface the bridge published: its observer removed, destroyed once
    rw [hw] at hj
    cases hj
    exact .inr (by simp [held])

/-- An attach refused in its first section: the fresh observer's one reference is released. -/
theorem Consistent.attach_refused (h : V.Consistent) :
    (V.makeObserver.setRefs V.nextObserver (· - 1)).Consistent := by
  refine h.of_agree rfl (fun _ h => h) rfl (fun v p hp => ?_) (Nat.le_succ _) h.fatal h.configures
  simp [Function.update_noteq (h.made v p hp).ne]

/-- An attach that published its observer and failed before it created a surface: the bridge's
reference is the one left. -/
theorem Consistent.attach_failed (h : V.Consistent) (hw : V.holdings win = (none, none))
    (hm : V.managed win = true) :
    (((V.makeObserver.setHolding win (some V.nextObserver, none)).setRefs V.nextObserver
      (· + 1)).setRefs V.nextObserver (· - 1)).Consistent := by
  refine h.update win hm (fun v hv => by simp [Function.update_noteq hv]) rfl
    (fun v p _ hp => by simp [Function.update_noteq (h.made v p hp).ne]) (fun _ _ _ => rfl)
    (fun _ hid => by simp [hw] at hid) (fun _ _ _ _ => by simp [hw]) (by simp [Held])
    (fun p hp => ?_) (Nat.le_succ _) h.fatal h.configures
  simp only [setRefs_holdings, setHolding_holdings, Function.update_same, Option.some.injEq] at hp
  subst hp
  exact ⟨by simp, fun v _ hv => (h.made v _ hv).ne rfl⟩

/-- An attach that created and published its surface: the bridge's reference and the
surface's are left. -/
theorem Consistent.attach_published (h : V.Consistent) (ho : V.Owned)
    (hw : V.holdings win = (none, none)) (hm : V.managed win = true) :
    (((((V.makeObserver.setHolding win (some V.nextObserver, none)).setRefs V.nextObserver
      (· + 1)).create V.nextObserver).setHolding win (some V.nextObserver, some V.nextSurface)).setRefs
      V.nextObserver (· - 1)).Consistent := by
  refine h.update win hm (fun v hv => by simp [Function.update_noteq hv]) rfl
    (fun v p _ hp => by simp [Function.update_noteq (h.made v p hp).ne]) (fun j _ hj => ?_)
    (fun _ hid => by simp [hw] at hid)
    (fun v j _ hj => ⟨by simp [hw], by simp [((ho v j hj).1).ne']⟩) (by simp [Held])
    (fun p hp => ?_) (Nat.le_succ _) h.fatal h.configures
  · have hjn : j ≠ V.nextSurface := fun e => hj (by simp [e])
    simp [Function.update_noteq hjn]
  · simp only [setRefs_holdings, setHolding_holdings, Function.update_same, Option.some.injEq] at hp
    subst hp
    exact ⟨by simp, fun v _ hv => (h.made v _ hv).ne rfl⟩

end ObserverView

/-! ## The world's view, and what the sections do to it -/

namespace World

/-- The view of the observer bookkeeping. -/
def observerView (w : World) : ObserverView where
  holdings v := holding (w.bridges v)
  managed := w.managed
  listings := w.shell.observersAt
  nextSurface := w.shell.nextSurface
  refs := w.observerRefs
  nextObserver := w.nextObserver
  fatal := w.fatal
  refusesConfigure := w.refusesConfigure

/-- The observers of `w` are as the serial runs keep them. -/
def ObserversHeld (w : World) : Prop := w.observerView.Consistent

variable (w : World) (win : Window)

theorem observerView_setBridge (b : XWaylandSurface) :
    (w.setBridge win b).observerView = w.observerView.setHolding win (holding b) := by
  simp only [observerView, setBridge, ObserverView.setHolding, ObserverView.mk.injEq, and_true]
  funext v
  by_cases hv : v = win
  · subst hv
    simp
  · simp [Function.update_noteq hv]

theorem observerView_setRefs (o : ObserverId) (f : Nat → Nat) :
    (w.setRefs o f).observerView = w.observerView.setRefs o f := rfl

theorem SurfacesOwned.observerView {w : World} (h : SurfacesOwned w) : w.observerView.Owned :=
  fun v _ hs => ⟨h.issued v _ hs, fun v' hs' => h.unique v' v _ hs' hs⟩

end World

open World Prog

namespace ObserverView

@[simp] theorem setHolding_self (V : ObserverView) (v : Window) : V.setHolding v (V.holdings v) = V := by
  simp [setHolding]

end ObserverView

namespace Section

variable (win : Window)

theorem locked_observerView {α : Type} {f : XWaylandSurface → α × XWaylandSurface}
    (h : ∀ b, holding (f b).2 = holding b) : Preserves observerView (locked win f) :=
  preserves_atomic fun w => by
    rw [observerView_setBridge, h]
    exact ObserverView.setHolding_self _ win

theorem setProperty_observerView (atom : Atom) (v : PropValue) :
    Preserves observerView (setProperty win atom v) :=
  preserves_atomic fun _ => rfl

theorem deleteProperty_observerView (atom : Atom) :
    Preserves observerView (deleteProperty win atom) :=
  preserves_atomic fun _ => rfl

theorem mapWindow_observerView : Preserves observerView (mapWindow win) :=
  preserves_atomic fun _ => rfl

theorem unmapWindow_observerView : Preserves observerView (unmapWindow win) :=
  preserves_atomic fun _ => rfl

theorem send_observerView (r : XRequest) : Preserves observerView (send r) :=
  preserves_atomic fun _ => rfl

theorem configureWindow_observerView (position : Option Point) (size : Option Size)
    (sibling : Option Window) (stackMode : Option StackMode) :
    Preserves observerView (configureWindow win position size sibling stackMode) :=
  preserves_atomicE fun _ => by split <;> rfl

theorem readProperty_observerView (atom : Atom) : Preserves observerView (readProperty win atom) :=
  preserves_atomic fun _ => rfl

theorem sceneSurface_observerView : Preserves observerView (sceneSurface win) :=
  preserves_atomic fun _ => rfl

theorem surface_observerView {β : Type} (id : SurfaceId) (f : SceneSurface → β) :
    Preserves observerView (surface id f) :=
  preserves_atomic fun _ => rfl

theorem modifySurface_observerView (id : SurfaceId) (spec : SurfaceSpecification) :
    Preserves observerView (modifySurface id spec) :=
  preserves_atomic fun w => by simp [modifySurface, observerView]; rfl

theorem requestMove_observerView (id : SurfaceId) (timestamp : Nat) :
    Preserves observerView (requestMove id timestamp) :=
  preserves_atomic fun _ => rfl

theorem requestResize_observerView (id : SurfaceId) (timestamp : Nat) (edge : MirResizeEdge) :
    Preserves observerView (requestResize id timestamp edge) :=
  preserves_atomic fun _ => rfl

theorem makeObserver_observerView (w : World) :
    ((makeObserver).run w).2.observerView = w.observerView.makeObserver := rfl

theorem releaseObserver_observerView (o : ObserverId) (w : World) :
    ((releaseObserver o).run w).2.observerView = w.observerView.setRefs o (· - 1) := rfl

theorem observerMustBeDead_observerView (o : ObserverId) (w : World) :
    ((observerMustBeDead o).run w).2.observerView = w.observerView.mustBeDead o := rfl

theorem destroySurface_observerView (id : SurfaceId) (w : World) :
    ((destroySurface id).run w).2.observerView = w.observerView.destroy id := by
  simp only [destroySurface, run_atomic, observerView, ObserverView.destroy, Shell.observersAt_destroy]
  rfl

theorem removeObserver_observerView (id : SurfaceId) (o : ObserverId) (w : World) :
    ((removeObserver id o).run w).2.observerView = w.observerView.removeObserver id o := by
  simp only [removeObserver, run_atomic, observerView, ObserverView.removeObserver,
    Shell.observersAt_removeObserver, World.setRefs, ObserverView.setRefs, Shell.observersAt,
    Option.map_map, Function.comp_def]
  rfl

/-- A created surface: the shell's next identity, listing the observer. -/
theorem createSurface_run (session : SessionId) (params : SurfaceCreationParameters)
    (o : ObserverId) (w : World) (h : w.shell.refusesCreate = false) :
    (createSurface session params o).run w =
      (.ok w.observerView.nextSurface,
        ({ w with shell := w.shell.create session params o }).setRefs o (· + 1)) := by
  simp [createSurface, h, observerView]

theorem createSurface_observerView (session : SessionId) (params : SurfaceCreationParameters)
    (o : ObserverId) (w : World) :
    (({ w with shell := w.shell.create session params o }).setRefs o (· + 1)).observerView =
      w.observerView.create o := by
  rw [observerView_setRefs]
  simp only [observerView, ObserverView.create, Shell.observersAt_create]
  rfl

end Section

/-! ## Member functions that leave the bookkeeping alone -/

namespace XWaylandSurface

variable (a : Atoms) (win : Window)

open Section

theorem informClientOfWindowState_observerView (s : WindowState) :
    Preserves observerView (informClientOfWindowState a win s) := by
  refine preserves_bind (locked_observerView win fun b => ?_) fun changed => ?_
  · dsimp only; split <;> rfl
  · cases changed
    · exact preserves_pure _
    · refine preserves_bind (setProperty_observerView win _ _) fun _ => ?_
      split
      · exact deleteProperty_observerView win _
      · exact setProperty_observerView win _ _

theorem requestSceneSurfaceState_observerView (m : MirWindowState) :
    Preserves observerView (requestSceneSurfaceState win m) := by
  refine preserves_bind (sceneSurface_observerView win) fun id => ?_
  rcases id with _ | id
  · exact preserves_pure _
  · refine preserves_bind (surface_observerView _ _) fun _ => ?_
    split
    · exact modifySurface_observerView _ _
    · exact preserves_pure _

theorem map_observerView : Preserves observerView (map a win) :=
  preserves_bind (locked_observerView win fun _ => rfl) fun _ =>
  preserves_bind (setProperty_observerView win _ _) fun _ =>
  preserves_bind (informClientOfWindowState_observerView a win _) fun _ =>
  preserves_bind (requestSceneSurfaceState_observerView win _) fun _ => mapWindow_observerView win

theorem takeFocus_observerView : Preserves observerView (takeFocus a win) := by
  refine preserves_bind (locked_observerView win fun _ => rfl) fun supports => ?_
  rcases supports with _ | supportsTakeFocus
  · exact preserves_pure _
  · dsimp only
    split
    · exact preserves_bind (send_observerView _) fun _ => send_observerView _
    · exact preserves_bind (preserves_pure _) fun _ => send_observerView _

theorem configureRequest_observerView (ev : ConfigureRequestEvent) :
    Preserves observerView (configureRequest win ev) := by
  refine preserves_bind (sceneSurface_observerView win) fun id => ?_
  rcases id with _ | id
  · exact preserves_bind (preserves_atomic fun _ => rfl) fun _ =>
      configureWindow_observerView win _ _ _ _
  · refine preserves_bind (preserves_atomic fun _ => rfl) fun _ => ?_
    split
    · exact modifySurface_observerView _ _
    · exact preserves_pure _

theorem configureNotify_observerView (ev : ConfigureNotifyEvent) :
    Preserves observerView (configureNotify win ev) :=
  locked_observerView win fun _ => rfl

theorem netWmStateClientMessage_observerView (data : ClientMessageData) :
    Preserves observerView (netWmStateClientMessage a win data) :=
  preserves_bind (locked_observerView win fun _ => rfl) fun _ =>
  preserves_bind (informClientOfWindowState_observerView a win _) fun _ =>
  requestSceneSurfaceState_observerView win _

theorem wmChangeStateClientMessage_observerView (data : ClientMessageData) :
    Preserves observerView (wmChangeStateClientMessage a win data) :=
  preserves_bind (preserves_atomicE fun _ => rfl) fun _ =>
  preserves_bind (informClientOfWindowState_observerView a win _) fun _ =>
  requestSceneSurfaceState_observerView win _

theorem isTransientFor_observerView (t : Window) :
    Preserves observerView (isTransientFor win t) := by
  refine preserves_bind ?_ fun _ => preserves_atomic fun w => by
    rw [observerView_setBridge]
    exact ObserverView.setHolding_self _ win
  unfold resolveTransientFor
  split
  · refine preserves_bind (preserves_atomic fun _ => rfl) fun p => ?_
    rcases p with _ | p
    · refine preserves_bind (preserves_atomic fun _ => rfl) fun f => ?_
      rcases f with _ | f
      · exact preserves_pure _
      · exact preserves_atomic fun _ => rfl
    · exact preserves_pure _
  · exact preserves_pure _

theorem applyReply_observerView (h : Handler) (v : Option PropValue) :
    Preserves observerView (applyReply win h v) := by
  rcases applyReply_shape win h v with ⟨f, hf, hb⟩ | ⟨t, ht⟩ | hp
  · rw [hf]; exact locked_observerView win fun b => by rw [hb]; rfl
  · rw [ht]; exact isTransientFor_observerView win t
  · rw [hp]; exact preserves_pure _

theorem issueReads_observerView (hs : List (Atom × Handler)) :
    Preserves observerView (issueReads win hs) := by
  induction hs with
  | nil => exact preserves_pure _
  | cons e hs ih =>
    exact preserves_bind (readProperty_observerView win _) fun _ =>
      preserves_bind ih fun _ => preserves_pure _

theorem processReplies_observerView (replies : List (Handler × Option PropValue)) :
    Preserves observerView (processReplies win replies) := by
  induction replies with
  | nil => exact preserves_pure _
  | cons e rest ih => exact preserves_bind (applyReply_observerView win _ _) fun _ => ih

theorem applyPendingSpec_observerView : Preserves observerView (applyPendingSpec win) := by
  refine preserves_bind (preserves_atomic fun w => ?_) fun x => ?_
  · rw [observerView_setBridge]
    exact ObserverView.setHolding_self _ win
  obtain ⟨sceneSurface, spec⟩ := x
  rcases spec with _ | spec <;> rcases sceneSurface with _ | id
  all_goals first
    | exact preserves_pure _
    | refine preserves_bind (preserves_atomic fun _ => rfl) fun _ => ?_
  dsimp only
  split
  · exact modifySurface_observerView _ _
  · exact preserves_pure _

theorem propertyNotify_observerView (property : Atom) :
    Preserves observerView (propertyNotify a win property) := by
  unfold propertyNotify
  split
  · exact preserves_pure _
  · exact preserves_bind (readProperty_observerView win _) fun _ =>
      preserves_bind (applyReply_observerView win _ _) fun _ => applyPendingSpec_observerView win

theorem moveResize_observerView (detail : Nat) : Preserves observerView (moveResize win detail) := by
  refine preserves_bind (preserves_atomic fun _ => rfl) fun x => ?_
  obtain ⟨sceneSurface, timestamp⟩ := x
  dsimp only
  split
  · rcases sceneSurface with _ | s
    · exact preserves_pure _
    · exact requestMove_observerView _ _
  · split
    · exact requestResize_observerView _ _ _
    · exact preserves_pure _

theorem sceneSurfaceFocusSet_observerView (hasFocus : Bool) :
    Preserves observerView (sceneSurfaceFocusSet win hasFocus) :=
  preserves_bind (preserves_atomic fun _ => rfl) fun _ => configureWindow_observerView win _ _ _ _

theorem sceneSurfaceStateSet_observerView (newState : MirWindowState) :
    Preserves observerView (sceneSurfaceStateSet a win newState) := by
  refine preserves_bind (locked_observerView win fun _ => rfl) fun _ =>
    preserves_bind (informClientOfWindowState_observerView a win _) fun _ => ?_
  split
  · exact configureWindow_observerView win _ _ _ _
  · exact preserves_pure _

theorem sceneSurfaceResized_observerView (newSize : Size) :
    Preserves observerView (sceneSurfaceResized win newSize) :=
  configureWindow_observerView win _ _ _ _

theorem sceneSurfaceMovedTo_observerView (newTopLeft : Point) :
    Preserves observerView (sceneSurfaceMovedTo win newTopLeft) := by
  refine preserves_bind (sceneSurface_observerView win) fun id => ?_
  dsimp only
  rcases id with _ | id
  · exact preserves_bind (preserves_pure _) fun _ => configureWindow_observerView win _ _ _ _
  · exact preserves_bind (surface_observerView _ _) fun _ =>
      preserves_bind (preserves_pure _) fun _ => configureWindow_observerView win _ _ _ _

theorem sceneSurfaceCloseRequested_observerView :
    Preserves observerView (sceneSurfaceCloseRequested a win) := by
  refine preserves_bind (locked_observerView win fun _ => rfl) fun _ => ?_
  split
  · exact send_observerView _
  · exact send_observerView _

end XWaylandSurface

/-! ## The calls that change the bookkeeping -/

namespace World

variable {w : World}

theorem observersHeld_start (rc : Bool) : ObserversHeld (World.start rc false) :=
  ⟨fun _ => trivial, fun _ _ h => (nomatch h), fun _ _ _ h => (nomatch h), fun _ _ => .inl rfl,
    fun _ _ => rfl, rfl, rfl⟩

theorem ObserversHeld.of_preserves {α : Type} {p : Prog World α} (hp : Preserves observerView p)
    (h : w.ObserversHeld) : (p.run w).2.ObserversHeld := by
  unfold ObserversHeld
  rw [hp w]
  exact h

end World

namespace XWaylandSurface

variable (a : Atoms) (win : Window)

open Section

/-- The end of `close`, from any world that looks to the bookkeeping like `w` with the bridge's
references cleared. -/
theorem closeDetach_observersHeld (w : World) (ho : SurfacesOwned w) (h : w.ObserversHeld)
    (hm : w.managed win = true) (x : World)
    (hv : x.observerView = (w.setBridge win { w.bridges win with
      weakSceneSurface := none, weakSession := none, surfaceObserver := none }).observerView) :
    ((closeDetach (w.sceneSurfaceOf win) (w.bridges win).surfaceObserver).run x).2.ObserversHeld := by
  rw [observerView_setBridge] at hv
  have held := h.held win
  have hw : w.observerView.holdings win =
      ((w.bridges win).surfaceObserver, (w.bridges win).weakSceneSurface) := rfl
  unfold ObserverView.Held at held
  unfold ObserversHeld
  rcases hO : (w.bridges win).surfaceObserver with _ | o <;>
    rcases hS : (w.bridges win).weakSceneSurface with _ | id <;>
    rw [hO, hS] at hw <;> rw [hw] at held
  · -- nothing held: nothing to release
    rw [show w.sceneSurfaceOf win = none by simp [sceneSurfaceOf, hS]]
    show x.observerView.Consistent
    rw [hv]
    show (w.observerView.setHolding win (none, none)).Consistent
    rw [← hw, ObserverView.setHolding_self]
    exact h
  · exact held.elim
  · -- an observer and no surface
    rw [show w.sceneSurfaceOf win = none by simp [sceneSurfaceOf, hS]]
    show ((observerMustBeDead o).run ((releaseObserver o).run x).2).2.observerView.Consistent
    rw [observerMustBeDead_observerView, releaseObserver_observerView, hv]
    exact h.close_observer hw hm
  · -- a published surface, live
    have hl : w.sceneSurfaceOf win = some id := by
      rw [sceneSurfaceOf, hS]
      exact w.shell.lock_of_observersAt held.2
    rw [hl]
    show ((observerMustBeDead o).run ((releaseObserver o).run ((destroySurface id).run
      ((removeObserver id o).run x).2).2).2).2.observerView.Consistent
    rw [observerMustBeDead_observerView, releaseObserver_observerView, destroySurface_observerView,
      removeObserver_observerView, hv]
    exact h.close_published ho.observerView hw hm

/-- **`close` keeps the bookkeeping, and reaches no `fatal_error`,** when it runs alone on a
bridge in the table. -/
theorem close_observersHeld (w : World) (ho : SurfacesOwned w) (h : w.ObserversHeld)
    (hm : w.managed win = true) : ((close a win).run w).2.ObserversHeld := by
  simp only [close, run_atomic_bind]
  rw [run_bind_of_ok (p := deleteProperty win a.netWmDesktop) rfl,
    run_bind_of_ok (informClientOfWindowState_ok a win _ _),
    run_bind_of_ok (p := unmapWindow win) rfl]
  exact closeDetach_observersHeld win w ho h hm _ ((unmapWindow_observerView win _).trans
    ((informClientOfWindowState_observerView a win _ _).trans (deleteProperty_observerView win _ _)))

/-- The construction replaces the bridge by one that holds nothing. -/
theorem construct_observerView (ev : CreateNotifyEvent) (x : World) :
    ((construct win ev).run x).2.observerView = x.observerView.setHolding win (none, none) :=
  observerView_setBridge x win (ofCreateNotify ev)

/-- The first section of an attach that goes on: the bridge held no observer, and now holds the
fresh one, with one more reference for it. -/
theorem attachBegin_observerView (wl : WlSurface) (o : ObserverId) (y : World)
    {x : WindowState × SessionId × SurfaceCreationParameters}
    (hx : (attachBegin win wl o y).1 = .ok x) :
    (y.bridges win).surfaceObserver = none ∧
      (attachBegin win wl o y).2.observerView =
        (y.observerView.setHolding win (some o, (y.bridges win).weakSceneSurface)).setRefs o
          (· + 1) := by
  unfold attachBegin at hx ⊢
  dsimp only at hx ⊢
  by_cases hc : ((y.bridges win).surfaceObserver.isSome || (y.bridges win).weakSession.isSome ||
    (y.sceneSurfaceOf win).isSome) = true
  · rw [if_pos hc] at hx
    cases hx
  rw [if_neg hc] at hx ⊢
  rcases hs : wl.session with _ | session
  · simp [hs] at hx
  refine ⟨?_, by rw [observerView_setRefs, observerView_setBridge]; rfl⟩
  cases ho : (y.bridges win).surfaceObserver
  · rfl
  · simp [ho] at hc

/-- The rest of an attach, where `configure_window` does not throw: either it failed before it
created a surface, with the bookkeeping as it found it, or it created a surface listing the
observer and published it. -/
theorem attachRest_observerView (o : ObserverId)
    (args : WindowState × SessionId × SurfaceCreationParameters) (y : World)
    (hc : y.refusesConfigure = false) :
    Outcome (fun _ z => z.observerView = (y.observerView.create o).setHolding win
        ((y.observerView.holdings win).1, some y.observerView.nextSurface))
      (fun z => z.observerView = y.observerView) ((attachRest a win o args).run y) := by
  have keep {α : Type} {p : Prog World α} (hp : Preserves observerView p) :
      Triple (fun z => z.observerView = y.observerView) p (fun _ z => z.observerView = y.observerView)
        (fun z => z.observerView = y.observerView) :=
    Keeps.triple (hp.keeps fun _ _ h h' => h.trans h')
  obtain ⟨state, session, params⟩ := args
  refine (triple_bind (keep (issueReads_observerView win _)) fun _ =>
    triple_bind (keep (processReplies_observerView win _)) fun _ =>
    triple_bind (keep (locked_observerView win fun _ => rfl)) fun params =>
    triple_bind (R := fun id z => z.observerView = y.observerView.create o ∧
      id = y.observerView.nextSurface) (triple_atomicE fun z hz => ?_) fun id =>
    triple_bind (Returns.triple (informClientOfWindowState_returns a win _)
      ((informClientOfWindowState_observerView a win _).keeps fun _ _ h h' => ⟨h.trans h'.1, h'.2⟩))
      fun _ =>
    triple_bind (R := fun _ z => z.observerView = y.observerView.create o ∧
      id = y.observerView.nextSurface) (triple_atomic fun z hz => hz) fun _ =>
    triple_bind (R := fun _ z => z.observerView = y.observerView.create o ∧
      id = y.observerView.nextSurface) (triple_atomicE fun z hz => ?_) fun _ =>
    triple_atomic fun z hz => ?_) y rfl
  · -- `create_surface`
    dsimp only
    split
    · exact hz
    · exact ⟨by rw [createSurface_observerView, hz], congrArg ObserverView.nextSurface hz⟩
  · -- `configure_window`, which does not throw here
    have hr : z.refusesConfigure = false :=
      (congrArg ObserverView.refusesConfigure hz.1).trans hc
    rw [if_neg (by simp [hr])]
    exact hz
  · -- the surface published
    have hob : (z.bridges win).surfaceObserver = (y.observerView.holdings win).1 :=
      congrArg (fun V => (V.holdings win).1) hz.1
    rw [observerView_setBridge, hz.1, hz.2]
    simp only [holding, hob]

/-- **An attach keeps the bookkeeping** when it runs alone on a bridge in the table: refused in
its first section, it releases the fresh observer; failed later, the bridge keeps the observer
with its own reference; gone through, the bridge and the published surface hold it. -/
theorem attachWlSurface_observersHeld (wl : WlSurface) (w : World) (ho : SurfacesOwned w)
    (h : w.ObserversHeld) (hm : w.managed win = true) :
    ((attachWlSurface a win wl).run w).2.ObserversHeld := by
  rw [attachWlSurface_run]
  unfold ObserversHeld
  rw [releaseObserver_observerView]
  simp only [attachBody, run_atomicE_bind]
  rcases attachBegin_cases win wl w.nextObserver (makeObserver.run w).2 with
    ⟨e, he, -, hw⟩ | ⟨x, -, hx, -, -⟩
  · rw [he]
    dsimp only
    rw [hw, makeObserver_observerView]
    exact h.attach_refused
  rw [hx]
  dsimp only
  obtain ⟨hnone, hv⟩ := attachBegin_observerView win wl _ _ hx
  have hw : w.observerView.holdings win = (none, none) := (h.held win).scene_of_observer hnone
  rw [show ((makeObserver.run w).2.bridges win).weakSceneSurface = none from
    congrArg Prod.snd hw, makeObserver_observerView] at hv
  have hr := attachRest_observerView a win w.nextObserver x _
    ((congrArg ObserverView.refusesConfigure hv).trans h.configures)
  generalize (attachRest a win w.nextObserver x).run _ = r at hr ⊢
  rcases r with ⟨_ | _, z⟩ <;> simp only [outcome_error, outcome_ok] at hr <;> rw [hr, hv]
  · exact h.attach_failed hw hm
  · convert h.attach_published ho.observerView hw hm using 3
    simp [ObserverView.setRefs, ObserverView.setHolding, ObserverView.makeObserver, observerView]

end XWaylandSurface

/-! ## `close` twice

The destructor calls `close`, and so does `wl_surface_destroyed`: a bridge whose surface went
first is closed twice. The second call finds the references cleared, `_NET_WM_DESKTOP` deleted,
the withdrawn state cached and the window unmapped: it sends the delete and the unmap again and
changes nothing else. -/

namespace XWaylandSurface

variable (a : Atoms) (win : Window)

open Section

theorem closeDetach_frame (sceneSurface : Option SurfaceId) (observer : Option ObserverId)
    (x : World) :
    ((closeDetach sceneSurface observer).run x).2.bridges = x.bridges ∧
      ((closeDetach sceneSurface observer).run x).2.props = x.props ∧
      ((closeDetach sceneSurface observer).run x).2.mapped = x.mapped := by
  have h (u : Window) := (closeDetach_quiet u sceneSurface observer).run Quiet.refl
    (fun _ _ _ => Quiet.trans) x
  exact ⟨funext fun v => (h (v + 1)).others v (Nat.lt_succ_self v).ne, (h 0).props, (h 0).mapped⟩

/-- `inform_client_of_window_state` writes `WM_STATE` and `_NET_WM_STATE` only. -/
theorem informClientOfWindowState_props {atom : Atom} (h₁ : atom ≠ a.wmState)
    (h₂ : atom ≠ a.netWmState) (s : WindowState) (x : World) :
    ((informClientOfWindowState a win s).run x).2.props win atom = x.props win atom := by
  unfold informClientOfWindowState locked
  rw [run_atomic_bind]
  split_ifs <;> simp [setProperty, deleteProperty, Function.update_noteq h₁,
    Function.update_noteq h₂]

theorem close_ok (x : World) : ((close a win).run x).1 = .ok () := by
  obtain ⟨_, h⟩ := (returns_bind (returns_atomic _) fun _ => returns_bind (returns_atomic _)
    fun _ => returns_bind (informClientOfWindowState_returns a win _) fun _ =>
    returns_bind (returns_atomic _) fun _ => closeDetach_returns _ _) x
  exact h

/-- What `close` leaves of window `win`: no references, no `_NET_WM_DESKTOP`, a withdrawn
cached state, and the window unmapped. -/
theorem close_closed (w : World) :
    refs (((close a win).run w).2.bridges win) = (none, none, none) ∧
      ((close a win).run w).2.props win a.netWmDesktop = none ∧
      (((close a win).run w).2.bridges win).cached.state.withdrawn = true ∧
      ((close a win).run w).2.mapped win = false := by
  have hv := close_windowView a win w
  have hs := congrArg WindowView.state hv
  simp only [windowView, WindowView.inform_state] at hs
  refine ⟨?_, ?_, by rw [hs], by simpa [windowView] using congrArg WindowView.mapped hv⟩
  all_goals
    simp only [close, run_atomic_bind]
    rw [run_bind_of_ok (p := deleteProperty win a.netWmDesktop) rfl,
      run_bind_of_ok (informClientOfWindowState_ok a win _ _),
      run_bind_of_ok (p := unmapWindow win) rfl]
  · rw [(closeDetach_frame _ _ _).1]
    exact informClientOfWindowState_keeps_refs a win _ _ _ (by simp [refs, deleteProperty])
  · rw [(closeDetach_frame _ _ _).2.1]
    exact (informClientOfWindowState_props a win a.netWmDesktop_ne_wmState
      a.netWmDesktop_ne_netWmState _ _).trans (by simp [deleteProperty])

/-- `close` of a window it has closed already sends the delete of `_NET_WM_DESKTOP` and the
unmap again, and changes nothing else. -/
theorem close_of_closed (x : World) (hb : refs (x.bridges win) = (none, none, none))
    (hp : x.props win a.netWmDesktop = none) (hs : (x.bridges win).cached.state.withdrawn = true)
    (hm : x.mapped win = false) :
    (close a win).run x =
      (.ok (), { x with xlog := .unmapWindow win :: .deleteProperty win a.netWmDesktop :: x.xlog }) := by
  have hcleared : ∀ b : XWaylandSurface, refs b = (none, none, none) →
      { b with weakSceneSurface := none, weakSession := none, surfaceObserver := none } = b := by
    rintro ⟨_, _, _, _, _⟩ h
    simp only [refs, Prod.mk.injEq] at h
    rw [h.1, h.2.1, h.2.2]
  have hstate : ∀ s : WindowState, s.withdrawn = true → { s with withdrawn := true } = s := by
    rintro ⟨_, _, _, _⟩ h
    rw [← h]
  have hdel : ((deleteProperty win a.netWmDesktop).run x).2 =
      { x with xlog := .deleteProperty win a.netWmDesktop :: x.xlog } := by
    have h : Function.update (x.props win) a.netWmDesktop none = x.props win :=
      Function.update_eq_self_iff.mpr hp.symm
    show { x with props := _, xlog := _ } = _
    rw [h, Function.update_eq_self]
  have hunmap (y : World) (hy : y.mapped win = false) :
      ((unmapWindow win).run y).2 = { y with xlog := .unmapWindow win :: y.xlog } := by
    have h : Function.update y.mapped win false = y.mapped := Function.update_eq_self_iff.mpr hy.symm
    show { y with mapped := _, xlog := _ } = _
    rw [h]
  have hscene : x.sceneSurfaceOf win = none := by
    simp only [refs, Prod.mk.injEq] at hb
    simp [sceneSurfaceOf, hb.2.2]
  simp only [close, run_atomic_bind]
  rw [hcleared _ hb, World.setBridge_same, hstate _ hs,
    run_bind_of_ok (p := deleteProperty win a.netWmDesktop) rfl, hdel,
    run_bind_ok (informClientOfWindowState_cached a win
      { x with xlog := .deleteProperty win a.netWmDesktop :: x.xlog } (s := (x.bridges win).cached.state) rfl),
    run_bind_of_ok (p := unmapWindow win) rfl,
    hunmap { x with xlog := .deleteProperty win a.netWmDesktop :: x.xlog } hm, hscene]
  simp only [refs, Prod.mk.injEq] at hb
  rw [hb.1]
  rfl

/-- **A second `close` only sends again**: run after a first, it returns, sends the delete of
`_NET_WM_DESKTOP` and the unmap once more, and leaves everything else as the first left it. -/
theorem close_twice (w : World) :
    (close a win >>= fun _ => close a win).run w =
      (.ok (), { ((close a win).run w).2 with
        xlog := .unmapWindow win :: .deleteProperty win a.netWmDesktop :: ((close a win).run w).2.xlog }) := by
  obtain ⟨hb, hp, hs, hm⟩ := close_closed a win w
  rw [run_bind_of_ok (close_ok a win w), close_of_closed a win _ hb hp hs hm]

end XWaylandSurface

namespace Call

open XWaylandSurface

variable (a : Atoms)

/-- Every call keeps the bookkeeping, run alone on its window while enabled. -/
theorem prog_observersHeld (c : Call) (hc : ∀ win ev, c ≠ create win ev) (w : World)
    (ho : SurfacesOwned w) (h : w.ObserversHeld) (hen : c.enabled a w = true) :
    ((c.prog a).run w).2.ObserversHeld := by
  cases c with
  | create win ev => exact absurd rfl (hc win ev)
  | map win => exact h.of_preserves (map_observerView a win)
  | close win => exact close_observersHeld a win w ho h hen
  | takeFocus win => exact h.of_preserves (takeFocus_observerView a win)
  | configureRequest win ev => exact h.of_preserves (configureRequest_observerView win ev)
  | configureNotify win ev => exact h.of_preserves (configureNotify_observerView win ev)
  | netWmStateClientMessage win data =>
    exact h.of_preserves (netWmStateClientMessage_observerView a win data)
  | wmChangeStateClientMessage win data =>
    exact h.of_preserves (wmChangeStateClientMessage_observerView a win data)
  | propertyNotify win property => exact h.of_preserves (propertyNotify_observerView a win property)
  | attachWlSurface win wl => exact attachWlSurface_observersHeld a win wl w ho h hen
  | moveResize win detail => exact h.of_preserves (moveResize_observerView win detail)
  | sceneSurfaceFocusSet win hasFocus =>
    exact h.of_preserves (sceneSurfaceFocusSet_observerView win hasFocus)
  | sceneSurfaceStateSet win newState =>
    exact h.of_preserves (sceneSurfaceStateSet_observerView a win newState)
  | sceneSurfaceResized win newSize =>
    exact h.of_preserves (sceneSurfaceResized_observerView win newSize)
  | sceneSurfaceMovedTo win newTopLeft =>
    exact h.of_preserves (sceneSurfaceMovedTo_observerView win newTopLeft)
  | sceneSurfaceCloseRequested win =>
    exact h.of_preserves (sceneSurfaceCloseRequested_observerView a win)
  | wlSurfaceDestroyed win => exact close_observersHeld a win w ho h hen
  | clientProperty win property value => exact h.of_preserves (preserves_atomic fun _ => rfl)

/-- A create makes a bridge that holds nothing, for a window whose old bridge held nothing. -/
theorem perform_create_observersHeld (win : Window) (ev : CreateNotifyEvent) (w : World)
    (h : w.ObserversHeld) : ((create win ev).perform a w).ObserversHeld := by
  unfold perform
  split
  · rename_i hen
    have hun : w.managed win = false := by simpa [enabled] using hen
    have hw : w.observerView.holdings win = (none, none) :=
      (h.held win).scene_of_observer (h.unmanaged win hun)
    show ObserversHeld ((construct win ev).run _).2
    unfold ObserversHeld
    rw [construct_observerView]
    refine h.of_agree ?_ (fun v hv => ?_) rfl (fun _ _ _ => rfl) le_rfl h.fatal h.configures
    · show Function.update w.observerView.holdings win (none, none) = w.observerView.holdings
      rw [← hw, Function.update_eq_self]
    · by_cases hvw : v = win
      · subst hvw
        simp [ObserverView.setHolding, observerView] at hv
      · simpa [ObserverView.setHolding, observerView, Function.update_noteq hvw] using hv
  · exact h

theorem perform_observersHeld (c : Call) (w : World) (ho : SurfacesOwned w)
    (h : w.ObserversHeld) : (c.perform a w).ObserversHeld := by
  by_cases hc : ∃ win ev, c = create win ev
  · obtain ⟨win, ev, rfl⟩ := hc
    exact perform_create_observersHeld a win ev w h
  · have hc' : ∀ win ev, c ≠ create win ev := fun win ev he => hc ⟨win, ev, he⟩
    rw [perform_of_ne_create a hc']
    split
    · exact prog_observersHeld a c hc' w ho h ‹_›
    · exact h

end Call

/-- **No serial run reaches `close`'s `fatal_error`.** From a world with no window whose X server
does not refuse `configure_window` (the shell may refuse `create_surface`), after any calls made
one after another, every bridge's observer is referenced by the bridge and by the
live surface it publishes and by nothing else, no two bridges share an observer, every created
surface nobody publishes had its observer removed and was destroyed exactly once, and
`fatal_error` was never reached. -/
theorem serialRun_observersHeld (a : Atoms) (rc : Bool) (calls : List Call) :
    (serialRun a (World.start rc false) calls).ObserversHeld :=
  (serialRun_invariant a (I := fun w => SurfacesOwned w ∧ w.ObserversHeld)
    (fun c w h => ⟨c.perform_surfacesOwned a w h.1, c.perform_observersHeld a w h.1 h.2⟩) calls _
    ⟨surfacesOwned_start rc false, observersHeld_start rc⟩).2

/- Where `configure_window` throws, an attach that created its surface fails before it publishes
it; the surface keeps its reference to the observer, and the window's `close` is fatal. -/
set_option maxRecDepth 4000 in
example : (serialRun Atoms.fresh { refusesConfigure := true }
    [.create 1 ⟨0, 0, 10, 10, false⟩, .attachWlSurface 1 ⟨some 7⟩, .close 1]).fatal = true := by
  decide

/-! ## Attach and close on two threads

`attach_wl_surface` runs on the Wayland thread and `close` on the X thread, each a sequence of
lock sections and calls. `close` expects to hold the last reference to the observer once it has
removed it from the scene surface and destroyed the surface, and calls `fatal_error` if a
reference survives. That expectation holds when `close` runs after `attach_wl_surface` has
returned (`serialRun_observersHeld`). It fails when `close` takes its snapshot after attach's
first lock section and before attach publishes the scene surface at its end: `close` finds the
observer but no surface, so it removes nothing and destroys nothing, and attach still holds its
own reference to the observer. Attach then goes on, creates a surface that holds the observer,
and publishes it on a bridge that has none. -/

section AttachAndClose

open XWaylandSurface

/-- A fresh managed window: attach on thread 0, close on thread 1. -/
def attachAndClose : Threads World where
  state := { managed := fun v => v = 1 }
  progs := [attachWlSurface Atoms.fresh 1 ⟨some 7⟩, close Atoms.fresh 1]

/-- Attach makes its observer and runs its first lock section, `close` runs to its end, and
attach finishes. -/
def closeInsideAttach : List Nat := [0, 0] ++ List.replicate 6 1 ++ List.replicate 16 0

set_option maxRecDepth 4000 in
/-- **`close` inside `attach_wl_surface` is fatal**: both calls return, `close` has reached
`fatal_error`, and the created surface is published with no observer beside it. -/
theorem close_inside_attach_fatal :
    (attachAndClose.runSchedule closeInsideAttach).Done ∧
    (attachAndClose.runSchedule closeInsideAttach).state.fatal = true ∧
    ((attachAndClose.runSchedule closeInsideAttach).state.bridges 1).weakSceneSurface = some 0 ∧
    ((attachAndClose.runSchedule closeInsideAttach).state.bridges 1).surfaceObserver = none := by
  decide

end AttachAndClose

end XWaylandBridge
