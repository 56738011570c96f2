import XWaylandBridge.Serial

/-!
# The parent `is_transient_for` requests

`is_transient_for` resolves a parent for the window's pending specification: the live surface
of the bridge of the `WM_TRANSIENT_FOR` window, else that of the focused window's bridge, else
none (`World.transientParent`). Nothing in the resolution compares the result with the
window's own surface, so a window whose transient-for window has no surface while it has the
focus itself is made its own parent (`self_parent_by_focus`).

**What is proved.** Every serial run keeps each published surface with one bridge: a surface
identity is published once, by the attach that created it, and never by two windows
(`World.SurfacesOwned`, `reachable_surfacesOwned`). So the resolved parent is the window's own
surface exactly in the two cases the resolution reaches the window itself
(`transientParent_eq_own_iff`, and for the specification `is_transient_for` leaves,
`isTransientFor_own_parent_iff`).

**What this does not decide.** Nothing here bounds longer cycles, and the code does not
exclude them: two windows transient for each other request each other as parents
(`transient_for_each_other_cycle`).
-/

set_option autoImplicit false

namespace XWaylandBridge

namespace World

/-- No bridge publishes a surface it did not have, and the shell's next identity does not go
back. -/
def NoPublish (w w' : World) : Prop :=
  (∀ v, (w'.bridges v).weakSceneSurface = (w.bridges v).weakSceneSurface ∨
    (w'.bridges v).weakSceneSurface = none) ∧ w.shell.nextSurface ≤ w'.shell.nextSurface

theorem NoPublish.refl (w : World) : NoPublish w w := ⟨fun _ => .inl rfl, le_rfl⟩

theorem NoPublish.trans {w w' w'' : World} (h : NoPublish w w') (h' : NoPublish w' w'') :
    NoPublish w w'' := by
  refine ⟨fun v => ?_, h.2.trans h'.2⟩
  rcases h'.1 v with h₁ | h₁
  · exact h₁ ▸ h.1 v
  · exact .inr h₁

theorem Quiet.noPublish {win : Window} {w w' : World} (h : Quiet win w w') : NoPublish w w' := by
  refine ⟨fun v => .inl ?_, h.nextSurface⟩
  by_cases hv : v = win
  · exact hv ▸ h.scene
  · rw [h.others v hv]

theorem noPublish_setBridge (w : World) (win : Window) {b : XWaylandSurface}
    (h : b.weakSceneSurface = (w.bridges win).weakSceneSurface ∨ b.weakSceneSurface = none) :
    NoPublish w (w.setBridge win b) := by
  refine ⟨fun v => ?_, le_rfl⟩
  by_cases hv : v = win
  · subst hv; simpa using h
  · exact .inl (by rw [w.setBridge_bridges_ne win b hv])

end World

open World Prog Section

theorem Prog.Guarantees.noPublish {α : Type} {win : Window} {p : Prog World α}
    (h : Guarantees (Quiet win) p) : Guarantees NoPublish p :=
  h.mono fun _ _ => Quiet.noPublish

namespace Section

variable (win : Window)

theorem locked_noPublish {α : Type} {f : XWaylandSurface → α × XWaylandSurface}
    (h : ∀ b, (f b).2.weakSceneSurface = b.weakSceneSurface ∨ (f b).2.weakSceneSurface = none) :
    Guarantees NoPublish (locked win f) :=
  guarantees_atomic fun w => noPublish_setBridge w win (h _)

theorem setProperty_noPublish (atom : Atom) (v : PropValue) :
    Guarantees NoPublish (setProperty win atom v) :=
  guarantees_atomic fun _ => NoPublish.refl _

theorem deleteProperty_noPublish (atom : Atom) : Guarantees NoPublish (deleteProperty win atom) :=
  guarantees_atomic fun _ => NoPublish.refl _

end Section

/-! ## Every call but an attach publishes nothing -/

namespace XWaylandSurface

variable (a : Atoms) (win : Window)

theorem informClientOfWindowState_noPublish (s : WindowState) :
    Guarantees NoPublish (informClientOfWindowState a win s) := by
  refine guarantees_bind (locked_noPublish win fun b => .inl ?_) fun changed => ?_
  · dsimp only; split <;> rfl
  · cases changed
    · exact guarantees_pure _
    · refine guarantees_bind (setProperty_noPublish win _ _) fun _ => ?_
      split
      · exact deleteProperty_noPublish win _
      · exact setProperty_noPublish win _ _

theorem construct_noPublish (ev : CreateNotifyEvent) : Guarantees NoPublish (construct win ev) :=
  guarantees_bind (locked_noPublish win fun _ => .inr rfl) fun _ => (send_quiet win _).noPublish

theorem map_noPublish : Guarantees NoPublish (map a win) :=
  guarantees_bind (locked_quiet win fun _ => ⟨rfl, rfl⟩).noPublish fun _ =>
  guarantees_bind (setProperty_noPublish win _ _) fun _ =>
  guarantees_bind (informClientOfWindowState_noPublish a win _) fun _ =>
  guarantees_bind (requestSceneSurfaceState_quiet win _).noPublish fun _ =>
  guarantees_atomic fun _ => NoPublish.refl _

theorem close_noPublish : Guarantees NoPublish (close a win) :=
  guarantees_bind (guarantees_atomic fun w => noPublish_setBridge w win (.inr rfl)) fun _ =>
  guarantees_bind (deleteProperty_noPublish win _) fun _ =>
  guarantees_bind (informClientOfWindowState_noPublish a win _) fun _ =>
  guarantees_bind (guarantees_atomic fun _ => NoPublish.refl _) fun _ =>
  (closeDetach_quiet win _ _).noPublish

theorem netWmStateClientMessage_noPublish (data : ClientMessageData) :
    Guarantees NoPublish (netWmStateClientMessage a win data) :=
  guarantees_bind (locked_quiet win fun _ => ⟨rfl, rfl⟩).noPublish fun _ =>
  guarantees_bind (informClientOfWindowState_noPublish a win _) fun _ =>
  (requestSceneSurfaceState_quiet win _).noPublish

theorem wmChangeStateClientMessage_noPublish (data : ClientMessageData) :
    Guarantees NoPublish (wmChangeStateClientMessage a win data) :=
  guarantees_bind (guarantees_atomicE fun _ => NoPublish.refl _) fun _ =>
  guarantees_bind (informClientOfWindowState_noPublish a win _) fun _ =>
  (requestSceneSurfaceState_quiet win _).noPublish

theorem sceneSurfaceStateSet_noPublish (newState : MirWindowState) :
    Guarantees NoPublish (sceneSurfaceStateSet a win newState) := by
  refine guarantees_bind (locked_quiet win fun _ => ⟨rfl, rfl⟩).noPublish fun _ =>
    guarantees_bind (informClientOfWindowState_noPublish a win _) fun _ => ?_
  split
  · exact (configureWindow_quiet win win _ _ _ _).noPublish
  · exact guarantees_pure _

end XWaylandSurface

/-! ## Each published surface belongs to one bridge -/

namespace World

/-- Every published surface is one the shell has handed out, and no two bridges publish the
same one. -/
structure SurfacesOwned (w : World) : Prop where
  issued : ∀ v s, (w.bridges v).weakSceneSurface = some s → s < w.shell.nextSurface
  unique : ∀ v v' s, (w.bridges v).weakSceneSurface = some s →
    (w.bridges v').weakSceneSurface = some s → v = v'

/-- Identity `id` is handed out and no bridge publishes it. -/
def Unpublished (id : SurfaceId) (w : World) : Prop :=
  id < w.shell.nextSurface ∧ ∀ v, (w.bridges v).weakSceneSurface ≠ some id

theorem surfacesOwned_start (rc rf : Bool) : SurfacesOwned (World.start rc rf) :=
  ⟨fun _ _ h => (nomatch h), fun _ _ _ h => (nomatch h)⟩

variable {w w' : World}

theorem SurfacesOwned.of_noPublish (h : SurfacesOwned w) (hp : NoPublish w w') :
    SurfacesOwned w' := by
  refine ⟨fun v s hs => ?_, fun v v' s hs hs' => ?_⟩
  · rcases hp.1 v with h₁ | h₁ <;> rw [h₁] at hs
    · exact lt_of_lt_of_le (h.issued v s hs) hp.2
    · cases hs
  · rcases hp.1 v with h₁ | h₁ <;> rcases hp.1 v' with h₂ | h₂ <;> rw [h₁] at hs <;>
      rw [h₂] at hs' <;> first | exact h.unique v v' s hs hs' | cases hs | cases hs'

theorem Unpublished.of_noPublish {id : SurfaceId} (h : Unpublished id w) (hp : NoPublish w w') :
    Unpublished id w' := by
  refine ⟨lt_of_lt_of_le h.1 hp.2, fun v hv => ?_⟩
  rcases hp.1 v with h₁ | h₁ <;> rw [h₁] at hv
  · exact h.2 v hv
  · cases hv

end World

namespace XWaylandSurface

variable (a : Atoms) (win : Window)

theorem attachBegin_noPublish (wl : WlSurface) (o : ObserverId) (w : World) :
    NoPublish w (attachBegin win wl o w).2 := by
  unfold attachBegin
  dsimp only
  split
  · exact NoPublish.refl w
  · split
    · exact NoPublish.refl w
    · exact noPublish_setBridge w win (.inl rfl)

/-- **An attach publishes the identity it was handed**, which no bridge had. -/
theorem attachRest_triple_owned (o : ObserverId)
    (args : WindowState × SessionId × SurfaceCreationParameters) :
    Triple SurfacesOwned (attachRest a win o args) (fun _ => SurfacesOwned) SurfacesOwned := by
  have keep {α : Type} {p : Prog World α} (h : Guarantees NoPublish p) :
      Triple SurfacesOwned p (fun _ => SurfacesOwned) SurfacesOwned :=
    Keeps.triple fun w hw =>
      hw.of_noPublish (h.run NoPublish.refl (fun _ _ _ => NoPublish.trans) w)
  have keepId {α : Type} {p : Prog World α} (id : SurfaceId) (h : Guarantees NoPublish p) :
      Triple (fun w => SurfacesOwned w ∧ Unpublished id w) p
        (fun _ w => SurfacesOwned w ∧ Unpublished id w) SurfacesOwned :=
    triple_weaken (Keeps.triple (I := fun w => SurfacesOwned w ∧ Unpublished id w) fun w hw =>
      have hp := h.run NoPublish.refl (fun _ _ _ => NoPublish.trans) w
      ⟨hw.1.of_noPublish hp, hw.2.of_noPublish hp⟩) (fun _ h => h) (fun _ _ h => h) fun _ h => h.1
  obtain ⟨state, session, params⟩ := args
  refine triple_bind (keep (issueReads_quiet win _).noPublish) fun _ =>
    triple_bind (keep (processReplies_quiet win _).noPublish) fun _ =>
    triple_bind (keep (locked_quiet win fun _ => ⟨rfl, rfl⟩).noPublish) fun params =>
    triple_bind (triple_atomicE fun w hw => ?_) fun id =>
    triple_bind (keepId id (informClientOfWindowState_noPublish a win _)) fun _ =>
    triple_bind (keepId id (surface_quiet win _ _).noPublish) fun _ =>
    triple_bind (keepId id (configureWindow_quiet win win _ _ _ _).noPublish) fun _ =>
    triple_atomic fun w ⟨hw, hid⟩ => ⟨fun v s hs => ?_, fun v v' s hs hs' => ?_⟩
  · -- `create_surface`: the identity handed out is the shell's next one
    dsimp only
    split
    · exact hw
    · refine ⟨hw.of_noPublish ⟨fun _ => .inl rfl, Nat.le_succ _⟩, Nat.lt_succ_self _, fun v hv => ?_⟩
      exact absurd (hw.issued v _ hv) (lt_irrefl _)
  · -- the surface published: the new one for `win`, the old ones elsewhere
    by_cases hv : v = win
    · subst hv
      simp only [World.setBridge_bridges_self, Option.some.injEq] at hs
      exact hs ▸ hid.1
    · rw [World.setBridge_bridges_ne w win _ hv] at hs
      exact hw.issued v s hs
  · by_cases hv : v = win <;> by_cases hv' : v' = win
    · exact hv.trans hv'.symm
    · subst hv
      simp only [World.setBridge_bridges_self, Option.some.injEq, World.setBridge_bridges_ne w _ _ hv'] at hs hs'
      exact absurd (hs ▸ hs') (hid.2 v')
    · subst hv'
      simp only [World.setBridge_bridges_self, Option.some.injEq, World.setBridge_bridges_ne w _ _ hv] at hs hs'
      exact absurd (hs' ▸ hs) (hid.2 v)
    · rw [World.setBridge_bridges_ne w win _ hv] at hs
      rw [World.setBridge_bridges_ne w win _ hv'] at hs'
      exact hw.unique v v' s hs hs'

theorem attachWlSurface_keeps_owned (wl : WlSurface) :
    Keeps SurfacesOwned (attachWlSurface a win wl) := by
  have quiet {α : Type} {p : Prog World α} (h : Guarantees (Quiet win) p) : Keeps SurfacesOwned p :=
    fun w hw => hw.of_noPublish (h.noPublish.run NoPublish.refl (fun _ _ _ => NoPublish.trans) w)
  exact keeps_bind (quiet (makeObserver_quiet win)) fun o =>
    keeps_andFinally (keeps_bind (keeps_atomicE fun w hw => hw.of_noPublish
      (attachBegin_noPublish win wl o w)) fun args => (attachRest_triple_owned a win o args).keeps)
      (quiet (releaseObserver_quiet win o)) fun _ => rfl

end XWaylandSurface

namespace Call

variable (a : Atoms)

open XWaylandSurface in
/-- Every call but an attach publishes nothing. -/
theorem prog_noPublish (c : Call) (hc : ∀ win wl, c ≠ attachWlSurface win wl) :
    Guarantees NoPublish (c.prog a) := by
  cases c with
  | create win ev =>
    exact guarantees_bind (guarantees_atomic fun _ => NoPublish.refl _) fun _ => construct_noPublish win ev
  | map win => exact map_noPublish a win
  | close win => exact close_noPublish a win
  | takeFocus win => exact (takeFocus_quiet a win).noPublish
  | configureRequest win ev => exact (configureRequest_quiet win ev).noPublish
  | configureNotify win ev => exact (configureNotify_quiet win ev).noPublish
  | netWmStateClientMessage win data => exact netWmStateClientMessage_noPublish a win data
  | wmChangeStateClientMessage win data => exact wmChangeStateClientMessage_noPublish a win data
  | propertyNotify win property => exact (propertyNotify_quiet a win property).noPublish
  | attachWlSurface win wl => exact absurd rfl (hc win wl)
  | moveResize win detail => exact (moveResize_quiet win detail).noPublish
  | sceneSurfaceFocusSet win hasFocus => exact (sceneSurfaceFocusSet_quiet win hasFocus).noPublish
  | sceneSurfaceStateSet win newState => exact sceneSurfaceStateSet_noPublish a win newState
  | sceneSurfaceResized win newSize => exact (sceneSurfaceResized_quiet win newSize).noPublish
  | sceneSurfaceMovedTo win newTopLeft => exact (sceneSurfaceMovedTo_quiet win newTopLeft).noPublish
  | sceneSurfaceCloseRequested win => exact (sceneSurfaceCloseRequested_quiet a win).noPublish
  | wlSurfaceDestroyed win => exact close_noPublish a win
  | clientProperty win property value => exact guarantees_atomic fun _ => NoPublish.refl _

theorem perform_surfacesOwned (c : Call) (w : World) (h : SurfacesOwned w) :
    SurfacesOwned (c.perform a w) := by
  by_cases hc : ∃ win wl, c = attachWlSurface win wl
  · obtain ⟨win, wl, rfl⟩ := hc
    rw [perform_of_ne_create a (c := attachWlSurface win wl) fun _ _ => nofun]
    split
    · exact XWaylandSurface.attachWlSurface_keeps_owned a win wl w h
    · exact h
  · have hp (w' : World) (h' : SurfacesOwned w') : SurfacesOwned ((c.prog a).run w').2 :=
      h'.of_noPublish ((c.prog_noPublish a fun win wl he => hc ⟨win, wl, he⟩).run NoPublish.refl
        (fun _ _ _ => NoPublish.trans) w')
    unfold perform
    split
    · exact hp w h
    · exact h

end Call

/-- **Every reachable world keeps each published surface with one bridge.** -/
theorem reachable_surfacesOwned (a : Atoms) {w : World} (hw : Reachable a w) : SurfacesOwned w :=
  hw.invariant surfacesOwned_start fun c w => c.perform_surfacesOwned a w

/-! ## The resolved parent -/

namespace World

variable {w : World}

theorem weakSceneSurface_of_sceneSurfaceOf {x : Window} {s : SurfaceId}
    (h : w.sceneSurfaceOf x = some s) : (w.bridges x).weakSceneSurface = some s := by
  simp only [sceneSurfaceOf] at h
  rcases hb : (w.bridges x).weakSceneSurface with _ | id <;> rw [hb] at h
  · cases h
  · simp only [Option.some_bind, Shell.lock] at h
    split at h
    · split at h <;> cases h; rfl
    · cases h

/-- In a world that keeps each surface with one bridge, the bridge `get_scene_surface_from`
finds a window's surface through is that window's own. -/
theorem SurfacesOwned.sceneSurfaceFrom_eq_iff (h : SurfacesOwned w) {win : Window}
    {s : SurfaceId} (hs : w.sceneSurfaceOf win = some s) (x : Window) :
    w.sceneSurfaceFrom x = some s ↔ w.managed x = true ∧ x = win := by
  unfold sceneSurfaceFrom
  split
  · exact ⟨fun hx => ⟨‹_›, h.unique x win s (weakSceneSurface_of_sceneSurfaceOf hx)
      (weakSceneSurface_of_sceneSurfaceOf hs)⟩, fun ⟨_, hx⟩ => hx ▸ hs⟩
  · simp_all

/-- **The resolved parent is the window's own surface exactly when the resolution reaches the
window itself**: through `WM_TRANSIENT_FOR`, or through the focus when the transient-for
window has no surface. -/
theorem SurfacesOwned.transientParent_eq_own_iff (h : SurfacesOwned w) {win : Window}
    {s : SurfaceId} (hs : w.sceneSurfaceOf win = some s) (t : Window) :
    w.transientParent t = some s ↔ t ≠ xcbWindowNone ∧ w.managed win = true ∧
      (t = win ∨ (w.sceneSurfaceFrom t = none ∧ w.focused = some win)) := by
  have hfrom := h.sceneSurfaceFrom_eq_iff hs
  unfold transientParent
  by_cases ht : t ≠ xcbWindowNone
  · simp only [ht, if_true, ne_eq, not_false_eq_true, true_and]
    rcases hft : w.sceneSurfaceFrom t with _ | p
    · have hnt : ¬(w.managed win = true ∧ t = win) := fun ⟨hm, htw⟩ =>
        absurd ((hfrom t).2 ⟨htw ▸ hm, htw⟩) (by rw [hft]; exact nofun)
      rcases hf : w.focused with _ | f
      · simp only [reduceCtorEq, false_iff]
        exact fun ⟨hm, htw⟩ => htw.elim (hnt ⟨hm, ·⟩) fun ⟨_, h⟩ => nomatch h
      · simp only [hfrom, true_and, Option.some.injEq]
        constructor
        · rintro ⟨hm, rfl⟩; exact ⟨hm, .inr rfl⟩
        · rintro ⟨hm, htw | rfl⟩
          · exact absurd ⟨hm, htw⟩ hnt
          · exact ⟨hm, rfl⟩
    · simp only [Option.some.injEq]
      constructor
      · rintro rfl
        obtain ⟨hm, rfl⟩ := (hfrom t).1 hft
        exact ⟨hm, .inl rfl⟩
      · rintro ⟨hm, htw | ⟨hnone, -⟩⟩
        · exact Option.some.inj (hft.symm.trans ((hfrom t).2 ⟨htw ▸ hm, htw⟩))
        · cases hnone
  · simp only [ht, if_false, reduceCtorEq, false_iff, false_and, not_false_eq_true]

end World

/-- **The parent `is_transient_for` requests is the window's own surface exactly when the
resolution reaches the window itself**, in every world the calls can reach: the
`WM_TRANSIENT_FOR` value names the window, or names a window without a live surface while the
window has the focus. -/
theorem XWaylandSurface.isTransientFor_own_parent_iff {a : Atoms} {w : World} (hw : Reachable a w)
    {win : Window} {s : SurfaceId} (hs : w.sceneSurfaceOf win = some s) (t : Window) :
    (((isTransientFor win t).run w).2.bridges win).nullablePendingSpec.bind (·.parent) =
        some (some s) ↔
      t ≠ xcbWindowNone ∧ w.managed win = true ∧
        (t = win ∨ (w.sceneSurfaceFrom t = none ∧ w.focused = some win)) := by
  rw [isTransientFor_run]
  simp only [World.setBridge_bridges_self, withPendingSpec, Option.some_bind, transientSpec,
    setPosition_parent, Option.some.injEq]
  exact (reachable_surfacesOwned a hw).transientParent_eq_own_iff hs t

/-- A window with a surface and the focus, whose client names an unmanaged window in
`WM_TRANSIENT_FOR`. -/
def focusedOrphanCalls : List Call :=
  [.create 1 ⟨10, 20, 300, 200, false⟩, .attachWlSurface 1 ⟨some 7⟩, .sceneSurfaceFocusSet 1 true,
    .clientProperty 1 xcbAtomWmTransientFor (some (.window 5))]

set_option maxRecDepth 4000 in
/-- **The focus fallback makes a surface its own parent**: after the calls above,
`property_notify(WM_TRANSIENT_FOR)` gives surface 0, window 1's own, the parent surface 0. -/
theorem self_parent_by_focus :
    (serialRun Atoms.fresh {} focusedOrphanCalls).sceneSurfaceOf 1 = some 0 ∧
    ((serialRun Atoms.fresh {} (focusedOrphanCalls ++ [.propertyNotify 1 xcbAtomWmTransientFor])).shell.surfaces
      0).map (·.parent) = some (some 0) := by
  decide

set_option maxRecDepth 4000 in
theorem isTransientFor_own_parent_focused_orphan :
    (serialRun Atoms.fresh {} focusedOrphanCalls).sceneSurfaceOf 1 = some 0 ∧
    ((((XWaylandSurface.isTransientFor 1 5).run (serialRun Atoms.fresh {} focusedOrphanCalls)).2.bridges
      1).nullablePendingSpec.bind (·.parent) = some (some 0) ↔
      (5 : Window) ≠ xcbWindowNone ∧ (serialRun Atoms.fresh {} focusedOrphanCalls).managed 1 = true ∧
        ((5 : Window) = 1 ∨ ((serialRun Atoms.fresh {} focusedOrphanCalls).sceneSurfaceFrom 5 = none ∧
          (serialRun Atoms.fresh {} focusedOrphanCalls).focused = some 1))) :=
  have hs : (serialRun Atoms.fresh {} focusedOrphanCalls).sceneSurfaceOf 1 = some 0 := by decide
  ⟨hs, XWaylandSurface.isTransientFor_own_parent_iff ⟨false, false, focusedOrphanCalls, rfl⟩ hs 5⟩

/-- Two attached windows whose clients name each other in `WM_TRANSIENT_FOR`, each read by
`property_notify`. -/
def mutualTransientCalls : List Call :=
  [.create 1 ⟨10, 20, 300, 200, false⟩, .create 2 ⟨50, 60, 100, 100, false⟩,
    .attachWlSurface 1 ⟨some 7⟩, .attachWlSurface 2 ⟨some 7⟩,
    .clientProperty 1 xcbAtomWmTransientFor (some (.window 2)),
    .clientProperty 2 xcbAtomWmTransientFor (some (.window 1)),
    .propertyNotify 1 xcbAtomWmTransientFor, .propertyNotify 2 xcbAtomWmTransientFor]

set_option maxRecDepth 4000 in
/-- **Two windows transient for each other make a cycle of two surfaces**, with no focus
involved. -/
theorem transient_for_each_other_cycle :
    ((serialRun Atoms.fresh {} mutualTransientCalls).shell.surfaces 0).map (·.parent) =
      some (some 1) ∧
    ((serialRun Atoms.fresh {} mutualTransientCalls).shell.surfaces 1).map (·.parent) =
      some (some 0) := by
  decide

end XWaylandBridge
