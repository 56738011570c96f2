import XWaylandBridge.Observers

/-!
# `close` after a failed `attach_wl_surface`

`attach_wl_surface` can throw at three places: in its first lock section (a repeated call, or
no session), in `shell->create_surface`, and in `connection->configure_window`, which comes
after the surface is created and before it is published in `weak_scene_surface`. Nothing is rolled back (`failed_call_effects`): the bridge
keeps the observer it published in its first section. A surface created before the throw
keeps its own reference to that observer, and no bridge publishes it, so `close` cannot
remove the observer from it.

**What is proved.** For every world in which the window's bridge holds no observer and no
surface, and `fatal_error` was not reached, `close` after a failed attach reaches
`fatal_error` exactly when the attach had created a surface (`failedAttach_close`). So an
attach that throws before `create_surface` leaves a bridge that closes cleanly, and one that
throws in `configure_window` leaves a bridge whose `close` is fatal.

**What this does not decide.** Whether `configure_window` throws in practice: the model
lets the world say so (`World.refusesConfigure`), and the serial runs start from worlds that
refuse it or not (`World.start`); the observer bookkeeping holds only where it does not.
-/

set_option autoImplicit false

namespace XWaylandBridge

open Prog World Section

namespace XWaylandSurface

variable (a : Atoms) (win : Window)

/-- **The rest of a failed attach** leaves the observer bookkeeping as it found it, when it
threw before `create_surface`, or with one more surface listing the observer, when it threw
after. -/
theorem attachRest_error_observerView (o : ObserverId)
    (args : WindowState × SessionId × SurfaceCreationParameters) (y : World) :
    Outcome (fun _ _ => True)
      (fun z => z.observerView = y.observerView ∨ z.observerView = y.observerView.create o)
      ((attachRest a win o args).run y) := by
  have keep {α : Type} {p : Prog World α} (hp : Preserves observerView p) (V : ObserverView)
      (hV : V = y.observerView ∨ V = y.observerView.create o) :
      Triple (fun z => z.observerView = V) p (fun _ z => z.observerView = V)
        (fun z => z.observerView = y.observerView ∨ z.observerView = y.observerView.create o) :=
    triple_weaken (Keeps.triple (hp.keeps fun _ _ h h' => h.trans h')) (fun _ => id)
      (fun _ _ => id) fun _ h => h ▸ hV
  obtain ⟨state, session, params⟩ := args
  refine (triple_bind (keep (issueReads_observerView win _) _ (.inl rfl)) fun _ =>
    triple_bind (keep (processReplies_observerView win _) _ (.inl rfl)) fun _ =>
    triple_bind (keep (locked_observerView win fun _ => rfl) _ (.inl rfl)) fun _ =>
    triple_bind (R := fun _ z => z.observerView = y.observerView.create o)
      (triple_atomicE fun z hz => ?_) fun _ =>
    triple_bind (keep (informClientOfWindowState_observerView a win _) _ (.inr rfl)) fun _ =>
    triple_bind (keep (surface_observerView _ _) _ (.inr rfl)) fun _ =>
    triple_bind (keep (configureWindow_observerView win _ _ _ _) _ (.inr rfl)) fun _ =>
    triple_atomic fun _ _ => trivial) y rfl
  -- `create_surface`: a refusal leaves the bookkeeping as it was
  dsimp only
  split
  · exact .inl hz
  · exact (createSurface_observerView _ _ o z).trans (by rw [hz])

/-- The end of `close` for a bridge that published no surface: the observer it held, if any,
released and checked. -/
theorem closeDetach_none_fatal (observer : Option ObserverId) (y : World) :
    ((closeDetach none observer).run y).2.fatal =
      match observer with
      | some o => y.fatal || decide (1 < y.observerRefs o)
      | none => y.fatal := by
  rcases observer with _ | o
  · rfl
  · show ((observerMustBeDead o).run ((releaseObserver o).run y).2).2.observerView.fatal = _
    rw [observerMustBeDead_observerView, releaseObserver_observerView]
    simp [observerView, Nat.sub_pos_iff_lt]

/-- What `close` does to the references of a bridge that publishes no surface: it releases
the bridge's observer, if it holds one, and reaches `fatal_error` if a reference survives. -/
theorem close_fatal (x : World) {observer : Option ObserverId}
    (hx : x.observerView.holdings win = (observer, none)) :
    ((close a win).run x).2.fatal =
      match observer with
      | some o => x.fatal || decide (1 < x.observerRefs o)
      | none => x.fatal := by
  have hw : (x.bridges win).weakSceneSurface = none := congrArg Prod.snd hx
  have ho : (x.bridges win).surfaceObserver = observer := congrArg Prod.fst hx
  -- the sections between the first and the detach leave the bookkeeping alone
  have hv (s : WindowState) (t : World) :
      ((unmapWindow win).run ((informClientOfWindowState a win s).run
        ((deleteProperty win a.netWmDesktop).run t).2).2).2.observerView = t.observerView :=
    (unmapWindow_observerView win _).trans
      ((informClientOfWindowState_observerView a win s _).trans (deleteProperty_observerView win _ t))
  simp only [close, run_atomic_bind]
  rw [run_bind_of_ok (p := deleteProperty win a.netWmDesktop) rfl,
    run_bind_of_ok (informClientOfWindowState_ok a win _ _),
    run_bind_of_ok (p := unmapWindow win) rfl,
    show x.sceneSurfaceOf win = none by simp [sceneSurfaceOf, hw], ho, closeDetach_none_fatal]
  rw [show ∀ y : World, y.fatal = y.observerView.fatal from fun _ => rfl,
    show ∀ y : World, y.observerRefs = y.observerView.refs from fun _ => rfl, hv]
  rcases observer with _ | o <;> rfl

/-- **`close` after a failed attach is fatal exactly when the attach created a surface**: for
every world whose bridge for the window holds nothing and where `fatal_error` was not
reached, if `attach_wl_surface` throws, the `close` that follows reaches `fatal_error` if and
only if the shell handed out a surface during the attach. -/
theorem failedAttach_close (wl : WlSurface) (w : World) (hb : holding (w.bridges win) = (none, none))
    (hf : w.fatal = false) {e : String} (he : ((attachWlSurface a win wl).run w).1 = .error e) :
    ((close a win).run ((attachWlSurface a win wl).run w).2).2.fatal =
      decide (w.shell.nextSurface < ((attachWlSurface a win wl).run w).2.shell.nextSurface) := by
  rw [attachWlSurface_run] at he ⊢
  simp only [attachBody, run_atomicE_bind] at he ⊢
  rcases attachBegin_cases win wl w.nextObserver (makeObserver.run w).2 with
    ⟨e', he', -, hw'⟩ | ⟨x, -, hx, -, -⟩
  · -- refused in its first section: the bridge holds nothing, and no surface was made
    rw [he']
    dsimp only
    rw [hw']
    have hz := releaseObserver_observerView w.nextObserver (makeObserver.run w).2
    rw [makeObserver_observerView] at hz
    generalize ((releaseObserver w.nextObserver).run (makeObserver.run w).2).2 = x' at hz ⊢
    rw [close_fatal a win x' (by rw [hz]; exact hb)]
    have hfat := congrArg ObserverView.fatal hz
    have hnext := congrArg ObserverView.nextSurface hz
    simp only [ObserverView.setRefs_fatal, ObserverView.makeObserver_fatal,
      ObserverView.setRefs_nextSurface, ObserverView.makeObserver_nextSurface, observerView] at hfat hnext
    simp [hfat, hnext, hf]
  rw [hx] at he ⊢
  dsimp only at he ⊢
  obtain ⟨-, hv⟩ := attachBegin_observerView win wl _ _ hx
  rw [show ((makeObserver.run w).2.bridges win).weakSceneSurface = none from congrArg Prod.snd hb,
    makeObserver_observerView] at hv
  have hr := attachRest_error_observerView a win w.nextObserver x (attachBegin win wl w.nextObserver
    (makeObserver.run w).2).2
  generalize (attachRest a win w.nextObserver x).run _ = r at he hr ⊢
  rcases r with ⟨_ | _, z⟩
  · -- the bridge holds the fresh observer and publishes nothing; the references left are
    -- the bridge's and, if a surface was made, the surface's
    have hz := releaseObserver_observerView w.nextObserver z
    generalize ((releaseObserver w.nextObserver).run z).2 = x' at hz ⊢
    simp only [outcome_error, hv] at hr
    have hh : x'.observerView.holdings win = (some w.nextObserver, none) := by
      rcases hr with h | h <;> simp [hz, h]
    rw [close_fatal a win x' hh]
    rcases hr with h | h <;> rw [h] at hz <;>
      have hfat := congrArg ObserverView.fatal hz <;>
      have hrefs := congrArg (fun V => V.refs w.nextObserver) hz <;>
      have hnext := congrArg ObserverView.nextSurface hz <;>
      simp [observerView] at hfat hrefs hnext <;> simp [hfat, hrefs, hnext, hf]
  · cases he

/-- A managed window 1 whose X server refuses `configure_window`. -/
def refusingConfigure : World where
  managed v := v = 1
  refusesConfigure := true

theorem failedAttach_close_refusingConfigure :
    holding (refusingConfigure.bridges 1) = (none, none) ∧ refusingConfigure.fatal = false ∧
      ((attachWlSurface Atoms.fresh 1 ⟨some 7⟩).run refusingConfigure).1 = .error "configure_window failed" ∧
      ((close Atoms.fresh 1).run ((attachWlSurface Atoms.fresh 1 ⟨some 7⟩).run refusingConfigure).2).2.fatal =
        decide (refusingConfigure.shell.nextSurface <
          ((attachWlSurface Atoms.fresh 1 ⟨some 7⟩).run refusingConfigure).2.shell.nextSurface) :=
  have he : ((attachWlSurface Atoms.fresh 1 ⟨some 7⟩).run refusingConfigure).1 =
      .error "configure_window failed" := by decide
  ⟨rfl, rfl, he, failedAttach_close Atoms.fresh 1 ⟨some 7⟩ refusingConfigure rfl rfl he⟩

/-- There the attach created surface 0 before `configure_window` threw, and the `close` that
follows is fatal. -/
example : ((close Atoms.fresh 1).run
    ((attachWlSurface Atoms.fresh 1 ⟨some 7⟩).run refusingConfigure).2).2.fatal = true := by
  decide

end XWaylandSurface

end XWaylandBridge
