import XWaylandBridge.Runs

/-!
# Failed calls — what an exception leaves behind

Two member functions throw. `wm_change_state_client_message` throws inside its only lock
section, before it writes anything, for every requested state but `NORMAL` and `ICONIC`, so a
failed call leaves the whole world as it was (`wmChangeState_error`).

`attach_wl_surface` throws at its multiple-call check, from `get_session`, from
`create_surface` or from `configure_window` (a property reply never throws: one the handler
cannot take goes to its error path). Only the first two are inside its first lock section. That section publishes the new observer and session before
anything else can fail, and no later section and no destructor takes them back
(`attachRest_keeps_attachment`). So a failure after it leaves them published, and every later
attach stops at the multiple-call check (`attach_error`): the failed attach is not rolled
back, and the bridge cannot be attached again.
-/

set_option autoImplicit false

namespace XWaylandBridge

namespace XWaylandSurface

variable (a : Atoms) (win : Window)

open Section

/-- The observer and session references, the part of `refs` the first lock section of
`attach_wl_surface` writes. -/
def attachment (b : XWaylandSurface) : Option ObserverId × Option SessionId :=
  (b.surfaceObserver, b.weakSession)

theorem keeps_attachment_of_refs {α : Type} {p : Prog World α}
    (h : ∀ r, Prog.Keeps (fun w => refs (w.bridges win) = r) p) (x) :
    Prog.Keeps (fun w => attachment (w.bridges win) = x) p := fun w hw => by
  have := h (refs (w.bridges win)) w rfl
  simp only [refs, Prod.mk.injEq] at this
  simpa [attachment, this.1, this.2.1] using hw

/-- **Nothing after the first lock section takes the observer and session back.** -/
theorem attachRest_keeps_attachment (o : ObserverId)
    (args : WindowState × SessionId × SurfaceCreationParameters) (x) :
    Prog.Keeps (fun w => attachment (w.bridges win) = x) (attachRest a win o args) := by
  obtain ⟨state, session, params⟩ := args
  refine Prog.keeps_bind (keeps_attachment_of_refs win (issueReads_keeps_refs win · _) x)
    fun _ => Prog.keeps_bind (keeps_attachment_of_refs win (processReplies_keeps_refs win · _) x)
    fun _ => Prog.keeps_bind (keeps_locked (P := fun b => attachment b = x) win fun _ h => h)
    fun _ => Prog.keeps_bind (Prog.keeps_atomicE fun w h => ?_)
    fun _ => Prog.keeps_bind (keeps_attachment_of_refs win
      (informClientOfWindowState_keeps_refs a win · _) x)
    fun _ => Prog.keeps_bind (Prog.keeps_atomic fun _ h => h)
    fun _ => Prog.keeps_bind (Prog.keeps_atomicE fun w h => ?_)
    fun _ => keeps_locked (P := fun b => attachment b = x) win fun _ h => h
  · dsimp only; split <;> exact h
  · dsimp only; split <;> exact h

/-- A run of `attach_wl_surface`: the observer made, the body run, the observer's local
reference released whichever way the body ended. -/
theorem attachWlSurface_run (w : World) (wl : WlSurface) :
    (attachWlSurface a win wl).run w =
      (((attachBody a win wl w.nextObserver).run ((makeObserver).run w).2).1,
       ((releaseObserver w.nextObserver).run
         ((attachBody a win wl w.nextObserver).run ((makeObserver).run w).2).2).2) := by
  show (Prog.atomic _ >>= fun o => (attachBody a win wl o).andFinally (releaseObserver o)).run w = _
  rw [Prog.run_atomic_bind, Prog.run_andFinally (attachBody a win wl _) (releaseObserver _) _
    fun _ => rfl]
  rfl

/-- The first lock section fails exactly with one of its two exceptions and changes nothing,
or it publishes the observer and the session. -/
theorem attachBegin_cases (wl : WlSurface) (o : ObserverId) (w : World) :
    (∃ e, (attachBegin win wl o w).1 = .error e ∧ (e = attachedTwice ∨ e = noSession) ∧
      (attachBegin win wl o w).2 = w) ∨
    (∃ x session, (attachBegin win wl o w).1 = .ok x ∧ wl.session = some session ∧
      attachment ((attachBegin win wl o w).2.bridges win) = (some o, some session)) := by
  unfold attachBegin
  dsimp only
  split
  · exact .inl ⟨_, rfl, .inl rfl, rfl⟩
  · rcases wl.session with _ | session
    · exact .inl ⟨_, rfl, .inr rfl, rfl⟩
    · exact .inr ⟨_, session, rfl, rfl, by simp [attachment, World.setRefs]⟩

end XWaylandSurface

end XWaylandBridge
