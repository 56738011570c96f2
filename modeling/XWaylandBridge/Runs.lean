import XWaylandBridge.Surface

/-!
# Runs of the member functions, one lemma each

What a member function does when it runs alone, stated once so that no later proof unfolds
it. Where the function only reads, the lemma says the world is unchanged and names the value
read by a plain function of the world (`transientParent` for the resolver of
`is_transient_for`); where it writes, the lemma gives the written world.
-/

set_option autoImplicit false

namespace XWaylandBridge

namespace World

variable (w : World)

/-- The live scene surface of the bridge the window manager has for window `x`, if any:
what `get_scene_surface_from` returns. -/
def sceneSurfaceFrom (x : Window) : Option SurfaceId :=
  if w.managed x then w.sceneSurfaceOf x else none

/-- The parent `is_transient_for` resolves for the value `t`: the transient-for window's
surface, else the focused window's, else none; none for `XCB_WINDOW_NONE`. -/
def transientParent (t : Window) : Option SurfaceId :=
  if t ≠ xcbWindowNone then
    match w.sceneSurfaceFrom t with
    | some p => some p
    | none =>
      match w.focused with
      | some f => w.sceneSurfaceFrom f
      | none => none
  else none

end World

namespace XWaylandSurface

variable (a : Atoms) (win : Window) (w : World)

open Section

theorem getSceneSurfaceFrom_run (x : Window) :
    (getSceneSurfaceFrom x).run w = (.ok (w.sceneSurfaceFrom x), w) := rfl

/-- The resolver only reads, and reads `transientParent`. -/
theorem resolveTransientFor_run (t : Window) :
    (resolveTransientFor t).run w = (.ok (w.transientParent t), w) := by
  unfold resolveTransientFor World.transientParent
  split
  · rw [Prog.run_bind_ok (getSceneSurfaceFrom_run w t)]
    rcases w.sceneSurfaceFrom t with _ | p
    · rcases hf : w.focused with _ | f
      · simp [hf]
      · simp [hf, getSceneSurfaceFrom_run]
    · rfl
  · rfl

/-- The pending specification `is_transient_for` leaves: the resolved parent, and the
cached top-left through `set_position` against it. -/
def transientSpec (t : Window) (spec : SurfaceSpecification) : SurfaceSpecification :=
  setPosition ((w.transientParent t).bind w.shell.surfaces) (w.bridges win).cached.topLeft
    { spec with parent := some (w.transientParent t) }

theorem isTransientFor_run (t : Window) :
    (isTransientFor win t).run w =
      (.ok (), w.setBridge win ((w.bridges win).withPendingSpec (transientSpec win w t))) := by
  unfold isTransientFor
  rw [Prog.run_bind_ok (resolveTransientFor_run w t)]
  rfl

/-- The content offset `scene_surface_moved_to` adds: the attached surface's, or none. -/
def movedToOffset : Displacement :=
  (((w.sceneSurfaceOf win).bind w.shell.surfaces).map (·.contentOffset)).getD {}

theorem sceneSurfaceMovedTo_run (p : Point) (h : w.refusesConfigure = false) :
    (sceneSurfaceMovedTo win p).run w =
      (.ok (), { w with xlog := .configureWindow win (some (p + movedToOffset win w)) none none none
        :: w.xlog }) := by
  unfold sceneSurfaceMovedTo movedToOffset
  rcases hs : w.sceneSurfaceOf win with _ | id <;>
    simp [Section.sceneSurface, Section.surface, Section.configureWindow, hs, h]

/-- **What a reply runs**: a lock section that sets only the pending specification and the
protocols, `is_transient_for`, or nothing; one case per arm of `applyReply`. -/
theorem applyReply_shape (h : Handler) (v : Option PropValue) :
    (∃ f : XWaylandSurface → Unit × XWaylandSurface, applyReply win h v = locked win f ∧
      ∀ b, (f b).2 = { b with
        nullablePendingSpec := (f b).2.nullablePendingSpec,
        cached := { b.cached with supportedWmProtocols := (f b).2.cached.supportedWmProtocols } }) ∨
    (∃ t, applyReply win h v = isTransientFor win t) ∨
    applyReply win h v = pure () := by
  unfold applyReply
  split
  · exact .inl ⟨_, rfl, fun _ => rfl⟩
  · exact .inl ⟨_, rfl, fun _ => rfl⟩
  · exact .inl ⟨_, rfl, fun _ => rfl⟩
  · exact .inr (.inl ⟨_, rfl⟩)
  · exact .inl ⟨_, rfl, fun _ => rfl⟩
  · exact .inr (.inl ⟨_, rfl⟩)
  · exact .inl ⟨_, rfl, fun _ => rfl⟩
  · exact .inr (.inr rfl)

/-! ## Frames -/

/-- The bridge's references to the Wayland side: observer, session and scene surface. -/
def refs (b : XWaylandSurface) : Option ObserverId × Option SessionId × Option SurfaceId :=
  (b.surfaceObserver, b.weakSession, b.weakSceneSurface)

/-- A lock section keeps what its function keeps of the bridge. -/
theorem keeps_locked {α : Type} {P : XWaylandSurface → Prop}
    {f : XWaylandSurface → α × XWaylandSurface} (h : ∀ b, P b → P (f b).2) :
    Prog.Keeps (fun w => P (w.bridges win)) (locked win f) := fun w hw => by
  simpa [locked] using h _ hw

theorem issueReads_keeps_refs (r) (hs : List (Atom × Handler)) :
    Prog.Keeps (fun w => refs (w.bridges win) = r) (issueReads win hs) := by
  induction hs with
  | nil => exact Prog.keeps_pure _
  | cons e hs ih =>
    exact Prog.keeps_bind (Prog.keeps_atomic fun _ h => h) fun _ =>
      Prog.keeps_bind ih fun _ => Prog.keeps_pure _

theorem isTransientFor_keeps_refs (r) (t : Window) :
    Prog.Keeps (fun w => refs (w.bridges win) = r) (isTransientFor win t) := fun w hw => by
  rw [isTransientFor_run]
  simpa [refs, withPendingSpec] using hw

theorem applyReply_keeps_refs (r) (h : Handler) (v : Option PropValue) :
    Prog.Keeps (fun w => refs (w.bridges win) = r) (applyReply win h v) := by
  rcases applyReply_shape win h v with ⟨f, hf, hb⟩ | ⟨t, ht⟩ | hp
  · rw [hf]; exact keeps_locked win (P := fun b => refs b = r) fun b h₁ => by rw [hb]; exact h₁
  · rw [ht]; exact isTransientFor_keeps_refs win r t
  · rw [hp]; exact Prog.keeps_pure _

theorem processReplies_keeps_refs (r) (replies : List (Handler × Option PropValue)) :
    Prog.Keeps (fun w => refs (w.bridges win) = r) (processReplies win replies) := by
  induction replies with
  | nil => exact Prog.keeps_pure _
  | cons e rest ih => exact Prog.keeps_bind (applyReply_keeps_refs win r _ _) fun _ => ih

theorem informClientOfWindowState_keeps_refs (r) (s : WindowState) :
    Prog.Keeps (fun w => refs (w.bridges win) = r) (informClientOfWindowState a win s) := by
  unfold informClientOfWindowState
  refine Prog.keeps_bind (keeps_locked (P := fun b => refs b = r) win fun b hb => ?_)
    fun changed => ?_
  · split <;> exact hb
  · cases changed
    · exact Prog.keeps_pure _
    · refine Prog.keeps_bind (Prog.keeps_atomic fun _ h => h) fun _ => ?_
      split <;> exact Prog.keeps_atomic fun _ h => h

/-! ## Sections that cannot throw -/

theorem informClientOfWindowState_returns (s : WindowState) :
    Prog.Returns (informClientOfWindowState a win s) := by
  refine Prog.returns_bind (Prog.returns_atomic _) fun changed => ?_
  cases changed
  · exact Prog.returns_pure _
  · refine Prog.returns_bind (Prog.returns_atomic _) fun _ => ?_
    split <;> exact Prog.returns_atomic _

/-- A reply never throws: a reply the handler cannot take goes to its error path. -/
theorem applyReply_returns (h : Handler) (v : Option PropValue) : Prog.Returns (applyReply win h v) := by
  rcases applyReply_shape win h v with ⟨f, hf, -⟩ | ⟨t, ht⟩ | hp
  · rw [hf]; exact Prog.returns_atomic _
  · rw [ht]; exact fun w => ⟨(), by rw [isTransientFor_run]⟩
  · rw [hp]; exact Prog.returns_pure _

theorem processReplies_returns (replies : List (Handler × Option PropValue)) :
    Prog.Returns (processReplies win replies) := by
  induction replies with
  | nil => exact Prog.returns_pure _
  | cons e rest ih => exact Prog.returns_bind (applyReply_returns win _ _) fun _ => ih

theorem issueReads_returns (hs : List (Atom × Handler)) : Prog.Returns (issueReads win hs) := by
  induction hs with
  | nil => exact Prog.returns_pure _
  | cons e hs ih =>
    exact Prog.returns_bind (Prog.returns_atomic _) fun _ => Prog.returns_bind ih fun _ => Prog.returns_pure _

theorem requestSceneSurfaceState_returns (m : MirWindowState) :
    Prog.Returns (requestSceneSurfaceState win m) := by
  refine Prog.returns_bind (Prog.returns_atomic _) fun id => ?_
  rcases id with _ | id
  · exact Prog.returns_pure _
  · refine Prog.returns_bind (Prog.returns_atomic _) fun _ => ?_
    split
    · exact Prog.returns_atomic _
    · exact Prog.returns_pure _

theorem closeDetach_returns (sceneSurface : Option SurfaceId) (observer : Option ObserverId) :
    Prog.Returns (closeDetach sceneSurface observer) := by
  have skip := Prog.returns_pure (σ := World) ()
  have release (o : ObserverId) : Prog.Returns (releaseObserver o >>= fun _ => observerMustBeDead o) :=
    Prog.returns_bind (Prog.returns_atomic _) fun _ => Prog.returns_atomic _
  rcases sceneSurface with _ | s <;> rcases observer with _ | o <;> dsimp only [closeDetach]
  · exact Prog.returns_bind skip fun _ => Prog.returns_bind skip fun _ => skip
  · exact Prog.returns_bind skip fun _ => Prog.returns_bind skip fun _ => release o
  · exact Prog.returns_bind skip fun _ => Prog.returns_bind (Prog.returns_atomic _) fun _ => skip
  · exact Prog.returns_bind (Prog.returns_atomic _) fun _ =>
      Prog.returns_bind (Prog.returns_atomic _) fun _ => release o

end XWaylandSurface

end XWaylandBridge
