import XWaylandBridge.ConfigureRequest

/-!
# Which properties the bridges write

An X window's properties have owners. The client sets its own (the title, the class, the
protocols, the hints, the transient-for window) and the bridge reads them with its property
handlers; the bridge sets `WM_STATE` and `_NET_WM_STATE` when it tells the client its window
state, and `_NET_WM_DESKTOP` when it maps or closes the window (`bridgeAtoms`). A bridge that
wrote a property its client owns would overwrite what the client asked for.

**What is proved.** Every member function writes no property but the three, of its own
window or of any other (`prog_bridgeWrites`, one lemma per member function beside the section
lemmas it is built from). Since that is a guarantee of every section, it holds of every
interleaving: however the threads of a list of calls interleave, a property outside the three
that no client's write in the list sets keeps its value (`runSchedule_props`).

**What this does not decide.** Which values the bridge writes into the three; the state
properties are `StateSync.lean`'s subject.
-/

set_option autoImplicit false

namespace XWaylandBridge

/-- The properties a bridge writes: `WM_STATE`, `_NET_WM_STATE` and `_NET_WM_DESKTOP`. -/
def bridgeAtoms (a : Atoms) : List Atom := [a.wmState, a.netWmState, a.netWmDesktop]

namespace World

variable (a : Atoms)

/-- `w'` has every property of every window as `w` has it, but the bridges' own. -/
def BridgeWrites (w w' : World) : Prop :=
  ∀ v, ∀ atom ∉ bridgeAtoms a, w'.props v atom = w.props v atom

variable {a}

theorem BridgeWrites.refl (w : World) : BridgeWrites a w w := fun _ _ _ => rfl

theorem BridgeWrites.trans {w w' w'' : World} (h : BridgeWrites a w w') (h' : BridgeWrites a w' w'') :
    BridgeWrites a w w'' :=
  fun v atom hb => (h' v atom hb).trans (h v atom hb)

theorem BridgeWrites.of_props {w w' : World} (h : w'.props = w.props) : BridgeWrites a w w' :=
  fun _ _ _ => by rw [h]

theorem Quiet.bridgeWrites {win : Window} {w w' : World} (h : Quiet win w w') : BridgeWrites a w w' :=
  .of_props h.props

end World

open World Prog

theorem Prog.Guarantees.toBridgeWrites {α : Type} {a : Atoms} {win : Window} {p : Prog World α}
    (h : Guarantees (Quiet win) p) : Guarantees (BridgeWrites a) p :=
  h.mono fun _ _ => Quiet.bridgeWrites

/-! ## Sections -/

namespace Section

variable (a : Atoms) (win : Window)

/-- A section that sets no property. -/
theorem bridgeWrites_atomic {α : Type} {f : World → α × World} (h : ∀ w, (f w).2.props = w.props) :
    Guarantees (BridgeWrites a) (Prog.atomic f) :=
  guarantees_atomic fun w => .of_props (h w)

theorem locked_bridgeWrites {α : Type} (f : XWaylandSurface → α × XWaylandSurface) :
    Guarantees (BridgeWrites a) (locked win f) :=
  bridgeWrites_atomic a fun _ => rfl

/-- A write of one of the three properties keeps every other property. -/
theorem props_update_of_bridge {atom : Atom} (h : atom ∈ bridgeAtoms a) (x : Option PropValue)
    (w : World) : BridgeWrites a w
      { w with props := Function.update w.props win (Function.update (w.props win) atom x) } := by
  intro v atom' hb
  have hne : atom' ≠ atom := fun he => hb (he ▸ h)
  by_cases hv : v = win
  · subst hv
    simp [hne]
  · simp [Function.update_noteq hv]

theorem setProperty_bridgeWrites {atom : Atom} (h : atom ∈ bridgeAtoms a) (x : PropValue) :
    Guarantees (BridgeWrites a) (setProperty win atom x) :=
  guarantees_atomic (props_update_of_bridge a win h _)

theorem deleteProperty_bridgeWrites {atom : Atom} (h : atom ∈ bridgeAtoms a) :
    Guarantees (BridgeWrites a) (deleteProperty win atom) :=
  guarantees_atomic (props_update_of_bridge a win h _)

end Section

/-! ## Member functions -/

namespace XWaylandSurface

variable (a : Atoms) (win : Window)

open Section

theorem informClientOfWindowState_bridgeWrites (s : WindowState) :
    Guarantees (BridgeWrites a) (informClientOfWindowState a win s) := by
  refine guarantees_bind (locked_bridgeWrites a win _) fun changed => ?_
  cases changed
  · exact guarantees_pure _
  · refine guarantees_bind (setProperty_bridgeWrites a win (by simp [bridgeAtoms]) _) fun _ => ?_
    split
    · exact deleteProperty_bridgeWrites a win (by simp [bridgeAtoms])
    · exact setProperty_bridgeWrites a win (by simp [bridgeAtoms]) _

theorem map_bridgeWrites : Guarantees (BridgeWrites a) (map a win) :=
  guarantees_bind (locked_bridgeWrites a win _) fun _ =>
  guarantees_bind (setProperty_bridgeWrites a win (by simp [bridgeAtoms]) _) fun _ =>
  guarantees_bind (informClientOfWindowState_bridgeWrites a win _) fun _ =>
  guarantees_bind (requestSceneSurfaceState_quiet win _).toBridgeWrites fun _ =>
  bridgeWrites_atomic a fun _ => rfl

theorem close_bridgeWrites : Guarantees (BridgeWrites a) (close a win) :=
  guarantees_bind (bridgeWrites_atomic a fun _ => rfl) fun _ =>
  guarantees_bind (deleteProperty_bridgeWrites a win (by simp [bridgeAtoms])) fun _ =>
  guarantees_bind (informClientOfWindowState_bridgeWrites a win _) fun _ =>
  guarantees_bind (bridgeWrites_atomic a fun _ => rfl) fun _ => (closeDetach_quiet win _ _).toBridgeWrites

theorem netWmStateClientMessage_bridgeWrites (data : ClientMessageData) :
    Guarantees (BridgeWrites a) (netWmStateClientMessage a win data) :=
  guarantees_bind (locked_bridgeWrites a win _) fun _ =>
  guarantees_bind (informClientOfWindowState_bridgeWrites a win _) fun _ =>
  (requestSceneSurfaceState_quiet win _).toBridgeWrites

theorem wmChangeStateClientMessage_bridgeWrites (data : ClientMessageData) :
    Guarantees (BridgeWrites a) (wmChangeStateClientMessage a win data) :=
  guarantees_bind (guarantees_atomicE fun _ => BridgeWrites.refl _) fun _ =>
  guarantees_bind (informClientOfWindowState_bridgeWrites a win _) fun _ =>
  (requestSceneSurfaceState_quiet win _).toBridgeWrites

theorem sceneSurfaceStateSet_bridgeWrites (newState : MirWindowState) :
    Guarantees (BridgeWrites a) (sceneSurfaceStateSet a win newState) := by
  refine guarantees_bind (locked_bridgeWrites a win _) fun _ =>
    guarantees_bind (informClientOfWindowState_bridgeWrites a win _) fun _ => ?_
  split
  · exact (configureWindow_quiet win win _ _ _ _).toBridgeWrites
  · exact guarantees_pure _

theorem attachRest_bridgeWrites (o : ObserverId)
    (args : WindowState × SessionId × SurfaceCreationParameters) :
    Guarantees (BridgeWrites a) (attachRest a win o args) :=
  guarantees_bind (issueReads_quiet win _).toBridgeWrites fun _ =>
  guarantees_bind (processReplies_quiet win _).toBridgeWrites fun _ =>
  guarantees_bind (locked_bridgeWrites a win _) fun _ =>
  guarantees_bind (createSurface_quiet win _ _ _).toBridgeWrites fun _ =>
  guarantees_bind (informClientOfWindowState_bridgeWrites a win _) fun _ =>
  guarantees_bind (surface_quiet win _ _).toBridgeWrites fun _ =>
  guarantees_bind (configureWindow_quiet win win _ _ _ _).toBridgeWrites fun _ =>
  locked_bridgeWrites a win _

theorem attachWlSurface_bridgeWrites (wl : WlSurface) :
    Guarantees (BridgeWrites a) (attachWlSurface a win wl) := by
  refine guarantees_bind (makeObserver_quiet win).toBridgeWrites fun o =>
    guarantees_andFinally (guarantees_bind (guarantees_atomicE fun w => .of_props ?_)
      (attachRest_bridgeWrites a win o)) (releaseObserver_quiet win o).toBridgeWrites
  unfold attachBegin
  dsimp only
  split
  · rfl
  · split <;> rfl

end XWaylandSurface

/-! ## Calls, in any interleaving -/

namespace Call

open XWaylandSurface

variable (a : Atoms)

/-- The property a call sets on an X client's behalf: the window and atom of a client's
write, and nothing for any other call. -/
def clientCell : Call → Option (Window × Atom)
  | clientProperty win property _ => some (win, property)
  | _ => none

/-- **A call writes no property but the bridges' three and, for a client's write, the
client's own**, in every section it runs. -/
theorem prog_bridgeWrites (c : Call) :
    Guarantees (fun w w' : World => ∀ v, ∀ atom ∉ bridgeAtoms a,
      c.clientCell ≠ some (v, atom) → w'.props v atom = w.props v atom) (c.prog a) := by
  have bridge {p : Prog World Unit} (h : Guarantees (BridgeWrites a) p) :
      Guarantees (fun w w' : World => ∀ v, ∀ atom ∉ bridgeAtoms a,
        c.clientCell ≠ some (v, atom) → w'.props v atom = w.props v atom) p :=
    h.mono fun _ _ h v atom hb _ => h v atom hb
  cases c with
  | create win ev =>
    exact bridge (guarantees_bind (guarantees_atomic fun _ => .of_props rfl) fun _ =>
      guarantees_bind (Section.locked_bridgeWrites a win _) fun _ =>
        (Section.send_quiet win _).toBridgeWrites)
  | map win => exact bridge (map_bridgeWrites a win)
  | close win => exact bridge (close_bridgeWrites a win)
  | takeFocus win => exact bridge (takeFocus_quiet a win).toBridgeWrites
  | configureRequest win ev => exact bridge (configureRequest_quiet win ev).toBridgeWrites
  | configureNotify win ev => exact bridge (configureNotify_quiet win ev).toBridgeWrites
  | netWmStateClientMessage win data => exact bridge (netWmStateClientMessage_bridgeWrites a win data)
  | wmChangeStateClientMessage win data =>
    exact bridge (wmChangeStateClientMessage_bridgeWrites a win data)
  | propertyNotify win property => exact bridge (propertyNotify_quiet a win property).toBridgeWrites
  | attachWlSurface win wl => exact bridge (attachWlSurface_bridgeWrites a win wl)
  | moveResize win detail => exact bridge (moveResize_quiet win detail).toBridgeWrites
  | sceneSurfaceFocusSet win hasFocus => exact bridge (sceneSurfaceFocusSet_quiet win hasFocus).toBridgeWrites
  | sceneSurfaceStateSet win newState => exact bridge (sceneSurfaceStateSet_bridgeWrites a win newState)
  | sceneSurfaceResized win newSize => exact bridge (sceneSurfaceResized_quiet win newSize).toBridgeWrites
  | sceneSurfaceMovedTo win newTopLeft => exact bridge (sceneSurfaceMovedTo_quiet win newTopLeft).toBridgeWrites
  | sceneSurfaceCloseRequested win => exact bridge (sceneSurfaceCloseRequested_quiet a win).toBridgeWrites
  | wlSurfaceDestroyed win => exact bridge (close_bridgeWrites a win)
  | clientProperty win property value =>
    refine guarantees_atomic fun w v atom _ hc => ?_
    have hcell : (v, atom) ≠ (win, property) := fun he => hc (by rw [he]; rfl)
    by_cases hv : v = win
    · subst hv
      have hne : atom ≠ property := fun he => hcell (by rw [he])
      simp [hne]
    · simp [Function.update_noteq hv]

/-- **No property changes hands, in any interleaving**: whatever threads run a list of calls,
and however their sections interleave, a property outside `WM_STATE`, `_NET_WM_STATE` and
`_NET_WM_DESKTOP` that no client's write in the list sets keeps its value. In particular no
bridge ever writes a property its client owns. -/
theorem runSchedule_props (w : World) (calls : List Call) (sched : List Nat) {v : Window}
    {atom : Atom} (hb : atom ∉ bridgeAtoms a) (hc : ∀ c ∈ calls, c.clientCell ≠ some (v, atom)) :
    ((Threads.mk w (calls.map (prog a))).runSchedule sched).state.props v atom = w.props v atom := by
  refine Threads.AllGuarantee.runSchedule (R := fun x y : World => y.props v atom = x.props v atom)
    (fun _ => rfl) (fun _ _ _ h h' => h'.trans h) sched _ fun p hp => ?_
  obtain ⟨c, hc', rfl⟩ := List.mem_map.mp hp
  exact (c.prog_bridgeWrites a).mono fun _ _ h => h v atom hb (hc c hc')

/-- A map, a client's write of the title and a close of window 1, interleaved, leave its
`WM_TRANSIENT_FOR` as it was. -/
theorem runSchedule_props_transientFor :
    xcbAtomWmTransientFor ∉ bridgeAtoms Atoms.fresh ∧
      (∀ c ∈ [Call.map 1, .clientProperty 1 Atoms.fresh.netWmName none, .close 1],
        c.clientCell ≠ some (1, xcbAtomWmTransientFor)) ∧
      ((Threads.mk ({} : World) ([Call.map 1, .clientProperty 1 Atoms.fresh.netWmName none,
        .close 1].map (prog Atoms.fresh))).runSchedule [0, 2, 1, 0, 2]).state.props 1
          xcbAtomWmTransientFor = ({} : World).props 1 xcbAtomWmTransientFor :=
  ⟨by decide, by decide, runSchedule_props Atoms.fresh {} _ _ (by decide) (by decide)⟩

end Call

end XWaylandBridge
