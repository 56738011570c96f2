import XWaylandBridge.Attributes
import XWaylandBridge.ShellLedger

/-!
# The compositor's requests, as the client receives them

The compositor asks a window to close, to take the focus, or to change state, and the bridge
turns each into requests to the X server. Whether the client is asked politely depends on the
protocols it declared in `WM_PROTOCOLS`: `scene_surface_close_requested` sends a
`WM_DELETE_WINDOW` message to a client that declared it and kills any other
(`closeRequestFor`), and `take_focus` sends a `WM_TAKE_FOCUS` message before it sets the input
focus only to a client that declared that (`focusRequestsFor`). The bridge decides from its
cached copy of the protocols, filled by the property handlers.

**What is proved.** From every world a serial run reaches, for a window with a live surface,
both requests act on the protocols the latest read of the client's `WM_PROTOCOLS` left, its
atoms or none for a missing property or a value of another type
(`compositorRequests_declared`): the cached copy is never stale when they read it.

**What this does not decide.** Interleaved calls, where a read's reply can reach the cache
after a request has read it; and windows with no surface, whose protocols no invariant here
follows.
-/

set_option autoImplicit false

namespace XWaylandBridge

/-- The request a close makes of a client that declared the protocols `ps`: a
`WM_DELETE_WINDOW` message if they list it, else a kill. -/
def closeRequestFor (a : Atoms) (win : Window) (ps : Finset Atom) : XRequest :=
  if a.wmDeleteWindow ∈ ps then
    .sendClientMessage win a.wmProtocols xcbEventMaskNoEvent [a.wmDeleteWindow, xcbTimeCurrentTime]
  else .killClient win

/-- The requests a focus makes, newest first: none for an override-redirect window, else the
input focus, after a `WM_TAKE_FOCUS` message if the protocols `ps` list it. -/
def focusRequestsFor (a : Atoms) (win : Window) (overrideRedirect : Bool) (ps : Finset Atom) :
    List XRequest :=
  if overrideRedirect then []
  else .setInputFocus win :: if a.wmTakeFocus ∈ ps then
    [.sendClientMessage win a.wmProtocols xcbEventMaskSubstructureRedirect [a.wmTakeFocus, xcbTimeCurrentTime]]
  else []

namespace Shell

/-- A live surface has an application id and a title. -/
theorem titles_of_lock {sh : Shell} {id : SurfaceId} (h : sh.lock id = some id) :
    ∃ t, sh.titles id = some t := by
  unfold lock at h
  unfold titles
  rcases hs : sh.surfaces id with _ | s <;> simp only [hs] at h
  · cases h
  · split_ifs at h with hd
    exact ⟨(s.applicationId, s.name), by simp [hd]⟩

end Shell

open Prog World

/-- The invariant of the bridged attributes, at every reachable world. -/
theorem reachable_attributesAgree (a : Atoms) {w : World} (hw : Reachable a w) (v : Window) :
    AttributesAgree a w v :=
  (hw.invariant (I := fun w => SurfacesOwned w ∧ ∀ v, AttributesAgree a w v)
    (fun rc rf => ⟨surfacesOwned_start rc rf, attributesAgree_start a rc rf⟩)
    fun c _ h => ⟨c.perform_surfacesOwned a _ h.1, c.perform_attributesAgree a h.1 h.2⟩).2 v

namespace XWaylandSurface

variable (a : Atoms) (win : Window) (w : World)

open Section

/-- `scene_surface_close_requested` sends the close request for the cached protocols. -/
theorem sceneSurfaceCloseRequested_run :
    (sceneSurfaceCloseRequested a win).run w =
      (.ok (), { w with xlog := closeRequestFor a win (w.bridges win).cached.supportedWmProtocols :: w.xlog }) := by
  unfold sceneSurfaceCloseRequested closeRequestFor
  simp only [locked, send, run_atomic_bind, setBridge_same]
  split <;> simp_all

/-- `take_focus` sends the focus requests for the cached protocols. -/
theorem takeFocus_run :
    (takeFocus a win).run w =
      (.ok (), { w with xlog := (focusRequestsFor a win (w.bridges win).cached.overrideRedirect
        (w.bridges win).cached.supportedWmProtocols) ++ w.xlog }) := by
  unfold takeFocus focusRequestsFor
  simp only [locked, send, run_atomic_bind, setBridge_same]
  by_cases ho : (w.bridges win).cached.overrideRedirect
  · simp [ho]
  · by_cases hp : a.wmTakeFocus ∈ (w.bridges win).cached.supportedWmProtocols <;> simp [ho, hp]

/-- **A close and a focus act on the protocols the client declared last**: from every world a
serial run reaches, for a window with a live surface, `scene_surface_close_requested` and
`take_focus` make the requests the protocols of the latest read of `WM_PROTOCOLS` call for,
and change nothing else. -/
theorem compositorRequests_declared {w : World} (hw : Reachable a w) {id : SurfaceId}
    (hs : w.sceneSurfaceOf win = some id) {ps : Finset Atom} (hp : w.latestProtocols win a = some ps) :
    (sceneSurfaceCloseRequested a win).run w = (.ok (), { w with xlog := closeRequestFor a win ps :: w.xlog }) ∧
      (takeFocus a win).run w =
        (.ok (), { w with xlog := focusRequestsFor a win (w.bridges win).cached.overrideRedirect ps ++ w.xlog }) := by
  obtain ⟨t, ht⟩ := Shell.titles_of_lock (lock_of_sceneSurfaceOf hs)
  have hc : (w.bridges win).cached.supportedWmProtocols = ps := Option.some.inj
    (((reachable_attributesAgree a hw win).live id t (weakSceneSurface_of_sceneSurfaceOf hs) ht).protocols.symm.trans hp)
  rw [sceneSurfaceCloseRequested_run, takeFocus_run, hc]
  exact ⟨rfl, rfl⟩

/-- Window 1 created, its client's `WM_PROTOCOLS` set to `WM_DELETE_WINDOW`, then attached. -/
def declaredDelete : World :=
  serialRun Atoms.fresh {} [.create 1 ⟨0, 0, 10, 10, false⟩,
    .clientProperty 1 Atoms.fresh.wmProtocols (some (.atoms [Atoms.fresh.wmDeleteWindow])),
    .attachWlSurface 1 ⟨some 7⟩]

theorem compositorRequests_declaredDelete :
    Reachable Atoms.fresh declaredDelete ∧ declaredDelete.sceneSurfaceOf 1 = some 0 ∧
      declaredDelete.latestProtocols 1 Atoms.fresh = some {Atoms.fresh.wmDeleteWindow} ∧
      (sceneSurfaceCloseRequested Atoms.fresh 1).run declaredDelete =
          (.ok (), { declaredDelete with
            xlog := closeRequestFor Atoms.fresh 1 {Atoms.fresh.wmDeleteWindow} :: declaredDelete.xlog }) ∧
        (takeFocus Atoms.fresh 1).run declaredDelete =
          (.ok (), { declaredDelete with xlog := (focusRequestsFor Atoms.fresh 1
            (declaredDelete.bridges 1).cached.overrideRedirect {Atoms.fresh.wmDeleteWindow}) ++
              declaredDelete.xlog }) :=
  have hw : Reachable Atoms.fresh declaredDelete := ⟨false, false, _, rfl⟩
  ⟨hw, by decide, by decide,
    @compositorRequests_declared Atoms.fresh 1 _ hw 0 (by decide) {Atoms.fresh.wmDeleteWindow} (by decide)⟩

end XWaylandSurface

end XWaylandBridge
