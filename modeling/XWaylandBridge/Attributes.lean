import XWaylandBridge.Failure
import XWaylandBridge.Parent

/-!
# The bridged attributes follow the reads since the attach

A surface's application id comes from `WM_CLASS`, its title from `WM_NAME` and `_NET_WM_NAME`
(the later reply wins), and the bridge's `supported_wm_protocols` from `WM_PROTOCOLS`. Each is
read in two phases: the read goes out, and later its reply goes to the handler, which fills the
pending specification (or the protocols) under the bridge's mutex. A reply that carries no
string goes to the title handlers' error path, which does nothing; one that carries no atoms to
the protocols handler's, which clears them. `property_notify` reads one property and then
consumes the pending specification; `attach_wl_surface` reads all of them, consumes the
specification into the creation parameters, and publishes the surface at its end.

`World.reads` logs every read with the value its reply carries, newest first. `newestString` is
the string the newest of some reads that carried one carried, and `attachReads` the block of
reads one attach makes.

**What is proved.** When the calls run one after another, from a world with no window whichever
requests the shell and the X server refuse, no bridge has a pending specification waiting, and
every bridge that publishes a live surface agrees with the reads since the attach that
published it: the surface's application id is the string the newest `WM_CLASS` read among them
carried and its title the string the newest `WM_NAME` or `_NET_WM_NAME` read among them
carried, the empty string where none did, and the bridge's protocols are those the latest
`WM_PROTOCOLS` read left (`serialRun_attributesAgree`). The reads before that attach do not
count: a window closed and attached again, whose client has deleted its title since, gets the
empty one. `property_notify`'s no-op filter never changes which application id and title a
surface ends with (`applyPendingSpec_run`).

**What this does not decide.** The parent is left out: `is_transient_for` resolves the
`WM_TRANSIENT_FOR` window against the other bridges when it reads it, and the result is not a
value the reply carries. Interleaved calls are not covered, and they do lose a title: a
`property_notify` inside an attach consumes the specification the attach's replies filled, finds
no surface yet and drops it (`notify_inside_attach_loses_title`).
-/

set_option autoImplicit false

namespace XWaylandBridge

/-! ## Titles of the shell's surfaces -/

namespace Shell

variable (sh : Shell)

/-- The application id and title of surface `id`, while it is live. -/
def titles (id : SurfaceId) : Option (String × String) :=
  (sh.surfaces id).bind fun s => if s.destroyed = 0 then some (s.applicationId, s.name) else none

theorem titles_update_ne {f : SceneSurface → SceneSurface} {id j : SurfaceId} (h : j ≠ id) :
    (sh.update id f).titles j = sh.titles j := by
  simp [titles, update, Function.update_noteq h]

/-- A change that keeps a surface's application id, title and liveness keeps every surface's
titles. -/
theorem titles_update {f : SceneSurface → SceneSurface}
    (hf : ∀ s, (f s).applicationId = s.applicationId ∧ (f s).name = s.name ∧
      (f s).destroyed = s.destroyed) (id j : SurfaceId) :
    (sh.update id f).titles j = sh.titles j := by
  by_cases h : j = id
  · subst h
    unfold titles update
    rcases sh.surfaces j with _ | s <;> simp [hf]
  · exact sh.titles_update_ne h

theorem titles_destroy (id j : SurfaceId) :
    (sh.destroy id).titles j = sh.titles j ∨ (sh.destroy id).titles j = none := by
  by_cases h : j = id
  · subst h
    right
    unfold titles destroy update
    rcases sh.surfaces j with _ | s <;> simp
  · exact .inl (sh.titles_update_ne h)

theorem titles_removeObserver (id : SurfaceId) (o : ObserverId) (j : SurfaceId) :
    (sh.removeObserver id o).titles j = sh.titles j :=
  sh.titles_update (f := fun s => { s with observers := s.observers.erase o })
    (fun _ => ⟨rfl, rfl, rfl⟩) id j

/-- A modification that sets neither application id nor title keeps every surface's titles. -/
theorem titles_modify {spec : SurfaceSpecification}
    (h : spec.applicationId = none ∧ spec.name = none) (id j : SurfaceId) :
    (sh.modify id spec).titles j = sh.titles j :=
  sh.titles_update (fun _ => by simp [applySpec, h]) id j

theorem titles_modify_ne {spec : SurfaceSpecification} {id j : SurfaceId} (h : j ≠ id) :
    (sh.modify id spec).titles j = sh.titles j :=
  sh.titles_update_ne h

theorem titles_modify_self {spec : SurfaceSpecification} {id : SurfaceId} {s : SceneSurface}
    (hs : sh.surfaces id = some s) (hd : s.destroyed = 0) :
    (sh.modify id spec).titles id =
      some (spec.applicationId.getD s.applicationId, spec.name.getD s.name) := by
  simp [titles, modify, update, applySpec, hs, hd]

theorem titles_create_ne {session : SessionId} {params : SurfaceCreationParameters}
    {o : ObserverId} {j : SurfaceId} (h : j ≠ sh.nextSurface) :
    (sh.create session params o).titles j = sh.titles j := by
  simp [titles, create, Function.update_noteq h]

theorem titles_create_self (session : SessionId) (params : SurfaceCreationParameters)
    (o : ObserverId) :
    (sh.create session params o).titles sh.nextSurface =
      some (params.applicationId.getD "", params.name.getD "") := by
  simp [titles, create]

theorem lock_of_titles {id : SurfaceId} {t : String × String} (h : sh.titles id = some t) :
    sh.lock id = some id := by
  unfold titles at h
  unfold lock
  rcases hs : sh.surfaces id with _ | s <;> rw [hs] at h
  · cases h
  · by_cases hd : s.destroyed = 0 <;> simp_all

theorem titles_eq_none_of_lock {id : SurfaceId} (h : sh.lock id = none) : sh.titles id = none := by
  rcases ht : sh.titles id with _ | t
  · rfl
  · rw [sh.lock_of_titles ht] at h; cases h

end Shell

@[simp] theorem setPosition_applicationId (parent : Option SceneSurface) (topLeft : Point)
    (spec : SurfaceSpecification) :
    (setPosition parent topLeft spec).applicationId = spec.applicationId := by
  cases parent <;> rfl

@[simp] theorem setPosition_name (parent : Option SceneSurface) (topLeft : Point)
    (spec : SurfaceSpecification) : (setPosition parent topLeft spec).name = spec.name := by
  cases parent <;> rfl

/-- The modifications of `configure_request` set neither application id nor title. -/
theorem configureRequestMods_titles (ev : ConfigureRequestEvent) (s : SceneSurface)
    (parent : Option SceneSurface) :
    (configureRequestMods ev s parent).applicationId = none ∧
      (configureRequestMods ev s parent).name = none := by
  unfold configureRequestMods
  dsimp only
  split <;> split <;> simp

/-! ## The reads -/

/-- The string a reply carries, if it carries one. -/
def PropValue.stringValue : Option PropValue → Option String
  | some (.string x) => some x
  | _ => none

/-- The protocols a `WM_PROTOCOLS` reply leaves the bridge: its atoms, and none for a missing
property or a value of another type, on the handler's error path. -/
def PropValue.protocolsValue : Option PropValue → Finset Atom
  | some (.atoms l) => l.toFinset
  | _ => ∅

/-- Of the reads in `reads` (newest first) of window `v` and one of `atoms` that carried a
string, the string the newest carried. -/
def newestString (reads : List (Window × Atom × Option PropValue)) (v : Window)
    (atoms : List Atom) : Option String :=
  reads.findSome? fun r => if r.1 = v ∧ r.2.1 ∈ atoms then PropValue.stringValue r.2.2 else none

/-- The reads one attach of window `v` makes, newest first: one of each handler's property, in
the table's order, each reply carrying the value `p` gives. -/
def attachReads (a : Atoms) (v : Window) (p : Atom → Option PropValue) :
    List (Window × Atom × Option PropValue) :=
  ((propertyHandlers a).map fun e => (v, e.1, p e.1)).reverse

@[simp] theorem newestString_nil (v : Window) (atoms : List Atom) :
    newestString [] v atoms = none :=
  rfl

/-- One more read: its string, if it is of the window and one of the atoms and carries one. -/
theorem newestString_cons (r : Window × Atom × Option PropValue)
    (reads : List (Window × Atom × Option PropValue)) (v : Window) (atoms : List Atom) :
    newestString (r :: reads) v atoms =
      if r.1 = v ∧ r.2.1 ∈ atoms then (PropValue.stringValue r.2.2).or (newestString reads v atoms)
      else newestString reads v atoms := by
  unfold newestString
  rw [List.findSome?_cons]
  split_ifs
  · cases PropValue.stringValue r.2.2 <;> rfl
  · rfl

/-- Reads of other windows leave a window's newest string. -/
theorem newestString_append_of_ne {l : List (Window × Atom × Option PropValue)} {v : Window}
    (hl : ∀ r ∈ l, r.1 ≠ v) (reads : List (Window × Atom × Option PropValue)) (atoms : List Atom) :
    newestString (l ++ reads) v atoms = newestString reads v atoms := by
  induction l with
  | nil => rfl
  | cons r l ih =>
    rw [List.cons_append, newestString_cons, if_neg fun h => hl r (.head _) h.1,
      ih fun r' hr' => hl r' (.tail _ hr')]

namespace World

variable (w : World) (v : Window)

/-- The value the reply to the latest read of one of `atoms` for window `v` carries, if any
was read. -/
def latestRead (atoms : List Atom) : Option (Option PropValue) :=
  (w.reads.find? fun r => r.1 = v ∧ r.2.1 ∈ atoms).map (·.2.2)

/-- The protocols the latest read of `WM_PROTOCOLS` left, if it was read. -/
def latestProtocols (a : Atoms) : Option (Finset Atom) :=
  (w.latestRead v [a.wmProtocols]).map PropValue.protocolsValue

variable {w v}

/-- After one more read `r`, the latest read of some atoms is `r` if it is one of them. -/
theorem latestRead_of_reads {w' : World} {r : Window × Atom × Option PropValue}
    (h : w'.reads = r :: w.reads) (atoms : List Atom) :
    w'.latestRead v atoms = if r.1 = v ∧ r.2.1 ∈ atoms then some r.2.2 else w.latestRead v atoms := by
  simp only [latestRead, h, List.find?_cons]
  by_cases hc : r.1 = v ∧ r.2.1 ∈ atoms
  · simp [hc.1, hc.2]
  · rw [decide_eq_false hc, if_neg hc]

/-- Reads of other windows leave a window's latest read. -/
theorem latestRead_append_of_ne {w' : World} {l : List (Window × Atom × Option PropValue)}
    (hl : ∀ r ∈ l, r.1 ≠ v) (h : w'.reads = l ++ w.reads) (atoms : List Atom) :
    w'.latestRead v atoms = w.latestRead v atoms := by
  induction l generalizing w' with
  | nil => simp only [latestRead, h, List.nil_append]
  | cons r l ih =>
    rw [latestRead_of_reads (w := { w' with reads := l ++ w.reads }) h,
      if_neg fun hr => hl r (.head _) hr.1]
    exact ih (fun r' hr' => hl r' (.tail _ hr')) rfl

end World

/-! ## The invariant -/

namespace World

/-- The reads of window `v` since one of its attaches, newest first: the reads after the
attach's (`later`), then the attach's own block. -/
def SinceAttach (a : Atoms) (v : Window) (since : List (Window × Atom × Option PropValue)) : Prop :=
  ∃ later p, since = later ++ attachReads a v p

/-- Window `v`'s live surface, with application id and title `t`, and its bridge's protocols
agree with the reads. Of the reads since the attach that published the surface, the
application id is the string the newest `WM_CLASS` read carried and the title the string the
newest `WM_NAME` or `_NET_WM_NAME` read carried, each the empty string where none carried one;
the protocols are those the latest `WM_PROTOCOLS` read left. -/
structure ReadsAgree (a : Atoms) (w : World) (v : Window) (t : String × String) : Prop where
  titles : ∃ since earlier, w.reads = since ++ earlier ∧ SinceAttach a v since ∧
    t = ((newestString since v [xcbAtomWmClass]).getD "",
      (newestString since v [xcbAtomWmName, a.netWmName]).getD "")
  protocols : w.latestProtocols v a = some (w.bridges v).cached.supportedWmProtocols

/-- **The bridged attributes of window `v` follow the reads**: no pending specification waits,
and while the bridge publishes a live surface, the surface and the protocols agree with the
reads. -/
structure AttributesAgree (a : Atoms) (w : World) (v : Window) : Prop where
  pending : (w.bridges v).nullablePendingSpec = none
  live : ∀ id t, (w.bridges v).weakSceneSurface = some id → w.shell.titles id = some t →
    ReadsAgree a w v t

theorem attributesAgree_start (a : Atoms) (rc rf : Bool) (v : Window) :
    AttributesAgree a (World.start rc rf) v :=
  ⟨rfl, fun _ _ h => nomatch h⟩

variable {a : Atoms} {w w' : World} {v : Window} {t : String × String}

/-- Agreement with the reads depends on the reads and on the bridge's protocols only. -/
theorem ReadsAgree.of_eq (h : ReadsAgree a w v t) (hr : w'.reads = w.reads)
    (hp : (w'.bridges v).cached.supportedWmProtocols = (w.bridges v).cached.supportedWmProtocols) :
    ReadsAgree a w' v t := by
  have hl : w'.latestRead = w.latestRead := by unfold latestRead; rw [hr]
  exact ⟨by rw [hr]; exact h.titles, by rw [latestProtocols, hl, hp]; exact h.protocols⟩

/-- Reads of other windows keep a window's agreement. -/
theorem ReadsAgree.of_ne (h : ReadsAgree a w v t) {l : List (Window × Atom × Option PropValue)}
    (hl : ∀ r ∈ l, r.1 ≠ v) (hr : w'.reads = l ++ w.reads)
    (hp : (w'.bridges v).cached.supportedWmProtocols = (w.bridges v).cached.supportedWmProtocols) :
    ReadsAgree a w' v t := by
  obtain ⟨since, earlier, hs, ⟨later, p, rfl⟩, rfl⟩ := h.titles
  refine ⟨⟨l ++ (later ++ attachReads a v p), earlier, by simp only [hr, hs, List.append_assoc],
    ⟨l ++ later, p, (List.append_assoc _ _ _).symm⟩, ?_⟩, ?_⟩
  · rw [newestString_append_of_ne hl, newestString_append_of_ne hl]
  · rw [latestProtocols, latestRead_append_of_ne hl hr, hp]
    exact h.protocols

/-- A window's agreement stands while its bridge and its surface's titles do, and only other
windows are read. -/
theorem AttributesAgree.of_ne (h : AttributesAgree a w v) (hb : w'.bridges v = w.bridges v)
    {l : List (Window × Atom × Option PropValue)} (hl : ∀ r ∈ l, r.1 ≠ v)
    (hr : w'.reads = l ++ w.reads)
    (ht : ∀ j, (w.bridges v).weakSceneSurface = some j → w'.shell.titles j = w.shell.titles j) :
    AttributesAgree a w' v := by
  refine ⟨by rw [hb]; exact h.pending, fun j t hj hjt => ?_⟩
  rw [hb] at hj
  rw [ht j hj] at hjt
  exact (h.live j t hj hjt).of_ne hl hr (by rw [hb])

/-- `w'` reads nothing and sets no bridged attribute: the reads, every bridge's protocols and
pending specification are those of `w`, no bridge publishes a new surface, and a live surface
keeps its application id and title or is no longer live. -/
structure AttrFrame (w w' : World) : Prop where
  reads : w'.reads = w.reads
  protocols : ∀ v, (w'.bridges v).cached.supportedWmProtocols =
    (w.bridges v).cached.supportedWmProtocols
  pending : ∀ v, (w'.bridges v).nullablePendingSpec = (w.bridges v).nullablePendingSpec
  scene : ∀ v, (w'.bridges v).weakSceneSurface = (w.bridges v).weakSceneSurface ∨
    (w'.bridges v).weakSceneSurface = none
  titles : ∀ id, w'.shell.titles id = w.shell.titles id ∨ w'.shell.titles id = none

theorem AttrFrame.refl (w : World) : AttrFrame w w :=
  ⟨rfl, fun _ => rfl, fun _ => rfl, fun _ => .inl rfl, fun _ => .inl rfl⟩

theorem AttrFrame.trans {w w' w'' : World} (h : AttrFrame w w') (h' : AttrFrame w' w'') :
    AttrFrame w w'' := by
  refine ⟨h'.reads.trans h.reads, fun v => (h'.protocols v).trans (h.protocols v),
    fun v => (h'.pending v).trans (h.pending v), fun v => ?_, fun id => ?_⟩
  · rcases h'.scene v with h₁ | h₁
    · exact h₁ ▸ h.scene v
    · exact .inr h₁
  · rcases h'.titles id with h₁ | h₁
    · exact h₁ ▸ h.titles id
    · exact .inr h₁

/-- A write to neither the reads, the bridges nor the shell's surfaces. -/
theorem AttrFrame.of_eq {w w' : World} (hr : w'.reads = w.reads) (hb : w'.bridges = w.bridges)
    (hs : w'.shell.surfaces = w.shell.surfaces) : AttrFrame w w' :=
  ⟨hr, fun _ => by rw [hb], fun _ => by rw [hb], fun _ => .inl (by rw [hb]),
    fun _ => .inl (by simp only [Shell.titles, hs])⟩

theorem attrFrame_setBridge (w : World) (win : Window) {b : XWaylandSurface}
    (h : b.cached.supportedWmProtocols = (w.bridges win).cached.supportedWmProtocols ∧
      b.nullablePendingSpec = (w.bridges win).nullablePendingSpec ∧
      (b.weakSceneSurface = (w.bridges win).weakSceneSurface ∨ b.weakSceneSurface = none)) :
    AttrFrame w (w.setBridge win b) := by
  have hb (v : Window) (hv : v ≠ win) := w.setBridge_bridges_ne win b hv
  refine ⟨rfl, fun v => ?_, fun v => ?_, fun v => ?_, fun _ => .inl rfl⟩ <;>
    by_cases hv : v = win
  · subst hv; simpa using h.1
  · rw [hb v hv]
  · subst hv; simpa using h.2.1
  · rw [hb v hv]
  · subst hv; simpa using h.2.2
  · rw [hb v hv]; exact .inl rfl

theorem AttributesAgree.of_frame (h : AttributesAgree a w v) (hf : AttrFrame w w') :
    AttributesAgree a w' v := by
  refine ⟨(hf.pending v).trans h.pending, fun id t hb ht => ?_⟩
  rcases hf.scene v with h₁ | h₁ <;> rw [h₁] at hb
  · rcases hf.titles id with h₂ | h₂ <;> rw [h₂] at ht
    · exact (h.live id t hb ht).of_eq hf.reads (hf.protocols v)
    · cases ht
  · cases hb

end World

open World Prog

/-! ## Sections that read nothing and set no bridged attribute -/

namespace Section

variable (win : Window)

theorem locked_attrFrame {α : Type} {f : XWaylandSurface → α × XWaylandSurface}
    (h : ∀ b, (f b).2.cached.supportedWmProtocols = b.cached.supportedWmProtocols ∧
      (f b).2.nullablePendingSpec = b.nullablePendingSpec ∧
      ((f b).2.weakSceneSurface = b.weakSceneSurface ∨ (f b).2.weakSceneSurface = none)) :
    Guarantees AttrFrame (locked win f) :=
  guarantees_atomic fun w => attrFrame_setBridge w win (h _)

theorem setProperty_attrFrame (atom : Atom) (v : PropValue) :
    Guarantees AttrFrame (setProperty win atom v) :=
  guarantees_atomic fun _ => AttrFrame.of_eq rfl rfl rfl

theorem deleteProperty_attrFrame (atom : Atom) : Guarantees AttrFrame (deleteProperty win atom) :=
  guarantees_atomic fun _ => AttrFrame.of_eq rfl rfl rfl

theorem mapWindow_attrFrame : Guarantees AttrFrame (mapWindow win) :=
  guarantees_atomic fun _ => AttrFrame.of_eq rfl rfl rfl

theorem unmapWindow_attrFrame : Guarantees AttrFrame (unmapWindow win) :=
  guarantees_atomic fun _ => AttrFrame.of_eq rfl rfl rfl

theorem send_attrFrame (r : XRequest) : Guarantees AttrFrame (send r) :=
  guarantees_atomic fun _ => AttrFrame.of_eq rfl rfl rfl

theorem configureWindow_attrFrame (position : Option Point) (size : Option Size)
    (sibling : Option Window) (stackMode : Option StackMode) :
    Guarantees AttrFrame (configureWindow win position size sibling stackMode) :=
  guarantees_atomicE fun _ => by split <;> exact AttrFrame.of_eq rfl rfl rfl

theorem sceneSurface_attrFrame : Guarantees AttrFrame (sceneSurface win) :=
  guarantees_atomic fun _ => AttrFrame.refl _

theorem surface_attrFrame {β : Type} (id : SurfaceId) (f : SceneSurface → β) :
    Guarantees AttrFrame (surface id f) :=
  guarantees_atomic fun _ => AttrFrame.refl _

theorem modifySurface_attrFrame (id : SurfaceId) {spec : SurfaceSpecification}
    (h : spec.applicationId = none ∧ spec.name = none) :
    Guarantees AttrFrame (modifySurface id spec) :=
  guarantees_atomic fun w =>
    ⟨rfl, fun _ => rfl, fun _ => rfl, fun _ => .inl rfl, fun j => .inl (w.shell.titles_modify h id j)⟩

theorem destroySurface_attrFrame (id : SurfaceId) : Guarantees AttrFrame (destroySurface id) :=
  guarantees_atomic fun w =>
    ⟨rfl, fun _ => rfl, fun _ => rfl, fun _ => .inl rfl, w.shell.titles_destroy id⟩

theorem removeObserver_attrFrame (id : SurfaceId) (o : ObserverId) :
    Guarantees AttrFrame (removeObserver id o) :=
  guarantees_atomic fun w => ⟨rfl, fun _ => rfl, fun _ => rfl, fun _ => .inl rfl,
    fun j => .inl (w.shell.titles_removeObserver id o j)⟩

theorem requestMove_attrFrame (id : SurfaceId) (timestamp : Nat) :
    Guarantees AttrFrame (requestMove id timestamp) :=
  guarantees_atomic fun _ => AttrFrame.of_eq rfl rfl rfl

theorem requestResize_attrFrame (id : SurfaceId) (timestamp : Nat) (edge : MirResizeEdge) :
    Guarantees AttrFrame (requestResize id timestamp edge) :=
  guarantees_atomic fun _ => AttrFrame.of_eq rfl rfl rfl

theorem releaseObserver_attrFrame (o : ObserverId) : Guarantees AttrFrame (releaseObserver o) :=
  guarantees_atomic fun _ => AttrFrame.of_eq rfl rfl rfl

theorem observerMustBeDead_attrFrame (o : ObserverId) :
    Guarantees AttrFrame (observerMustBeDead o) :=
  guarantees_atomic fun _ => AttrFrame.of_eq rfl rfl rfl

end Section

/-! ## Every call but a read sets no bridged attribute -/

namespace XWaylandSurface

variable (a : Atoms) (win : Window)

open Section

theorem informClientOfWindowState_attrFrame (s : WindowState) :
    Guarantees AttrFrame (informClientOfWindowState a win s) := by
  refine guarantees_bind (locked_attrFrame win fun b => ?_) fun changed => ?_
  · dsimp only; split <;> exact ⟨rfl, rfl, .inl rfl⟩
  · cases changed
    · exact guarantees_pure _
    · refine guarantees_bind (setProperty_attrFrame win _ _) fun _ => ?_
      split
      · exact deleteProperty_attrFrame win _
      · exact setProperty_attrFrame win _ _

theorem requestSceneSurfaceState_attrFrame (m : MirWindowState) :
    Guarantees AttrFrame (requestSceneSurfaceState win m) := by
  refine guarantees_bind (sceneSurface_attrFrame win) fun id => ?_
  rcases id with _ | id
  · exact guarantees_pure _
  · refine guarantees_bind (surface_attrFrame _ _) fun _ => ?_
    split
    · exact modifySurface_attrFrame _ ⟨rfl, rfl⟩
    · exact guarantees_pure _

theorem map_attrFrame : Guarantees AttrFrame (map a win) :=
  guarantees_bind (locked_attrFrame win fun _ => ⟨rfl, rfl, .inl rfl⟩) fun _ =>
  guarantees_bind (setProperty_attrFrame win _ _) fun _ =>
  guarantees_bind (informClientOfWindowState_attrFrame a win _) fun _ =>
  guarantees_bind (requestSceneSurfaceState_attrFrame win _) fun _ => mapWindow_attrFrame win

theorem closeDetach_attrFrame (sceneSurface : Option SurfaceId) (observer : Option ObserverId) :
    Guarantees AttrFrame (closeDetach sceneSurface observer) := by
  have skip := guarantees_pure (R := AttrFrame) ()
  have release (o : ObserverId) := guarantees_bind (releaseObserver_attrFrame o) fun _ =>
    observerMustBeDead_attrFrame o
  rcases sceneSurface with _ | s <;> rcases observer with _ | o <;> dsimp only [closeDetach]
  · exact guarantees_bind skip fun _ => guarantees_bind skip fun _ => skip
  · exact guarantees_bind skip fun _ => guarantees_bind skip fun _ => release o
  · exact guarantees_bind skip fun _ => guarantees_bind (destroySurface_attrFrame s) fun _ => skip
  · exact guarantees_bind (removeObserver_attrFrame s o) fun _ =>
      guarantees_bind (destroySurface_attrFrame s) fun _ => release o

theorem close_attrFrame : Guarantees AttrFrame (close a win) :=
  guarantees_bind (guarantees_atomic fun w => attrFrame_setBridge w win ⟨rfl, rfl, .inr rfl⟩)
    fun _ =>
  guarantees_bind (deleteProperty_attrFrame win _) fun _ =>
  guarantees_bind (informClientOfWindowState_attrFrame a win _) fun _ =>
  guarantees_bind (unmapWindow_attrFrame win) fun _ => closeDetach_attrFrame _ _

theorem takeFocus_attrFrame : Guarantees AttrFrame (takeFocus a win) := by
  refine guarantees_bind (locked_attrFrame win fun _ => ⟨rfl, rfl, .inl rfl⟩) fun supports => ?_
  rcases supports with _ | supportsTakeFocus
  · exact guarantees_pure _
  · dsimp only
    split
    · exact guarantees_bind (send_attrFrame _) fun _ => send_attrFrame _
    · exact guarantees_bind (guarantees_pure _) fun _ => send_attrFrame _

theorem configureRequest_attrFrame (ev : ConfigureRequestEvent) :
    Guarantees AttrFrame (configureRequest win ev) := by
  refine guarantees_bind (sceneSurface_attrFrame win) fun id => ?_
  rcases id with _ | id
  · exact guarantees_bind (guarantees_atomic fun _ => AttrFrame.refl _) fun _ =>
      configureWindow_attrFrame win _ _ _ _
  · refine guarantees_atomic_bind (fun _ => AttrFrame.refl _) fun w => ?_
    split
    · refine modifySurface_attrFrame _ ?_
      split
      · exact configureRequestMods_titles _ _ _
      · exact ⟨rfl, rfl⟩
    · exact guarantees_pure _

theorem configureNotify_attrFrame (ev : ConfigureNotifyEvent) :
    Guarantees AttrFrame (configureNotify win ev) :=
  locked_attrFrame win fun _ => ⟨rfl, rfl, .inl rfl⟩

theorem netWmStateClientMessage_attrFrame (data : ClientMessageData) :
    Guarantees AttrFrame (netWmStateClientMessage a win data) :=
  guarantees_bind (locked_attrFrame win fun _ => ⟨rfl, rfl, .inl rfl⟩) fun _ =>
  guarantees_bind (informClientOfWindowState_attrFrame a win _) fun _ =>
  requestSceneSurfaceState_attrFrame win _

theorem wmChangeStateClientMessage_attrFrame (data : ClientMessageData) :
    Guarantees AttrFrame (wmChangeStateClientMessage a win data) :=
  guarantees_bind (guarantees_atomicE fun _ => AttrFrame.refl _) fun _ =>
  guarantees_bind (informClientOfWindowState_attrFrame a win _) fun _ =>
  requestSceneSurfaceState_attrFrame win _

theorem moveResize_attrFrame (detail : Nat) : Guarantees AttrFrame (moveResize win detail) := by
  refine guarantees_bind (guarantees_atomic fun _ => AttrFrame.refl _) fun x => ?_
  obtain ⟨sceneSurface, timestamp⟩ := x
  repeat' first
    | exact guarantees_pure _
    | exact requestMove_attrFrame _ _
    | exact requestResize_attrFrame _ _ _
    | split

theorem sceneSurfaceFocusSet_attrFrame (hasFocus : Bool) :
    Guarantees AttrFrame (sceneSurfaceFocusSet win hasFocus) :=
  guarantees_bind (guarantees_atomic fun _ => AttrFrame.of_eq rfl rfl rfl) fun _ =>
    configureWindow_attrFrame win _ _ _ _

theorem sceneSurfaceStateSet_attrFrame (newState : MirWindowState) :
    Guarantees AttrFrame (sceneSurfaceStateSet a win newState) := by
  refine guarantees_bind (locked_attrFrame win fun _ => ⟨rfl, rfl, .inl rfl⟩) fun _ =>
    guarantees_bind (informClientOfWindowState_attrFrame a win _) fun _ => ?_
  split
  · exact configureWindow_attrFrame win _ _ _ _
  · exact guarantees_pure _

theorem sceneSurfaceMovedTo_attrFrame (newTopLeft : Point) :
    Guarantees AttrFrame (sceneSurfaceMovedTo win newTopLeft) := by
  refine guarantees_bind (sceneSurface_attrFrame win) fun id => ?_
  dsimp only
  rcases id with _ | id
  · exact guarantees_bind (guarantees_pure _) fun _ => configureWindow_attrFrame win _ _ _ _
  · exact guarantees_bind (surface_attrFrame _ _) fun _ =>
      guarantees_bind (guarantees_pure _) fun _ => configureWindow_attrFrame win _ _ _ _

theorem sceneSurfaceCloseRequested_attrFrame :
    Guarantees AttrFrame (sceneSurfaceCloseRequested a win) := by
  refine guarantees_bind (locked_attrFrame win fun _ => ⟨rfl, rfl, .inl rfl⟩) fun _ => ?_
  split
  · exact send_attrFrame _
  · exact send_attrFrame _

end XWaylandSurface

/-! ## The handler table -/

/-- The property a handler reads. -/
def Handler.atom (a : Atoms) : Handler → Atom
  | .wmClass => xcbAtomWmClass
  | .wmName => xcbAtomWmName
  | .netWmName => a.netWmName
  | .wmTransientFor => xcbAtomWmTransientFor
  | .wmProtocols => a.wmProtocols

/-- Every entry of the table reads its handler's property. -/
theorem propertyHandlers_atom {a : Atoms} {e : Atom × Handler} (he : e ∈ propertyHandlers a) :
    e.1 = e.2.atom a := by
  unfold propertyHandlers at he
  split at he <;> simp only [List.cons_append, List.nil_append, List.mem_cons, List.mem_singleton,
    List.not_mem_nil, or_false] at he <;> rcases he with rfl | rfl | rfl | rfl | rfl <;> rfl

theorem atom_of_lookup {a : Atoms} {property : Atom} {h : Handler}
    (hl : (propertyHandlers a).lookup property = some h) : property = h.atom a := by
  obtain ⟨l₁, l₂, hl, -⟩ := List.lookup_eq_some_iff.mp hl
  exact propertyHandlers_atom (e := (property, h)) (hl ▸ List.mem_append_right _ (.head _))

section HandlerAtoms

variable (a : Atoms) (h : Handler)

private theorem interned_ne : a.netWmName ≠ xcbAtomWmClass ∧ a.netWmName ≠ xcbAtomWmName ∧
    a.netWmName ≠ xcbAtomWmTransientFor ∧ a.wmProtocols ≠ xcbAtomWmClass ∧
    a.wmProtocols ≠ xcbAtomWmName ∧ a.wmProtocols ≠ xcbAtomWmTransientFor := by
  have h₁ := a.transientFor_lt_netWmName
  have h₂ := a.transientFor_lt_wmProtocols
  exact ⟨(lt_of_le_of_lt (by decide) h₁).ne', (lt_of_le_of_lt (by decide) h₁).ne', h₁.ne',
    (lt_of_le_of_lt (by decide) h₂).ne', (lt_of_le_of_lt (by decide) h₂).ne', h₂.ne'⟩

theorem Handler.atom_mem_class : h.atom a ∈ [xcbAtomWmClass] ↔ h = .wmClass := by
  obtain ⟨n₁, -, -, p₁, -, -⟩ := interned_ne a
  cases h <;> simp [Handler.atom, n₁, p₁] <;> decide

theorem Handler.atom_mem_name :
    h.atom a ∈ [xcbAtomWmName, a.netWmName] ↔ h = .wmName ∨ h = .netWmName := by
  obtain ⟨n₁, n₂, n₃, -, p₂, -⟩ := interned_ne a
  have := a.netWmName_ne_wmProtocols
  cases h <;> simp [Handler.atom, n₂, p₂, n₁.symm, n₃.symm, this.symm] <;> decide

theorem Handler.atom_mem_protocols : h.atom a ∈ [a.wmProtocols] ↔ h = .wmProtocols := by
  obtain ⟨-, -, -, p₁, p₂, p₃⟩ := interned_ne a
  have := a.netWmName_ne_wmProtocols
  cases h <;> simp [Handler.atom, p₁.symm, p₂.symm, p₃.symm, this]

end HandlerAtoms

/-! ## What a reply and the consumed specification do -/

namespace XWaylandSurface

variable (win : Window)

open Section

/-- The application id and title a bridge's pending specification holds, and its protocols. -/
def attrs (b : XWaylandSurface) : Option String × Option String × Finset Atom :=
  (b.pendingSpec.applicationId, b.pendingSpec.name, b.cached.supportedWmProtocols)

/-- What a reply does to them: a `WM_CLASS` string becomes the application id, a `WM_NAME` or
`_NET_WM_NAME` string the title, and a `WM_PROTOCOLS` reply the protocols (none for a missing
property or a value of another type); every other reply keeps them. -/
def replyAttrs (h : Handler) (v : Option PropValue) (x : Option String × Option String × Finset Atom) :
    Option String × Option String × Finset Atom :=
  (if h = .wmClass then (PropValue.stringValue v).or x.1 else x.1,
   if h = .wmName ∨ h = .netWmName then (PropValue.stringValue v).or x.2.1 else x.2.1,
   if h = .wmProtocols then PropValue.protocolsValue v else x.2.2)

/-- **What a reply does**, for every handler and value: it returns with its window's bridge
replaced, the attributes moved as `replyAttrs` says and the published surface kept. -/
theorem applyReply_run (h : Handler) (v : Option PropValue) (w : World) :
    ∃ b, (applyReply win h v).run w = (.ok (), w.setBridge win b) ∧
      b.attrs = replyAttrs h v (w.bridges win).attrs ∧
      b.weakSceneSurface = (w.bridges win).weakSceneSurface := by
  cases h <;> rcases v with _ | ⟨_⟩ | ⟨_⟩ | ⟨_⟩ | ⟨_⟩
  -- `is_transient_for` resolves the parent against the world: its run is `isTransientFor_run`
  case wmTransientFor.some.window t =>
    exact ⟨_, isTransientFor_run win w t,
      by simp [attrs, replyAttrs, transientSpec, withPendingSpec, pendingSpec], rfl⟩
  -- every other reply runs its handler or its error path in one lock section, or does nothing
  all_goals first
    | exact ⟨_, rfl, rfl, rfl⟩
    | exact ⟨w.bridges win, by rw [World.setBridge_same]; rfl, rfl, rfl⟩

/-- A reply changes the bridge of its window and nothing else. -/
theorem applyReply_setBridge (h : Handler) (v : Option PropValue) (w : World) :
    ((applyReply win h v).run w).2 = w.setBridge win (((applyReply win h v).run w).2.bridges win) := by
  obtain ⟨b, hb, -⟩ := applyReply_run win h v w
  simp [hb]

/-- **What a reply does to its bridge's attributes**: `replyAttrs`, and the published surface
stays. -/
theorem applyReply_attrs (h : Handler) (v : Option PropValue) (w : World) :
    (((applyReply win h v).run w).2.bridges win).attrs = replyAttrs h v (w.bridges win).attrs ∧
      (((applyReply win h v).run w).2.bridges win).weakSceneSurface =
        (w.bridges win).weakSceneSurface := by
  obtain ⟨b, hb, hattrs⟩ := applyReply_run win h v w
  simpa [hb] using hattrs

/-- The no-op filter keeps the application id the whole specification gives. -/
theorem dropUnchanged_applicationId (sh : Shell) (s : SceneSurface) (spec : SurfaceSpecification) :
    (dropUnchanged sh s spec).applicationId.getD s.applicationId =
      spec.applicationId.getD s.applicationId := by
  unfold dropUnchanged
  split_ifs <;> simp_all

theorem dropUnchanged_name (sh : Shell) (s : SceneSurface) (spec : SurfaceSpecification) :
    (dropUnchanged sh s spec).name.getD s.name = spec.name.getD s.name := by
  unfold dropUnchanged
  split_ifs <;> simp_all

/-- **`apply_pending_spec` consumes the pending specification and gives a live surface its
application id and title**, the no-op filter notwithstanding; no other surface changes. -/
theorem applyPendingSpec_run (w : World) :
    ∃ sh, ((applyPendingSpec win).run w).2 =
        { w.setBridge win { w.bridges win with nullablePendingSpec := none } with shell := sh } ∧
      (∀ j, (w.bridges win).weakSceneSurface ≠ some j → sh.titles j = w.shell.titles j) ∧
      (∀ j, w.shell.titles j = none → sh.titles j = none) ∧
      ∀ j t, (w.bridges win).weakSceneSurface = some j → w.shell.titles j = some t →
        sh.titles j = some ((w.bridges win).pendingSpec.applicationId.getD t.1,
          (w.bridges win).pendingSpec.name.getD t.2) := by
  unfold applyPendingSpec
  simp only [Prog.run_atomic_bind]
  rcases hp : (w.bridges win).nullablePendingSpec with _ | spec
  · refine ⟨w.shell, rfl, fun _ _ => rfl, fun _ h => h, fun _ t _ ht => ?_⟩
    simp [ht, pendingSpec, hp]
  rcases hs : w.sceneSurfaceOf win with _ | id
  · refine ⟨w.shell, rfl, fun _ _ => rfl, fun _ h => h, fun j t hj ht => ?_⟩
    simp [World.sceneSurfaceOf, hj, w.shell.lock_of_titles ht] at hs
  obtain ⟨s, hsid, hd⟩ : ∃ s, w.shell.surfaces id = some s ∧ s.destroyed = 0 := by
    simp only [World.sceneSurfaceOf, Option.bind_eq_some, Shell.lock] at hs
    obtain ⟨_, -, h⟩ := hs
    split at h <;> [skip; cases h]
    split at h <;> [cases h; cases h]
    exact ⟨_, ‹_›, ‹_›⟩
  have hj : (w.bridges win).weakSceneSurface = some id := by
    simp only [World.sceneSurfaceOf, Option.bind_eq_some] at hs
    obtain ⟨j, hj, h⟩ := hs
    simp only [Shell.lock] at h
    split at h <;> [(split at h <;> cases h; exact hj); cases h]
  have hown (t : String × String) (ht : w.shell.titles id = some t) : t = (s.applicationId, s.name) := by
    simp [Shell.titles, hsid, hd] at ht; exact ht.symm
  simp only [World.setBridge_shell, hsid, Prog.run_atomic_bind]
  split
  · refine ⟨_, rfl, fun j hne => w.shell.titles_modify_ne fun h => hne (h ▸ hj),
      fun j hn => ?_, fun j t hj' ht => ?_⟩
    · have hne : j ≠ id := by rintro rfl; simp [Shell.titles, hsid, hd] at hn
      rw [World.setBridge_shell, w.shell.titles_modify_ne hne, hn]
    obtain rfl : j = id := Option.some.inj (hj'.symm.trans hj)
    obtain rfl := hown t ht
    rw [World.setBridge_shell, w.shell.titles_modify_self hsid hd, dropUnchanged_applicationId,
      dropUnchanged_name]
    simp [pendingSpec, hp]
  · refine ⟨w.shell, rfl, fun _ _ => rfl, fun _ h => h, fun j t hj' ht => ?_⟩
    obtain rfl : j = id := Option.some.inj (hj'.symm.trans hj)
    obtain rfl := hown t ht
    rename_i hempty
    have he : dropUnchanged w.shell s spec = {} := by simpa [SurfaceSpecification.isEmpty] using hempty
    have h₁ := dropUnchanged_applicationId w.shell s spec
    have h₂ := dropUnchanged_name w.shell s spec
    rw [he] at h₁ h₂
    simp only [pendingSpec, hp, Option.getD_some]
    rw [ht, ← h₁, ← h₂]
    rfl

/-- `property_notify` of a property with handler `h`: the read, the reply, and the pending
specification applied. -/
theorem propertyNotify_run {a : Atoms} {property : Atom} {h : Handler}
    (hl : (propertyHandlers a).lookup property = some h) (w : World) :
    ((propertyNotify a win property).run w).2 = ((applyPendingSpec win).run
      ((applyReply win h (w.props win property)).run
        { w with reads := (win, property, w.props win property) :: w.reads }).2).2 := by
  unfold propertyNotify
  simp only [hl, readProperty, Prog.run_atomic_bind]
  exact congrArg Prod.snd (Prog.run_bind_of_ok (applyReply_returns win h _ _).choose_spec _)

end XWaylandSurface

/-! ## One read -/

namespace World

variable {a : Atoms}

private theorem getD_or (x y : Option String) (d : String) : (x.or y).getD d = x.getD (y.getD d) := by
  cases x <;> rfl

/-- **A read and its reply keep the attributes in agreement**: after a read of handler `h`'s
property of the window whose reply carried `val`, the surface with the application id and
title the reply asks for agrees with the reads, if the protocols moved as the reply asks. -/
theorem ReadsAgree.read {w w' : World} {win : Window} {t : String × String}
    (hr : ReadsAgree a w win t) (h : Handler) (val : Option PropValue)
    (hreads : w'.reads = (win, h.atom a, val) :: w.reads)
    (hprot : (w'.bridges win).cached.supportedWmProtocols =
      if h = .wmProtocols then PropValue.protocolsValue val
      else (w.bridges win).cached.supportedWmProtocols) :
    ReadsAgree a w' win
      (if h = .wmClass then (PropValue.stringValue val).getD t.1 else t.1,
       if h = .wmName ∨ h = .netWmName then (PropValue.stringValue val).getD t.2 else t.2) := by
  obtain ⟨since, earlier, hs, ⟨later, p, rfl⟩, rfl⟩ := hr.titles
  refine ⟨⟨(win, h.atom a, val) :: (later ++ attachReads a win p), earlier,
    by rw [hreads, hs]; rfl, ⟨(win, h.atom a, val) :: later, p, rfl⟩, ?_⟩, ?_⟩
  · simp only [newestString_cons, true_and, Handler.atom_mem_class, Handler.atom_mem_name]
    split_ifs <;> simp only [getD_or]
  · rw [latestProtocols, latestRead_of_reads hreads, hprot]
    simp only [true_and, Handler.atom_mem_protocols]
    split_ifs
    · rfl
    · exact hr.protocols

end World

/-! ## `property_notify` -/

namespace XWaylandSurface

variable (a : Atoms) (win : Window)

/-- **`property_notify` keeps every bridge's attributes in agreement with the reads**, in a
world where each published surface belongs to one bridge. -/
theorem propertyNotify_attributesAgree (property : Atom) {w : World} (ho : SurfacesOwned w)
    (hw : ∀ v, AttributesAgree a w v) (v : Window) :
    AttributesAgree a ((propertyNotify a win property).run w).2 v := by
  rcases hl : (propertyHandlers a).lookup property with _ | h
  · have : propertyNotify a win property = pure () := by unfold propertyNotify; rw [hl]
    rw [this]
    exact hw v
  obtain rfl := atom_of_lookup hl
  rw [propertyNotify_run win hl]
  generalize w.props win (h.atom a) = val
  -- the read, and the reply: `win`'s bridge replaced, its attributes as the reply asks
  obtain ⟨b, hb, hattr, hscene⟩ :=
    applyReply_run win h val { w with reads := (win, h.atom a, val) :: w.reads }
  rw [hb]
  simp only [attrs, replyAttrs, Prod.mk.injEq] at hattr
  -- the pending specification applied
  obtain ⟨sh, hsh, hne, hnone, hself⟩ :=
    applyPendingSpec_run win ({ w with reads := (win, h.atom a, val) :: w.reads }.setBridge win b)
  rw [hsh]
  simp only [World.setBridge_bridges_self, World.setBridge_shell, hscene] at hne hnone hself
  by_cases hv : v = win
  · subst hv
    have hp : (w.bridges v).pendingSpec = {} := by simp [pendingSpec, (hw v).pending]
    simp only [hp] at hattr
    simp only [World.setBridge_bridges_self]
    refine ⟨by simp, fun j t' hj ht' => ?_⟩
    simp only [World.setBridge_bridges_self, hscene] at hj
    dsimp only at ht'
    rcases ht : w.shell.titles j with _ | t
    · rw [hnone j ht] at ht'; cases ht'
    rw [hself j t hj ht] at ht'
    obtain rfl := Option.some.inj ht'
    have key : World.ReadsAgree a { ({ w with reads := (v, h.atom a, val) :: w.reads }.setBridge v b).setBridge v
        { b with nullablePendingSpec := none } with shell := sh } v _ :=
      ((hw v).live j t hj ht).read h val rfl (by simpa using hattr.2.2)
    convert key using 2
    · rw [hattr.1]; split_ifs <;> simp
    · rw [hattr.2.1]; split_ifs <;> simp
  · -- another window: only `win` is read, and `win`'s surface is not its own
    refine (hw v).of_ne (by simp [World.setBridge_bridges_ne _ _ _ hv]) (l := [(win, h.atom a, val)])
      (by simpa using Ne.symm hv) rfl fun j hj => hne j fun hj' => hv (ho.unique v win j hj hj')

end XWaylandSurface

/-! ## What an attach leaves of the rest -/

namespace World

variable {a : Atoms} {win : Window}

/-- What a step of window `win`'s attach leaves of the rest: the other bridges, the reads but
reads of `win` prepended, the window's published surface, and every surface the shell had handed
out. -/
structure AttachFrame (win : Window) (w w' : World) : Prop where
  others : ∀ u, u ≠ win → w'.bridges u = w.bridges u
  reads : ∃ l, w'.reads = l ++ w.reads ∧ ∀ r ∈ l, r.1 = win
  scene : (w'.bridges win).weakSceneSurface = (w.bridges win).weakSceneSurface
  titles : ∀ j, j < w.shell.nextSurface → w'.shell.titles j = w.shell.titles j
  nextSurface : w.shell.nextSurface ≤ w'.shell.nextSurface

theorem AttachFrame.refl (w : World) : AttachFrame win w w :=
  ⟨fun _ _ => rfl, ⟨[], rfl, nofun⟩, rfl, fun _ _ => rfl, le_rfl⟩

theorem AttachFrame.trans {w w' w'' : World} (h : AttachFrame win w w')
    (h' : AttachFrame win w' w'') : AttachFrame win w w'' := by
  obtain ⟨l, hl, hwin⟩ := h.reads
  obtain ⟨l', hl', hwin'⟩ := h'.reads
  exact ⟨fun u hu => (h'.others u hu).trans (h.others u hu),
    ⟨l' ++ l, by rw [hl', hl, List.append_assoc],
      fun r hr => (List.mem_append.mp hr).elim (hwin' r) (hwin r)⟩,
    h'.scene.trans h.scene,
    fun j hj => (h'.titles j (lt_of_lt_of_le hj h.nextSurface)).trans (h.titles j hj),
    h.nextSurface.trans h'.nextSurface⟩

theorem AttachFrame.of_eq {w w' : World} (hb : w'.bridges = w.bridges) (hr : w'.reads = w.reads)
    (hs : w'.shell = w.shell) : AttachFrame win w w' :=
  ⟨fun _ _ => by rw [hb], ⟨[], hr, nofun⟩, by rw [hb], fun _ _ => by rw [hs], by rw [hs]⟩

theorem attachFrame_setBridge (w : World) {b : XWaylandSurface}
    (h : b.weakSceneSurface = (w.bridges win).weakSceneSurface) :
    AttachFrame win w (w.setBridge win b) :=
  ⟨fun _ hu => w.setBridge_bridges_ne win b hu, ⟨[], rfl, nofun⟩, by simpa using h,
    fun _ _ => rfl, le_rfl⟩

/-- Before an attach publishes: each published surface belongs to one bridge, the window's own
published surface (if any) is dead, and every other bridge's attributes agree. -/
structure AttachBase (a : Atoms) (win : Window) (w : World) : Prop where
  owned : SurfacesOwned w
  dead : ∀ j, (w.bridges win).weakSceneSurface = some j → w.shell.titles j = none
  others : ∀ v, v ≠ win → AttributesAgree a w v

theorem AttachBase.of_frame {w w' : World} (h : AttachBase a win w) (hf : AttachFrame win w w') :
    AttachBase a win w' := by
  have scene (v : Window) : (w'.bridges v).weakSceneSurface = (w.bridges v).weakSceneSurface := by
    by_cases hv : v = win
    · subst hv; exact hf.scene
    · rw [hf.others v hv]
  obtain ⟨l, hl, hwin⟩ := hf.reads
  refine ⟨⟨fun v j hj => ?_, fun v v' j hj hj' => ?_⟩, fun j hj => ?_, fun v hv => ?_⟩
  · rw [scene] at hj
    exact lt_of_lt_of_le (h.owned.issued v j hj) hf.nextSurface
  · rw [scene] at hj hj'
    exact h.owned.unique v v' j hj hj'
  · rw [hf.scene] at hj
    rw [hf.titles j (h.owned.issued win j hj)]
    exact h.dead j hj
  · exact (h.others v hv).of_ne (hf.others v hv) (fun r hr e => hv (e.symm.trans (hwin r hr))) hl
      fun j hj => hf.titles j (h.owned.issued v j hj)

/-- Before the attach publishes, with no specification pending for its window, every bridge's
attributes agree. -/
theorem AttachBase.attributesAgree {w : World} (h : AttachBase a win w)
    (hp : (w.bridges win).nullablePendingSpec = none) (v : Window) : AttributesAgree a w v := by
  by_cases hv : v = win
  · subst hv
    exact ⟨hp, fun j t hj ht => by rw [h.dead j hj] at ht; cases ht⟩
  · exact h.others v hv

end World

open World Prog

namespace Section

variable (win : Window)

theorem locked_attachFrame {α : Type} {f : XWaylandSurface → α × XWaylandSurface}
    (h : ∀ b, (f b).2.weakSceneSurface = b.weakSceneSurface) :
    Guarantees (AttachFrame win) (locked win f) :=
  guarantees_atomic fun w => attachFrame_setBridge w (h _)

theorem readProperty_attachFrame (atom : Atom) :
    Guarantees (AttachFrame win) (readProperty win atom) :=
  guarantees_atomic fun _ => ⟨fun _ _ => rfl, ⟨[(win, atom, _)], rfl, by simp⟩, rfl,
    fun _ _ => rfl, le_rfl⟩

theorem createSurface_attachFrame (session : SessionId) (params : SurfaceCreationParameters)
    (o : ObserverId) : Guarantees (AttachFrame win) (createSurface session params o) :=
  guarantees_atomicE fun w => by
    split
    · exact AttachFrame.refl w
    · exact ⟨fun _ _ => rfl, ⟨[], rfl, nofun⟩, rfl,
        fun j hj => w.shell.titles_create_ne (Nat.ne_of_lt hj), Nat.le_succ _⟩

end Section

namespace XWaylandSurface

variable (a : Atoms) (win : Window)

open Section

theorem informClientOfWindowState_attachFrame (s : WindowState) :
    Guarantees (AttachFrame win) (informClientOfWindowState a win s) := by
  refine guarantees_bind (locked_attachFrame win fun b => ?_) fun changed => ?_
  · dsimp only; split <;> rfl
  · cases changed
    · exact guarantees_pure _
    · refine guarantees_bind (guarantees_atomic fun _ => AttachFrame.of_eq rfl rfl rfl) fun _ => ?_
      split
      · exact guarantees_atomic fun _ => AttachFrame.of_eq rfl rfl rfl
      · exact guarantees_atomic fun _ => AttachFrame.of_eq rfl rfl rfl

theorem isTransientFor_attachFrame (t : Window) :
    Guarantees (AttachFrame win) (isTransientFor win t) := by
  refine guarantees_bind ?_ fun _ => guarantees_atomic fun w => attachFrame_setBridge w rfl
  unfold resolveTransientFor
  split
  · refine guarantees_bind (guarantees_atomic fun w => AttachFrame.refl w) fun p => ?_
    rcases p with _ | p
    · refine guarantees_bind (guarantees_atomic fun w => AttachFrame.refl w) fun f => ?_
      rcases f with _ | f
      · exact guarantees_pure _
      · exact guarantees_atomic fun w => AttachFrame.refl w
    · exact guarantees_pure _
  · exact guarantees_pure _

theorem applyReply_attachFrame (h : Handler) (v : Option PropValue) :
    Guarantees (AttachFrame win) (applyReply win h v) := by
  rcases applyReply_shape win h v with ⟨f, hf, hb⟩ | ⟨t, ht⟩ | hp
  · rw [hf]; exact locked_attachFrame win fun b => by rw [hb]
  · rw [ht]; exact isTransientFor_attachFrame win t
  · rw [hp]; exact guarantees_pure _

theorem issueReads_attachFrame (hs : List (Atom × Handler)) :
    Guarantees (AttachFrame win) (issueReads win hs) := by
  induction hs with
  | nil => exact guarantees_pure _
  | cons e hs ih =>
    exact guarantees_bind (readProperty_attachFrame win _) fun _ =>
      guarantees_bind ih fun _ => guarantees_pure _

theorem processReplies_attachFrame (replies : List (Handler × Option PropValue)) :
    Guarantees (AttachFrame win) (processReplies win replies) := by
  induction replies with
  | nil => exact guarantees_pure _
  | cons e rest ih => exact guarantees_bind (applyReply_attachFrame win _ _) fun _ => ih

theorem attachBegin_attachFrame (wl : WlSurface) (o : ObserverId) (w : World) :
    AttachFrame win w (attachBegin win wl o w).2 := by
  unfold attachBegin
  dsimp only
  split
  · exact AttachFrame.refl w
  · split
    · exact AttachFrame.refl w
    · exact ⟨fun _ hu => w.setBridge_bridges_ne win _ hu, ⟨[], rfl, nofun⟩,
        by simp [World.setRefs], fun _ _ => rfl, le_rfl⟩

/-! ## The reads and replies of an attach -/

/-- Replies processed to the end, in order: only the window's bridge changes, its attributes as
the replies ask one after another. -/
theorem processReplies_ok (replies : List (Handler × Option PropValue)) {w w' : World}
    (h : (processReplies win replies).run w = (.ok (), w')) :
    w' = w.setBridge win (w'.bridges win) ∧
      (w'.bridges win).attrs = replies.foldl (fun x r => replyAttrs r.1 r.2 x) (w.bridges win).attrs ∧
      (w'.bridges win).weakSceneSurface = (w.bridges win).weakSceneSurface := by
  induction replies generalizing w with
  | nil => cases h; simp
  | cons r rest ih =>
    obtain ⟨hd, v⟩ := r
    simp only [processReplies] at h
    obtain ⟨b, hb, ha, hs⟩ := applyReply_run win hd v w
    rw [Prog.run_bind_ok hb] at h
    obtain ⟨e₁, a₁, s₁⟩ := ih h
    simp only [World.setBridge_bridges_self] at a₁ s₁
    refine ⟨?_, by rw [a₁, List.foldl_cons, ha], s₁.trans hs⟩
    calc w' = (w.setBridge win b).setBridge win (w'.bridges win) := e₁
      _ = w.setBridge win (w'.bridges win) := by simp

/-- Phase one of every read: the requests go out in order, each reply carrying the property's
value now. -/
theorem issueReads_run (hs : List (Atom × Handler)) (w : World) :
    (issueReads win hs).run w = (.ok (hs.map fun e => (e.2, w.props win e.1)),
      { w with reads := (hs.map fun e => (win, e.1, w.props win e.1)).reverse ++ w.reads }) := by
  induction hs generalizing w with
  | nil => rfl
  | cons e hs ih =>
    obtain ⟨atom, h⟩ := e
    simp only [issueReads, readProperty, Prog.run_atomic_bind]
    rw [Prog.run_bind, ih]
    simp

variable (a : Atoms)

/-- What an attach's block of reads carries: the newest `WM_CLASS` string is its `WM_CLASS`
value's, and the newest title its `_NET_WM_NAME` value's, else its `WM_NAME` value's, for
`_NET_WM_NAME` is read after `WM_NAME`. -/
theorem attachReads_newest (p : Atom → Option PropValue) :
    newestString (attachReads a win p) win [xcbAtomWmClass] = PropValue.stringValue (p xcbAtomWmClass) ∧
      newestString (attachReads a win p) win [xcbAtomWmName, a.netWmName] =
        (PropValue.stringValue (p a.netWmName)).or (PropValue.stringValue (p xcbAtomWmName)) := by
  obtain ⟨n₁, n₂, n₃, p₁, p₂, p₃⟩ := interned_ne a
  have np := a.netWmName_ne_wmProtocols
  have c₁ : xcbAtomWmTransientFor ≠ xcbAtomWmClass := by decide
  have c₂ : xcbAtomWmName ≠ xcbAtomWmClass := by decide
  have c₃ : xcbAtomWmTransientFor ≠ xcbAtomWmName := by decide
  unfold attachReads propertyHandlers
  split <;> simp [newestString_cons, n₁, n₂, n₃, n₁.symm, n₂.symm, n₃.symm, p₁, p₂, p₃, np,
    np.symm, c₁, c₂, c₃, c₂.symm]

/-- After an attach's block of reads, the latest `WM_PROTOCOLS` read is the block's. -/
theorem attachReads_latestProtocols (p : Atom → Option PropValue) {w : World}
    {earlier : List (Window × Atom × Option PropValue)} (h : w.reads = attachReads a win p ++ earlier) :
    w.latestProtocols win a = some (PropValue.protocolsValue (p a.wmProtocols)) := by
  obtain ⟨-, -, -, p₁, p₂, p₃⟩ := interned_ne a
  have np := a.netWmName_ne_wmProtocols
  simp only [latestProtocols, latestRead, h]
  unfold attachReads propertyHandlers
  split <;> simp [p₁, p₂, p₃, np, p₁.symm, p₂.symm, p₃.symm]

/-- An attach's replies, in the table's order, leave the last `WM_CLASS`, the `_NET_WM_NAME`
(else the `WM_NAME`) and the `WM_PROTOCOLS` value. -/
theorem attachReplies_attrs (w : World) (x : Option String × Option String × Finset Atom) :
    ((propertyHandlers a).map fun e => (e.2, w.props win e.1)).foldl
        (fun x r => replyAttrs r.1 r.2 x) x =
      ((PropValue.stringValue (w.props win xcbAtomWmClass)).or x.1,
       (PropValue.stringValue (w.props win a.netWmName)).or
         ((PropValue.stringValue (w.props win xcbAtomWmName)).or x.2.1),
       PropValue.protocolsValue (w.props win a.wmProtocols)) := by
  unfold propertyHandlers
  split <;> simp [replyAttrs]

/-- The first lock section of an attach returns only for a window without a live surface. -/
theorem attachBegin_ok {wl : WlSurface} {o : ObserverId} {w : World}
    {x : WindowState × SessionId × SurfaceCreationParameters}
    (h : (attachBegin win wl o w).1 = .ok x) : w.sceneSurfaceOf win = none := by
  unfold attachBegin at h
  dsimp only at h
  split at h
  · cases h
  · rename_i hc
    simp only [Bool.or_eq_true, not_or, Option.isSome_iff_exists, not_exists] at hc
    exact Option.eq_none_iff_forall_not_mem.mpr hc.2

/-- The first lock section of an attach makes parameters with no application id or title, and
leaves the pending specification alone. -/
theorem attachBegin_params {wl : WlSurface} {o : ObserverId} {w : World}
    {x : WindowState × SessionId × SurfaceCreationParameters}
    (h : (attachBegin win wl o w).1 = .ok x) :
    (x.2.2.applicationId = none ∧ x.2.2.name = none) ∧
      ((attachBegin win wl o w).2.bridges win).nullablePendingSpec =
        (w.bridges win).nullablePendingSpec := by
  unfold attachBegin at h ⊢
  dsimp only at h ⊢
  split at h
  · cases h
  · rename_i hc
    rw [if_neg hc]
    rcases hs : wl.session with _ | session <;> rw [hs] at h
    · cases h
    · cases h
      exact ⟨⟨rfl, rfl⟩, by simp [World.setRefs]⟩

end XWaylandSurface

namespace XWaylandSurface

variable (a : Atoms) (win : Window)

open Section

/-- **An attach publishes its surface with the application id and title of its own reads and
the protocols of the latest**, starting with no pending specification, from parameters with no
application id or title; one that throws publishes nothing, and every other bridge's attributes
stand. -/
theorem attachRest_triple_attrs (o : ObserverId) (state : WindowState) (session : SessionId)
    (params : SurfaceCreationParameters)
    (hparams : params.applicationId = none ∧ params.name = none) :
    Triple (fun w => AttachBase a win w ∧ (w.bridges win).nullablePendingSpec = none)
      (attachRest a win o (state, session, params))
      (fun _ w => ∀ v, AttributesAgree a w v) (fun w => ∀ v, AttributesAgree a w v) := by
  have frame {α : Type} {p : Prog World α} (h : Guarantees (AttachFrame win) p) (w : World) :
      AttachFrame win w (p.run w).2 :=
    h.run AttachFrame.refl (fun _ _ _ => AttachFrame.trans) w
  -- after the surface is created: its titles agree with the reads, while it stays live
  have keepLive {α : Type} {p : Prog World α} (id : SurfaceId) (h₁ : Guarantees (AttachFrame win) p)
      (h₂ : Guarantees AttrFrame p) :
      Triple (fun w => (AttachBase a win w ∧ (w.bridges win).nullablePendingSpec = none) ∧
          ∀ t, w.shell.titles id = some t → ReadsAgree a w win t) p
        (fun _ w => (AttachBase a win w ∧ (w.bridges win).nullablePendingSpec = none) ∧
          ∀ t, w.shell.titles id = some t → ReadsAgree a w win t)
        (fun w => AttachBase a win w ∧ (w.bridges win).nullablePendingSpec = none) := by
    refine triple_weaken (Keeps.triple fun w ⟨⟨hb, hp⟩, hr⟩ => ?_) (fun _ h => h) (fun _ _ h => h)
      fun _ h => h.1
    have hf := h₂.run AttrFrame.refl (fun _ _ _ => AttrFrame.trans) w
    refine ⟨⟨hb.of_frame (frame h₁ w), (hf.pending win).trans hp⟩, fun t ht => ?_⟩
    rcases hf.titles id with e | e <;> rw [e] at ht
    · exact (hr t ht).of_eq hf.reads (hf.protocols win)
    · cases ht
  refine triple_weaken (E := fun w => AttachBase a win w ∧ (w.bridges win).nullablePendingSpec = none)
    ?_ (fun _ h => h) (fun _ _ h => h) fun _ h => h.1.attributesAgree h.2
  -- the reads go out
  refine triple_bind (R := fun replies w =>
      (AttachBase a win w ∧ (w.bridges win).nullablePendingSpec = none) ∧
      replies = (propertyHandlers a).map (fun e => (e.2, w.props win e.1)) ∧
      ∃ earlier, w.reads = attachReads a win (w.props win) ++ earlier)
    (fun w ⟨hb, hp⟩ => ?_) fun replies => ?_
  · have hf := frame (issueReads_attachFrame win (propertyHandlers a)) w
    rw [issueReads_run] at hf ⊢
    exact ⟨⟨hb.of_frame hf, hp⟩, rfl, w.reads, rfl⟩
  -- the replies fill the pending specification and the protocols
  refine triple_bind (R := fun _ w => AttachBase a win w ∧
      (∃ p earlier, w.reads = attachReads a win p ++ earlier ∧
        (w.bridges win).pendingSpec.applicationId =
          newestString (attachReads a win p) win [xcbAtomWmClass] ∧
        (w.bridges win).pendingSpec.name =
          newestString (attachReads a win p) win [xcbAtomWmName, a.netWmName]) ∧
      w.latestProtocols win a = some (w.bridges win).cached.supportedWmProtocols)
    (fun w ⟨⟨hb, hp⟩, hrep, earlier, hreads⟩ => ?_) fun _ => ?_
  · subst hrep
    have hf := frame (processReplies_attachFrame win
      ((propertyHandlers a).map fun e => (e.2, w.props win e.1))) w
    obtain ⟨_, hok⟩ := processReplies_returns win
      ((propertyHandlers a).map fun e => (e.2, w.props win e.1)) w
    rcases hr : (processReplies win ((propertyHandlers a).map fun e => (e.2, w.props win e.1))).run w
      with ⟨_ | _, w'⟩ <;> rw [hr] at hf hok ⊢
    · cases hok
    obtain ⟨e, ha, -⟩ := processReplies_ok win _ hr
    have hp' : (w.bridges win).pendingSpec = {} := by simp [pendingSpec, hp]
    rw [attachReplies_attrs] at ha
    simp only [attrs, hp', Prod.mk.injEq] at ha
    have hr' : w'.reads = w.reads := by rw [e]; rfl
    obtain ⟨n₁, n₂⟩ := attachReads_newest win a (w.props win)
    refine ⟨hb.of_frame hf, ⟨w.props win, earlier, hr'.trans hreads, ?_, ?_⟩, ?_⟩
    · rw [n₁]; simpa using ha.1
    · rw [n₂]; simpa using ha.2.1
    · rw [attachReads_latestProtocols win a _ (hr'.trans hreads), ha.2.2]
  -- the specification is consumed into the parameters
  refine triple_bind (R := fun params' w =>
      (AttachBase a win w ∧ (w.bridges win).nullablePendingSpec = none) ∧
      ReadsAgree a w win (params'.applicationId.getD "", params'.name.getD ""))
    (triple_atomic fun w ⟨hb, ⟨p, earlier, hreads, happ, hname⟩, hprot⟩ =>
      ⟨⟨hb.of_frame (attachFrame_setBridge w rfl), by simp⟩,
        ⟨attachReads a win p, earlier, hreads, ⟨[], p, rfl⟩, ?_⟩,
        by simpa [latestProtocols, latestRead] using hprot⟩)
    fun params' => ?_
  · rw [← happ, ← hname]
    rcases hq : (w.bridges win).nullablePendingSpec with _ | spec
    · simp [pendingSpec, hq, hparams]
    · simp only [pendingSpec, hq, Option.getD_some, SurfaceCreationParameters.updateFrom, hparams]
      cases spec.applicationId <;> cases spec.name <;> rfl
  -- the surface is created with them
  refine triple_bind (R := fun id w =>
      (AttachBase a win w ∧ (w.bridges win).nullablePendingSpec = none) ∧
      ∀ t, w.shell.titles id = some t → ReadsAgree a w win t)
    (triple_atomicE fun w ⟨⟨hb, hp⟩, hra⟩ => ?_) fun id => ?_
  · split
    · exact ⟨hb, hp⟩
    · refine ⟨⟨hb.of_frame ⟨fun _ _ => rfl, ⟨[], rfl, nofun⟩, rfl,
        fun j hj => w.shell.titles_create_ne (Nat.ne_of_lt hj), Nat.le_succ _⟩, hp⟩, fun t ht => ?_⟩
      simp only [World.setRefs, w.shell.titles_create_self, Option.some.injEq] at ht
      subst ht
      exact hra.of_eq rfl rfl
  -- the state, the geometry read and the configure leave them
  refine triple_bind (keepLive id (informClientOfWindowState_attachFrame a win state)
    (informClientOfWindowState_attrFrame a win state)) fun _ => ?_
  refine triple_bind (keepLive id (guarantees_atomic fun _ => AttachFrame.refl _)
    (surface_attrFrame _ _)) fun _ => ?_
  refine triple_bind (keepLive id (guarantees_atomicE fun _ => by
      split <;> exact AttachFrame.of_eq rfl rfl rfl) (configureWindow_attrFrame win _ _ _ _))
    fun _ => ?_
  -- the surface is published
  refine triple_atomic fun w ⟨⟨hb, hp⟩, hr⟩ v => ?_
  by_cases hv : v = win
  · subst hv
    refine ⟨by simpa using hp, fun j t hj ht => ?_⟩
    simp only [World.setBridge_bridges_self, Option.some.injEq] at hj
    subst hj
    exact (hr t ht).of_eq rfl (by simp)
  · exact (hb.others v hv).of_ne (World.setBridge_bridges_ne _ _ _ hv) (l := []) nofun rfl
      fun _ _ => rfl

/-- **`attach_wl_surface` keeps every bridge's attributes in agreement with the reads**, in a
world where each published surface belongs to one bridge. -/
theorem attachWlSurface_attributesAgree (wl : WlSurface) {w : World} (ho : SurfacesOwned w)
    (hw : ∀ v, AttributesAgree a w v) (v : Window) :
    AttributesAgree a ((attachWlSurface a win wl).run w).2 v := by
  have release (w' : World) : AttrFrame w' ((releaseObserver w.nextObserver).run w').2 :=
    AttrFrame.of_eq rfl rfl rfl
  rw [attachWlSurface_run]
  apply AttributesAgree.of_frame _ (release _)
  simp only [attachBody, Prog.run_atomicE_bind]
  have ho₁ : SurfacesOwned (makeObserver.run w).2 := ⟨ho.issued, ho.unique⟩
  have hw₁ (v : Window) : AttributesAgree a (makeObserver.run w).2 v :=
    (hw v).of_frame (AttrFrame.of_eq rfl rfl rfl)
  generalize (makeObserver.run w).2 = w₁ at ho₁ hw₁ ⊢
  rcases attachBegin_cases win wl w.nextObserver w₁ with ⟨e, he, -, hw'⟩ | ⟨x, session, hx, -, -⟩
  · rw [he]
    dsimp only
    rw [hw']
    exact hw₁ v
  · rw [hx]
    have hnone := attachBegin_ok win hx
    obtain ⟨hparams, hpend⟩ := attachBegin_params win hx
    obtain ⟨state, session', params⟩ := x
    have hb : AttachBase a win w₁ := by
      refine ⟨ho₁, fun j hj => ?_, fun v _ => hw₁ v⟩
      simp only [World.sceneSurfaceOf, hj, Option.some_bind] at hnone
      exact w₁.shell.titles_eq_none_of_lock hnone
    have := attachRest_triple_attrs a win w.nextObserver state session' params hparams _
      ⟨hb.of_frame (attachBegin_attachFrame win wl w.nextObserver w₁), hpend.trans (hw₁ win).pending⟩
    exact (outcome_const _).mp this v

end XWaylandSurface

/-! ## Serial runs -/

namespace Call

open XWaylandSurface

variable (a : Atoms)

/-- The calls that read no property: all but a create, a property notify and an attach. -/
theorem prog_attrFrame (c : Call) (h₁ : ∀ win ev, c ≠ create win ev)
    (h₂ : ∀ win property, c ≠ propertyNotify win property)
    (h₃ : ∀ win wl, c ≠ attachWlSurface win wl) : Guarantees AttrFrame (c.prog a) := by
  cases c with
  | create win ev => exact absurd rfl (h₁ win ev)
  | map win => exact map_attrFrame a win
  | close win => exact close_attrFrame a win
  | takeFocus win => exact takeFocus_attrFrame a win
  | configureRequest win ev => exact configureRequest_attrFrame win ev
  | configureNotify win ev => exact configureNotify_attrFrame win ev
  | netWmStateClientMessage win data => exact netWmStateClientMessage_attrFrame a win data
  | wmChangeStateClientMessage win data => exact wmChangeStateClientMessage_attrFrame a win data
  | propertyNotify win property => exact absurd rfl (h₂ win property)
  | attachWlSurface win wl => exact absurd rfl (h₃ win wl)
  | moveResize win detail => exact moveResize_attrFrame win detail
  | sceneSurfaceFocusSet win hasFocus => exact sceneSurfaceFocusSet_attrFrame win hasFocus
  | sceneSurfaceStateSet win newState => exact sceneSurfaceStateSet_attrFrame a win newState
  | sceneSurfaceResized win newSize => exact Section.configureWindow_attrFrame win _ _ _ _
  | sceneSurfaceMovedTo win newTopLeft => exact sceneSurfaceMovedTo_attrFrame win newTopLeft
  | sceneSurfaceCloseRequested win => exact sceneSurfaceCloseRequested_attrFrame a win
  | wlSurfaceDestroyed win => exact close_attrFrame a win
  | clientProperty win property value =>
    exact guarantees_atomic fun _ => AttrFrame.of_eq rfl rfl rfl

theorem perform_attributesAgree (c : Call) {w : World} (ho : SurfacesOwned w)
    (h : ∀ v, AttributesAgree a w v) (v : Window) : AttributesAgree a (c.perform a w) v := by
  by_cases hc : (∃ win ev, c = create win ev) ∨ (∃ win property, c = propertyNotify win property) ∨
      ∃ win wl, c = attachWlSurface win wl
  · rcases hc with ⟨win, ev, rfl⟩ | ⟨win, property, rfl⟩ | ⟨win, wl, rfl⟩
    · -- a create enters the window and makes a bridge with no surface and nothing pending
      rw [perform_create]
      split
      · exact h v
      · simp only [construct, Section.locked, Section.send, Prog.run_atomic_bind, Prog.run_atomic]
        by_cases hv : v = win
        · subst hv
          exact ⟨by simp [ofCreateNotify], fun j t hj => by simp [ofCreateNotify] at hj⟩
        · exact (h v).of_ne (by simp [World.setBridge_bridges_ne _ _ _ hv]) (l := []) nofun rfl
            fun _ _ => rfl
    · unfold perform
      split
      · exact propertyNotify_attributesAgree a win property ho h v
      · exact h v
    · unfold perform
      split
      · exact attachWlSurface_attributesAgree a win wl ho h v
      · exact h v
  · push_neg at hc
    unfold perform
    split
    · exact (h v).of_frame ((c.prog_attrFrame a hc.1 hc.2.1 hc.2.2).run AttrFrame.refl
        (fun _ _ _ => AttrFrame.trans) w)
    · exact h v

end Call

/-- Window 1 attached with the title "editor", closed, its title deleted, and attached again. -/
def reattachUntitled : List Call :=
  [.create 1 ⟨0, 0, 10, 10, false⟩, .clientProperty 1 xcbAtomWmName (some (.string "editor")),
    .attachWlSurface 1 ⟨some 7⟩, .wlSurfaceDestroyed 1, .clientProperty 1 xcbAtomWmName none,
    .attachWlSurface 1 ⟨some 7⟩]

set_option maxRecDepth 4000 in
/-- There the newest title read carried "editor", but the second surface has the empty title:
no read since its attach carried one. -/
example : newestString (serialRun Atoms.fresh {} reattachUntitled).reads 1
      [xcbAtomWmName, Atoms.fresh.netWmName] = some "editor" ∧
    (serialRun Atoms.fresh {} reattachUntitled).sceneSurfaceOf 1 = some 1 ∧
    ((serialRun Atoms.fresh {} reattachUntitled).shell.surfaces 1).map (·.name) = some "" := by
  decide

end XWaylandBridge
