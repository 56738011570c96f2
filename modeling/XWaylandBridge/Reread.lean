import XWaylandBridge.CompositorRequests

/-!
# A property read twice

`property_notify` reads the property it is told about, hands the reply to the property's
handler, and applies what the handler left in the pending specification, less what the surface
already shows (the no-op filter). Clients set properties to the values they have, and one
change can be notified twice; what the bridge does then is the subject here.

**What is proved.** For every world and every property but `WM_TRANSIENT_FOR`, a second
`property_notify` right after the first changes nothing but the connection's log of reads
(`propertyNotify_reread`). The reply writes back what the first left: the protocols it cached,
or an application id or title into a specification the first consumed. The filter then drops
that application id or title, since the first gave it to the surface, and the shell is asked
nothing.

**What this does not decide.** `WM_TRANSIENT_FOR`: its handler adds a position to the pending
specification, which the filter does not compare, so every read of it asks the shell again
(`Position.lean`). Nor a client's write between the two reads, after which the second reads a
new value.
-/

set_option autoImplicit false

namespace XWaylandBridge

/-- A live surface's application id and title, as the shell keeps them. -/
theorem Shell.surfaces_of_titles {sh : Shell} {id : SurfaceId} {p : String × String}
    (h : sh.titles id = some p) : ∃ s, sh.surfaces id = some s ∧ (s.applicationId, s.name) = p := by
  obtain ⟨s, hs, h⟩ := Option.bind_eq_some.mp h
  split_ifs at h
  exact ⟨s, hs, Option.some.inj h⟩

namespace XWaylandSurface

variable (a : Atoms) (win : Window)

open Prog World Section

/-- The reply of every handler but `WM_TRANSIENT_FOR`: an application id or a title into the
pending specification, the protocols into the cache, or nothing. -/
theorem applyReply_cases {h : Handler} (hh : h ≠ .wmTransientFor) (v : Option PropValue) :
    (∃ x y : Option String, applyReply win h v = locked win fun b =>
      ((), b.withPendingSpec fun s => { s with applicationId := x.or s.applicationId, name := y.or s.name })) ∨
    (∃ P, applyReply win h v =
      locked win fun b => ((), { b with cached := { b.cached with supportedWmProtocols := P } })) ∨
    applyReply win h v = pure () := by
  unfold applyReply
  split <;> first
    | exact absurd rfl hh
    | exact .inl ⟨some _, none, rfl⟩
    | exact .inl ⟨none, some _, rfl⟩
    | exact .inr (.inl ⟨_, rfl⟩)
    | exact .inr (.inr rfl)

/-- With no pending specification, its application changes nothing. -/
theorem applyPendingSpec_none {w : World} (hp : (w.bridges win).nullablePendingSpec = none) :
    ((applyPendingSpec win).run w).2 = w := by
  have hb : { w.bridges win with nullablePendingSpec := none } = w.bridges win := by rw [← hp]
  simp only [applyPendingSpec, run_atomic_bind, hp, hb, setBridge_same]
  rfl

/-- A specification made on a bridge with none pending, then consumed, leaves the bridge as it
was. -/
theorem withPendingSpec_consumed {b : XWaylandSurface} (hp : b.nullablePendingSpec = none)
    (f : SurfaceSpecification → SurfaceSpecification) :
    { b.withPendingSpec f with nullablePendingSpec := none } = b := by
  rw [← hp]
  rfl

/-- A pending specification the filter empties is consumed, and the shell is asked nothing. -/
theorem applyPendingSpec_filtered {w : World} {spec : SurfaceSpecification}
    (hp : (w.bridges win).nullablePendingSpec = some spec)
    (hs : ∀ id, w.sceneSurfaceOf win = some id →
      ∃ s, w.shell.surfaces id = some s ∧ dropUnchanged w.shell s spec = {}) :
    ((applyPendingSpec win).run w).2 = w.setBridge win { w.bridges win with nullablePendingSpec := none } := by
  simp only [applyPendingSpec, run_atomic_bind, hp]
  rcases hid : w.sceneSurfaceOf win with _ | id
  · rfl
  · obtain ⟨s, hsid, hd⟩ := hs id hid
    simp [hsid, hd, SurfaceSpecification.isEmpty]

/-- A surface that shows the application id and the title a reply carries keeps nothing of
the reply's specification through the filter. -/
theorem dropUnchanged_reply (sh : Shell) (s : SceneSurface) {x y : Option String}
    (hx : ∀ t, x = some t → s.applicationId = t) (hy : ∀ t, y = some t → s.name = t) :
    dropUnchanged sh s { applicationId := x, name := y } = {} := by
  rcases x with _ | x <;> rcases y with _ | y
  · simp [dropUnchanged]
  · simp [dropUnchanged, hy _ rfl]
  · simp [dropUnchanged, hx _ rfl]
  · simp [dropUnchanged, hx _ rfl, hy _ rfl]

/-- After a reply that puts an application id `x` or a title `y` into the pending specification,
and the specification applied: none is pending, and the live surface shows `x` and `y`. -/
theorem titleReply_shown (x y : Option String) {w w₁ : World}
    (hw₁ : ((locked win (fun b => ((), b.withPendingSpec fun s =>
      { s with applicationId := x.or s.applicationId, name := y.or s.name })) >>= fun _ =>
        applyPendingSpec win).run w).2 = w₁) :
    (w₁.bridges win).nullablePendingSpec = none ∧ ∀ id, w₁.sceneSurfaceOf win = some id →
      ∃ s, w₁.shell.surfaces id = some s ∧ (∀ t, x = some t → s.applicationId = t) ∧
        ∀ t, y = some t → s.name = t := by
  simp only [locked, run_atomic_bind] at hw₁
  obtain ⟨sh, h₁, -, h₃, h₄⟩ := applyPendingSpec_run win (w.setBridge win ((w.bridges win).withPendingSpec
    fun s => { s with applicationId := x.or s.applicationId, name := y.or s.name }))
  rw [h₁] at hw₁
  subst hw₁
  simp only [setBridge_bridges_self, setBridge_shell] at h₃ h₄ ⊢
  refine ⟨trivial, fun id hid => ?_⟩
  have hweak : (w.bridges win).weakSceneSurface = some id := by
    simpa using weakSceneSurface_of_sceneSurfaceOf hid
  obtain ⟨t₁, ht₁⟩ := Shell.titles_of_lock (lock_of_sceneSurfaceOf hid)
  obtain ⟨t, ht⟩ : ∃ t, w.shell.titles id = some t :=
    Option.ne_none_iff_exists'.mp fun hn => by simp [h₃ id hn] at ht₁
  obtain ⟨s, hs, hp⟩ := Shell.surfaces_of_titles (h₄ id t hweak ht)
  refine ⟨s, hs, fun a ha => ?_, fun a ha => ?_⟩
  · simpa [ha, pendingSpec, withPendingSpec] using congrArg Prod.fst hp
  · simpa [ha, pendingSpec, withPendingSpec] using congrArg Prod.snd hp

/-- **A property notified twice is read twice and applied once**: for every world and every
property but `WM_TRANSIENT_FOR`, a second `property_notify` of the property right after the
first changes nothing but the connection's log of reads. -/
theorem propertyNotify_reread (w : World) {property : Atom} (ht : property ≠ xcbAtomWmTransientFor) :
    ∃ reads, ((propertyNotify a win property).run ((propertyNotify a win property).run w).2).2 =
      { ((propertyNotify a win property).run w).2 with reads := reads } := by
  rcases hl : (propertyHandlers a).lookup property with _ | h
  · exact ⟨w.reads, by simp [propertyNotify, hl]⟩
  have hh : h ≠ .wmTransientFor := fun hh => ht ((atom_of_lookup hl).trans (by rw [hh]; rfl))
  -- a run: the read, then the reply and the pending specification, on the value read
  have hrun (x : World) : (propertyNotify a win property).run x =
      (applyReply win h (x.props win property) >>= fun _ => applyPendingSpec win).run
        { x with reads := (win, property, x.props win property) :: x.reads } := by
    simp only [propertyNotify, hl, readProperty, run_atomic_bind]
  have hprops : ((propertyNotify a win property).run w).2.props win property = w.props win property := by
    rw [((propertyNotify_quiet a win property).run Quiet.refl (fun _ _ _ => Quiet.trans) w).props]
  generalize hw₁ : ((propertyNotify a win property).run w).2 = w₁ at hprops ⊢
  rw [hrun w] at hw₁
  rw [hrun w₁, hprops]
  generalize hv : w.props win property = v at hw₁ ⊢
  generalize hw' : { w with reads := (win, property, v) :: w.reads } = w' at hw₁
  rcases applyReply_cases win hh v with ⟨x, y, hr⟩ | ⟨P, hr⟩ | hr
  · -- an application id or a title: the first run gave it to the surface, and the filter drops it
    rw [hr] at hw₁ ⊢
    obtain ⟨hp, hs⟩ := titleReply_shown win x y hw₁
    refine ⟨(win, property, v) :: w₁.reads, ?_⟩
    simp only [locked, run_atomic_bind]
    rw [applyPendingSpec_filtered win (show _ = some ({ applicationId := x, name := y } : SurfaceSpecification)
      by simp [withPendingSpec, pendingSpec, hp])]
    · simp only [setBridge_setBridge, setBridge_bridges_self, withPendingSpec_consumed hp]
      exact setBridge_same _ _
    · intro id hid
      obtain ⟨s, hs', hx, hy⟩ := hs id (by simpa [sceneSurfaceOf] using hid)
      exact ⟨s, by simpa using hs', dropUnchanged_reply _ s hx hy⟩
  · -- the protocols: the first run cached them, and left no pending specification
    rw [hr] at hw₁ ⊢
    simp only [locked, run_atomic_bind] at hw₁ ⊢
    obtain ⟨sh, h₁, -⟩ := applyPendingSpec_run win (w'.setBridge win { w'.bridges win with
      cached := { (w'.bridges win).cached with supportedWmProtocols := P } })
    rw [h₁] at hw₁
    have hp : (w₁.bridges win).nullablePendingSpec = none := by rw [← hw₁]; simp
    have hP : (w₁.bridges win).cached.supportedWmProtocols = P := by rw [← hw₁]; simp
    have hb : { w₁.bridges win with cached := { (w₁.bridges win).cached with supportedWmProtocols := P } } =
        w₁.bridges win := by rw [← hP]
    refine ⟨(win, property, v) :: w₁.reads, ?_⟩
    rw [hb, show ∀ r, ({ w₁ with reads := r } : World).setBridge win (w₁.bridges win) = { w₁ with reads := r }
      from fun r => setBridge_same _ _]
    exact applyPendingSpec_none (w := { w₁ with reads := _ }) win hp
  · -- nothing to reply: the first run left no pending specification
    rw [hr, Prog.pure_bind] at hw₁ ⊢
    obtain ⟨sh, h₁, -⟩ := applyPendingSpec_run win w'
    rw [h₁] at hw₁
    subst hw₁
    exact ⟨_, applyPendingSpec_none win (by simp)⟩

/-- Window 1 of `declaredDelete`, attached, has its `WM_NAME` notified twice. -/
theorem propertyNotify_reread_declaredDelete : xcbAtomWmName ≠ xcbAtomWmTransientFor ∧
    ∃ reads, ((propertyNotify Atoms.fresh 1 xcbAtomWmName).run
        ((propertyNotify Atoms.fresh 1 xcbAtomWmName).run declaredDelete).2).2 =
      { ((propertyNotify Atoms.fresh 1 xcbAtomWmName).run declaredDelete).2 with reads := reads } :=
  ⟨by decide, propertyNotify_reread Atoms.fresh 1 declaredDelete (by decide)⟩

end XWaylandSurface

end XWaylandBridge
