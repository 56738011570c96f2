import XWaylandBridge.Runs

/-!
# The no-op filter of `property_notify`

After a handler has run, `property_notify` consumes the pending specification and drops the
fields that already match the attached surface before it asks the shell to modify anything;
an empty result is not submitted. The filter compares three fields: the application id, the
name and the parent, and drops each exactly when it matches (`dropUnchanged_matching`). Every
other field passes it untouched (`dropUnchanged_others`).

`is_transient_for` writes more than the parent: through `set_position` it always sets the
top-left, or the aux rect with its placement fields. So a set top-left always survives the
filter (`dropUnchanged_isEmpty_of_topLeft`), and a `WM_TRANSIENT_FOR` notification that
changes nothing at all still reaches `modify_surface`
(`transient_notify_submits_noop`). `configure_request`, the other path that positions an
attached surface, compares the old and new positions before it calls `set_position`.

The filter is sound, though: against the end of `property_notify` without it
(`applyPendingSpecUnfiltered`), every surface shows the same fields afterwards, its parent
taken as the surface the reference locks to, and nothing but the shell's log differs
(`applyPendingSpec_sound`). A dropped parent names the same live surface as the one the surface
has, so the position an aux rect gives is the same too.
-/

set_option autoImplicit false

namespace XWaylandBridge

variable (sh : Shell) (s : SceneSurface) (spec : SurfaceSpecification)

/-- **The filter looks at three fields only**: with those three put back, the filtered
specification is the consumed one. -/
theorem dropUnchanged_others :
    { dropUnchanged sh s spec with
      applicationId := spec.applicationId, name := spec.name, parent := spec.parent } = spec := rfl

/-- Of those three, it drops exactly the ones that match the surface. -/
theorem dropUnchanged_matching :
    (dropUnchanged sh s spec).applicationId ≠ some s.applicationId ∧
    (dropUnchanged sh s spec).name ≠ some s.name ∧
    ∀ p, (dropUnchanged sh s spec).parent = some p → p.bind sh.lock ≠ s.parent.bind sh.lock := by
  refine ⟨?_, ?_, fun p hp => ?_⟩
  · simp only [dropUnchanged]; split <;> simp_all
  · simp only [dropUnchanged]; split <;> simp_all
  · simp only [dropUnchanged] at hp
    rcases hq : spec.parent with _ | q <;> simp only [hq] at hp
    · cases hp
    · split at hp <;> simp_all

/-- A specification with a top-left is never filtered down to nothing, whatever the surface's
own top-left is. -/
theorem dropUnchanged_isEmpty_of_topLeft (h : spec.topLeft.isSome) :
    (dropUnchanged sh s spec).isEmpty = false := by
  have : (dropUnchanged sh s spec).topLeft = spec.topLeft := rfl
  obtain ⟨t, ht⟩ := Option.isSome_iff_exists.mp h
  simp only [SurfaceSpecification.isEmpty, decide_eq_false_iff_not]
  intro he
  rw [he, ht] at this
  cases this

/-! ## The filter never changes a surface -/

namespace Shell

variable (sh : Shell)

/-- Surface `id` as it shows: its fields, with the parent reference taken as the surface it
locks to. -/
def shown (id : SurfaceId) : Option SceneSurface :=
  (sh.surfaces id).map fun s => { s with parent := s.parent.bind sh.lock }

theorem live_eq (x : Option SurfaceId) : sh.live x = (x.bind sh.lock).bind sh.surfaces := by
  rw [live, Option.bind_assoc]

@[simp] theorem placedTopLeft_none (parent : Option SceneSurface) (topLeft : Option Point) :
    placedTopLeft parent none topLeft = topLeft := by
  cases parent <;> rfl

/-- A modification changes how surface `id` shows, by the specification, and no other. -/
theorem shown_modify {id : SurfaceId} {s : SceneSurface} (hs : sh.surfaces id = some s)
    (spec : SurfaceSpecification) :
    (sh.modify id spec).shown = Function.update sh.shown id
      (some { applySpec (sh.live (spec.parent.getD s.parent)) spec s with
        parent := (spec.parent.getD s.parent).bind sh.lock }) := by
  funext j
  simp only [shown, lock_modify]
  by_cases h : j = id
  · subst h
    simp [modify, update, hs, applySpec]
  · simp [modify, update, Function.update_noteq h, shown]

/-- **The filtered specification shows the same surface as the consumed one.** -/
theorem applySpec_dropUnchanged (s : SceneSurface) (spec : SurfaceSpecification) :
    { applySpec (sh.live ((dropUnchanged sh s spec).parent.getD s.parent))
        (dropUnchanged sh s spec) s with
      parent := ((dropUnchanged sh s spec).parent.getD s.parent).bind sh.lock } =
    { applySpec (sh.live (spec.parent.getD s.parent)) spec s with
      parent := (spec.parent.getD s.parent).bind sh.lock } := by
  have hp : ((dropUnchanged sh s spec).parent.getD s.parent).bind sh.lock =
      (spec.parent.getD s.parent).bind sh.lock := by
    simp only [dropUnchanged]
    rcases spec.parent with _ | q
    · rfl
    · dsimp only
      split_ifs with h
      · exact h.symm
      · rfl
  have ha : (dropUnchanged sh s spec).applicationId.getD s.applicationId =
      spec.applicationId.getD s.applicationId := by
    simp only [dropUnchanged]
    split_ifs with h <;> simp [h]
  have hn : (dropUnchanged sh s spec).name.getD s.name = spec.name.getD s.name := by
    simp only [dropUnchanged]
    split_ifs with h <;> simp [h]
  simp only [applySpec, live_eq, hp, ha, hn]
  rfl

/-- A specification the filter empties changes how no surface shows. -/
theorem shown_modify_of_isEmpty {id : SurfaceId} {s : SceneSurface} (hs : sh.surfaces id = some s)
    {spec : SurfaceSpecification} (he : (dropUnchanged sh s spec).isEmpty = true) :
    (sh.modify id spec).shown = sh.shown := by
  have he' : dropUnchanged sh s spec = {} := of_decide_eq_true he
  rw [shown_modify sh hs, ← applySpec_dropUnchanged, he']
  refine Function.update_eq_self_iff.mpr ?_
  simp [shown, hs, applySpec]

end Shell

namespace XWaylandSurface

variable (win : Window)

open Section

/-- The end of `property_notify` without the no-op filter: the consumed specification goes to
the shell whenever it is not empty. This is not code of the source; it is what the filter is an
optimisation of. -/
def applyPendingSpecUnfiltered : Prog World Unit := do
  let (sceneSurface, spec) ← Prog.atomic fun w =>
    let b := w.bridges win
    ((w.sceneSurfaceOf win, b.nullablePendingSpec), w.setBridge win { b with nullablePendingSpec := none })
  match spec, sceneSurface with
  | some spec, some id => if !spec.isEmpty then modifySurface id spec
  | _, _ => pure ()

/-- **The no-op filter of `property_notify` is sound**: with or without it, every surface shows
the same application id, title, live parent, position, size and state afterwards, and the two
worlds differ in nothing else but the shell's log of requests. -/
theorem applyPendingSpec_sound (w : World) :
    ((applyPendingSpec win).run w).2.shell.shown =
        ((applyPendingSpecUnfiltered win).run w).2.shell.shown ∧
      { ((applyPendingSpec win).run w).2 with
        shell := { ((applyPendingSpec win).run w).2.shell with
          surfaces := ((applyPendingSpecUnfiltered win).run w).2.shell.surfaces
          log := ((applyPendingSpecUnfiltered win).run w).2.shell.log } } =
        ((applyPendingSpecUnfiltered win).run w).2 := by
  simp only [applyPendingSpec, applyPendingSpecUnfiltered, Prog.run_atomic_bind]
  generalize w.setBridge win _ = x
  rcases (w.bridges win).nullablePendingSpec with _ | spec <;>
    rcases w.sceneSurfaceOf win with _ | id
  case none.none | none.some | some.none => exact ⟨rfl, rfl⟩
  dsimp only
  rw [Prog.run_atomic_bind]
  rcases hs : x.shell.surfaces id with _ | s
  · exact ⟨rfl, rfl⟩
  dsimp only
  by_cases he' : (dropUnchanged x.shell s spec).isEmpty <;> by_cases he : spec.isEmpty <;>
    simp only [he, he', Bool.not_true, Bool.not_false, if_true, if_false, Bool.false_eq_true]
  · trivial
  · exact ⟨(x.shell.shown_modify_of_isEmpty hs he').symm, rfl⟩
  · rw [show spec = {} from of_decide_eq_true he] at he'
    exact absurd rfl he'
  · refine ⟨?_, rfl⟩
    simp only [modifySurface, Prog.run_atomic]
    rw [x.shell.shown_modify hs, x.shell.shown_modify hs, Shell.applySpec_dropUnchanged]

end XWaylandSurface

/-- A toplevel window without decorations whose cached geometry is in sync with its surface:
both at (10, 20), no transient-for parent, nothing pending. -/
def undecoratedToplevel : World where
  managed v := v = 1
  bridges _ :=
    { cached := { topLeft := ⟨10, 20⟩, size := ⟨300, 200⟩, state := { withdrawn := false } }
      weakSceneSurface := some 0, surfaceObserver := some 0, weakSession := some 0 }
  shell :=
    { surfaces := fun i => if i = 0 then some
        { session := 0, applicationId := "", name := "", parent := none, topLeft := ⟨10, 20⟩,
          contentOffset := {}, contentSize := ⟨300, 200⟩, state := .restored,
          observers := [0], destroyed := 0 } else none
      nextSurface := 1 }
  observerRefs o := if o = 0 then 2 else 0
  nextObserver := 1

set_option maxRecDepth 4000 in
/-- **A notification that changes nothing is submitted**: the surface is at (10, 20) with no
parent, `WM_TRANSIENT_FOR` is unset, and `property_notify` still asks the shell to put the
surface at (10, 20). -/
theorem transient_notify_submits_noop :
    ((XWaylandSurface.propertyNotify Atoms.fresh 1 xcbAtomWmTransientFor).run
      undecoratedToplevel).2.shell.log = [.modify 0 { topLeft := some ⟨10, 20⟩ }] ∧
    (undecoratedToplevel.shell.surfaces 0).map (fun s => (s.topLeft, s.parent)) =
      some (⟨10, 20⟩, none) := by
  decide

end XWaylandBridge
