import XWaylandBridge.Connection

/-!
# The shell — scene surfaces and the requests the bridge sends them

The compositor side of the bridge: `msh::SurfaceSpecification` (a partial modification, every
field optional), the bridge's `set_position`, `scene::SurfaceCreationParameters` with its
`update_from`, and the shell's surfaces with what `create_surface`, `modify_surface`,
`destroy_surface` and `remove_observer` do to them.

`set_position` is the bridge's own code and is translated as it stands. The rest is the shell's,
an external collaborator: **Modelled from the spec** ("create-surface(session, creation-params,
observer), destroy-surface(session, surface), modify-surface(session, surface, partial-spec)").
The shell applies every field a request sets and nothing else; a child placed by an aux rect
with north-west gravities lands at the parent's content origin plus the rect's corner
(`placedTopLeft`); a surface it creates holds the creating observer in its observer list until
`remove_observer`, and `destroy_surface` is counted per surface. A surface is live until the
shell destroys it, and a weak reference to it locks exactly while it is live.
-/

set_option autoImplicit false

namespace XWaylandBridge

/-- Identity of a `scene::Surface` (the target of the shared pointers). -/
abbrev SurfaceId := Nat

/-- Identity of a `scene::Session`. -/
abbrev SessionId := Nat

/-- Identity of an `XWaylandSurfaceObserver`. -/
abbrev ObserverId := Nat

/-- `MirPlacementGravity`. -/
inductive MirPlacementGravity where
  | center | west | east | north | south | northwest | northeast | southwest | southeast
  deriving DecidableEq, Repr

/-- `MirResizeEdge`. -/
inductive MirResizeEdge where
  | none | north | south | east | west | northeast | northwest | southeast | southwest
  deriving DecidableEq, Repr

/-- `msh::SurfaceSpecification`, the fields the bridge sets or reads. `parent` holds a weak
reference that may be set to no surface, hence the two options. -/
structure SurfaceSpecification where
  width : Option Int := none
  height : Option Int := none
  topLeft : Option Point := none
  name : Option String := none
  applicationId : Option String := none
  parent : Option (Option SurfaceId) := none
  auxRect : Option Rectangle := none
  placementHints : Option Nat := none
  surfacePlacementGravity : Option MirPlacementGravity := none
  auxRectPlacementGravity : Option MirPlacementGravity := none
  state : Option MirWindowState := none
  deriving DecidableEq, Repr

/-- `SurfaceSpecification::is_empty`: no field is set. -/
def SurfaceSpecification.isEmpty (s : SurfaceSpecification) : Bool := s = {}

/-- A scene surface as the shell holds it. -/
structure SceneSurface where
  session : SessionId
  applicationId : String
  name : String
  parent : Option SurfaceId
  topLeft : Point
  contentOffset : Displacement
  contentSize : Size
  state : MirWindowState
  /-- The observers the surface notifies, each a shared reference. -/
  observers : List ObserverId
  /-- How many times the surface was passed to `destroy_surface`. -/
  destroyed : Nat
  deriving DecidableEq, Repr

/-- `set_position`: `topLeft` is the desired global top-left of the window's decorations. With
a parent it becomes a 1×1 aux rect relative to the parent's content origin, placed north-west;
without one, the specification's top-left. -/
def setPosition (parent : Option SceneSurface) (topLeft : Point) (spec : SurfaceSpecification) :
    SurfaceSpecification :=
  match parent with
  | some p =>
    { spec with
      auxRect := some ⟨topLeft - p.topLeft.asDisplacement - p.contentOffset, ⟨1, 1⟩⟩
      placementHints := some 0
      surfacePlacementGravity := some .northwest
      auxRectPlacementGravity := some .northwest }
  | none => { spec with topLeft := some topLeft }

@[simp] theorem setPosition_parent (parent : Option SceneSurface) (topLeft : Point)
    (spec : SurfaceSpecification) : (setPosition parent topLeft spec).parent = spec.parent := by
  cases parent <;> rfl

/-- Where the shell puts a surface's decoration top-left for a request: against a parent and
an aux rect, the rect's corner from the parent's content origin; otherwise the requested
top-left, if any. -/
def placedTopLeft (parent : Option SceneSurface) (auxRect : Option Rectangle)
    (topLeft : Option Point) : Option Point :=
  match parent, auxRect with
  | some p, some r => some (p.topLeft + p.contentOffset + r.topLeft.asDisplacement)
  | _, _ => topLeft

/-- `scene::SurfaceCreationParameters`, the fields the bridge sets. -/
structure SurfaceCreationParameters where
  size : Size
  topLeft : Point
  state : MirWindowState
  serverSideDecorated : Bool
  name : Option String := none
  applicationId : Option String := none
  parent : Option (Option SurfaceId) := none
  auxRect : Option Rectangle := none
  placementHints : Option Nat := none
  surfacePlacementGravity : Option MirPlacementGravity := none
  auxRectPlacementGravity : Option MirPlacementGravity := none
  deriving DecidableEq, Repr

/-- `SurfaceCreationParameters::update_from`: every field the specification sets. -/
def SurfaceCreationParameters.updateFrom (p : SurfaceCreationParameters)
    (s : SurfaceSpecification) : SurfaceCreationParameters :=
  { p with
    size := ⟨s.width.getD p.size.width, s.height.getD p.size.height⟩
    topLeft := s.topLeft.getD p.topLeft
    state := s.state.getD p.state
    name := s.name.orElse fun _ => p.name
    applicationId := s.applicationId.orElse fun _ => p.applicationId
    parent := s.parent.orElse fun _ => p.parent
    auxRect := s.auxRect.orElse fun _ => p.auxRect
    placementHints := s.placementHints.orElse fun _ => p.placementHints
    surfacePlacementGravity := s.surfacePlacementGravity.orElse fun _ => p.surfacePlacementGravity
    auxRectPlacementGravity := s.auxRectPlacementGravity.orElse fun _ => p.auxRectPlacementGravity }

/-- A request the bridge made of the shell. -/
inductive ShellRequest where
  | create (id : SurfaceId) (params : SurfaceCreationParameters)
  | modify (id : SurfaceId) (spec : SurfaceSpecification)
  | destroy (id : SurfaceId)
  | requestMove (id : SurfaceId) (timestamp : Nat)
  | requestResize (id : SurfaceId) (timestamp : Nat) (edge : MirResizeEdge)
  deriving DecidableEq, Repr

/-- The shell: its surfaces by identity, the next identity it hands out, the content offset
of a server-side decoration, whether it refuses to create a surface, and the log of requests. -/
structure Shell where
  surfaces : SurfaceId → Option SceneSurface := fun _ => none
  nextSurface : SurfaceId := 0
  decoration : Displacement := {}
  refusesCreate : Bool := false
  log : List ShellRequest := []

namespace Shell

variable (sh : Shell)

/-- A weak reference to a surface, locked: the surface while it is live. -/
def lock (id : SurfaceId) : Option SurfaceId :=
  match sh.surfaces id with
  | some s => if s.destroyed = 0 then some id else none
  | none => none

/-- The surface behind a locked reference. -/
def live (id : Option SurfaceId) : Option SceneSurface :=
  id.bind fun i => (sh.lock i).bind sh.surfaces

/-- The shell's surface `id` changed by `f`. -/
def update (id : SurfaceId) (f : SceneSurface → SceneSurface) : Shell :=
  { sh with surfaces := Function.update sh.surfaces id ((sh.surfaces id).map f) }

/-- `create_surface`: a new surface from the parameters, holding the observer. -/
def create (session : SessionId) (params : SurfaceCreationParameters) (observer : ObserverId) :
    Shell :=
  let parent := sh.live params.parent.join
  { sh with
    surfaces := Function.update sh.surfaces sh.nextSurface (some
      { session := session
        applicationId := params.applicationId.getD ""
        name := params.name.getD ""
        parent := params.parent.join
        topLeft := (placedTopLeft parent params.auxRect (some params.topLeft)).getD params.topLeft
        contentOffset := if params.serverSideDecorated then sh.decoration else {}
        contentSize := params.size
        state := params.state
        observers := [observer]
        destroyed := 0 })
    nextSurface := sh.nextSurface + 1
    log := .create sh.nextSurface params :: sh.log }

/-- A surface modified by a specification: every field it sets. -/
def applySpec (parent : Option SceneSurface) (spec : SurfaceSpecification) (s : SceneSurface) :
    SceneSurface :=
  { s with
    applicationId := spec.applicationId.getD s.applicationId
    name := spec.name.getD s.name
    parent := spec.parent.getD s.parent
    topLeft := (placedTopLeft parent spec.auxRect spec.topLeft).getD s.topLeft
    contentSize := ⟨spec.width.getD s.contentSize.width, spec.height.getD s.contentSize.height⟩
    state := spec.state.getD s.state }

/-- `modify_surface`. The parent an aux rect is placed against is the one the specification
names, or the surface's own. -/
def modify (id : SurfaceId) (spec : SurfaceSpecification) : Shell :=
  let parent := sh.live ((spec.parent.getD ((sh.surfaces id).bind (·.parent))))
  { sh.update id (applySpec parent spec) with log := .modify id spec :: sh.log }

/-- `destroy_surface`. -/
def destroy (id : SurfaceId) : Shell :=
  { sh.update id (fun s => { s with destroyed := s.destroyed + 1 }) with
    log := .destroy id :: sh.log }

/-- `Surface::remove_observer`. -/
def removeObserver (id : SurfaceId) (o : ObserverId) : Shell :=
  sh.update id fun s => { s with observers := s.observers.erase o }

/-- A modification never makes a surface live or dead. -/
theorem lock_modify (id : SurfaceId) (spec : SurfaceSpecification) :
    (sh.modify id spec).lock = sh.lock := by
  funext j
  by_cases h : j = id
  · subst h
    simp only [lock, modify, update, Function.update_same]
    cases sh.surfaces j <;> rfl
  · simp only [lock, modify, update, Function.update_noteq h]

end Shell

end XWaylandBridge
