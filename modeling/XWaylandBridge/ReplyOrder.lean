import XWaylandBridge.Attributes

/-!
# The two loops of `attach_wl_surface`

`attach_wl_surface` sends the read of every property in the handler table before it waits for
the first reply, and then hands the replies to their handlers in the table's order
(`issueReads`, then `processReplies`). `property_notify` reads one property and hands its reply
over at once. The two loops are the second order, batched over the whole table
(`readEachThenApply`, which is not code of the source but the order the loops are compared
with): no handler writes a property or reads the log of reads, so each reply carries the value
it would have carried had it been read just before its handler ran.

**What is proved.** For every world and every list of handlers, the two loops run alone are
reading each property just before its handler: the same result and the same world, the log of
reads included (`issueReads_processReplies`). No handler throws (a reply of an unexpected type
goes to the handler's error path), so every read is logged either way.

**What this does not decide.** Other threads. A section of another call between the reads and
the replies sees the replies' effects late; `notify_inside_attach_loses_title` is such a run.
-/

set_option autoImplicit false

namespace XWaylandBridge

open Prog

/-- `p` neither reads nor writes the world's log of property reads: from a world whose log is
`r` it does what it does from any other log, and leaves `r` as it found it. -/
def ReadsOblivious {α : Type} (p : Prog World α) : Prop :=
  ∀ x r, p.run { x with reads := r } = ((p.run x).1, { (p.run x).2 with reads := r })

namespace ReadsOblivious

variable {α β : Type}

theorem atomic {f : World → α × World}
    (h : ∀ x r, f { x with reads := r } = ((f x).1, { (f x).2 with reads := r })) :
    ReadsOblivious (Prog.atomic f) := fun x r => by
  rw [run_atomic, run_atomic, h]

theorem bind {p : Prog World α} {f : α → Prog World β} (hp : ReadsOblivious p)
    (hf : ∀ a, ReadsOblivious (f a)) : ReadsOblivious (p >>= f) := fun x r => by
  rw [run_bind, run_bind, hp x r]
  rcases p.run x with ⟨_ | a, y⟩
  · rfl
  · exact hf a y r

/-- An oblivious program keeps the log it finds. -/
theorem reads_eq {p : Prog World α} (hp : ReadsOblivious p) (x : World) :
    (p.run x).2.reads = x.reads := by
  have h : p.run x = ((p.run x).1, { (p.run x).2 with reads := x.reads }) := hp x x.reads
  rw [h]

end ReadsOblivious

namespace XWaylandSurface

variable (win : Window)

open Section

theorem applyReply_readsOblivious (h : Handler) (v : Option PropValue) :
    ReadsOblivious (applyReply win h v) := by
  rcases applyReply_shape win h v with ⟨f, hf, -⟩ | ⟨t, ht⟩ | hp
  · rw [hf]; exact ReadsOblivious.atomic fun _ _ => rfl
  · rw [ht]; intro x r; rw [isTransientFor_run, isTransientFor_run]; rfl
  · rw [hp]; intro x r; rfl

/-- A reply writes no property. -/
theorem applyReply_props (h : Handler) (v : Option PropValue) (x : World) :
    ((applyReply win h v).run x).2.props = x.props := by
  rw [applyReply_setBridge]; rfl

/-- Each property read just before its handler runs, as `property_notify` reads one. This is
not code of the source: it is the order the two loops of `attach_wl_surface` batch. -/
def readEachThenApply : List (Atom × Handler) → Prog World Unit
  | [] => pure ()
  | (property, h) :: rest => do
    let reply ← readProperty win property
    applyReply win h reply
    readEachThenApply rest

/-- The log entries of reading `hs` for window `win` in world `w`, newest first. -/
def readsOf (hs : List (Atom × Handler)) (w : World) : List (Window × Atom × Option PropValue) :=
  (hs.map fun e => (win, e.1, w.props win e.1)).reverse

/-- The replies handed over from a world whose log holds every read already, against reading
each just before its handler: the same run with that log; and reading each, when no handler
throws, ends with the same log. -/
theorem processReplies_readEach (hs : List (Atom × Handler)) (y : World) :
    (processReplies win (hs.map fun e => (e.2, y.props win e.1))).run
        { y with reads := readsOf win hs y ++ y.reads } =
      (((readEachThenApply win hs).run y).1,
        { ((readEachThenApply win hs).run y).2 with reads := readsOf win hs y ++ y.reads }) ∧
    (((readEachThenApply win hs).run y).1 = .ok () →
      ((readEachThenApply win hs).run y).2.reads = readsOf win hs y ++ y.reads) := by
  induction hs generalizing y with
  | nil => exact ⟨rfl, fun _ => rfl⟩
  | cons e rest ih =>
    obtain ⟨property, h⟩ := e
    -- the read of `property`, logged, then its handler from the world the read left
    let y₁ : World := { y with reads := (win, property, y.props win property) :: y.reads }
    have hlog : readsOf win ((property, h) :: rest) y ++ y.reads = readsOf win rest y ++ y₁.reads := by
      simp [readsOf, y₁]
    have hrun : (readEachThenApply win ((property, h) :: rest)).run y =
        ((applyReply win h (y.props win property) >>= fun _ => readEachThenApply win rest).run y₁) := by
      simp only [readEachThenApply, readProperty, run_atomic_bind]
    simp only [List.map_cons, processReplies]
    rw [hlog, hrun, run_bind, run_bind,
      show ({ y with reads := readsOf win rest y ++ y₁.reads } : World) =
        { y₁ with reads := readsOf win rest y ++ y₁.reads } from rfl,
      applyReply_readsOblivious win h _ y₁]
    have hr := (applyReply_readsOblivious win h (y.props win property)).reads_eq y₁
    have hp := applyReply_props win h (y.props win property) y₁
    generalize (applyReply win h (y.props win property)).run y₁ = out at hr hp ⊢
    rcases out with ⟨_ | _, z⟩
    · exact ⟨rfl, nofun⟩
    · -- the rest from the world the handler left, which has `y`'s properties and `y₁`'s log
      have hz : z.props win = y.props win := congrFun hp win
      obtain ⟨ih₁, ih₂⟩ := ih z
      simp only [readsOf, hz] at ih₁ ih₂
      simp only [readsOf, Function.comp_def] at hr ⊢
      rw [← hr]
      exact ⟨ih₁, ih₂⟩

/-- Reading each property just before its handler returns: no handler throws. -/
theorem readEachThenApply_returns (hs : List (Atom × Handler)) : Returns (readEachThenApply win hs) := by
  induction hs with
  | nil => exact returns_pure _
  | cons e rest ih =>
    exact returns_bind (returns_atomic _) fun _ =>
      returns_bind (applyReply_returns win _ _) fun _ => ih

/-- **The two loops of `attach_wl_surface` are reading each property just before its
handler**, for every world and every handler list run alone: the same result and the same
world, the log of reads, which holds every read, included. -/
theorem issueReads_processReplies (hs : List (Atom × Handler)) (w : World) :
    (issueReads win hs >>= processReplies win).run w =
      (((readEachThenApply win hs).run w).1,
        { ((readEachThenApply win hs).run w).2 with reads := readsOf win hs w ++ w.reads }) ∧
    (issueReads win hs >>= processReplies win).run w = (readEachThenApply win hs).run w := by
  obtain ⟨h₁, h₂⟩ := processReplies_readEach win hs w
  have hb : (issueReads win hs >>= processReplies win).run w =
      (processReplies win (hs.map fun e => (e.2, w.props win e.1))).run
        { w with reads := readsOf win hs w ++ w.reads } := by
    rw [run_bind_ok (issueReads_run win hs w)]; rfl
  obtain ⟨_, hr⟩ := readEachThenApply_returns win hs w
  rw [hb, h₁]
  refine ⟨rfl, ?_⟩
  rw [← h₂ hr]

end XWaylandSurface

end XWaylandBridge
