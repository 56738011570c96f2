import XWaylandBridge.Prog

/-!
# Sections that rely on what an earlier section saw

`Guarantees R p` asks every section of `p` to move the state along `R` from every state. That
is too strong for a section that acts on a value an earlier section read: a `modify_surface`
of the surface `configure_request` locked keeps the shell consistent only while that surface
is still live. `Safe G p P Q` is the rely–guarantee reading. Every thread moves the shared state
along `G`. From a state where `P` holds, each section of `p` moves along `G`. What the rest of
`p` relies on holds after the section and survives every move along `G` of the other threads
(`Stable`). When `p` returns a value, `Q` holds of it.

**What is proved.** The judgment composes as the programs do (`safe_bind`, `safe_atomic`,
`safe_atomicE`, `safe_andFinally`). Every guarantee is a safe program (`Safe.of_guarantees`). And
it holds of every interleaving: when every thread is safe from an assertion that holds now and
that the moves keep, every schedule moves the state along the reflexive, transitive closure of
`G` (`Threads.AllSafe.runSchedule`).

**What this does not decide.** What the threads compute: only what every step keeps.
-/

set_option autoImplicit false

namespace XWaylandBridge

namespace Prog

variable {σ α β : Type} (G : σ → σ → Prop)

/-- Every move along `G` keeps `P`. -/
def Stable (P : σ → Prop) : Prop := ∀ s t, P s → G s t → P t

/-- **`p` is safe from `P`, returning into `Q`, when every thread moves along `G`**: from a
state where `P` holds, each section moves along `G`, and the rest of `p` is safe from an
assertion that holds after the section and that every move along `G` keeps. -/
def Safe : Prog σ α → (σ → Prop) → (α → σ → Prop) → Prop
  | ret a, P, Q => ∀ s, P s → Q a s
  | raise _, _, _ => True
  | atom n c, P, Q => ∀ s, P s → G s (n s) ∧ ∃ P', Stable G P' ∧ P' (n s) ∧ Safe (c s) P' Q

variable {G}

theorem Stable.and {P P' : σ → Prop} (h : Stable G P) (h' : Stable G P') :
    Stable G fun s => P s ∧ P' s :=
  fun s t hs hst => ⟨h s t hs.1 hst, h' s t hs.2 hst⟩

/-- The consequence rule: a stronger precondition, a weaker postcondition. -/
theorem Safe.mono {p : Prog σ α} {P P' : σ → Prop} {Q Q' : α → σ → Prop} (hP : ∀ s, P' s → P s)
    (hQ : ∀ a s, Q a s → Q' a s) (h : Safe G p P Q) : Safe G p P' Q' := by
  induction p generalizing P P' with
  | ret a => exact fun s hs => hQ a s (h s (hP s hs))
  | raise e => trivial
  | atom n c ih =>
    intro s hs
    obtain ⟨hg, R, hR, hr, hc⟩ := h s (hP s hs)
    exact ⟨hg, R, hR, hr, ih s (fun _ => id) hc⟩

theorem safe_pure (a : α) {P : σ → Prop} {Q : α → σ → Prop} (h : ∀ s, P s → Q a s) :
    Safe G (pure a : Prog σ α) P Q :=
  h

theorem safe_raise (e : String) (P : σ → Prop) (Q : α → σ → Prop) :
    Safe G (raise e : Prog σ α) P Q :=
  trivial

/-- A section whose result and end state satisfy `Q`, which the other threads' moves keep. -/
theorem safe_atomic {f : σ → α × σ} {P : σ → Prop} {Q : α → σ → Prop}
    (h : ∀ s, P s → G s (f s).2 ∧ Q (f s).1 (f s).2) (hQ : ∀ a, Stable G (Q a)) :
    Safe G (atomic f) P Q :=
  fun s hs => ⟨(h s hs).1, Q (f s).1, hQ _, (h s hs).2, fun _ => id⟩

theorem safe_atomicE {f : σ → Except String α × σ} {P : σ → Prop} {Q : α → σ → Prop}
    (h : ∀ s, P s → G s (f s).2 ∧ ∀ a, (f s).1 = .ok a → Q a (f s).2) (hQ : ∀ a, Stable G (Q a)) :
    Safe G (atomicE f) P Q := fun s hs => by
  refine ⟨(h s hs).1, fun t => ∀ a, (f s).1 = .ok a → Q a t,
    fun t u ht htu a ha => hQ a t u (ht a ha) htu, (h s hs).2, ?_⟩
  dsimp only
  split
  · next a ha => exact fun t ht => ht a ha
  · trivial

theorem safe_bind {p : Prog σ α} {f : α → Prog σ β} {P : σ → Prop} {R : α → σ → Prop}
    {Q : β → σ → Prop} (hp : Safe G p P R) (hf : ∀ a, Safe G (f a) (R a) Q) :
    Safe G (p >>= f) P Q := by
  induction p generalizing P with
  | ret a => exact (hf a).mono hp fun _ _ => id
  | raise e => trivial
  | atom n c ih =>
    intro s hs
    obtain ⟨hg, P', hP', hs', hc⟩ := hp s hs
    exact ⟨hg, P', hP', hs', ih s hc⟩

/-- A program that guarantees `G` from every state is safe from any stable assertion, which it
keeps. -/
theorem Safe.of_guarantees {p : Prog σ α} (h : Guarantees G p) {P : σ → Prop} (hP : Stable G P) :
    Safe G p P fun _ => P := by
  induction p with
  | ret a => exact fun _ => id
  | raise e => trivial
  | atom n c ih => exact fun s hs => ⟨h.1 s, P, hP, hP _ _ hs (h.1 s), ih s (h.2 s)⟩

/-- A body and a cleanup that guarantees `G`: the cleanup keeps what the body returned into. -/
theorem safe_andFinally {p : Prog σ α} {c : Prog σ Unit} {P : σ → Prop} {Q : α → σ → Prop}
    (hp : Safe G p P Q) (hc : Guarantees G c) (hQ : ∀ a, Stable G (Q a)) :
    Safe G (p.andFinally c) P Q := by
  have htrue : Stable G fun _ => True := fun _ _ _ _ => trivial
  induction p generalizing P with
  | ret a =>
    exact safe_bind ((Safe.of_guarantees hc (hQ a)).mono hp fun _ _ => id) fun _ => safe_pure a fun _ => id
  | raise e =>
    exact safe_bind ((Safe.of_guarantees hc htrue).mono (fun _ _ => trivial) fun _ _ => id) fun _ => trivial
  | atom n k ih =>
    intro s hs
    obtain ⟨hg, P', hP', hs', hk⟩ := hp s hs
    exact ⟨hg, P', hP', hs', ih s hk⟩

end Prog

namespace Threads

open Prog

variable {σ : Type} (G : σ → σ → Prop)

/-- Every thread is safe from an assertion that holds now and that every move along `G`
keeps. -/
def AllSafe (c : Threads σ) : Prop :=
  ∀ p ∈ c.progs, ∃ P, Stable G P ∧ P c.state ∧ Safe G p P fun _ _ => True

variable {G}

/-- One step of one thread keeps every thread safe, and moves the state along `G` or not at
all: the stepping thread's next assertion holds after its section, and every other thread's
assertion survives the move. -/
theorem AllSafe.step {c : Threads σ} (h : c.AllSafe G) (i : Nat) :
    (c.step i).AllSafe G ∧ (G c.state (c.step i).state ∨ (c.step i).state = c.state) := by
  unfold Threads.step
  split
  · next n k hi =>
    obtain ⟨P, -, hP, hs⟩ := h _ (List.getElem?_mem hi)
    obtain ⟨hg, P', hP', hs', hk⟩ := hs c.state hP
    refine ⟨fun p hp => ?_, .inl hg⟩
    rcases List.mem_or_eq_of_mem_set hp with hp | rfl
    · obtain ⟨R, hR, hr, hsafe⟩ := h p hp
      exact ⟨R, hR, hR _ _ hr hg, hsafe⟩
    · exact ⟨P', hP', hs', hk⟩
  · exact ⟨h, .inr rfl⟩

/-- **Rely–guarantee for every interleaving**: when every thread is safe, every schedule moves
the shared state along the reflexive, transitive closure of `G`. -/
theorem AllSafe.runSchedule (hrefl : ∀ s, G s s) (htrans : ∀ s t u, G s t → G t u → G s u)
    (sched : List Nat) : ∀ c : Threads σ, c.AllSafe G → G c.state (c.runSchedule sched).state := by
  induction sched with
  | nil => exact fun c _ => hrefl c.state
  | cons i sched ih =>
    intro c h
    obtain ⟨h', hG | heq⟩ := h.step i
    · exact htrans _ _ _ hG (ih _ h')
    · simpa [runSchedule_cons, heq] using ih _ h'

end Threads

end XWaylandBridge
