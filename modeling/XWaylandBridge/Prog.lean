import Mathlib.Logic.Function.Basic

/-!
# Programs of atomic sections, run alone or interleaved

A member function of `XWaylandSurface` is a sequence of **atomic sections**: a region with the
bridge's mutex held, or one call into a collaborator (a request on the X connection, a call into
the shell, a read of a scene surface). Between two sections another thread may run. `Prog σ α`
is that shape as a resumption: a section `atom next cont` moves the shared state `σ` by `next`
and continues with `cont s`, where `s` is the state the section saw. So whatever a section read
(a snapshot of `cached.state`, the locked `weak_scene_surface`) reaches the rest of the function
through the continuation, as a C++ local does. An exception is `raise`.

Two semantics:

* `Prog.run`: the function alone, section after section. It is what one thread sees when no
  other thread takes a step in between, and every sequential result is stated over it.
* `Threads.runSchedule`: several threads, each running one program, advanced one atomic
  section at a time in the order a schedule names. Every interleaving the code admits is a
  schedule; the concurrency results and counterexamples are stated over it.

The laws here are the monad's run laws (`run_bind`, `run_atomic_bind`), proved once, so that a
member function's run is computed by rewriting and never by unfolding the resumption.
-/

set_option autoImplicit false

namespace XWaylandBridge

/-- Outcomes are compared in the runs on fixed inputs. -/
instance decEqExcept {ε α : Type} [DecidableEq ε] [DecidableEq α] : DecidableEq (Except ε α)
  | .ok a, .ok b => if h : a = b then isTrue (h ▸ rfl) else isFalse fun e => h (Except.ok.inj e)
  | .error a, .error b =>
    if h : a = b then isTrue (h ▸ rfl) else isFalse fun e => h (Except.error.inj e)
  | .ok _, .error _ => isFalse nofun
  | .error _, .ok _ => isFalse nofun

/-- A program over the shared state `σ`, cut at its atomic sections. -/
inductive Prog (σ : Type) (α : Type) where
  /-- The function returned `a`. -/
  | ret (a : α)
  /-- The function threw; the string is the exception's message. -/
  | raise (what : String)
  /-- One atomic section: the state moves by `next`, and the rest of the function is
  `cont s` for the state `s` the section saw. -/
  | atom (next : σ → σ) (cont : σ → Prog σ α)

namespace Prog

variable {σ α β : Type}

/-- Sequencing: run `p`, then `f` on its result; an exception skips `f`. -/
def bind : Prog σ α → (α → Prog σ β) → Prog σ β
  | ret a, f => f a
  | raise e, _ => raise e
  | atom n c, f => atom n fun s => bind (c s) f

instance : Monad (Prog σ) where
  pure := ret
  bind := bind

/-- One atomic section that reads the state and returns a value. -/
def atomic (f : σ → α × σ) : Prog σ α :=
  atom (fun s => (f s).2) fun s => ret (f s).1

/-- One atomic section that may throw: the state moves either way, as when a lock section
writes a field and then throws. -/
def atomicE (f : σ → Except String α × σ) : Prog σ α :=
  atom (fun s => (f s).2) fun s =>
    match (f s).1 with
    | .ok a => ret a
    | .error e => raise e

/-- `p`, then `cleanup` on every way out of it: a C++ local's destructor at scope exit. -/
def andFinally : Prog σ α → Prog σ Unit → Prog σ α
  | ret a, cleanup => bind cleanup fun _ => ret a
  | raise e, cleanup => bind cleanup fun _ => raise e
  | atom n c, cleanup => atom n fun s => andFinally (c s) cleanup

/-- The caller's handler: an exception ends the function and nothing else. -/
def caught : Prog σ Unit → Prog σ Unit
  | ret _ => ret ()
  | raise _ => ret ()
  | atom n c => atom n fun s => caught (c s)

/-- A thread's event loop: the functions one after another, each exception caught. -/
def serial : List (Prog σ Unit) → Prog σ Unit
  | [] => ret ()
  | p :: ps => bind (caught p) fun _ => serial ps

/-- The function has returned or thrown: it has no section left. -/
def done : Prog σ α → Bool
  | atom _ _ => false
  | _ => true

/-- The function run alone: its outcome and the state after its last section. -/
def run : Prog σ α → σ → Except String α × σ
  | ret a, s => (.ok a, s)
  | raise e, s => (.error e, s)
  | atom n c, s => run (c s) (n s)

@[simp] theorem bind_eq (p : Prog σ α) (f : α → Prog σ β) : p.bind f = p >>= f := rfl

@[simp] theorem ret_eq (a : α) : (ret a : Prog σ α) = pure a := rfl

@[simp] theorem run_pure (a : α) (s : σ) : (pure a : Prog σ α).run s = (.ok a, s) := rfl

@[simp] theorem run_raise (e : String) (s : σ) : (raise e : Prog σ α).run s = (.error e, s) :=
  rfl

@[simp] theorem pure_bind (a : α) (f : α → Prog σ β) : (pure a : Prog σ α) >>= f = f a := rfl

@[simp] theorem raise_bind (e : String) (f : α → Prog σ β) :
    (raise e : Prog σ α) >>= f = raise e := rfl

theorem bind_assoc {γ : Type} (p : Prog σ α) (f : α → Prog σ β) (g : β → Prog σ γ) :
    p >>= f >>= g = p >>= fun a => f a >>= g := by
  induction p with
  | ret a => rfl
  | raise e => rfl
  | atom n c ih =>
    show atom n (fun s => bind (bind (c s) f) g) = atom n (fun s => bind (c s) fun a => bind (f a) g)
    exact congrArg _ (funext ih)

@[simp] theorem run_atomic (f : σ → α × σ) (s : σ) : (atomic f).run s = (.ok (f s).1, (f s).2) :=
  rfl

/-- **One section, then the rest**: the workhorse of every symbolic run. -/
@[simp] theorem run_atomic_bind (f : σ → α × σ) (k : α → Prog σ β) (s : σ) :
    (atomic f >>= k).run s = (k (f s).1).run (f s).2 := rfl

@[simp] theorem run_atomicE_bind (f : σ → Except String α × σ) (k : α → Prog σ β) (s : σ) :
    (atomicE f >>= k).run s =
      match (f s).1 with
      | .ok a => (k a).run (f s).2
      | .error e => (.error e, (f s).2) := by
  show (bind (match (f s).1 with | .ok a => ret a | .error e => raise e) k).run (f s).2 = _
  cases (f s).1 <;> rfl

@[simp] theorem run_atomicE (f : σ → Except String α × σ) (s : σ) :
    (atomicE f).run s = f s := by
  show (match (f s).1 with | .ok a => ret a | .error e => raise e).run (f s).2 = _
  rcases f s with ⟨_ | _, _⟩ <;> rfl

/-- **Sequencing, run alone**: run `p`; on a return run `f` from where `p` stopped. -/
theorem run_bind (p : Prog σ α) (f : α → Prog σ β) (s : σ) :
    (p >>= f).run s =
      match p.run s with
      | (.ok a, s') => (f a).run s'
      | (.error e, s') => (.error e, s') := by
  induction p generalizing s with
  | ret a => rfl
  | raise e => rfl
  | atom n c ih => exact ih s (n s)

theorem run_bind_ok {p : Prog σ α} {s s' : σ} {a : α} (h : p.run s = (.ok a, s'))
    (f : α → Prog σ β) : (p >>= f).run s = (f a).run s' := by
  rw [run_bind, h]

theorem run_bind_of_ok {p : Prog σ α} {s : σ} {a : α} (h : (p.run s).1 = .ok a)
    (f : α → Prog σ β) : (p >>= f).run s = (f a).run (p.run s).2 :=
  run_bind_ok (Prod.ext h rfl) f

theorem run_bind_error {p : Prog σ α} {s s' : σ} {e : String} (h : p.run s = (.error e, s'))
    (f : α → Prog σ β) : (p >>= f).run s = (.error e, s') := by
  rw [run_bind, h]

/-- The cleanup runs after `p` whichever way `p` ends, and `p`'s outcome stands. -/
theorem run_andFinally (p : Prog σ α) (cleanup : Prog σ Unit) (s : σ)
    (hc : ∀ t, ((cleanup.run t).1 = .ok ())) :
    (p.andFinally cleanup).run s = ((p.run s).1, (cleanup.run (p.run s).2).2) := by
  have hrun : ∀ t, cleanup.run t = (.ok (), (cleanup.run t).2) := fun t => by
    rw [← hc t]
  induction p generalizing s with
  | ret a =>
    show (cleanup >>= fun _ => pure a).run s = _
    rw [run_bind, hrun s]
    rfl
  | raise e =>
    show (cleanup >>= fun _ => raise e).run s = _
    rw [run_bind, hrun s]
    rfl
  | atom n c ih => exact ih s (n s)

@[simp] theorem run_caught (p : Prog σ Unit) (s : σ) : (caught p).run s = (.ok (), (p.run s).2) := by
  induction p generalizing s with
  | ret a => rfl
  | raise e => rfl
  | atom n c ih => exact ih s (n s)

/-- The event loop run alone is the functions run one after another, each from where the
previous one stopped, exception or not. -/
theorem run_serial_cons (p : Prog σ Unit) (ps : List (Prog σ Unit)) (s : σ) :
    (serial (p :: ps)).run s = (serial ps).run (p.run s).2 := by
  show (caught p >>= fun _ => serial ps).run s = _
  rw [run_bind, run_caught]

/-! ## Invariants of a run alone -/

/-- `p` keeps `I`: run alone from a state in `I`, it ends in a state in `I`, whether it returns
or throws. -/
def Keeps (I : σ → Prop) (p : Prog σ α) : Prop := ∀ s, I s → I (p.run s).2

section Keeps

variable {I : σ → Prop}

theorem keeps_pure (a : α) : Keeps I (pure a : Prog σ α) := fun _ h => h

theorem keeps_raise (e : String) : Keeps I (raise e : Prog σ α) := fun _ h => h

theorem keeps_atomic {f : σ → α × σ} (h : ∀ s, I s → I (f s).2) : Keeps I (atomic f) := h

theorem keeps_atomicE {f : σ → Except String α × σ} (h : ∀ s, I s → I (f s).2) :
    Keeps I (atomicE f) := fun s hs => by rw [run_atomicE]; exact h s hs

/-- **Keeping, sequenced**: the first part keeps `I`, and so does every continuation. -/
theorem keeps_bind {p : Prog σ α} {f : α → Prog σ β} (hp : Keeps I p) (hf : ∀ a, Keeps I (f a)) :
    Keeps I (p >>= f) := fun s hs => by
  rw [run_bind]
  rcases hr : p.run s with ⟨_ | a, t⟩
  · simpa [hr] using hp s hs
  · exact hf a t (by simpa [hr] using hp s hs)

theorem keeps_andFinally {p : Prog σ α} {c : Prog σ Unit} (hp : Keeps I p) (hc : Keeps I c)
    (hok : ∀ t, (c.run t).1 = .ok ()) : Keeps I (p.andFinally c) := fun s hs => by
  rw [run_andFinally p c s hok]
  exact hc _ (hp s hs)

theorem Keeps.and {J : σ → Prop} {p : Prog σ α} (hI : Keeps I p) (hJ : Keeps J p) :
    Keeps (fun s => I s ∧ J s) p := fun s hs => ⟨hI s hs.1, hJ s hs.2⟩

end Keeps

/-! ## Frames of a run alone -/

/-- `p` leaves the view `V` of the state as it found it, whether it returns or throws. -/
def Preserves {γ : Type} (V : σ → γ) (p : Prog σ α) : Prop := ∀ s, V (p.run s).2 = V s

section Preserves

variable {γ : Type} {V : σ → γ}

theorem preserves_pure (a : α) : Preserves V (pure a : Prog σ α) := fun _ => rfl

theorem preserves_raise (e : String) : Preserves V (raise e : Prog σ α) := fun _ => rfl

theorem preserves_atomic {f : σ → α × σ} (h : ∀ s, V (f s).2 = V s) : Preserves V (atomic f) := h

theorem preserves_atomicE {f : σ → Except String α × σ} (h : ∀ s, V (f s).2 = V s) :
    Preserves V (atomicE f) := fun s => by rw [run_atomicE]; exact h s

theorem preserves_bind {p : Prog σ α} {f : α → Prog σ β} (hp : Preserves V p)
    (hf : ∀ a, Preserves V (f a)) : Preserves V (p >>= f) := fun s => by
  rw [run_bind]
  rcases hr : p.run s with ⟨_ | a, t⟩
  · simpa [hr] using hp s
  · exact (hf a t).trans (by simpa [hr] using hp s)

/-- An invariant that reads the state only through `V` is kept by a program that preserves `V`. -/
theorem Preserves.keeps {I : σ → Prop} {p : Prog σ α} (hp : Preserves V p)
    (hI : ∀ s t, V t = V s → I s → I t) : Keeps I p := fun s hs => hI s _ (hp s) hs

end Preserves

/-! ## Triples of a run alone -/

/-- What a run ends in: a state in `Q a` when it returned `a`, a state in `E` when it threw. -/
def Outcome (Q : α → σ → Prop) (E : σ → Prop) : Except String α × σ → Prop
  | (.ok a, t) => Q a t
  | (.error _, t) => E t

/-- `P` before, `Q` on return and `E` on an exception after, for a run alone. -/
def Triple (P : σ → Prop) (p : Prog σ α) (Q : α → σ → Prop) (E : σ → Prop) : Prop :=
  ∀ s, P s → Outcome Q E (p.run s)

section Triple

variable {P : σ → Prop} {Q : α → σ → Prop} {E : σ → Prop}

@[simp] theorem outcome_ok (a : α) (t : σ) : Outcome Q E (.ok a, t) ↔ Q a t := Iff.rfl

@[simp] theorem outcome_error (e : String) (t : σ) : Outcome Q E (.error e, t) ↔ E t := Iff.rfl

theorem triple_pure {a : α} (h : ∀ s, P s → Q a s) : Triple P (pure a) Q E := h

theorem triple_raise {e : String} (h : ∀ s, P s → E s) : Triple P (raise e : Prog σ α) Q E := h

theorem triple_atomic {f : σ → α × σ} (h : ∀ s, P s → Q (f s).1 (f s).2) :
    Triple P (atomic f) Q E := h

theorem triple_atomicE {f : σ → Except String α × σ} (h : ∀ s, P s → Outcome Q E (f s)) :
    Triple P (atomicE f) Q E := fun s hs => by rw [run_atomicE]; exact h s hs

/-- **Sequencing**: what `p` returns with is what the continuation starts from. -/
theorem triple_bind {R : α → σ → Prop} {p : Prog σ α} {f : α → Prog σ β} {Q : β → σ → Prop}
    (hp : Triple P p R E) (hf : ∀ a, Triple (R a) (f a) Q E) : Triple P (p >>= f) Q E :=
  fun s hs => by
  have h := hp s hs
  rw [run_bind]
  rcases hr : p.run s with ⟨_ | a, t⟩ <;> rw [hr] at h
  · exact h
  · exact hf a t h

theorem triple_weaken {P' : σ → Prop} {Q' : α → σ → Prop} {E' : σ → Prop} {p : Prog σ α}
    (h : Triple P p Q E) (hP : ∀ s, P' s → P s) (hQ : ∀ a s, Q a s → Q' a s)
    (hE : ∀ s, E s → E' s) : Triple P' p Q' E' := fun s hs => by
  have h := h s (hP s hs)
  rcases hr : p.run s with ⟨_ | a, t⟩ <;> rw [hr] at h
  · exact hE t h
  · exact hQ a t h

/-- An outcome that asks the same on return and on an exception asks it of the final state. -/
@[simp] theorem outcome_const {I : σ → Prop} (r : Except String α × σ) :
    Outcome (fun _ => I) I r ↔ I r.2 := by
  rcases r with ⟨_ | _, _⟩ <;> rfl

theorem Keeps.triple {I : σ → Prop} {p : Prog σ α} (h : Keeps I p) : Triple I p (fun _ => I) I :=
  fun s hs => (outcome_const _).mpr (h s hs)

theorem Triple.keeps {I : σ → Prop} {p : Prog σ α} (h : Triple I p (fun _ => I) I) : Keeps I p :=
  fun s hs => (outcome_const _).mp (h s hs)

/-- A frame on top of a triple: what `p` preserves still holds after it. -/
theorem Triple.frame {γ : Type} {V : σ → γ} {p : Prog σ α} {x : γ} (h : Triple P p Q E)
    (hV : Preserves V p) :
    Triple (fun s => P s ∧ V s = x) p (fun a s => Q a s ∧ V s = x) (fun s => E s ∧ V s = x) :=
  fun s ⟨hs, hx⟩ => by
  have h := h s hs
  have hv := (hV s).trans hx
  rcases hr : p.run s with ⟨_ | a, t⟩ <;> rw [hr] at h hv
  · exact ⟨h, hv⟩
  · exact ⟨h, hv⟩

end Triple

/-! ## What every section does -/

/-- Every atomic section of `p`, from whatever state it starts in, moves the state along `R`.
Unlike `Keeps`, this says something about each section, so it holds of `p`'s steps in any
interleaving too. -/
def Guarantees (R : σ → σ → Prop) : Prog σ α → Prop
  | ret _ => True
  | raise _ => True
  | atom n c => (∀ s, R s (n s)) ∧ ∀ s, Guarantees R (c s)

section Guarantees

variable {R : σ → σ → Prop}

theorem guarantees_pure (a : α) : Guarantees R (pure a : Prog σ α) := trivial

theorem guarantees_raise (e : String) : Guarantees R (raise e : Prog σ α) := trivial

theorem guarantees_atomic {f : σ → α × σ} (h : ∀ s, R s (f s).2) : Guarantees R (atomic f) :=
  ⟨h, fun _ => trivial⟩

theorem guarantees_atomicE {f : σ → Except String α × σ} (h : ∀ s, R s (f s).2) :
    Guarantees R (atomicE f) :=
  ⟨h, fun s => by dsimp only; split <;> trivial⟩

theorem guarantees_bind {p : Prog σ α} {f : α → Prog σ β} (hp : Guarantees R p)
    (hf : ∀ a, Guarantees R (f a)) : Guarantees R (p >>= f) := by
  induction p with
  | ret a => exact hf a
  | raise e => trivial
  | atom n c ih => exact ⟨hp.1, fun s => ih s (hp.2 s)⟩

/-- A section and what depends on its result: the rest needs guaranteeing only for the values
the section returns. -/
theorem guarantees_atomic_bind {f : σ → α × σ} {k : α → Prog σ β} (h : ∀ s, R s (f s).2)
    (hk : ∀ s, Guarantees R (k (f s).1)) : Guarantees R (atomic f >>= k) :=
  ⟨h, hk⟩

theorem guarantees_andFinally {p : Prog σ α} {c : Prog σ Unit} (hp : Guarantees R p)
    (hc : Guarantees R c) : Guarantees R (p.andFinally c) := by
  induction p with
  | ret a => exact guarantees_bind hc fun _ => trivial
  | raise e => exact guarantees_bind hc fun _ => trivial
  | atom n k ih => exact ⟨hp.1, fun s => ih s (hp.2 s)⟩

theorem Guarantees.mono {R' : σ → σ → Prop} (hR : ∀ s t, R s t → R' s t) {p : Prog σ α}
    (h : Guarantees R p) : Guarantees R' p := by
  induction p with
  | ret a => trivial
  | raise e => trivial
  | atom n c ih => exact ⟨fun s => hR _ _ (h.1 s), fun s => ih s (h.2 s)⟩

/-- A run alone moves the state along the reflexive, transitive closure of what its sections
guarantee. -/
theorem Guarantees.run (hrefl : ∀ s, R s s) (htrans : ∀ s t u, R s t → R t u → R s u)
    {p : Prog σ α} (h : Guarantees R p) (s : σ) : R s (p.run s).2 := by
  induction p generalizing s with
  | ret a => exact hrefl s
  | raise e => exact hrefl s
  | atom n c ih => exact htrans _ _ _ (h.1 s) (ih s (h.2 s) (n s))

theorem Guarantees.preserves {γ : Type} {V : σ → γ} {p : Prog σ α}
    (h : Guarantees (fun s t => V t = V s) p) : Preserves V p :=
  Guarantees.run (R := fun s t => V t = V s) (fun _ => rfl) (fun _ _ _ h₁ h₂ => h₂.trans h₁) h

end Guarantees

/-! ## Programs that never throw -/

/-- `p` returns from every state: no exception leaves it. -/
def Returns (p : Prog σ α) : Prop := ∀ s, ∃ a, (p.run s).1 = .ok a

theorem returns_pure (a : α) : Returns (pure a : Prog σ α) := fun _ => ⟨a, rfl⟩

theorem returns_atomic (f : σ → α × σ) : Returns (atomic f) := fun s => ⟨(f s).1, rfl⟩

theorem returns_bind {p : Prog σ α} {f : α → Prog σ β} (hp : Returns p)
    (hf : ∀ a, Returns (f a)) : Returns (p >>= f) := fun s => by
  obtain ⟨a, ha⟩ := hp s
  rw [run_bind_ok (Prod.ext ha rfl)]
  exact hf a _

/-- A program that cannot throw and keeps `I` ends in `I`, with no exception to account for. -/
theorem Returns.triple {I E : σ → Prop} {p : Prog σ α} (hr : Returns p) (hk : Keeps I p) :
    Triple I p (fun _ => I) E := fun s hs => by
  obtain ⟨a, ha⟩ := hr s
  have ht := hk s hs
  rcases hp : p.run s with ⟨_ | b, t⟩ <;> rw [hp] at ha ht
  · cases ha
  · exact ht

end Prog

/-! ## Threads and schedules -/

/-- Threads over one shared state: the state and the program each thread has left. -/
structure Threads (σ : Type) where
  state : σ
  progs : List (Prog σ Unit)

namespace Threads

variable {σ : Type}

/-- Thread `i` runs its next atomic section. A thread that has returned, or an index past the
last thread, takes no step. -/
def step (c : Threads σ) (i : Nat) : Threads σ :=
  match c.progs[i]? with
  | some (.atom n k) => { state := n c.state, progs := c.progs.set i (k c.state) }
  | _ => c

/-- The threads advanced in the order `sched` names: one interleaving of their sections. -/
def runSchedule (c : Threads σ) (sched : List Nat) : Threads σ :=
  sched.foldl step c

/-- Every thread has returned or thrown. -/
def Done (c : Threads σ) : Prop := ∀ p ∈ c.progs, p.done = true

instance (c : Threads σ) : Decidable c.Done :=
  inferInstanceAs (Decidable (∀ p ∈ c.progs, p.done = true))

@[simp] theorem runSchedule_nil (c : Threads σ) : c.runSchedule [] = c := rfl

theorem runSchedule_cons (c : Threads σ) (i : Nat) (sched : List Nat) :
    c.runSchedule (i :: sched) = (c.step i).runSchedule sched := rfl

theorem runSchedule_append (c : Threads σ) (s₁ s₂ : List Nat) :
    c.runSchedule (s₁ ++ s₂) = (c.runSchedule s₁).runSchedule s₂ := by
  simp [runSchedule, List.foldl_append]

section Guarantees

variable {R : σ → σ → Prop}

/-- Every thread guarantees `R`. -/
def AllGuarantee (R : σ → σ → Prop) (c : Threads σ) : Prop := ∀ p ∈ c.progs, p.Guarantees R

theorem AllGuarantee.step {c : Threads σ} (h : c.AllGuarantee R) (i : Nat) :
    (c.step i).AllGuarantee R ∧ (R c.state (c.step i).state ∨ (c.step i).state = c.state) := by
  unfold Threads.step
  split
  · next n k hi =>
    have hp := h _ (List.getElem?_mem hi)
    refine ⟨fun p hp' => ?_, .inl (hp.1 c.state)⟩
    rcases List.mem_or_eq_of_mem_set hp' with hp' | rfl
    · exact h p hp'
    · exact hp.2 c.state
  · exact ⟨h, .inr rfl⟩

/-- **Rely–guarantee for every interleaving**: when every thread guarantees a reflexive,
transitive `R`, every schedule moves the shared state along `R`. -/
theorem AllGuarantee.runSchedule (hrefl : ∀ s, R s s) (htrans : ∀ s t u, R s t → R t u → R s u)
    (sched : List Nat) : ∀ c : Threads σ, c.AllGuarantee R → R c.state (c.runSchedule sched).state := by
  induction sched with
  | nil => exact fun c _ => hrefl c.state
  | cons i sched ih =>
    intro c h
    obtain ⟨h', hR | heq⟩ := h.step i
    · exact htrans _ _ _ hR (ih _ h')
    · simpa [runSchedule_cons, heq] using ih _ h'

end Guarantees

end Threads

end XWaylandBridge
