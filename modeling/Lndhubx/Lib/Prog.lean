import Mathlib.Logic.Basic
import Mathlib.Order.Defs.Unbundled
import Mathlib.Tactic.Common

/-!
# Programs with a state that may panic

A handler of a long-running service is read here as a function of the
service's state that either returns a value and a new state or panics with
a reason. `Prog σ ε` is that monad — core's `StateT σ (Except ε)` — and
`wp` its predicate transformer: `wp p s Q E` says that running `p` from `s`
ends in a value and state satisfying `Q`, or in a panic satisfying `E`.

The two readings used downstream are `Ensures` (any panic is acceptable:
what holds *whenever the call returns*) and `Completes` (no panic is
acceptable: the call *does* return, and in such a state). Each statement of
`do` notation has one rule, so a handler is walked through by rewriting with
the rules and splitting on its branches.
-/

/-- A program over state `σ` that may panic with a reason of type `ε`. -/
abbrev Prog (σ ε : Type) : Type → Type := StateT σ (Except ε)

namespace Prog

variable {σ ε α β : Type}

/-- Running `p` from `s` returns a value and state in `Q` or panics in `E`. -/
def wp (p : Prog σ ε α) (s : σ) (Q : α → σ → Prop) (E : ε → Prop) : Prop :=
  match p s with
  | .ok r => Q r.1 r.2
  | .error e => E e

/-- What holds whenever `p` returns, panics being ignored. -/
def Ensures (p : Prog σ ε α) (s : σ) (Q : α → σ → Prop) : Prop :=
  wp p s Q fun _ => True

/-- `p` returns, and in a state satisfying `Q`. -/
def Completes (p : Prog σ ε α) (s : σ) (Q : α → σ → Prop) : Prop :=
  wp p s Q fun _ => False

/-! ## Running a statement -/

section run

variable {s : σ}

/-- What a program does, step by step. -/
theorem run_pure (a : α) : (pure a : Prog σ ε α) s = .ok (a, s) := rfl

/-- A write gives the state it is given. -/
theorem run_set (s' : σ) : (set s' : Prog σ ε PUnit) s = .ok (⟨⟩, s') := rfl

/-- A read gives the state there is. -/
theorem run_get_bind (f : σ → Prog σ ε α) : (get >>= f) s = f s s := rfl

/-- What follows a write starts from what was written. -/
theorem run_set_bind (s' : σ) (f : PUnit → Prog σ ε α) : (set s' >>= f) s = f ⟨⟩ s' := rfl

/-- A computation without state that returns leaves the state as it is. -/
theorem run_lift_bind {x : Except ε β} {b : β} (h : x = .ok b) (f : β → Prog σ ε α) :
    (liftM x >>= f) s = f b s := by
  rw [h]
  rfl

/-- One that fails ends the program. -/
theorem run_lift_bind_error {x : Except ε β} {e : ε} (h : x = .error e) (f : β → Prog σ ε α) :
    (liftM x >>= f) s = .error e := by
  rw [h]
  rfl

/-- What follows a part that returned starts where that part ended. -/
theorem run_bind {p : Prog σ ε β} {b : β} {s' : σ} (h : p s = .ok (b, s')) (f : β → Prog σ ε α) :
    (p >>= f) s = f b s' := by
  show (p s >>= fun r => f r.1 r.2) = f b s'
  rw [h]
  rfl

/-- Two programs run alike whose first parts do, and whose second parts do from where
the first one ends. -/
theorem run_bind_congr {p p' : Prog σ ε β} {f f' : β → Prog σ ε α} (hp : p' s = p s)
    (hf : ∀ b s', p s = .ok (b, s') → f' b s' = f b s') : (p' >>= f') s = (p >>= f) s := by
  show (p' s >>= fun r => f' r.1 r.2) = (p s >>= fun r => f r.1 r.2)
  rw [hp]
  cases hr : p s with
  | error e => rfl
  | ok r => exact hf r.1 r.2 hr

end run

/-! ## One rule per statement -/

section rules

variable {Q : α → σ → Prop} {E : ε → Prop} {s : σ}

/-- Nothing is done, so the condition is asked of the state there is. -/
@[simp] theorem wp_pure (a : α) : wp (pure a : Prog σ ε α) s Q E ↔ Q a s := Iff.rfl

/-- What is to hold in the end is asked of the second part after the first. -/
theorem wp_bind {p : Prog σ ε β} {f : β → Prog σ ε α} :
    wp (p >>= f) s Q E ↔ wp p s (fun b s' => wp (f b) s' Q E) E := by
  show (match (p s >>= fun r => f r.1 r.2 : Except ε (α × σ)) with
      | .ok r => Q r.1 r.2
      | .error e => E e) ↔ _
  unfold wp
  cases p s with
  | error e => exact Iff.rfl
  | ok r => exact Iff.rfl

/-- A write. -/
@[simp] theorem wp_set {Q : PUnit → σ → Prop} (s' : σ) :
    wp (set s' : Prog σ ε PUnit) s Q E ↔ Q ⟨⟩ s' := Iff.rfl

/-- A change of the state. -/
@[simp] theorem wp_modify {Q : PUnit → σ → Prop} (f : σ → σ) :
    wp (modify f : Prog σ ε PUnit) s Q E ↔ Q ⟨⟩ (f s) := Iff.rfl

/-- A panic is judged by the other condition. -/
@[simp] theorem wp_throw (e : ε) : wp (throw e : Prog σ ε α) s Q E ↔ E e := Iff.rfl

/-- A stateless computation that may panic leaves the state as it is. -/
theorem wp_lift (x : Except ε α) :
    wp (liftM x : Prog σ ε α) s Q E ↔ (∀ a, x = .ok a → Q a s) ∧ ∀ e, x = .error e → E e := by
  cases x with
  | error e =>
    refine ⟨fun h => ⟨fun a ha => absurd ha (by simp), fun e' he => ?_⟩, fun h => h.2 e rfl⟩
    injection he with he
    exact he ▸ h
  | ok a =>
    refine ⟨fun h => ⟨fun a' ha => ?_, fun e' he => absurd he (by simp)⟩, fun h => h.1 a rfl⟩
    injection ha with ha
    exact ha ▸ h

/-- A stateless computation: its panics are panics, its value is continued with. -/
theorem wp_lift_bind {x : Except ε β} {f : β → Prog σ ε α} (hf : ∀ b, x = .ok b → wp (f b) s Q E)
    (hE : ∀ e, x = .error e → E e) : wp (liftM x >>= f) s Q E :=
  wp_bind.mpr ((wp_lift x).mpr ⟨hf, hE⟩)

/-- A choice is as good as the way that is taken. -/
theorem wp_ite {c : Prop} [Decidable c] {p q : Prog σ ε α} :
    wp (if c then p else q) s Q E ↔ (c → wp p s Q E) ∧ (¬c → wp q s Q E) := by
  by_cases h : c
  · simp [h]
  · simp [h]

/-- Weakening: a stronger postcondition and a stronger panic condition suffice. -/
theorem wp_mono {p : Prog σ ε α} {Q' : α → σ → Prop} {E' : ε → Prop}
    (h : wp p s Q' E') (hQ : ∀ a s', Q' a s' → Q a s') (hE : ∀ e, E' e → E e) :
    wp p s Q E := by
  unfold wp at h ⊢
  split
  next r hr => rw [hr] at h; exact hQ _ _ h
  next e he => rw [he] at h; exact hE _ h

end rules

/-! ## What holds whenever a program returns -/

section ensures

variable {Q : α → σ → Prop} {s : σ}

/-- What is ensured holds after a run. -/
theorem Ensures.of_run {p : Prog σ ε α} {s' : σ} {a : α} (h : Ensures p s Q)
    (hrun : p s = .ok (a, s')) : Q a s' := by
  unfold Ensures wp at h
  rw [hrun] at h
  exact h

/-- And only that is meant. -/
theorem ensures_iff {p : Prog σ ε α} :
    Ensures p s Q ↔ ∀ a s', p s = .ok (a, s') → Q a s' := by
  refine ⟨fun h a s' hrun => h.of_run hrun, fun h => ?_⟩
  unfold Ensures wp
  cases hr : p s with
  | error e => trivial
  | ok r => exact h r.1 r.2 hr

/-- A condition may be weakened. -/
theorem Ensures.mono {p : Prog σ ε α} {R : α → σ → Prop} (h : Ensures p s R)
    (hQ : ∀ a s', R a s' → Q a s') : Ensures p s Q :=
  wp_mono h hQ fun _ e => e

/-- Two conditions that are ensured hold together. -/
theorem Ensures.and {p : Prog σ ε α} {R : α → σ → Prop} (h : Ensures p s R) (h' : Ensures p s Q) :
    Ensures p s fun a s' => R a s' ∧ Q a s' :=
  ensures_iff.mpr fun _ _ hrun => ⟨h.of_run hrun, h'.of_run hrun⟩

/-- A return ensures what holds. -/
theorem Ensures.ret {a : α} (h : Q a s) : Ensures (pure a : Prog σ ε α) s Q := h

/-- Sequencing: what the first part ensures is what the second starts from. -/
theorem Ensures.bind {p : Prog σ ε β} {f : β → Prog σ ε α} {R : β → σ → Prop}
    (hp : Ensures p s R) (hf : ∀ b s', R b s' → Ensures (f b) s' Q) : Ensures (p >>= f) s Q :=
  wp_bind.mpr (wp_mono hp hf fun _ e => e)

/-- The state is read first. -/
theorem Ensures.get_bind {f : σ → Prog σ ε α} (h : Ensures (f s) s Q) :
    Ensures (get >>= f) s Q := wp_bind.mpr h

/-- A state is written first. -/
theorem Ensures.set_bind {f : PUnit → Prog σ ε α} {s' : σ} (h : Ensures (f ⟨⟩) s' Q) :
    Ensures (set s' >>= f) s Q := wp_bind.mpr h

/-- The state is changed first. -/
theorem Ensures.modify_bind {f : PUnit → Prog σ ε α} {g : σ → σ} (h : Ensures (f ⟨⟩) (g s) Q) :
    Ensures (modify g >>= f) s Q := wp_bind.mpr h

/-- A panic ensures anything. -/
theorem Ensures.panic (e : ε) : Ensures (throw e : Prog σ ε α) s Q := trivial

/-- A computation without state ensures what holds of its result. -/
theorem Ensures.lift {x : Except ε α} (h : ∀ a, x = .ok a → Q a s) :
    Ensures (liftM x : Prog σ ε α) s Q := (wp_lift x).mpr ⟨h, fun _ _ => trivial⟩

/-- A stateless computation: continue with its value. -/
theorem Ensures.lift_bind {x : Except ε β} {f : β → Prog σ ε α}
    (h : ∀ b, x = .ok b → Ensures (f b) s Q) : Ensures (liftM x >>= f) s Q := by
  refine wp_bind.mpr ((wp_lift x).mpr ⟨h, fun _ _ => trivial⟩)

/-- A choice. -/
theorem Ensures.ite {c : Prop} [Decidable c] {p q : Prog σ ε α} (hp : c → Ensures p s Q)
    (hq : ¬c → Ensures q s Q) : Ensures (if c then p else q) s Q :=
  wp_ite.mpr ⟨hp, hq⟩

/-- A loop: what every round keeps, the loop keeps. -/
theorem Ensures.foldlM {ι : Type} {f : α → ι → Prog σ ε α} {I : σ → Prop} {l : List ι}
    (hround : ∀ a, ∀ i ∈ l, ∀ s, I s → Ensures (f a i) s fun _ s' => I s') (a : α) (hs : I s) :
    Ensures (l.foldlM f a) s fun _ s' => I s' := by
  induction l generalizing a s with
  | nil => exact hs
  | cons i l ih =>
    rw [List.foldlM_cons]
    refine (hround a i (by simp) s hs).bind fun b s' hs' => ih (fun a j hj => ?_) b hs'
    exact hround a j (List.mem_cons_of_mem _ hj)

/-- A loop keeps what each of its rounds keeps. -/
theorem Ensures.forM {ι : Type} {f : ι → Prog σ ε PUnit} {I : σ → Prop}
    (hround : ∀ i s, I s → Ensures (f i) s fun _ s' => I s') (l : List ι) (hs : I s) :
    Ensures (l.forM f) s fun _ s' => I s' := by
  induction l generalizing s with
  | nil => exact hs
  | cons i l ih =>
    exact (hround i s hs).bind fun _ s' hs' => ih hs'

end ensures

/-- A stateless computation in two parts. -/
theorem lift_bind_assoc (x : Except ε β) (f : β → Except ε γ) (g : γ → Prog σ ε α) :
    ((liftM (x >>= f) : Prog σ ε γ) >>= g) =
      ((liftM x : Prog σ ε β) >>= fun b => (liftM (f b) : Prog σ ε γ) >>= g) := by
  cases x with
  | error e => rfl
  | ok b => rfl

/-! ## What a program leaves alone -/

/-- Whenever `p` returns, it has left the state as it was, up to `R`. -/
def Keeps (R : σ → σ → Prop) (p : Prog σ ε α) : Prop := ∀ s, Ensures p s fun _ s' => R s s'

namespace Keeps

variable {R : σ → σ → Prop} {p : Prog σ ε α}

/-- The condition may be weakened. -/
theorem mono {R' : σ → σ → Prop} (h : Keeps R p) (hR : ∀ s s', R s s' → R' s s') : Keeps R' p :=
  fun s => (h s).mono fun _ s' hs => hR s s' hs

theorem panic (e : ε) : Keeps R (throw e : Prog σ ε α) := fun _ => trivial

/-- A change of the state within the relation. -/
theorem write {f : σ → σ} (hf : ∀ s, R s (f s)) : Keeps R (modify f : Prog σ ε PUnit) :=
  fun s => hf s

theorem ite {c : Prop} [Decidable c] {q : Prog σ ε α} (hp : Keeps R p) (hq : Keeps R q) :
    Keeps R (if c then p else q) := fun s => .ite (fun _ => hp s) fun _ => hq s

theorem bind [IsTrans σ R] {q : Prog σ ε β} {f : β → Prog σ ε α} (hq : Keeps R q)
    (hf : ∀ b, Keeps R (f b)) : Keeps R (q >>= f) := fun s =>
  (hq s).bind fun b s' h => (hf b s').mono fun _ _ h' => IsTrans.trans _ _ _ h h'

variable [Std.Refl R]

theorem ret (a : α) : Keeps R (pure a : Prog σ ε α) := fun s => Std.Refl.refl s

theorem lift (x : Except ε α) : Keeps R (liftM x : Prog σ ε α) := fun s =>
  Ensures.lift fun _ _ => Std.Refl.refl s

/-- Reading changes nothing. -/
theorem read : Keeps R (get : Prog σ ε σ) := fun s => Std.Refl.refl (r := R) s

/-- A loop of such rounds. -/
theorem forM [IsTrans σ R] {ι : Type} {f : ι → Prog σ ε PUnit} (hf : ∀ i, Keeps R (f i))
    (l : List ι) : Keeps R (l.forM f) := fun s =>
  Ensures.forM (I := R s) (fun i s' hs => (hf i s').mono fun _ _ h => IsTrans.trans _ _ _ hs h) l
    (Std.Refl.refl s)

end Keeps

/-! ## The panics of a program -/

/-- From whatever state, `p` returns or panics with a reason in `E`. -/
def Throws (E : ε → Prop) (p : Prog σ ε α) : Prop := ∀ s, wp p s (fun _ _ => True) E

namespace Throws

variable {E : ε → Prop} {p : Prog σ ε α}

/-- The condition may be weakened. -/
theorem mono {E' : ε → Prop} (h : Throws E' p) (hE : ∀ e, E' e → E e) : Throws E p :=
  fun s => wp_mono (h s) (fun _ _ h => h) hE

theorem ret (a : α) : Throws E (pure a : Prog σ ε α) := fun _ => trivial

theorem panic {e : ε} (h : E e) : Throws E (throw e : Prog σ ε α) := fun _ => h

/-- A change of the state within the relation. -/
theorem write (f : σ → σ) : Throws E (modify f : Prog σ ε PUnit) := fun _ => trivial

theorem lift {x : Except ε α} (h : ∀ e, x = .error e → E e) : Throws E (liftM x : Prog σ ε α) :=
  fun _ => (wp_lift x).mpr ⟨fun _ _ => trivial, h⟩

theorem ite {c : Prop} [Decidable c] {q : Prog σ ε α} (hp : c → Throws E p)
    (hq : ¬c → Throws E q) : Throws E (if c then p else q) :=
  fun s => wp_ite.mpr ⟨fun h => hp h s, fun h => hq h s⟩

theorem bind {q : Prog σ ε β} {f : β → Prog σ ε α} (hq : Throws E q) (hf : ∀ b, Throws E (f b)) :
    Throws E (q >>= f) := fun s => wp_bind.mpr (wp_mono (hq s) (fun b s' _ => hf b s') fun _ e => e)

/-- Sequencing, where the rest depends on a property of the value. -/
theorem after {q : Prog σ ε β} {f : β → Prog σ ε α} {R : β → Prop} (hq : Throws E q)
    (hR : ∀ s, Ensures q s fun b _ => R b) (hf : ∀ b, R b → Throws E (f b)) :
    Throws E (q >>= f) := by
  intro s
  refine wp_bind.mpr ?_
  have hE := hq s
  have hQ := hR s
  unfold Ensures at hQ
  unfold wp at hE hQ ⊢
  split
  next r hr =>
    rw [hr] at hQ
    exact hf _ hQ _
  next e he =>
    rw [he] at hE
    exact hE

/-- A stateless computation: its value is continued with. -/
theorem lift_bind {x : Except ε β} {f : β → Prog σ ε α} (hE : ∀ e, x = .error e → E e)
    (hf : ∀ b, x = .ok b → Throws E (f b)) : Throws E (liftM x >>= f) :=
  fun s => wp_lift_bind (fun b hb => hf b hb s) hE

theorem get_bind {f : σ → Prog σ ε α} (hf : ∀ s, Throws E (f s)) : Throws E (get >>= f) :=
  fun s => wp_bind.mpr (hf s s)

end Throws

/-! ## Programs that return -/

section completes

variable {Q : α → σ → Prop} {s : σ}

/-- To complete is to return, with the condition. -/
theorem completes_iff {p : Prog σ ε α} :
    Completes p s Q ↔ ∃ a s', p s = .ok (a, s') ∧ Q a s' := by
  unfold Completes wp
  cases hr : p s with
  | error e => simp
  | ok r =>
    constructor
    · intro h
      exact ⟨r.1, r.2, rfl, h⟩
    · intro h
      obtain ⟨a, s', he, h⟩ := h
      injection he with he
      rw [he]
      exact h

/-- `p` returns; what it ensures is said elsewhere. -/
abbrev Returns (p : Prog σ ε α) (s : σ) : Prop := Completes p s fun _ _ => True

/-- What completes returns. -/
theorem Completes.returns {p : Prog σ ε α} (h : Completes p s Q) : Returns p s :=
  wp_mono h (fun _ _ _ => trivial) fun _ e => e

/-- What always returns never panics. -/
theorem Throws.of_returns {E : ε → Prop} {p : Prog σ ε α} (h : ∀ s, Returns p s) : Throws E p :=
  fun s => wp_mono (h s) (fun _ _ h => h) fun _ e => e.elim

/-- A program that returns does so in a state it ensures. -/
theorem Returns.ensuring {p : Prog σ ε α} (h : Returns p s) (hQ : Ensures p s Q) :
    Completes p s Q := by
  obtain ⟨a, s', hrun, -⟩ := completes_iff.mp h
  exact completes_iff.mpr ⟨a, s', hrun, hQ.of_run hrun⟩

/-- A return returns. -/
theorem Returns.ret (a : α) : Returns (pure a : Prog σ ε α) s := trivial

/-- A part that completes, before one that returns from there. -/
theorem Completes.bind {p : Prog σ ε β} {f : β → Prog σ ε α} {R : β → σ → Prop}
    (hp : Completes p s R) (hf : ∀ b s', R b s' → Returns (f b) s') : Returns (p >>= f) s :=
  wp_bind.mpr (wp_mono hp hf fun _ e => e)

/-- After a part that returns, what is to be shown is shown of the rest. -/
theorem Completes.wp_bind {p : Prog σ ε β} {f : β → Prog σ ε α} {R : β → σ → Prop} {E : ε → Prop}
    (hp : Completes p s R) (hf : ∀ b s', R b s' → wp (f b) s' Q E) : wp (p >>= f) s Q E :=
  Prog.wp_bind.mpr (wp_mono hp hf fun _ e => e.elim)

/-- Two parts that return. -/
theorem Returns.bind {p : Prog σ ε β} {f : β → Prog σ ε α} (hp : Returns p s)
    (hf : ∀ b s', Returns (f b) s') : Returns (p >>= f) s :=
  Completes.bind hp fun b s' _ => hf b s'

/-- The state is read first. -/
theorem Returns.get_bind {f : σ → Prog σ ε α} (h : Returns (f s) s) : Returns (get >>= f) s :=
  wp_bind.mpr h

/-- A state is written first. -/
theorem Returns.set_bind {f : PUnit → Prog σ ε α} {s' : σ} (h : Returns (f ⟨⟩) s') :
    Returns (set s' >>= f) s := wp_bind.mpr h

/-- The state is changed first. -/
theorem Returns.modify_bind {f : PUnit → Prog σ ε α} {g : σ → σ} (h : Returns (f ⟨⟩) (g s)) :
    Returns (modify g >>= f) s := wp_bind.mpr h

/-- A stateless computation that returns. -/
theorem Returns.lift_bind {x : Except ε β} {b : β} {f : β → Prog σ ε α} (hx : x = .ok b)
    (h : Returns (f b) s) : Returns (liftM x >>= f) s := by
  rw [hx]
  exact wp_bind.mpr h

/-- A choice. -/
theorem Returns.ite {c : Prop} [Decidable c] {p q : Prog σ ε α} (hp : c → Returns p s)
    (hq : ¬c → Returns q s) : Returns (if c then p else q) s := wp_ite.mpr ⟨hp, hq⟩

/-- A loop returns if every round does. -/
theorem Returns.forM {ι : Type} {f : ι → Prog σ ε PUnit} {l : List ι}
    (hround : ∀ i ∈ l, ∀ s, Returns (f i) s) : Returns (l.forM f) s := by
  induction l generalizing s with
  | nil => exact .ret _
  | cons i l ih =>
    refine (hround i (by simp) s).bind fun _ s' => ih fun j hj => hround j ?_
    exact List.mem_cons_of_mem i hj

end completes

end Prog
