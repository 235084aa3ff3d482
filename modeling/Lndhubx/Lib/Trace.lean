import Mathlib.Data.List.Induction
import Mathlib.Tactic.Common

/-!
# Runs of a labelled transition system

`Trace step s l s'` is a run from `s` to `s'` whose steps carry the labels `l`,
the last step last. Safety of a run is proved by an invariant that every step
keeps (`Trace.invariant`). Where the steps of a run are assumed to meet a
condition, the run is one of the restricted step relation (`Trace.restrict`);
conditions are compared step by step (`Trace.restrict_mono`).
-/

variable {σ ℓ : Type}

/-- Runs with their labels, extended at the end. -/
inductive Trace (step : σ → ℓ → σ → Prop) : σ → List ℓ → σ → Prop
  | nil (s : σ) : Trace step s [] s
  | snoc {s s' s'' : σ} {l : List ℓ} {a : ℓ} :
      Trace step s l s' → step s' a s'' → Trace step s (l ++ [a]) s''

namespace Trace

variable {step : σ → ℓ → σ → Prop} {s s' : σ} {l : List ℓ}

theorem eq_of_nil (h : Trace step s [] s') : s' = s := by
  generalize hl : ([] : List ℓ) = l at h
  cases h with
  | nil => rfl
  | snoc _ _ => exact absurd hl (by simp)

/-- The last step of a run. -/
theorem last {a : ℓ} (h : Trace step s (l ++ [a]) s') :
    ∃ m, Trace step s l m ∧ step m a s' := by
  generalize hl : l ++ [a] = l' at h
  cases h with
  | nil => exact absurd hl (by simp)
  | snoc hrun hlast =>
    obtain ⟨rfl, rfl⟩ := List.append_singleton_inj.mp hl
    exact ⟨_, hrun, hlast⟩

/-- The first step of a run. -/
theorem first {a : ℓ} (h : Trace step s (a :: l) s') :
    ∃ m, step s a m ∧ Trace step m l s' := by
  induction l using List.reverseRecOn generalizing s' with
  | nil =>
    obtain ⟨m, hrun, hlast⟩ := last (l := []) h
    rw [hrun.eq_of_nil] at hlast
    exact ⟨s', hlast, .nil s'⟩
  | append_singleton l b ih =>
    obtain ⟨m, hrun, hlast⟩ := last (l := a :: l) h
    obtain ⟨m', hfirst, hrest⟩ := ih hrun
    exact ⟨m', hfirst, hrest.snoc hlast⟩

theorem cons {a : ℓ} {m : σ} (hfirst : step s a m) (h : Trace step m l s') :
    Trace step s (a :: l) s' := by
  induction h with
  | nil => exact .snoc (l := []) (.nil s) hfirst
  | @snoc _ _ l b _ hlast ih => exact .snoc (l := a :: l) ih hlast

/-- What every step of a run keeps, the run keeps. -/
theorem invariant {I : σ → Prop} (hstep : ∀ s a s', a ∈ l → I s → step s a s' → I s')
    (h : Trace step s l s') (hs : I s) : I s' := by
  induction h with
  | nil => exact hs
  | snoc _ hlast ih =>
    refine hstep _ _ _ (by simp) (ih fun s a s' ha => hstep s a s' ?_) hlast
    exact List.mem_append_left _ ha

theorem mono {step' : σ → ℓ → σ → Prop} (h : Trace step s l s')
    (hstep : ∀ s a s', step s a s' → step' s a s') : Trace step' s l s' := by
  induction h with
  | nil => exact .nil _
  | snoc _ hlast ih => exact ih.snoc (hstep _ _ _ hlast)

/-- A run is cut where its labels are. -/
theorem split {l₁ l₂ : List ℓ} (h : Trace step s (l₁ ++ l₂) s') :
    ∃ m, Trace step s l₁ m ∧ Trace step m l₂ s' := by
  induction l₂ using List.reverseRecOn generalizing s' with
  | nil =>
    rw [List.append_nil] at h
    exact ⟨s', h, .nil s'⟩
  | append_singleton l₂ a ih =>
    rw [← List.append_assoc] at h
    obtain ⟨s₁, hrun, hlast⟩ := h.last
    obtain ⟨m, hm, hrest⟩ := ih hrun
    exact ⟨m, hm, hrest.snoc hlast⟩

/-- The steps of a partial function, one after the other. -/
theorem iff_foldlM {ε : Type} {f : σ → ℓ → Except ε σ} :
    Trace (fun s a s' => f s a = .ok s') s l s' ↔ l.foldlM f s = .ok s' := by
  constructor
  · intro h
    induction h with
    | nil => rfl
    | snoc _ hlast ih =>
      rw [List.foldlM_append, ih]
      show List.foldlM f _ [_] = _
      rw [List.foldlM_cons, hlast]
      rfl
  · induction l using List.reverseRecOn generalizing s' with
    | nil =>
      intro h
      injection h with h
      rw [← h]
      exact .nil s
    | append_singleton l a ih =>
      intro h
      rw [List.foldlM_append] at h
      cases hl : l.foldlM f s with
      | error e =>
        rw [hl] at h
        exact absurd h (by simp [bind, Except.bind])
      | ok s₁ =>
        rw [hl] at h
        refine .snoc (ih hl) ?_
        cases ha : f s₁ a with
        | error e => simp [bind, Except.bind, ha] at h
        | ok s₂ =>
          simp only [bind, Except.bind, List.foldlM_cons, List.foldlM_nil, ha, pure,
            Except.pure] at h
          injection h with h
          rw [← h]

/-- The steps of a function that may be undefined, one after the other. -/
theorem of_foldlM {f : σ → ℓ → Option σ} (h : l.foldlM f s = some s') :
    Trace (fun s a s' => f s a = some s') s l s' := by
  induction l using List.reverseRecOn generalizing s' with
  | nil =>
    injection h with h
    rw [← h]
    exact .nil s
  | append_singleton l a ih =>
    rw [List.foldlM_append] at h
    obtain ⟨s₁, hl, h⟩ := Option.bind_eq_some_iff.mp h
    refine .snoc (ih hl) ?_
    obtain ⟨s₂, ha, h⟩ := Option.bind_eq_some_iff.mp h
    injection h with h
    rw [← h]
    exact ha

/-- And likewise where every step starts in a state that meets a condition. -/
theorem of_foldlM_guarded {G : σ → Prop} [DecidablePred G] {f : σ → ℓ → Option σ}
    (h : l.foldlM (fun s a => if G s then f s a else none) s = some s') :
    Trace (fun s a s' => G s ∧ f s a = some s') s l s' := by
  apply (of_foldlM h).mono
  intro s a s' hstep
  split at hstep
  next hguard => exact ⟨hguard, hstep⟩
  next => exact absurd hstep (by simp)

/-- A run is one of the steps whose labels meet a condition if all its labels do. -/
theorem restrict {G : ℓ → Prop} (h : Trace step s l s') (hl : ∀ a ∈ l, G a) :
    Trace (fun s a s' => G a ∧ step s a s') s l s' := by
  induction h with
  | nil => exact .nil _
  | snoc _ hlast ih =>
    refine .snoc (ih fun a ha => hl a ?_) ⟨hl _ (by simp), hlast⟩
    exact List.mem_append_left _ ha

/-- Where a condition on the steps implies another one, and an invariant needed
for that, the runs that meet the first meet the second. -/
theorem restrict_mono {I : σ → Prop} {G H : σ → ℓ → σ → Prop}
    (h : Trace (fun s a s' => G s a s' ∧ step s a s') s l s') (hs : I s)
    (himp : ∀ s a s', a ∈ l → I s → step s a s' → G s a s' → H s a s' ∧ I s') :
    Trace (fun s a s' => H s a s' ∧ step s a s') s l s' ∧ I s' := by
  induction h with
  | nil => exact ⟨.nil _, hs⟩
  | snoc _ hlast ih =>
    obtain ⟨hrun, hinv⟩ := ih fun s a s' ha => himp s a s' (List.mem_append_left _ ha)
    obtain ⟨hH, hinv⟩ := himp _ _ _ (by simp) hinv hlast.2 hlast.1
    exact ⟨hrun.snoc ⟨hH, hlast.2⟩, hinv⟩

end Trace
