import Lndhubx.Lib.Prog

/-!
# Programs that do all or nothing

A program makes attempts, and a counter `fails` of its state says how many have
failed. It is `Atomic` if a run in which an attempt failed has left the state as
it was, up to a relation `same`.

A program that does all or nothing has three parts. First it looks around
(`Idle`: nothing is changed and nothing attempted); then it makes its attempts,
giving up at the first that fails (`Atomic.attempt`); and what it changes it
changes after the last of them, where nothing can fail any more (`Calm`).
-/

namespace Prog

variable {σ ε α β : Type} {fails : σ → Nat} {same : σ → σ → Prop}

/-- No attempt failed in between. -/
def Calm (fails : σ → Nat) (s s' : σ) : Prop := fails s' = fails s

/-- Nothing was changed, and no attempt failed. -/
def Idle (fails : σ → Nat) (same : σ → σ → Prop) (s s' : σ) : Prop :=
  same s s' ∧ fails s' = fails s

instance : Std.Refl (Calm fails) := ⟨fun _ => rfl⟩

instance : IsTrans σ (Calm fails) := ⟨fun _ _ _ h h' => Eq.trans h' h⟩

instance [Std.Refl same] : Std.Refl (Idle fails same) := ⟨fun s => ⟨Std.Refl.refl s, rfl⟩⟩

instance [IsTrans σ same] : IsTrans σ (Idle fails same) :=
  ⟨fun _ _ _ h h' => ⟨IsTrans.trans _ _ _ h.1 h'.1, h'.2.trans h.2⟩⟩

/-- A part that idles raises no flag. -/
theorem Keeps.calm {p : Prog σ ε α} (h : Keeps (Idle fails same) p) : Keeps (Calm fails) p :=
  h.mono fun _ _ hs => hs.2

/-- A part that idles changes nothing that counts. -/
theorem Keeps.unchanged {p : Prog σ ε α} (h : Keeps (Idle fails same) p) : Keeps same p :=
  h.mono fun _ _ hs => hs.1

/-- If an attempt of `p` fails, `p` changes nothing. -/
def Atomic (fails : σ → Nat) (same : σ → σ → Prop) (p : Prog σ ε α) : Prop :=
  Keeps (fun s s' => fails s' ≠ fails s → same s s') p

namespace Atomic

variable {p : Prog σ ε α}

/-- Where no flag is raised there is nothing to show. -/
theorem of_calm (h : Keeps (Calm fails) p) : Atomic fails same p :=
  h.mono fun _ _ hs hne => absurd hs hne

/-- A panic leaves nothing to show. -/
theorem panic (e : ε) : Atomic fails same (throw e : Prog σ ε α) := Keeps.panic e

/-- To return changes nothing. -/
theorem ret (a : α) : Atomic fails same (pure a : Prog σ ε α) := of_calm (.ret a)

/-- Both ways of a choice. -/
theorem ite {c : Prop} [Decidable c] {q : Prog σ ε α} (hp : Atomic fails same p)
    (hq : Atomic fails same q) : Atomic fails same (if c then p else q) := Keeps.ite hp hq

variable [IsTrans σ same] {q : Prog σ ε β} {f : β → Prog σ ε α}

/-- A part that idles first. -/
theorem after (hq : Keeps (Idle fails same) q) (hf : ∀ b, Atomic fails same (f b)) :
    Atomic fails same (q >>= f) := by
  intro s
  refine (hq s).bind fun b s₁ h₁ => (hf b s₁).mono fun _ s₂ h₂ hne => ?_
  rw [← h₁.2] at hne
  exact IsTrans.trans _ _ _ h₁.1 (h₂ hne)

/-- A part that idles last. -/
theorem before (hq : Atomic fails same q) (hf : ∀ b, Keeps (Idle fails same) (f b)) :
    Atomic fails same (q >>= f) := by
  intro s
  refine (hq s).bind fun b s₁ h₁ => (hf b s₁).mono fun _ s₂ h₂ hne => ?_
  rw [h₂.2] at hne
  exact IsTrans.trans _ _ _ (h₁ hne) h₂.1

/-- An attempt: it changes nothing itself, and after a failure nothing is changed. -/
theorem attempt {ok : β → Prop}
    (hq : ∀ s, Ensures q s fun b s' => same s s' ∧ (ok b → fails s' = fails s))
    (hok : ∀ b, ok b → Atomic fails same (f b)) (hno : ∀ b, ¬ok b → Keeps same (f b)) :
    Atomic fails same (q >>= f) := by
  intro s
  refine (hq s).bind fun b s₁ h₁ => ?_
  obtain ⟨hsame, hfails⟩ := h₁
  by_cases hb : ok b
  · refine (hok b hb s₁).mono fun _ s₂ h₂ hne => ?_
    rw [← hfails hb] at hne
    exact IsTrans.trans _ _ _ hsame (h₂ hne)
  · exact (hno b hb s₁).mono fun _ s₂ h₂ _ => IsTrans.trans _ _ _ hsame h₂

end Atomic

end Prog
