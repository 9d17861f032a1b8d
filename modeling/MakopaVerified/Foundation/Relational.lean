import MakopaVerified.Foundation.Method

/-!
# Two calls side by side

`Relates m₁ m₂ s₁ s₂ Q` says that whenever the call of `m₁` on `s₁` and the call of `m₂` on `s₂`
both return a value, the two values and receivers satisfy `Q`. A call that fails is not spoken of:
that both return is shown elsewhere. There is one rule per construct, for two methods of the same
shape, and one for a call on a part that the two receivers share.

`Carries I f m` is about one method on a receiver and on the receiver changed by `f`: where the first
call returns a value, so does the second.
-/

namespace MakopaVerified.Foundation.Method

variable {σ τ ε ε' α β : Type}

/-- If both calls return a value, the results satisfy `Q`. -/
def Relates (m₁ m₂ : Method σ ε α) (s₁ s₂ : σ) (Q : α → σ → α → σ → Prop) : Prop :=
  ∀ a₁ t₁ a₂ t₂, m₁.run s₁ = (.ok a₁, t₁) → m₂.run s₂ = (.ok a₂, t₂) → Q a₁ t₁ a₂ t₂

namespace Relates

variable {m₁ m₂ m₁' m₂' : Method σ ε α} {s₁ s₂ : σ} {Q Q' : α → σ → α → σ → Prop}

theorem mono (h : Relates m₁ m₂ s₁ s₂ Q)
    (hQ : ∀ a₁ t₁ a₂ t₂, Q a₁ t₁ a₂ t₂ → Q' a₁ t₁ a₂ t₂) : Relates m₁ m₂ s₁ s₂ Q' :=
  fun a₁ t₁ a₂ t₂ hrun₁ hrun₂ => hQ _ _ _ _ (h a₁ t₁ a₂ t₂ hrun₁ hrun₂)

theorem pure {a₁ a₂ : α} (h : Q a₁ s₁ a₂ s₂) :
    Relates (Pure.pure a₁ : Method σ ε α) (Pure.pure a₂) s₁ s₂ Q := by
  intro b₁ t₁ b₂ t₂ hrun₁ hrun₂
  rw [run_pure] at hrun₁ hrun₂
  cases hrun₁
  cases hrun₂
  exact h

theorem fail {e : ε} : Relates (Method.fail e) m₂ s₁ s₂ Q := by
  intro a₁ t₁ a₂ t₂ hrun₁
  cases hrun₁

theorem bind {f₁ f₂ : α → Method σ ε β} {R : β → σ → β → σ → Prop}
    (h : Relates m₁ m₂ s₁ s₂ fun a₁ t₁ a₂ t₂ => Relates (f₁ a₁) (f₂ a₂) t₁ t₂ R) :
    Relates (m₁ >>= f₁) (m₂ >>= f₂) s₁ s₂ R := by
  intro b₁ u₁ b₂ u₂ hrun₁ hrun₂
  obtain ⟨a₁, t₁, hm₁, hf₁⟩ := run_bind_eq_ok.mp hrun₁
  obtain ⟨a₂, t₂, hm₂, hf₂⟩ := run_bind_eq_ok.mp hrun₂
  exact h a₁ t₁ a₂ t₂ hm₁ hm₂ b₁ u₁ b₂ u₂ hf₁ hf₂

theorem self {Q : σ → σ → σ → σ → Prop} (h : Q s₁ s₁ s₂ s₂) :
    Relates (Method.self : Method σ ε σ) Method.self s₁ s₂ Q := by
  intro a₁ t₁ a₂ t₂ hrun₁ hrun₂
  rw [run_self] at hrun₁ hrun₂
  cases hrun₁
  cases hrun₂
  exact h

theorem update {f₁ f₂ : σ → σ} {Q : Unit → σ → Unit → σ → Prop} (h : Q () (f₁ s₁) () (f₂ s₂)) :
    Relates (Method.update f₁ : Method σ ε Unit) (Method.update f₂) s₁ s₂ Q := by
  intro a₁ t₁ a₂ t₂ hrun₁ hrun₂
  rw [run_update] at hrun₁ hrun₂
  cases hrun₁
  cases hrun₂
  exact h

theorem query {f₁ f₂ : σ → Except ε α}
    (h : ∀ a₁ a₂, f₁ s₁ = .ok a₁ → f₂ s₂ = .ok a₂ → Q a₁ s₁ a₂ s₂) :
    Relates (Method.query f₁) (Method.query f₂) s₁ s₂ Q := by
  intro a₁ t₁ a₂ t₂ hrun₁ hrun₂
  obtain ⟨hf₁, rfl⟩ := Prod.mk.inj hrun₁
  obtain ⟨hf₂, rfl⟩ := Prod.mk.inj hrun₂
  exact h a₁ a₂ hf₁ hf₂

/-- The two conditions agree, so the two calls take the same branch. -/
theorem ite {c₁ c₂ : Prop} [Decidable c₁] [Decidable c₂] (hc : c₁ ↔ c₂)
    (hpos : c₁ → Relates m₁ m₂ s₁ s₂ Q) (hneg : ¬ c₁ → Relates m₁' m₂' s₁ s₂ Q) :
    Relates (if c₁ then m₁ else m₁') (if c₂ then m₂ else m₂') s₁ s₂ Q := by
  by_cases h : c₁
  · rw [if_pos h, if_pos (hc.mp h)]
    exact hpos h
  · rw [if_neg h, if_neg fun h₂ => h (hc.mpr h₂)]
    exact hneg h

theorem onPart {get : σ → τ} {put : τ → σ → σ} {err : ε' → ε} {p₁ p₂ : Method τ ε' α}
    (h : Relates p₁ p₂ (get s₁) (get s₂) fun a₁ t₁ a₂ t₂ => Q a₁ (put t₁ s₁) a₂ (put t₂ s₂)) :
    Relates (Method.onPart get put err p₁) (Method.onPart get put err p₂) s₁ s₂ Q := by
  intro a₁ t₁ a₂ t₂ hrun₁ hrun₂
  rw [run_onPart] at hrun₁ hrun₂
  rcases hp₁ : p₁.run (get s₁) with ⟨_ | b₁, u₁⟩
  · rw [hp₁] at hrun₁
    cases hrun₁
  · rcases hp₂ : p₂.run (get s₂) with ⟨_ | b₂, u₂⟩
    · rw [hp₂] at hrun₂
      cases hrun₂
    · rw [hp₁] at hrun₁
      rw [hp₂] at hrun₂
      cases hrun₁
      cases hrun₂
      exact h _ _ _ _ hp₁ hp₂

/-- A call on a part that is the same in both receivers returns the same. -/
theorem onPart_same {get : σ → τ} {put : τ → σ → σ} {err : ε' → ε} {p : Method τ ε' α}
    (hsame : get s₂ = get s₁) (h : ∀ a t, Q a (put t s₁) a (put t s₂)) :
    Relates (Method.onPart get put err p) (Method.onPart get put err p) s₁ s₂ Q := by
  refine onPart fun a₁ t₁ a₂ t₂ hrun₁ hrun₂ => ?_
  rw [hsame, hrun₁] at hrun₂
  cases hrun₂
  exact h a₁ t₁

theorem restoring (h : Relates m₁ m₂ s₁ s₂ Q) :
    Relates (Method.restoring m₁) (Method.restoring m₂) s₁ s₂ Q :=
  fun _ _ _ _ hrun₁ hrun₂ =>
    h _ _ _ _ (run_restoring_ok.mp hrun₁) (run_restoring_ok.mp hrun₂)

theorem undoing {undo₁ undo₂ : σ → σ} (h : Relates m₁ m₂ s₁ s₂ Q) :
    Relates (Method.undoing undo₁ m₁) (Method.undoing undo₂ m₂) s₁ s₂ Q :=
  fun _ _ _ _ hrun₁ hrun₂ => h _ _ _ _ (run_undoing_ok.mp hrun₁) (run_undoing_ok.mp hrun₂)

end Relates

/-- A call that returns a value on a receiver with `I` returns the same value on the receiver changed
by `f`, and leaves the receiver that it left, changed by `f`. -/
def Carries (I : σ → Prop) (f : σ → σ) (m : Method σ ε α) : Prop :=
  ∀ s a s', I s → m.run s = (.ok a, s') → I s' ∧ m.run (f s) = (.ok a, f s')

namespace Carries

variable {I : σ → Prop} {f : σ → σ} {m m' : Method σ ε α}

theorem pure (a : α) : Carries I f (Pure.pure a : Method σ ε α) := by
  intro s b s' hs hrun
  rw [run_pure] at hrun
  cases hrun
  exact ⟨hs, rfl⟩

theorem fail (e : ε) : Carries I f (Method.fail e : Method σ ε α) := by
  intro s a s' _ hrun
  cases hrun

theorem bind {g : α → Method σ ε β} (h : Carries I f m) (hg : ∀ a, Carries I f (g a)) :
    Carries I f (m >>= g) := by
  intro s b s' hs hrun
  obtain ⟨a, t, hm, hrest⟩ := run_bind_eq_ok.mp hrun
  obtain ⟨ht, hm'⟩ := h s a t hs hm
  obtain ⟨hs', hrest'⟩ := hg a t b s' ht hrest
  exact ⟨hs', by rw [run_bind_ok hm', hrest']⟩

theorem update {g : σ → σ} (hI : ∀ s, I s → I (g s)) (hf : ∀ s, g (f s) = f (g s)) :
    Carries I f (Method.update g : Method σ ε Unit) := by
  intro s a s' hs hrun
  rw [run_update] at hrun
  cases hrun
  exact ⟨hI s hs, by rw [run_update, hf]⟩

theorem query {g : σ → Except ε α} (h : ∀ s a, I s → g s = .ok a → g (f s) = .ok a) :
    Carries I f (Method.query g) := by
  intro s a s' hs hrun
  rw [run_query] at hrun
  obtain ⟨hg, rfl⟩ := Prod.mk.inj hrun
  exact ⟨hs, by rw [run_query, h s a hs hg]⟩

theorem ite {c : Prop} [Decidable c] (h : Carries I f m) (h' : Carries I f m') :
    Carries I f (if c then m else m') := by
  by_cases hc : c
  · rw [if_pos hc]
    exact h
  · rw [if_neg hc]
    exact h'

/-- A call on a part that `f` leaves alone. -/
theorem onPart {get : σ → τ} {put : τ → σ → σ} {err : ε' → ε} {p : Method τ ε' α}
    (hget : ∀ s, get (f s) = get s) (hput : ∀ t s, put t (f s) = f (put t s))
    (hI : ∀ t s, I s → I (put t s)) : Carries I f (Method.onPart get put err p) := by
  intro s a s' hs hrun
  rw [run_onPart] at hrun
  rcases hp : p.run (get s) with ⟨_ | b, t⟩
  · rw [hp] at hrun
    cases hrun
  · rw [hp] at hrun
    cases hrun
    exact ⟨hI t s hs, by rw [run_onPart, hget, hp]; exact congrArg _ (hput t s)⟩

theorem undoing {undo : σ → σ} (h : Carries I f m) : Carries I f (Method.undoing undo m) := by
  intro s a s' hs hrun
  obtain ⟨hs', hrun'⟩ := h s a s' hs (run_undoing_ok.mp hrun)
  exact ⟨hs', run_undoing_ok.mpr hrun'⟩

end Carries

end MakopaVerified.Foundation.Method
