import MakopaVerified.Foundation.Method

/-!
# Pre- and postconditions of fallible methods

`m.Ends s Q E` says how a call of `m` on `s` ends: with a value and a receiver that satisfy `Q`, or
with an error and a receiver that satisfy `E`. There is one rule per construct. A call is atomic
when each of its errors leaves the receiver as it was at the start.
-/

namespace MakopaVerified.Foundation.Method

variable {σ τ ε ε' α β : Type}

/-- The call of `m` on `s` ends in `Q` with a value and in `E` with an error. -/
structure Ends (m : Method σ ε α) (s : σ) (Q : α → σ → Prop) (E : ε → σ → Prop) : Prop where
  ok : ∀ {a s'}, m.run s = (.ok a, s') → Q a s'
  error : ∀ {e s'}, m.run s = (.error e, s') → E e s'

/-- A call on `s` returns a value with `Q`, or fails and leaves the receiver at `before`. -/
abbrev Atomic (m : Method σ ε α) (before s : σ) (Q : α → σ → Prop) : Prop :=
  m.Ends s Q fun _ s' => s' = before

namespace Ends

variable {m : Method σ ε α} {s s' : σ} {Q : α → σ → Prop} {E : ε → σ → Prop}

theorem of_ok {a : α} (hrun : m.run s = (.ok a, s')) (h : Q a s') : m.Ends s Q E := by
  refine ⟨fun hrun' => ?_, fun hrun' => ?_⟩
  · rw [hrun, Prod.mk.injEq, Except.ok.injEq] at hrun'
    obtain ⟨rfl, rfl⟩ := hrun'
    exact h
  · rw [hrun] at hrun'
    cases hrun'

theorem of_error {e : ε} (hrun : m.run s = (.error e, s')) (h : E e s') : m.Ends s Q E := by
  refine ⟨fun hrun' => ?_, fun hrun' => ?_⟩
  · rw [hrun] at hrun'
    cases hrun'
  · rw [hrun, Prod.mk.injEq, Except.error.injEq] at hrun'
    obtain ⟨rfl, rfl⟩ := hrun'
    exact h

/-- What holds however a call ends. -/
theorem result {P : σ → Prop} (h : m.Ends s (fun _ => P) fun _ => P) {r : Except ε α}
    (hrun : m.run s = (r, s')) : P s' := by
  cases r with
  | ok a => exact h.ok hrun
  | error e => exact h.error hrun

/-- A call that cannot fail returns a value. -/
theorem returns (h : m.Ends s Q fun _ _ => False) : ∃ a s', m.run s = (.ok a, s') ∧ Q a s' := by
  rcases hrun : m.run s with ⟨_ | a, s'⟩
  · exact absurd (h.error hrun) id
  · exact ⟨a, s', rfl, h.ok hrun⟩

/-- Weaker conditions hold as well. -/
theorem mono {Q' : α → σ → Prop} {E' : ε → σ → Prop} (h : m.Ends s Q E)
    (hQ : ∀ a s', Q a s' → Q' a s') (hE : ∀ e s', E e s' → E' e s') : m.Ends s Q' E' :=
  ⟨fun hrun => hQ _ _ (h.ok hrun), fun hrun => hE _ _ (h.error hrun)⟩

theorem pure {a : α} (h : Q a s) : (Pure.pure a : Method σ ε α).Ends s Q E := of_ok (run_pure a s) h

theorem bind {f : α → Method σ ε β} {R : β → σ → Prop}
    (h : m.Ends s (fun a s' => (f a).Ends s' R E) E) : (m >>= f).Ends s R E := by
  rcases hm : m.run s with ⟨_ | a, s₁⟩
  · exact of_error (run_bind_error hm) (h.error hm)
  · have hrest := h.ok hm
    rcases hf : (f a).run s₁ with ⟨_ | b, s₂⟩
    · exact of_error ((run_bind_ok hm).trans hf) (hrest.error hf)
    · exact of_ok ((run_bind_ok hm).trans hf) (hrest.ok hf)

theorem self {Q : σ → σ → Prop} (h : Q s s) : (Method.self : Method σ ε σ).Ends s Q E :=
  of_ok (run_self s) h

theorem update {f : σ → σ} {Q : Unit → σ → Prop} (h : Q () (f s)) :
    (Method.update f : Method σ ε Unit).Ends s Q E :=
  of_ok (run_update f s) h

theorem fail {e : ε} (h : E e s) : (Method.fail e : Method σ ε α).Ends s Q E :=
  of_error (run_fail e s) h

theorem query {f : σ → Except ε α} (hok : ∀ a, f s = .ok a → Q a s)
    (herror : ∀ e, f s = .error e → E e s) : (Method.query f).Ends s Q E := by
  cases hf : f s with
  | ok a => exact of_ok (by rw [run_query, hf]) (hok a hf)
  | error e => exact of_error (by rw [run_query, hf]) (herror e hf)

theorem ite {c : Prop} [Decidable c] {m' : Method σ ε α} (hpos : c → m.Ends s Q E)
    (hneg : ¬ c → m'.Ends s Q E) : (if c then m else m').Ends s Q E := by
  by_cases hc : c
  · rw [if_pos hc]
    exact hpos hc
  · rw [if_neg hc]
    exact hneg hc

theorem onPart {get : σ → τ} {put : τ → σ → σ} {err : ε' → ε} {p : Method τ ε' α}
    (h : p.Ends (get s) (fun a t => Q a (put t s)) fun e t => E (err e) (put t s)) :
    (Method.onPart get put err p).Ends s Q E := by
  rcases hp : p.run (get s) with ⟨_ | a, t⟩
  · exact of_error (by rw [run_onPart, hp]) (h.error hp)
  · exact of_ok (by rw [run_onPart, hp]) (h.ok hp)

theorem attempt {Q : Except ε' α → σ → Prop} {p : Method σ ε' α}
    (h : p.Ends s (fun a => Q (.ok a)) fun e => Q (.error e)) :
    (Method.attempt p : Method σ ε _).Ends s Q E := by
  rcases hp : p.run s with ⟨_ | a, s'⟩
  · exact of_ok (run_attempt_of hp) (h.error hp)
  · exact of_ok (run_attempt_of hp) (h.ok hp)

theorem undoing {undo : σ → σ} (h : m.Ends s Q fun e s' => E e (undo s')) :
    (Method.undoing undo m).Ends s Q E := by
  rcases hm : m.run s with ⟨_ | a, s'⟩
  · exact of_error (by rw [run_undoing, hm]) (h.error hm)
  · exact of_ok (by rw [run_undoing, hm]) (h.ok hm)

theorem restoring (h : m.Ends s Q fun e _ => E e s) : (Method.restoring m).Ends s Q E := by
  rcases hm : m.run s with ⟨_ | a, s'⟩
  · exact of_error (by rw [run_restoring, hm]) (h.error hm)
  · exact of_ok (by rw [run_restoring, hm]) (h.ok hm)

end Ends

end MakopaVerified.Foundation.Method
