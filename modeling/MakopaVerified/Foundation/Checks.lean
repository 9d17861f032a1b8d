import Mathlib

/-!
# Checks that may fail

The shapes that a Rust function gives to its checks, in `Except`: `if c { return Err(e) }` and
`o.ok_or(e)?`. The lemmas turn "the function returns a value" into the conditions of its checks, one
check at a time.
-/

namespace MakopaVerified.Foundation

variable {ε α β : Type}

/-- `if c { return Err(e); }`. -/
def rejectIf (c : Prop) [Decidable c] (e : ε) : Except ε Unit := if c then .error e else .ok ()

/-- `o.ok_or(e)`. -/
def okOr (o : Option α) (e : ε) : Except ε α :=
  match o with
  | some a => .ok a
  | none => .error e

/-- A sequence of checks returns a value when each of them does. -/
theorem bind_eq_ok {m : Except ε α} {f : α → Except ε β} {b : β} :
    (m >>= f) = .ok b ↔ ∃ a, m = .ok a ∧ f a = .ok b := by
  cases m with
  | error e => exact ⟨nofun, fun ⟨_, h, _⟩ => nomatch h⟩
  | ok a =>
    refine ⟨fun h => ⟨a, rfl, h⟩, ?_⟩
    rintro ⟨_, ⟨⟩, h⟩
    exact h

/-- A call that returns a value is followed by the rest. -/
theorem bind_of_ok {m : Except ε α} {f : α → Except ε β} {a : α} (h : m = .ok a) :
    (m >>= f) = f a := by
  rw [h]
  rfl

theorem map_eq_ok {m : Except ε α} {f : α → β} {b : β} :
    m.map f = .ok b ↔ ∃ a, m = .ok a ∧ f a = b := by
  cases m <;> simp [Except.map]

theorem mapError_eq_ok {ε' : Type} {m : Except ε α} {f : ε → ε'} {a : α} :
    m.mapError f = .ok a ↔ m = .ok a := by
  cases m with
  | error e => exact ⟨nofun, nofun⟩
  | ok b =>
    show Except.ok b = .ok a ↔ _
    rw [Except.ok.injEq, Except.ok.injEq]

theorem rejectIf_eq_ok {c : Prop} [Decidable c] {e : ε} {u : Unit} :
    rejectIf c e = .ok u ↔ ¬ c := by
  unfold rejectIf
  by_cases hc : c
  · rw [if_pos hc]
    exact ⟨nofun, fun h => absurd hc h⟩
  · rw [if_neg hc]
    exact ⟨fun _ => hc, fun _ => rfl⟩

theorem okOr_eq_ok {o : Option α} {e : ε} {a : α} : okOr o e = .ok a ↔ o = some a := by
  cases o with
  | none => exact ⟨nofun, nofun⟩
  | some a' =>
    show Except.ok a' = .ok a ↔ _
    rw [Except.ok.injEq, Option.some.injEq]

/-- A check before the rest. -/
theorem rejectIf_bind_eq_ok {c : Prop} [Decidable c] {e : ε} {f : Unit → Except ε β} {b : β} :
    (rejectIf c e >>= f) = .ok b ↔ ¬ c ∧ f () = .ok b := by
  rw [bind_eq_ok]
  constructor
  · rintro ⟨⟨⟩, hc, hf⟩
    exact ⟨rejectIf_eq_ok.mp hc, hf⟩
  · rintro ⟨hc, hf⟩
    exact ⟨(), rejectIf_eq_ok.mpr hc, hf⟩

theorem okOr_bind_eq_ok {o : Option α} {e : ε} {f : α → Except ε β} {b : β} :
    (okOr o e >>= f) = .ok b ↔ ∃ a, o = some a ∧ f a = .ok b := by
  rw [bind_eq_ok]
  exact exists_congr fun a => and_congr_left fun _ => okOr_eq_ok

/-- A check function that returns nothing, before the rest. -/
theorem unit_bind_eq_ok {m : Except ε Unit} {f : Unit → Except ε β} {b : β} :
    (m >>= f) = .ok b ↔ m = .ok () ∧ f () = .ok b := by
  rw [bind_eq_ok]
  constructor
  · rintro ⟨⟨⟩, hm, hf⟩
    exact ⟨hm, hf⟩
  · rintro ⟨hm, hf⟩
    exact ⟨(), hm, hf⟩

/-! ## Which errors a check may give -/

section Guards

variable {c : Prop} [Decidable c] {a : α} {o : Option α}

/-- A chain of guards answers with the first that holds. -/
theorem forall_mem_guard {p : α → Prop} (ha : p a) (ho : ∀ b ∈ o, p b) :
    ∀ b ∈ (if c then some a else o), p b := by
  split
  · rintro _ ⟨⟩
    exact ha
  · exact ho

theorem guard_eq_none : (if c then some a else o) = none ↔ ¬ c ∧ o = none := by
  by_cases hc : c
  · rw [if_pos hc]
    exact ⟨nofun, fun h => absurd hc h.1⟩
  · rw [if_neg hc]
    exact ⟨fun h => ⟨hc, h⟩, And.right⟩

end Guards

/-- Every error of `m` satisfies `E`. -/
def FailsWith (m : Except ε α) (E : ε → Prop) : Prop := ∀ e, m = .error e → E e

namespace FailsWith

variable {E : ε → Prop} {m : Except ε α}

theorem ok {a : α} : FailsWith (.ok a) E := nofun

theorem error {e : ε} (h : E e) : FailsWith (.error e : Except ε α) E := by
  rintro _ ⟨⟩
  exact h

theorem bind {f : α → Except ε β} (hm : FailsWith m E) (hf : ∀ a, m = .ok a → FailsWith (f a) E) :
    FailsWith (m >>= f) E := by
  cases m with
  | error e => exact error (hm e rfl)
  | ok a => exact hf a rfl

theorem map {f : α → β} (hm : FailsWith m E) : FailsWith (m.map f) E := by
  cases m with
  | error e => exact error (hm e rfl)
  | ok a => exact ok

theorem rejectIf {c : Prop} [Decidable c] {e : ε} (h : E e) : FailsWith (rejectIf c e) E := by
  unfold Foundation.rejectIf
  split
  · exact error h
  · exact ok

theorem okOr {o : Option α} {e : ε} (h : E e) : FailsWith (okOr o e) E := by
  cases o with
  | none => exact error h
  | some a => exact ok

end FailsWith

/-! ## What holds of a returned value -/

/-- Every value that `m` returns satisfies `Q`. -/
def Returns (m : Except ε α) (Q : α → Prop) : Prop := ∀ a, m = .ok a → Q a

namespace Returns

theorem ok {a : α} {Q : α → Prop} (h : Q a) : Returns (.ok a : Except ε α) Q := by
  rintro _ ⟨⟩
  exact h

theorem bind {m : Except ε α} {f : α → Except ε β} {Q : β → Prop}
    (h : ∀ a, m = .ok a → Returns (f a) Q) : Returns (m >>= f) Q := by
  intro b hb
  obtain ⟨a, hm, hf⟩ := bind_eq_ok.mp hb
  exact h a hm b hf

end Returns

end MakopaVerified.Foundation
