import Mathlib

/-!
# Labelled transition systems and their runs

A run is the list of the events that happened, oldest first, together with the state reached. A
history invariant relates the two, and is carried from one event to the next. A simulation maps
every event of one system to an event of a second one, so that what holds of all histories of the
second holds of the images of all histories of the first.
-/

namespace MakopaVerified.Foundation

open List

/-- A labelled transition system. -/
structure System (σ ε : Type) where
  init : σ → Prop
  step : σ → ε → σ → Prop

/-- `Run S history s`: the system `S` can reach `s` by the events of `history`. -/
inductive Run {σ ε : Type} (S : System σ ε) : List ε → σ → Prop where
  | start {s : σ} : S.init s → Run S [] s
  | step {history : List ε} {s s' : σ} {e : ε} :
      Run S history s → S.step s e s' → Run S (history ++ [e]) s'

/-- `Steps S s events s'`: the events take the system `S` from `s` to `s'`. -/
inductive Steps {σ ε : Type} (S : System σ ε) : σ → List ε → σ → Prop where
  | nil {s : σ} : Steps S s [] s
  | cons {s s₁ s' : σ} {e : ε} {events : List ε} :
      S.step s e s₁ → Steps S s₁ events s' → Steps S s (e :: events) s'

/-- Two runs from one state that take their steps together: each event of the first is `same` as
the event of the second at its place. -/
inductive Lockstep {σ ε : Type} (S : System σ ε) (same : ε → ε → Prop) :
    List ε → σ → List ε → σ → Prop where
  | start {s : σ} : S.init s → Lockstep S same [] s [] s
  | step {h₁ h₂ : List ε} {s₁ s₂ t₁ t₂ : σ} {e₁ e₂ : ε} :
      Lockstep S same h₁ s₁ h₂ s₂ → S.step s₁ e₁ t₁ → S.step s₂ e₂ t₂ → same e₁ e₂ →
      Lockstep S same (h₁ ++ [e₁]) t₁ (h₂ ++ [e₂]) t₂

/-- `s` is the state of some run. -/
def Reachable {σ ε : Type} (S : System σ ε) (s : σ) : Prop := ∃ history, Run S history s

theorem filterMap_snoc {α β : Type} (f : α → Option β) (l : List α) (a : α) :
    (l ++ [a]).filterMap f = l.filterMap f ++ (f a).toList := by
  rw [filterMap_append]
  cases h : f a <;> simp [h]

/-- An element of an extended list is the new one or lies before it. -/
theorem snoc_eq_append_cons {α : Type} {l before after : List α} {a x : α}
    (h : l ++ [a] = before ++ x :: after) :
    (after = [] ∧ x = a ∧ before = l) ∨
      ∃ after', after = after' ++ [a] ∧ l = before ++ x :: after' := by
  rcases eq_nil_or_concat after with rfl | ⟨after', y, rfl⟩
  · obtain ⟨rfl, hx⟩ := append_inj' h rfl
    exact .inl ⟨rfl, (singleton_inj.mp hx).symm, rfl⟩
  · rw [concat_eq_append] at h ⊢
    have h' : l ++ [a] = (before ++ x :: after') ++ [y] := by rw [h]; simp
    obtain ⟨rfl, hy⟩ := append_inj' h' rfl
    rw [← singleton_inj.mp hy]
    exact .inr ⟨after', rfl, rfl⟩

namespace Run

variable {σ τ ε δ : Type} {S : System σ ε}

/-- What holds at the start and is kept by every event holds in every run. -/
theorem invariant {P : List ε → σ → Prop} (hinit : ∀ s, S.init s → P [] s)
    (hstep : ∀ history s e s', P history s → S.step s e s' → P (history ++ [e]) s')
    {history : List ε} {s : σ} (h : Run S history s) : P history s := by
  induction h with
  | start hs => exact hinit _ hs
  | step _ hstep' ih => exact hstep _ _ _ _ ih hstep'

/-- The invariant rule for properties of the state alone. -/
theorem state_invariant {P : σ → Prop} (hinit : ∀ s, S.init s → P s)
    (hstep : ∀ s e s', P s → S.step s e s' → P s')
    {history : List ε} {s : σ} (h : Run S history s) : P s :=
  h.invariant hinit fun _ s e s' => hstep s e s'

/-- The last event of a run was taken in the state that the run before it had reached. -/
theorem of_append_singleton {history : List ε} {e : ε} {s' : σ}
    (h : Run S (history ++ [e]) s') : ∃ s, Run S history s ∧ S.step s e s' := by
  generalize hl : history ++ [e] = l at h
  cases h with
  | start _ => simp at hl
  | step hr hs =>
    obtain ⟨rfl, hx⟩ := append_inj' hl rfl
    obtain rfl : e = _ := by simpa using hx
    exact ⟨_, hr, hs⟩

/-- Every beginning of a history is the history of a run. -/
theorem of_append {before after : List ε} {s : σ} (h : Run S (before ++ after) s) :
    ∃ s₀, Run S before s₀ := by
  induction after using List.reverseRecOn generalizing s with
  | nil => exact ⟨s, by simpa using h⟩
  | append_singleton after e ih =>
    rw [← append_assoc] at h
    obtain ⟨s₁, h₁, _⟩ := h.of_append_singleton
    exact ih h₁

/-- Once an event has made `Q` true of the state, and the steps keep it, every later event is one of
those that a step from such a state can be. -/
theorem after {Q : σ → Prop} {A B : ε → Prop}
    (hreach : ∀ {s e s'}, Reachable S s → S.step s e s' → A e → Q s')
    (hkeep : ∀ {s e s'}, Reachable S s → Q s → S.step s e s' → Q s' ∧ B e)
    {history : List ε} {s : σ} (h : Run S history s) {earlier later : List ε} {e : ε}
    (hsplit : history = earlier ++ e :: later) (he : A e) : Q s ∧ ∀ e' ∈ later, B e' := by
  induction h generalizing later with
  | start _ => simp at hsplit
  | step hr hs ih =>
    rcases snoc_eq_append_cons hsplit with ⟨rfl, rfl, -⟩ | ⟨later', rfl, hold⟩
    · exact ⟨hreach ⟨_, hr⟩ hs he, fun e' hmem => absurd hmem not_mem_nil⟩
    · obtain ⟨hq, hall⟩ := ih hold
      obtain ⟨hq', hlast⟩ := hkeep ⟨_, hr⟩ hq hs
      refine ⟨hq', fun e' hmem => ?_⟩
      rcases mem_append.mp hmem with hmem | hmem
      · exact hall e' hmem
      · rw [mem_singleton.mp hmem]
        exact hlast

/-- A simulation: related states stay related when each event is answered by its image. -/
theorem simulate (T : System τ δ) (rel : σ → τ → Prop) (image : ε → δ)
    (hinit : ∀ s, S.init s → ∃ t, T.init t ∧ rel s t)
    (hstep : ∀ s t e s', rel s t → S.step s e s' → ∃ t', T.step t (image e) t' ∧ rel s' t')
    {history : List ε} {s : σ} (h : Run S history s) :
    ∃ t, Run T (history.map image) t ∧ rel s t := by
  induction h with
  | start hs =>
    obtain ⟨t, ht, hrel⟩ := hinit _ hs
    exact ⟨t, .start ht, hrel⟩
  | step _ hs ih =>
    obtain ⟨t, ht, hrel⟩ := ih
    obtain ⟨t', ht', hrel'⟩ := hstep _ _ _ _ hrel hs
    refine ⟨t', ?_, hrel'⟩
    rw [map_append]
    exact .step ht ht'

/-- A run goes on from the state that it has reached. -/
theorem steps {history events : List ε} {s s' : σ} (h : Run S history s)
    (hs : Steps S s events s') : Run S (history ++ events) s' := by
  induction hs generalizing history with
  | nil => rwa [append_nil]
  | cons hstep _ ih =>
    have hrest := ih (h.step hstep)
    rwa [append_assoc] at hrest

/-- A refinement: each event of the first system is one turn of the second, a list of its events. -/
theorem refines (T : System τ δ) (rel : σ → τ → Prop) (turn : ε → List δ → Prop)
    (hinit : ∀ s, S.init s → ∃ t, T.init t ∧ rel s t)
    (hstep : ∀ s t e s', rel s t → S.step s e s' →
      ∃ events t', turn e events ∧ Steps T t events t' ∧ rel s' t')
    {history : List ε} {s : σ} (h : Run S history s) :
    ∃ turns t, Forall₂ turn history turns ∧ Run T turns.flatten t ∧ rel s t := by
  induction h with
  | start hs =>
    obtain ⟨t, ht, hrel⟩ := hinit _ hs
    exact ⟨[], t, .nil, .start ht, hrel⟩
  | step _ hs ih =>
    obtain ⟨turns, t, hturns, ht, hrel⟩ := ih
    obtain ⟨events, t', hturn, hsteps, hrel'⟩ := hstep _ _ _ _ hrel hs
    refine ⟨turns ++ [events], t', rel_append hturns (.cons hturn .nil), ?_, hrel'⟩
    rw [flatten_append, flatten_singleton]
    exact ht.steps hsteps

end Run

namespace Lockstep

variable {σ ε : Type} {S : System σ ε} {same : ε → ε → Prop} {h₁ h₂ : List ε} {s₁ s₂ : σ}

theorem left (h : Lockstep S same h₁ s₁ h₂ s₂) : Run S h₁ s₁ := by
  induction h with
  | start hs => exact .start hs
  | step _ hs₁ _ _ ih => exact .step ih hs₁

theorem right (h : Lockstep S same h₁ s₁ h₂ s₂) : Run S h₂ s₂ := by
  induction h with
  | start hs => exact .start hs
  | step _ _ hs₂ _ ih => exact .step ih hs₂

/-- What relates a state to itself and is kept by steps that are the same relates the states of
two such runs; what these steps then have in common, all events of the runs have. -/
theorem related {R : σ → σ → Prop} {O : ε → ε → Prop} (hinit : ∀ s, S.init s → R s s)
    (hstep : ∀ {s₁ s₂ t₁ t₂ e₁ e₂}, Reachable S s₁ → Reachable S s₂ → R s₁ s₂ →
      S.step s₁ e₁ t₁ → S.step s₂ e₂ t₂ → same e₁ e₂ → R t₁ t₂ ∧ O e₁ e₂)
    (h : Lockstep S same h₁ s₁ h₂ s₂) : R s₁ s₂ ∧ List.Forall₂ O h₁ h₂ := by
  induction h with
  | start hs => exact ⟨hinit _ hs, .nil⟩
  | step hrest hs₁ hs₂ hsame ih =>
    obtain ⟨hrel, hall⟩ := ih
    obtain ⟨hrel', hlast⟩ := hstep ⟨_, hrest.left⟩ ⟨_, hrest.right⟩ hrel hs₁ hs₂ hsame
    exact ⟨hrel', rel_append hall (.cons hlast .nil)⟩

end Lockstep

end MakopaVerified.Foundation
