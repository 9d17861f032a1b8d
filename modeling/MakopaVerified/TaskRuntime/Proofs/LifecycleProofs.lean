import MakopaVerified.TaskRuntime.Lifecycle
import MakopaVerified.TaskRuntime.Proofs.JournalProofs

/-!
# A broker and its history

`History b records finished current` ties a broker to the records that its requests have left. Each
step of a request extends it: a submission opens a lifecycle, an approval goes on with it, and a
denial, an expiry, a commit or a failed commit ends it.
-/

namespace MakopaVerified.TaskRuntime

open Foundation List

/-- The records of the open request, if there is one. -/
def CurrentOk (state : ApprovalBrokerState) (sequence : Nat) (current : List EffectRecord) : Prop :=
  match state with
  | .pending => Spells sequence [.requested] current
  | .approved => Spells sequence [.requested, .approved] current
  | _ => current = []

structure History (b : ApprovalBroker) (records : List EffectRecord)
    (finished : List (List EffectRecord)) (current : List EffectRecord) : Prop where
  records_eq : records = finished.flatten ++ current
  finished_ok : ∀ k (h : k < finished.length), ∃ kinds ∈ finishedLifecycles,
    Spells (k + 1) kinds finished[k]
  current_ok : CurrentOk b.state (finished.length + 1) current
  position : ∀ i (h : i < records.length),
    records[i].recordSequence.toNat = i + 1 ∧ records[i].decisionEpoch.toNat = i + 2
  epoch : b.state ≠ .dead → b.decisionEpoch.toNat = records.length + 1
  unexhausted : b.state ≠ .dead → b.sequenceExhausted = false
  sequence : b.state ≠ .dead →
    b.nextSequence.toNat = finished.length + (if current = [] then 0 else 1) + 1
  request : b.requestPresent = true → b.request.sequence.toNat = finished.length + 1

/-- A broker with no open request. -/
def ApprovalBroker.Idle (b : ApprovalBroker) : Prop := b.state ≠ .pending ∧ b.state ≠ .approved

namespace Spells

variable {n : Nat} {kinds : List EffectEventKind} {records : List EffectRecord}

theorem snoc (h : Spells n kinds records) {kind : EffectEventKind} {r : EffectRecord}
    (hr : r.eventKind = kind.code ∧ r.requestSequence.toNat = n ∧ r.Performed kind) :
    Spells n (kinds ++ [kind]) (records ++ [r]) :=
  rel_append h (.cons hr .nil)

theorem length_eq (h : Spells n kinds records) : records.length = kinds.length :=
  (List.Forall₂.length_eq h).symm

/-- The last record is of the last kind. -/
theorem getLast (h : Spells n kinds records) {kind : EffectEventKind}
    (hk : kinds.getLast? = some kind) :
    ∃ r ∈ records.getLast?, r.eventKind = kind.code := by
  induction h with
  | nil => cases hk
  | cons hr htail ih =>
    rename_i k r ks rs
    cases htail with
    | nil =>
      obtain rfl : k = kind := by simpa using hk
      exact ⟨r, rfl, hr.1⟩
    | cons hr' htail' =>
      rw [List.getLast?_cons_cons] at hk ⊢
      exact ih hk

end Spells

namespace History

variable {b b' : ApprovalBroker} {records current : List EffectRecord}
  {finished : List (List EffectRecord)} {r : EffectRecord}

theorem current_nil (h : History b records finished current) (hi : b.Idle) : current = [] := by
  have hc := h.current_ok
  unfold CurrentOk at hc
  cases hs : b.state with
  | pending => exact absurd hs hi.1
  | approved => exact absurd hs hi.2
  | building | empty | closing | dead =>
    rw [hs] at hc
    exact hc

/-- Every finished lifecycle has records of its own, so there are at most as many of them. -/
theorem finished_length_le (h : History b records finished current) :
    finished.length ≤ records.length := by
  have hpos : ∀ l ∈ finished, 1 ≤ l.length := by
    intro l hl
    obtain ⟨k, hk, rfl⟩ := getElem_of_mem hl
    obtain ⟨kinds, hmem, hspell⟩ := h.finished_ok k hk
    rw [hspell.length_eq]
    simp only [finishedLifecycles, mem_cons, not_mem_nil, or_false] at hmem
    rcases hmem with rfl | rfl | rfl | rfl | rfl <;> decide
  have hflat : ∀ {ls : List (List EffectRecord)}, (∀ l ∈ ls, 1 ≤ l.length) →
      ls.length ≤ ls.flatten.length := by
    intro ls
    induction ls with
    | nil => simp
    | cons l ls ih =>
      intro hall
      have h1 := hall l mem_cons_self
      have h2 := ih fun l' hl' => hall l' (mem_cons_of_mem _ hl')
      rw [flatten_cons, length_append, length_cons]
      omega
  have := hflat hpos
  rw [h.records_eq, length_append]
  omega

theorem position_snoc
    (h : ∀ i (h : i < records.length),
      records[i].recordSequence.toNat = i + 1 ∧ records[i].decisionEpoch.toNat = i + 2)
    (hr : r.recordSequence.toNat = records.length + 1 ∧
      r.decisionEpoch.toNat = records.length + 2) :
    ∀ i (h : i < (records ++ [r]).length),
      (records ++ [r])[i].recordSequence.toNat = i + 1 ∧
        (records ++ [r])[i].decisionEpoch.toNat = i + 2 := by
  intro i hi
  by_cases hlt : i < records.length
  · rw [getElem_append_left hlt]
    exact h i hlt
  · have heq : i = records.length := by
      rw [length_append, length_singleton] at hi
      omega
    subst heq
    rw [getElem_append_right (Nat.le_refl _)]
    simpa using hr

/-- Without an open request only the epoch and the sequence matter. -/
theorem rebind (h : History b records finished current) (hi : b.Idle) (hi' : b'.Idle)
    (halive : b'.state ≠ .dead → b.state ≠ .dead ∧ b'.decisionEpoch = b.decisionEpoch ∧
      b'.nextSequence = b.nextSequence ∧ b'.sequenceExhausted = b.sequenceExhausted)
    (hr : b'.requestPresent = false) : History b' records finished current := by
  have hnil := h.current_nil hi
  refine { h with current_ok := ?_, epoch := ?_, unexhausted := ?_, sequence := ?_, request := ?_ }
  · unfold CurrentOk
    cases hs : b'.state with
    | pending => exact absurd hs hi'.1
    | approved => exact absurd hs hi'.2
    | building | empty | closing | dead => exact hnil
  · intro hd
    rw [(halive hd).2.1]
    exact h.epoch (halive hd).1
  · intro hd
    rw [(halive hd).2.2.2]
    exact h.unexhausted (halive hd).1
  · intro hd
    rw [(halive hd).2.2.1]
    exact h.sequence (halive hd).1
  · intro hp
    rw [hr] at hp
    cases hp

/-- An accepted submission opens the next lifecycle. -/
theorem submit (h : History b records finished current) (hs : b.state = .empty)
    (hmax : b.decisionEpoch ≠ u64Max) (hseq : b.nextSequence ≠ u64Max) {kind argument : UInt64}
    (hr : r.eventKind = EffectEventKind.requested.code ∧
      r.requestSequence.toNat = finished.length + 1 ∧ r.BySubmit)
    (hpos : r.recordSequence.toNat = records.length + 1 ∧
      r.decisionEpoch.toNat = records.length + 2) :
    History (b.submit kind argument (b.decisionEpoch + 1)) (records ++ [r]) finished
      (current ++ [r]) := by
  have hd : b.state ≠ .dead := by rw [hs]; decide
  have hnil := h.current_nil (by unfold ApprovalBroker.Idle; rw [hs]; decide)
  have hnext := h.sequence hd
  rw [if_pos hnil] at hnext
  have hspell : Spells (finished.length + 1) [.requested] (current ++ [r]) := by
    rw [hnil]
    exact .cons hr .nil
  exact
    { records_eq := by rw [h.records_eq, append_assoc]
      finished_ok := h.finished_ok
      current_ok := hspell
      position := position_snoc h.position hpos
      epoch := fun _ => by
        show (b.decisionEpoch + 1).toNat = _
        rw [toNat_add_one hmax, h.epoch hd, length_append, length_singleton]
      unexhausted := fun _ => by
        show (if b.nextSequence = u64Max then true else b.sequenceExhausted) = false
        rw [if_neg hseq]
        exact h.unexhausted hd
      sequence := fun _ => by
        show (if b.nextSequence = u64Max then b.nextSequence else b.nextSequence + 1).toNat = _
        rw [if_neg hseq, toNat_add_one hseq, hnext, if_neg (by simp)]
      request := fun _ => by
        show b.nextSequence.toNat = _
        rw [hnext] }

/-- An approval goes on with the open lifecycle. -/
theorem approve (h : History b records finished current) (hs : b.state = .pending)
    (hmax : b.decisionEpoch ≠ u64Max)
    (hr : r.eventKind = EffectEventKind.approved.code ∧
      r.requestSequence.toNat = finished.length + 1 ∧ r.ByDecision)
    (hpos : r.recordSequence.toNat = records.length + 1 ∧
      r.decisionEpoch.toNat = records.length + 2) :
    History (b.approve (b.decisionEpoch + 1)) (records ++ [r]) finished (current ++ [r]) := by
  have hd : b.state ≠ .dead := by rw [hs]; decide
  have hspell : Spells (finished.length + 1) [.requested] current := by
    have hc := h.current_ok
    unfold CurrentOk at hc
    rw [hs] at hc
    exact hc
  have hne : current ≠ [] := by
    intro hnil
    rw [hnil] at hspell
    cases hspell
  have hnext := h.sequence hd
  rw [if_neg hne] at hnext
  exact
    { records_eq := by rw [h.records_eq, append_assoc]
      finished_ok := h.finished_ok
      current_ok := hspell.snoc hr
      position := position_snoc h.position hpos
      epoch := fun _ => by
        show (b.decisionEpoch + 1).toNat = _
        rw [toNat_add_one hmax, h.epoch hd, length_append, length_singleton]
      unexhausted := fun _ => h.unexhausted hd
      sequence := fun _ => by
        show b.nextSequence.toNat = _
        rw [hnext, if_neg (by simp)]
      request := h.request }

/-- The steps that a request has behind it. -/
def soFar : ApprovalBrokerState → List EffectEventKind
  | .approved => [.requested, .approved]
  | _ => [.requested]

/-- Any other step ends the open lifecycle. -/
theorem finish (h : History b records finished current)
    (hs : b.state = .pending ∨ b.state = .approved) (hmax : b.decisionEpoch ≠ u64Max)
    (hi : b'.Idle) (hepoch : b'.decisionEpoch = b.decisionEpoch + 1)
    (hseq : b'.nextSequence = b.nextSequence ∧ b'.sequenceExhausted = b.sequenceExhausted)
    (hnone : b'.requestPresent = false) {kind : EffectEventKind}
    (hkind : soFar b.state ++ [kind] ∈ finishedLifecycles)
    (hr : r.eventKind = kind.code ∧ r.requestSequence.toNat = finished.length + 1 ∧
      r.Performed kind)
    (hpos : r.recordSequence.toNat = records.length + 1 ∧
      r.decisionEpoch.toNat = records.length + 2) :
    History b' (records ++ [r]) (finished ++ [current ++ [r]]) [] := by
  have hd : b.state ≠ .dead := by rcases hs with hs | hs <;> rw [hs] <;> decide
  have hspell : Spells (finished.length + 1) (soFar b.state) current := by
    have hc := h.current_ok
    unfold CurrentOk at hc
    rcases hs with hs | hs <;> rw [hs] at hc ⊢ <;> exact hc
  have hne : current ≠ [] := by
    intro hnil
    rw [hnil] at hspell
    rcases hs with hs | hs <;> rw [hs] at hspell <;> cases hspell
  have hnext := h.sequence hd
  rw [if_neg hne] at hnext
  refine
    { records_eq := ?_
      finished_ok := ?_
      current_ok := ?_
      position := position_snoc h.position hpos
      epoch := fun _ => ?_
      unexhausted := fun _ => hseq.2.trans (h.unexhausted hd)
      sequence := fun _ => ?_
      request := ?_ }
  · rw [flatten_append, flatten_singleton, append_nil, h.records_eq,
      append_assoc]
  · intro k hk
    by_cases hlt : k < finished.length
    · rw [getElem_append_left hlt]
      exact h.finished_ok k hlt
    · have heq : k = finished.length := by
        rw [length_append, length_singleton] at hk
        omega
      subst heq
      rw [getElem_append_right (Nat.le_refl _)]
      refine ⟨_, hkind, ?_⟩
      simpa using hspell.snoc hr
  · unfold CurrentOk
    cases hs' : b'.state with
    | pending => exact absurd hs' hi.1
    | approved => exact absurd hs' hi.2
    | building | empty | closing | dead => rfl
  · rw [hepoch, toNat_add_one hmax, h.epoch hd, length_append, length_singleton]
  · rw [hseq.1, hnext, if_pos rfl, length_append, length_singleton]
  · intro hp
    rw [hnone] at hp
    cases hp

end History

end MakopaVerified.TaskRuntime
