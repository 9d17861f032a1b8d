import MakopaVerified.TaskRuntime.Effects

/-!
# The run queue as a list

A queue that passes its part of `Runtime::validate` is one of five: the lists of distinct task ids.
Everything the runtime does with its queue is read off that list.
-/

namespace MakopaVerified.TaskRuntime

open Foundation

namespace RunQueue

@[simp]
theorem contains_nil (t : UInt64) : (ofList []).contains t = false := rfl

@[simp]
theorem contains_singleton (a t : UInt64) : (ofList [a]).contains t = true ↔ t = a := by
  simp [ofList, contains]

@[simp]
theorem run_push_nil (a : UInt64) : (push a).run (ofList []) = (.ok (), ofList [a]) := rfl

theorem run_push_singleton {a b : UInt64} (h : b ≠ a) :
    (push b).run (ofList [a]) = (.ok (), ofList [a, b]) := by
  have hc : (ofList [a]).contains b = false := by
    rw [Bool.eq_false_iff]
    intro hc
    exact h ((contains_singleton a b).mp hc)
  unfold push
  simp only [Method.run_self_bind, hc]
  rfl

@[simp]
theorem pop_nil : (ofList []).pop = (none, ofList []) := rfl

@[simp]
theorem pop_singleton (a : UInt64) : (ofList [a]).pop = (some a, ofList []) := rfl

@[simp]
theorem pop_pair (a b : UInt64) : (ofList [a, b]).pop = (some a, ofList [b]) := rfl

end RunQueue

/-- The lists of distinct task ids. -/
inductive QueueList : List UInt64 → Prop where
  | nil : QueueList []
  | sender : QueueList [senderTaskId]
  | receiver : QueueList [receiverTaskId]
  | senderFirst : QueueList [senderTaskId, receiverTaskId]
  | receiverFirst : QueueList [receiverTaskId, senderTaskId]

/-- A queue that passes its check. -/
def QueueOk (q : RunQueue) : Prop := ∃ l, QueueList l ∧ q = RunQueue.ofList l

theorem checkQueue_ofList {l : List UInt64} (h : QueueList l) :
    Runtime.checkQueue (RunQueue.ofList l) = .ok () := by
  cases h <;> decide

private theorem vector_two (v : Vector UInt64 taskCount) : v = #v[v[0], v[1]] := by
  ext i hi
  rcases i with _ | _ | i
  · rfl
  · rfl
  · exact absurd hi (by simp)

/-- The queue part of `validate` accepts exactly the lists of distinct task ids. -/
theorem checkQueue_eq_ok {q : RunQueue} : Runtime.checkQueue q = .ok () ↔ QueueOk q := by
  constructor
  · intro h
    obtain ⟨entries, len⟩ := q
    obtain ⟨a, b, rfl⟩ : ∃ a b, entries = #v[a, b] := ⟨_, _, vector_two entries⟩
    unfold Runtime.checkQueue at h
    rw [check_ite_eq_ok] at h
    obtain ⟨hguard, hmembers⟩ := h
    rw [not_or] at hguard
    obtain ⟨hlen, hzero⟩ := hguard
    have hlen' : len = 0 ∨ len = 1 ∨ len = 2 := by
      simp only [taskCount] at hlen
      omega
    -- the length decides which entries are members and which must be zero
    rcases hlen' with rfl | rfl | rfl
    · obtain ⟨rfl, rfl⟩ : a = 0 ∧ b = 0 := by simpa using hzero
      exact ⟨[], .nil, rfl⟩
    · obtain rfl : b = 0 := by simpa using hzero
      have ha : a = 1 ∨ a = 2 := by
        by_contra hne
        simp [Runtime.checkMembers, hne] at hmembers
      rcases ha with rfl | rfl
      · exact ⟨_, .sender, rfl⟩
      · exact ⟨_, .receiver, rfl⟩
    · have hab : (a = 1 ∨ a = 2) ∧ (b = 1 ∨ b = 2) ∧ a ≠ b := by
        by_contra hne
        simp only [Runtime.checkMembers, Vector.toList_mk, List.take_succ_cons, List.take_zero,
          check_ite_eq_ok] at hmembers
        simp at hmembers
        grind
      obtain ⟨ha | ha, hb | hb, hne⟩ := hab
      · exact absurd (ha.trans hb.symm) hne
      · subst ha hb
        exact ⟨_, .senderFirst, rfl⟩
      · subst ha hb
        exact ⟨_, .receiverFirst, rfl⟩
      · exact absurd (ha.trans hb.symm) hne
  · rintro ⟨l, hl, rfl⟩
    exact checkQueue_ofList hl

namespace QueueOk

variable {q : RunQueue}

/-- Without the receiver the queue is empty or holds the sender. -/
theorem without_receiver (h : QueueOk q) (hr : q.contains receiverTaskId = false) :
    q = RunQueue.ofList [] ∨ q = RunQueue.ofList [senderTaskId] := by
  obtain ⟨l, hl, rfl⟩ := h
  cases hl with
  | nil => exact .inl rfl
  | sender => exact .inr rfl
  | receiver | senderFirst | receiverFirst => exact absurd hr (by decide)

/-- Without the sender the queue is empty or holds the receiver. -/
theorem without_sender (h : QueueOk q) (hs : q.contains senderTaskId = false) :
    q = RunQueue.ofList [] ∨ q = RunQueue.ofList [receiverTaskId] := by
  obtain ⟨l, hl, rfl⟩ := h
  cases hl with
  | nil => exact .inl rfl
  | receiver => exact .inr rfl
  | sender | senderFirst | receiverFirst => exact absurd hs (by decide)

end QueueOk

end MakopaVerified.TaskRuntime
