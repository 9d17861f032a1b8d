import MakopaVerified.Foundation.Runs

/-!
# One-place channels

A channel holds at most one value. A value is put into it and taken out later, or it passes through
to a receiver that waits. The receiving side can go away, and then the value in the channel is
dropped. Until then what was sent is what was received followed by what the channel holds.
-/

namespace MakopaVerified.Foundation

/-- What can happen on a channel. -/
inductive ChannelEvent (α : Type) where
  | put (a : α)
  | pass (sent received : α)
  | take (a : α)
  | drop
  | silent
  deriving DecidableEq

namespace ChannelEvent

variable {α : Type}

def sent : ChannelEvent α → Option α
  | put a => some a
  | pass a _ => some a
  | _ => none

def received : ChannelEvent α → Option α
  | pass _ b => some b
  | take b => some b
  | _ => none

end ChannelEvent

/-- The value in a channel, and whether the receiving side is gone. -/
structure Channel (α : Type) where
  slot : Option α
  dropped : Bool

/-- How a channel moves. -/
inductive Channel.Step {α : Type} : Channel α → ChannelEvent α → Channel α → Prop where
  | put {a : α} : Step ⟨none, false⟩ (.put a) ⟨some a, false⟩
  | pass {a : α} : Step ⟨none, false⟩ (.pass a a) ⟨none, false⟩
  | take {a : α} : Step ⟨some a, false⟩ (.take a) ⟨none, false⟩
  | drop {c : Channel α} : Step c .drop ⟨none, true⟩
  | silent {c : Channel α} : Step c .silent c

/-- All runs of an empty channel. -/
def channelSystem (α : Type) : System (Channel α) (ChannelEvent α) where
  init c := c = ⟨none, false⟩
  step := Channel.Step

namespace Channel

variable {α : Type}

/-- The history of a channel explains its contents. -/
structure Log (history : List (ChannelEvent α)) (c : Channel α) : Prop where
  in_order : history.filterMap ChannelEvent.received <+: history.filterMap ChannelEvent.sent
  balance : c.dropped = false →
    history.filterMap ChannelEvent.sent =
      history.filterMap ChannelEvent.received ++ c.slot.toList
  dropped_iff : c.dropped = true ↔ .drop ∈ history

theorem Log.snoc {history : List (ChannelEvent α)} {c c' : Channel α} {e : ChannelEvent α}
    (h : Log history c) (hs : Step c e c') : Log (history ++ [e]) c' := by
  refine ⟨?_, fun hd => ?_, ?_⟩
  · rw [filterMap_snoc, filterMap_snoc]
    cases hs with
    | put =>
      rw [show (ChannelEvent.put _).received = none from rfl, Option.toList_none, List.append_nil]
      exact h.in_order.trans (List.prefix_append _ _)
    | pass | take =>
      rw [h.balance rfl]
      simp [ChannelEvent.sent, ChannelEvent.received]
    | drop | silent => simpa [ChannelEvent.sent, ChannelEvent.received] using h.in_order
  · rw [filterMap_snoc, filterMap_snoc]
    cases hs with
    | put | pass | take =>
      rw [h.balance rfl]
      simp [ChannelEvent.sent, ChannelEvent.received]
    | drop => cases hd
    | silent => simpa [ChannelEvent.sent, ChannelEvent.received] using h.balance hd
  · cases hs with
    | put | pass | take | silent => simpa using h.dropped_iff
    | drop => simp

/-- Every run of a channel is explained by its log. -/
theorem log_of_run {history : List (ChannelEvent α)} {c : Channel α}
    (h : Run (channelSystem α) history c) : Log history c := by
  refine h.invariant ?_ fun _ _ _ _ hlog hs => hlog.snoc hs
  rintro c rfl
  exact ⟨by simp, fun _ => rfl, by simp⟩

end Channel

end MakopaVerified.Foundation
