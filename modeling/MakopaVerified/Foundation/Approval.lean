import MakopaVerified.Foundation.Runs

/-!
# Single-use approvals

A requester submits one request at a time, each with an argument; requests are numbered in the order
in which they are accepted. A supervisor approves the open request or ends it, and an approved
request can be committed, which puts its argument into a cell that holds one value. `approvalSystem`
is that protocol. In all of its runs a value in the cell has been asked for and approved, and no
approval is used twice.
-/

namespace MakopaVerified.Foundation

open List

/-- An open request. -/
structure OpenRequest (α : Type) where
  sequence : Nat
  argument : α
  approved : Bool

/-- The state of the protocol. -/
structure Approvals (α : Type) where
  submitted : Nat
  request : Option (OpenRequest α)
  cell : Option α
  shut : Bool

inductive ApprovalEvent (α : Type) where
  | submit (argument : α)
  | approve (sequence : Nat)
  /-- The request is denied, or it expires. -/
  | reject (sequence : Nat)
  | commit (sequence : Nat) (argument : α)
  /-- A commit that uses the approval up and leaves the cell alone. -/
  | waste (sequence : Nat)
  /-- The request goes away with its requester. -/
  | withdraw
  /-- The supervisor goes away, with the request and the cell. -/
  | shut
  | other
  deriving DecidableEq

namespace ApprovalEvent

variable {α : Type}

/-- The argument of an accepted request. -/
def submits : ApprovalEvent α → Option α
  | submit argument => some argument
  | _ => none

/-- The value that goes into the cell. -/
def commits : ApprovalEvent α → Option α
  | commit _ argument => some argument
  | _ => none

/-- The request whose approval is used up by a commit. -/
def spends : ApprovalEvent α → Option Nat
  | commit sequence _ => some sequence
  | waste sequence => some sequence
  | _ => none

/-- The event is a move that its caller asked for: a request, a decision or a commit. -/
def accepted : ApprovalEvent α → Bool
  | submit _ | approve _ | reject _ | commit _ _ => true
  | waste _ | withdraw | shut | other => false

/-- The event ends the request `s`. -/
def Consumes (s : Nat) : ApprovalEvent α → Prop
  | reject sequence | commit sequence _ | waste sequence => sequence = s
  | withdraw | shut => True
  | submit _ | approve _ | other => False

end ApprovalEvent

namespace Approvals

variable {α : Type}

inductive Step : Approvals α → ApprovalEvent α → Approvals α → Prop where
  | submit {a : Approvals α} {argument : α} (idle : a.request = none) :
      Step a (.submit argument)
        { a with submitted := a.submitted + 1, request := some ⟨a.submitted + 1, argument, false⟩ }
  | approve {a : Approvals α} {r : OpenRequest α} (pending : a.request = some r)
      (fresh : r.approved = false) :
      Step a (.approve r.sequence) { a with request := some { r with approved := true } }
  | reject {a : Approvals α} {r : OpenRequest α} (is_open : a.request = some r) :
      Step a (.reject r.sequence) { a with request := none }
  | commit {a : Approvals α} {r : OpenRequest α} (is_open : a.request = some r)
      (approved : r.approved = true) (vacant : a.cell = none) (present : a.shut = false) :
      Step a (.commit r.sequence r.argument) { a with request := none, cell := some r.argument }
  | waste {a : Approvals α} {r : OpenRequest α} (is_open : a.request = some r) :
      Step a (.waste r.sequence) { a with request := none }
  | withdraw {a : Approvals α} : Step a .withdraw { a with request := none }
  | shut {a : Approvals α} : Step a .shut { a with request := none, cell := none, shut := true }
  | other {a : Approvals α} : Step a .other a

/-- Only a commit fills the cell. -/
theorem Step.commits_eq {a a' : Approvals α} {e : ApprovalEvent α} (h : Step a e a') :
    e.commits = if a.cell.isNone then a'.cell else none := by
  cases h with
  | commit is_open approved vacant present =>
    rw [vacant]
    rfl
  | submit | approve | reject | waste | withdraw | shut | other =>
    cases hc : a.cell with
    | none => rfl
    | some value => rfl

end Approvals

/-- All runs of the protocol. -/
def approvalSystem (α : Type) : System (Approvals α) (ApprovalEvent α) where
  init a := a = ⟨0, none, none, false⟩
  step := Approvals.Step

/-- The events before a commit of `value` under the number `s`: the `s`-th request asked for just
this value, it was approved, and nothing has ended it since. -/
def Authorised {α : Type} (earlier : List (ApprovalEvent α)) (s : Nat) (value : α) : Prop :=
  ∃ before middle last,
    earlier = before ++ .submit value :: (middle ++ .approve s :: last) ∧
    (before.filterMap ApprovalEvent.submits).length + 1 = s ∧
    ∀ e ∈ middle ++ last, ¬ e.Consumes s

/-- The events that led to an open request. -/
def Opened {α : Type} (history : List (ApprovalEvent α)) (r : OpenRequest α) : Prop :=
  ∃ before since, history = before ++ .submit r.argument :: since ∧
    (before.filterMap ApprovalEvent.submits).length + 1 = r.sequence ∧
    (∀ e ∈ since, ¬ e.Consumes r.sequence) ∧
    (r.approved = true → ∃ middle last, since = middle ++ .approve r.sequence :: last)

section Opened

variable {α : Type} {history : List (ApprovalEvent α)} {r : OpenRequest α}

theorem Opened.authorised (h : Opened history r) (ha : r.approved = true) :
    Authorised history r.sequence r.argument := by
  obtain ⟨before, since, heq, hcount, hsince, happroved⟩ := h
  obtain ⟨middle, last, rfl⟩ := happroved ha
  refine ⟨before, middle, last, heq, hcount, fun e he => hsince e ?_⟩
  rw [mem_append] at he ⊢
  exact he.imp_right (mem_cons_of_mem _)

/-- An event that does not end the request leaves it explained. -/
theorem Opened.snoc (h : Opened history r) {e : ApprovalEvent α}
    (he : ¬ e.Consumes r.sequence) : Opened (history ++ [e]) r := by
  obtain ⟨before, since, rfl, hcount, hsince, happroved⟩ := h
  refine ⟨before, since ++ [e], by simp, hcount, ?_, fun ha => ?_⟩
  · intro e' he'
    rcases mem_append.mp he' with hmem | hmem
    · exact hsince e' hmem
    · rw [mem_singleton.mp hmem]
      exact he
  · obtain ⟨middle, last, rfl⟩ := happroved ha
    exact ⟨middle, last ++ [e], by simp⟩

theorem Opened.approve (h : Opened history r) :
    Opened (history ++ [.approve r.sequence]) { r with approved := true } := by
  obtain ⟨before, since, rfl, hcount, hsince, -⟩ := h
  refine ⟨before, since ++ [.approve r.sequence], by simp, hcount, ?_, fun _ => ⟨since, [], rfl⟩⟩
  intro e he
  rcases mem_append.mp he with hmem | hmem
  · exact hsince e hmem
  · rw [mem_singleton.mp hmem]
    exact fun hc => hc.elim

end Opened

/-! ## What every history explains -/

/-- The history explains the state. -/
structure Explained {α : Type} (history : List (ApprovalEvent α)) (a : Approvals α) : Prop where
  submitted : (history.filterMap ApprovalEvent.submits).length = a.submitted
  opened : ∀ r, a.request = some r → Opened history r ∧ r.sequence = a.submitted
  spent : ∀ s ∈ history.filterMap ApprovalEvent.spends,
    s ≤ a.submitted ∧ (a.request ≠ none → s < a.submitted)
  spent_once : (history.filterMap ApprovalEvent.spends).Nodup
  committed_once : (history.filterMap ApprovalEvent.commits).length ≤ 1
  committed : history.filterMap ApprovalEvent.commits ≠ [] → a.cell ≠ none ∨ a.shut = true
  authorised : ∀ earlier s value later, history = earlier ++ .commit s value :: later →
    Authorised earlier s value

namespace Explained

variable {α : Type} {history : List (ApprovalEvent α)} {a a' : Approvals α} {e : ApprovalEvent α}

/-- Requests are open under the latest number only, so a spent number does not come back. -/
theorem spends_fresh (h : Explained history a) {r : OpenRequest α} (hr : a.request = some r) :
    r.sequence ∉ history.filterMap ApprovalEvent.spends := by
  intro hmem
  have hlt := (h.spent _ hmem).2 (by rw [hr]; exact Option.some_ne_none r)
  have heq := (h.opened r hr).2
  omega

theorem snoc (h : Explained history a) (hs : Approvals.Step a e a') :
    Explained (history ++ [e]) a' := by
  refine ⟨?_, ?_, ?_, ?_, ?_, ?_, ?_⟩
  · rw [filterMap_snoc, length_append, h.submitted]
    cases hs with
    | submit | approve | reject | commit | waste | withdraw | shut | other => rfl
  · intro r' hr'
    cases hs with
    | submit idle =>
      obtain rfl := Option.some.inj hr'
      refine ⟨⟨history, [], rfl, by rw [h.submitted], by simp, nofun⟩, rfl⟩
    | approve pending fresh =>
      obtain rfl := Option.some.inj hr'
      obtain ⟨hopened, hseq⟩ := h.opened _ pending
      exact ⟨hopened.approve, hseq⟩
    | other =>
      obtain ⟨hopened, hseq⟩ := h.opened _ hr'
      exact ⟨hopened.snoc fun hc => hc.elim, hseq⟩
    | reject | commit | waste | withdraw | shut => cases hr'
  · rw [filterMap_snoc]
    intro s hmem
    cases hs with
    | submit idle =>
      have hle := (h.spent s (by simpa [ApprovalEvent.spends] using hmem)).1
      exact ⟨Nat.le_succ_of_le hle, fun _ => Nat.lt_succ_of_le hle⟩
    | approve pending fresh =>
      obtain ⟨hle, hlt⟩ := h.spent s (by simpa [ApprovalEvent.spends] using hmem)
      exact ⟨hle, fun _ => hlt (by rw [pending]; exact Option.some_ne_none _)⟩
    | other => exact h.spent s (by simpa [ApprovalEvent.spends] using hmem)
    | reject | withdraw | shut =>
      exact ⟨(h.spent s (by simpa [ApprovalEvent.spends] using hmem)).1, fun hn => absurd rfl hn⟩
    | commit is_open | waste is_open =>
      refine ⟨?_, fun hn => absurd rfl hn⟩
      rcases mem_append.mp hmem with hold | hnew
      · exact (h.spent s hold).1
      · have hs' : s = _ := mem_singleton.mp hnew
        rw [hs', (h.opened _ is_open).2]
  · rw [filterMap_snoc]
    cases hs with
    | submit | approve | reject | withdraw | shut | other =>
      simpa [ApprovalEvent.spends] using h.spent_once
    | commit is_open | waste is_open =>
      refine nodup_append.mpr ⟨h.spent_once, nodup_singleton _, ?_⟩
      intro s hold t hnew hst
      have ht : t = _ := mem_singleton.mp hnew
      subst hst ht
      exact h.spends_fresh is_open hold
  · rw [filterMap_snoc, length_append]
    have hone := h.committed_once
    cases hs with
    | submit | approve | reject | waste | withdraw | shut | other => exact hone
    | commit is_open approved vacant present =>
      have hnone : history.filterMap ApprovalEvent.commits = [] := by
        by_contra hne
        rcases h.committed hne with hcell | hshut
        · exact hcell vacant
        · rw [present] at hshut
          cases hshut
      rw [hnone]
      exact Nat.le_refl 1
  · rw [filterMap_snoc]
    intro hne
    cases hs with
    | submit | approve | reject | waste | withdraw | other =>
      exact h.committed (by simpa [ApprovalEvent.commits] using hne)
    | commit => exact .inl (Option.some_ne_none _)
    | shut => exact .inr rfl
  · intro earlier s value later hsplit
    rcases snoc_eq_append_cons hsplit with ⟨-, hcommit, rfl⟩ | ⟨later', -, hold⟩
    · subst hcommit
      cases hs with
      | commit is_open approved vacant present => exact (h.opened _ is_open).1.authorised approved
    · exact h.authorised earlier s value later' hold

/-- Every run of the protocol is explained by its history. -/
theorem of_run (h : Run (approvalSystem α) history a) : Explained history a := by
  refine h.invariant ?_ fun _ _ _ _ hex hs => hex.snoc hs
  rintro a rfl
  exact
    { submitted := rfl
      opened := fun r hr => by cases hr
      spent := fun s hs => absurd hs (not_mem_nil)
      spent_once := nodup_nil
      committed_once := Nat.zero_le 1
      committed := fun hne => absurd rfl hne
      authorised := fun earlier s value later hsplit => by simp at hsplit }

end Explained

end MakopaVerified.Foundation
