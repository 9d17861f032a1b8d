import MakopaVerified.Foundation.Runs

/-!
# Names that are used once

A name space hands out names for values and takes them back one by one, or all at once when it is
shut. A name that has been handed out is never handed out again, so that one who still has it after
it was taken back can do nothing with it.
-/

namespace MakopaVerified.Foundation

/-- The names that were ever handed out, and what each name stands for now. -/
@[ext]
structure NameSpace (ν α : Type) where
  issued : ν → Prop
  holds : ν → Option α
  shut : Prop
  holds_issued : ∀ n, holds n ≠ none → issued n
  shut_empty : shut → ∀ n, holds n = none

inductive NameEvent (ν : Type) where
  | issue (n : ν)
  | close (n : ν)
  | shut
  | other

namespace NameEvent

variable {ν : Type}

/-- The name that an event hands out. -/
def issues : NameEvent ν → Option ν
  | issue n => some n
  | _ => none

/-- The name that an event takes back. -/
def closes : NameEvent ν → Option ν
  | close n => some n
  | _ => none

end NameEvent

namespace NameSpace

variable {ν α : Type}

/-- No name has been handed out. -/
def fresh : NameSpace ν α where
  issued _ := False
  holds _ := none
  shut := False
  holds_issued _ h := absurd rfl h
  shut_empty h := h.elim

/-- The name space after it was shut. -/
def close (s : NameSpace ν α) : NameSpace ν α where
  issued := s.issued
  holds _ := none
  shut := True
  holds_issued _ h := absurd rfl h
  shut_empty _ _ := rfl

/-- What `s` and `s'` hold differs at `n` only. -/
def SameBut (n : ν) (s s' : NameSpace ν α) : Prop := ∀ m, m ≠ n → s'.holds m = s.holds m

/-- What an event does to a name space. -/
inductive Step (s : NameSpace ν α) : NameEvent ν → NameSpace ν α → Prop where
  | issue {n : ν} {s' : NameSpace ν α} (unshut : ¬ s.shut) (unshut' : ¬ s'.shut)
      (unused : ¬ s.issued n) (issued : ∀ m, s'.issued m ↔ m = n ∨ s.issued m)
      (holds : s'.holds n ≠ none) (others : SameBut n s s') : Step s (.issue n) s'
  | close {n : ν} {s' : NameSpace ν α} (unshut : ¬ s.shut) (unshut' : ¬ s'.shut)
      (issued : ∀ m, s'.issued m ↔ s.issued m) (held : s.holds n ≠ none)
      (dropped : s'.holds n = none) (others : SameBut n s s') : Step s (.close n) s'
  | shut : Step s .shut s.close
  | other : Step s .other s

end NameSpace

/-- All runs of a name space. -/
def nameSystem (ν α : Type) : System (NameSpace ν α) (NameEvent ν) where
  init s := s = NameSpace.fresh
  step := NameSpace.Step

namespace NameSpace

variable {ν α : Type} {history : List (NameEvent ν)} {s : NameSpace ν α}

/-- A step keeps what every name stands for that was handed out before, but for the name that it
takes back. -/
theorem Step.holds_eq {s' : NameSpace ν α} {e : NameEvent ν} (h : s.Step e s') (hopen : ¬ s'.shut)
    {n : ν} (hissued : s.issued n) (hclosed : e.closes ≠ some n) : s'.holds n = s.holds n := by
  cases h with
  | issue unshut unshut' unused issued holds others =>
    exact others n fun he => unused (he ▸ hissued)
  | close unshut unshut' issued held dropped others =>
    exact others n fun he => hclosed (congrArg some he.symm)
  | shut => exact absurd trivial hopen
  | other => rfl

theorem issued_iff (h : Run (nameSystem ν α) history s) (n : ν) :
    s.issued n ↔ n ∈ history.filterMap NameEvent.issues := by
  refine h.invariant (P := fun history s => ∀ n, s.issued n ↔ n ∈ history.filterMap NameEvent.issues)
    ?_ ?_ n
  · rintro s rfl n
    simp [fresh]
  · intro history s e s' ih hs n
    rw [filterMap_snoc, List.mem_append]
    cases hs with
    | issue unshut unshut' unused issued holds others =>
      rw [issued, ih, or_comm]
      simp [NameEvent.issues]
    | close unshut unshut' issued held dropped others =>
      rw [issued, ih]
      simp [NameEvent.issues]
    | shut =>
      show s.issued n ↔ _
      rw [ih]
      simp [NameEvent.issues]
    | other =>
      rw [ih]
      simp [NameEvent.issues]

/-- No name is handed out twice. -/
theorem issued_nodup (h : Run (nameSystem ν α) history s) :
    (history.filterMap NameEvent.issues).Nodup := by
  refine (h.invariant (P := fun history s => Run (nameSystem ν α) history s ∧
    (history.filterMap NameEvent.issues).Nodup) ?_ ?_).2
  · intro s hs
    exact ⟨.start hs, List.nodup_nil⟩
  · rintro history s e s' ⟨hrun, ih⟩ hs
    refine ⟨hrun.step hs, ?_⟩
    rw [filterMap_snoc]
    cases hs with
    | issue unshut unshut' unused issued holds others =>
      rw [issued_iff hrun] at unused
      exact List.nodup_append.mpr ⟨ih, List.nodup_singleton _, fun a ha b hb hab =>
        unused (by rwa [← List.mem_singleton.mp hb, ← hab])⟩
    | close | shut | other => simpa [NameEvent.issues] using ih

/-- As long as the space is not shut, a name stands for something exactly when it was handed out and
not taken back. -/
theorem holds_iff (h : Run (nameSystem ν α) history s) (hopen : ¬ s.shut) (n : ν) :
    s.holds n ≠ none ↔
      n ∈ history.filterMap NameEvent.issues ∧ n ∉ history.filterMap NameEvent.closes := by
  suffices hinv : Run (nameSystem ν α) history s ∧
      (∀ n ∈ history.filterMap NameEvent.closes, s.issued n) ∧
      (¬ s.shut → ∀ n, s.holds n ≠ none ↔
        s.issued n ∧ n ∉ history.filterMap NameEvent.closes) by
    rw [hinv.2.2 hopen, issued_iff h]
  clear hopen n
  refine h.invariant (P := fun history s => Run (nameSystem ν α) history s ∧
    (∀ n ∈ history.filterMap NameEvent.closes, s.issued n) ∧
    (¬ s.shut → ∀ n, s.holds n ≠ none ↔
      s.issued n ∧ n ∉ history.filterMap NameEvent.closes)) ?_ ?_
  · rintro s rfl
    refine ⟨.start rfl, by simp, fun _ n => ?_⟩
    simp [fresh]
  · rintro history s e s' ⟨hrun, hclosed, hholds⟩ hs
    refine ⟨hrun.step hs, ?_⟩
    rw [filterMap_snoc]
    cases hs with
    | @issue m s' unshut unshut' unused issued holds others =>
      simp only [NameEvent.closes, Option.toList_none, List.append_nil]
      refine ⟨fun n hn => (issued n).mpr (.inr (hclosed n hn)), fun _ n => ?_⟩
      by_cases hnm : n = m
      · subst hnm
        have hnot : n ∉ history.filterMap NameEvent.closes := fun hn => unused (hclosed n hn)
        simp [holds, issued, hnot]
      · rw [others n hnm, hholds unshut, issued]
        simp [hnm]
    | @close m s' unshut unshut' issued held dropped others =>
      simp only [NameEvent.closes, Option.toList_some, List.mem_append, List.mem_singleton]
      have hissued : s.issued m := s.holds_issued m held
      refine ⟨?_, fun _ n => ?_⟩
      · rintro n (hn | rfl)
        · exact (issued n).mpr (hclosed n hn)
        · exact (issued n).mpr hissued
      · by_cases hnm : n = m
        · subst hnm
          simp [dropped]
        · rw [others n hnm, hholds unshut, issued]
          simp [hnm]
    | shut =>
      simp only [NameEvent.closes, Option.toList_none, List.append_nil]
      exact ⟨hclosed, fun hopen => absurd trivial hopen⟩
    | other =>
      simp only [NameEvent.closes, Option.toList_none, List.append_nil]
      exact ⟨hclosed, hholds⟩

end NameSpace

end MakopaVerified.Foundation
