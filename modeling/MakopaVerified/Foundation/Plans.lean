import MakopaVerified.Foundation.Triples

/-!
# Plans of fallible calls

A program makes calls, one after the other, on something outside that may fail at any of them. The
calls are kept in a log beside the state. A log follows a plan when it has the calls of the plan in
order, all of them or up to and including the first that fails.
-/

namespace MakopaVerified.Foundation

variable {σ ε κ α : Type}

/-- Make the call and put it into the log, with its result. -/
def Method.logged (entry : Except ε α → κ) (m : Method σ ε α) : Method (σ × List κ) ε α :=
  fun s =>
    match m s.1 with
    | (r, s') => (r, (s', s.2 ++ [entry r]))

theorem Method.run_logged (entry : Except ε α → κ) (m : Method σ ε α) (s : σ) (log : List κ) :
    (m.logged entry).run (s, log) = ((m.run s).1, ((m.run s).2, log ++ [entry (m.run s).1])) := rfl

/-- `Follows plan log r`: the log has the calls of the plan, and `r` is how they ended. -/
inductive Follows : List (Except ε Unit → κ) → List κ → Except ε Unit → Prop where
  | done : Follows [] [] (.ok ())
  | failed {call : Except ε Unit → κ} {plan : List (Except ε Unit → κ)} {e : ε} :
      Follows (call :: plan) [call (.error e)] (.error e)
  | next {call : Except ε Unit → κ} {plan : List (Except ε Unit → κ)} {log : List κ}
      {r : Except ε Unit} :
      Follows plan log r → Follows (call :: plan) (call (.ok ()) :: log) r

namespace Follows

variable {plan plan' : List (Except ε Unit → κ)} {log log' : List κ} {r : Except ε Unit} {e : ε}

theorem single (call : Except ε Unit → κ) : Follows [call] [call r] r := by
  cases r with
  | ok u => exact .next .done
  | error e => exact .failed

/-- A plan that was carried out is followed by the next one. -/
theorem append (h : Follows plan log (.ok ())) (h' : Follows plan' log' r) :
    Follows (plan ++ plan') (log ++ log') r := by
  induction plan generalizing log with
  | nil =>
    cases h
    exact h'
  | cons call plan ih =>
    cases h with
    | next h => exact .next (ih h)

/-- A plan that failed is not followed by another. -/
theorem append_failed (h : Follows plan log (.error e)) :
    Follows (plan ++ plan') log (.error e) := by
  induction plan generalizing log with
  | nil => cases h
  | cons call plan ih =>
    cases h with
    | failed => exact .failed
    | next h => exact .next (ih h)

/-- What holds of every call of the plan, however it ends, holds of every call of the log. -/
theorem forall_mem {P : κ → Prop} (hplan : ∀ call ∈ plan, ∀ r, P (call r))
    (h : Follows plan log r) : ∀ c ∈ log, P c := by
  induction h with
  | done => simp
  | failed =>
    intro c hc
    obtain rfl := List.mem_singleton.mp hc
    exact hplan _ List.mem_cons_self _
  | next _ ih =>
    intro c hc
    rcases List.mem_cons.mp hc with rfl | hc
    · exact hplan _ List.mem_cons_self _
    · exact ih (fun call hcall => hplan call (List.mem_cons_of_mem _ hcall)) c hc

end Follows

end MakopaVerified.Foundation
