import Mathlib

/-!
# Arrays with a length

An array of fixed size of which the first `len` entries are in use. `shiftDown` and `shiftUp` are
the loops that close a gap in front of the entries in use, or open one; on the list of the entries
in use they are `eraseIdx` and `insertIdx`.
-/

namespace MakopaVerified.Foundation

variable {α : Type} {n : Nat}

/-- The entries in use. -/
def live (v : Vector α n) (len : Nat) : List α := v.toList.take len

/-- `v[target] = v[source]`. -/
def copyEntry (v : Vector α n) (source target : Nat) : Vector α n :=
  match v[source]? with
  | some x => v.setIfInBounds target x
  | none => v

/-- `for next in next..next + count { v[next - 1] = v[next]; }`. -/
def shiftDown (v : Vector α n) (next : Nat) : Nat → Vector α n
  | 0 => v
  | count + 1 => shiftDown (copyEntry v next (next - 1)) (next + 1) count

/-- `for index in (first..first + count).rev() { v[index + 1] = v[index]; }`. -/
def shiftUp (v : Vector α n) (first : Nat) : Nat → Vector α n
  | 0 => v
  | count + 1 => shiftUp (copyEntry v (first + count) (first + count + 1)) first count

section

variable {v : Vector α n} {len index i : Nat} {x : α}

theorem getElem?_live : (live v len)[i]? = if i < len then v[i]? else none := by
  unfold live
  rw [List.getElem?_take]
  split
  · simp
  · rfl

theorem length_live (h : len ≤ n) : (live v len).length = len := by
  unfold live
  rw [List.length_take, Vector.length_toList, Nat.min_eq_left h]

theorem getElem?_copyEntry {source target : Nat} (hs : source < n) (ht : target < n) :
    (copyEntry v source target)[i]? = if i = target then v[source]? else v[i]? := by
  unfold copyEntry
  rw [Vector.getElem?_eq_getElem hs]
  dsimp only
  rw [Vector.getElem?_setIfInBounds]
  by_cases hi : target = i
  · rw [if_pos hi, if_pos (by omega), if_pos hi.symm]
  · rw [if_neg hi, if_neg (fun h => hi h.symm)]

/-- After the loop the entries behind the gap have moved one place to the front. -/
theorem getElem?_shiftDown {count next : Nat} (hpos : 1 ≤ next) (hn : next + count ≤ n) :
    (shiftDown v next count)[i]? =
      if next - 1 ≤ i ∧ i < next - 1 + count then v[i + 1]? else v[i]? := by
  induction count generalizing v next with
  | zero =>
    rw [if_neg (by omega)]
    rfl
  | succ count ih =>
    rw [shiftDown, ih (by omega) (by omega)]
    rw [getElem?_copyEntry (by omega) (by omega), getElem?_copyEntry (by omega) (by omega)]
    by_cases hfirst : i = next - 1
    · subst hfirst
      rw [if_neg (by omega), if_pos rfl, if_pos (by omega)]
      congr 1
      omega
    · by_cases hrange : next - 1 ≤ i ∧ i < next - 1 + (count + 1)
      · rw [if_pos (by omega), if_neg (by omega), if_pos hrange]
      · rw [if_neg (by omega), if_neg hfirst, if_neg hrange]

/-- After the loop the entries from `first` on have moved one place to the back. -/
theorem getElem?_shiftUp {count first : Nat} (hn : first + count < n) :
    (shiftUp v first count)[i]? =
      if first < i ∧ i ≤ first + count then v[i - 1]? else v[i]? := by
  induction count generalizing v with
  | zero =>
    rw [if_neg (by omega)]
    rfl
  | succ count ih =>
    rw [shiftUp, ih (by omega)]
    rw [getElem?_copyEntry (by omega) (by omega), getElem?_copyEntry (by omega) (by omega)]
    by_cases hlast : i = first + count + 1
    · subst hlast
      rw [if_neg (by omega), if_pos rfl, if_pos (by omega)]
      congr 1
    · by_cases hrange : first < i ∧ i ≤ first + (count + 1)
      · rw [if_pos (by omega), if_neg (by omega), if_pos hrange]
      · rw [if_neg (by omega), if_neg hlast, if_neg hrange]

/-! ## The same on the entries in use -/

theorem insertIdx_between (before after : List α) :
    (before ++ after).insertIdx before.length x = before ++ x :: after := by
  induction before with
  | nil => simp
  | cons a before ih => simp [ih]

theorem live_set (h : i < len) (hn : len ≤ n) :
    live (v.setIfInBounds i x) len = (live v len).set i x := by
  apply List.ext_getElem?
  intro j
  rw [getElem?_live, List.getElem?_set, getElem?_live, length_live hn,
    Vector.getElem?_setIfInBounds]
  by_cases hj : i = j
  · subst hj
    rw [if_pos h, if_pos rfl, if_pos (by omega), if_pos rfl, if_pos h]
  · rw [if_neg hj, if_neg hj]

theorem live_push (h : len < n) : live (v.setIfInBounds len x) (len + 1) = live v len ++ [x] := by
  apply List.ext_getElem?
  intro j
  rw [getElem?_live, List.getElem?_append, length_live (by omega), getElem?_live,
    Vector.getElem?_setIfInBounds]
  by_cases hj : j < len
  · rw [if_pos (by omega), if_neg (by omega), if_pos hj, if_pos hj]
  · by_cases heq : len = j
    · subst heq
      rw [if_pos (by omega), if_pos rfl, if_pos h, if_neg hj]
      simp
    · rw [if_neg (by omega), if_neg hj]
      rw [List.getElem?_eq_none (by simp; omega)]

theorem live_shiftDown (h : index < len) (hn : len ≤ n) :
    live (shiftDown v (index + 1) (len - (index + 1))) (len - 1) =
      (live v len).eraseIdx index := by
  apply List.ext_getElem?
  intro j
  rw [getElem?_live, List.getElem?_eraseIdx, getElem?_live, getElem?_live,
    getElem?_shiftDown (by omega) (by omega)]
  by_cases hj : j < index
  · rw [if_pos (by omega), if_neg (by omega), if_pos hj, if_pos (by omega)]
  · rw [if_neg hj]
    by_cases hlast : j < len - 1
    · rw [if_pos hlast, if_pos (by omega), if_pos (by omega)]
    · rw [if_neg hlast, if_neg (by omega)]

theorem live_shiftUp (h : index ≤ len) (hn : len < n) :
    live ((shiftUp v index (len - index)).setIfInBounds index x) (len + 1) =
      (live v len).insertIdx index x := by
  apply List.ext_getElem?
  intro j
  rw [getElem?_live, List.getElem?_insertIdx, getElem?_live, getElem?_live,
    Vector.getElem?_setIfInBounds, getElem?_shiftUp (by omega), length_live (by omega)]
  by_cases hj : j < index
  · rw [if_pos (by omega), if_neg (by omega), if_neg (by omega), if_pos hj, if_pos (by omega)]
  · by_cases heq : index = j
    · subst heq
      rw [if_pos (by omega), if_pos rfl, if_pos (by omega), if_neg hj, if_pos rfl, if_pos h]
    · have hne : ¬ j = index := fun h => heq h.symm
      by_cases hlast : j < len + 1
      · rw [if_pos hlast, if_neg heq, if_pos (by omega), if_neg hj, if_neg hne,
          if_pos (by omega)]
      · rw [if_neg hlast, if_neg hj, if_neg hne, if_neg (by omega)]

end

end MakopaVerified.Foundation
