import Mathlib

/-!
# Lists with one item for each key

A list whose items have different keys is a finite map from keys to the values of its items.
-/

namespace MakopaVerified.Foundation

variable {α β κ ν : Type} [DecidableEq κ] {items : List α} {key : α → κ} {value : α → ν} {k : κ} {v : ν}

/-- The value of the item with this key. -/
def valueOf (items : List α) (key : α → κ) (value : α → ν) (k : κ) : Option ν :=
  (items.find? fun item => key item = k).map value

/-- An item is found by its key. -/
theorem find?_eq_some_iff_of_nodup (nodup : (items.map key).Nodup) {item : α} :
    items.find? (fun item => key item = k) = some item ↔ item ∈ items ∧ key item = k := by
  constructor
  · intro found
    exact ⟨List.mem_of_find?_eq_some found, by simpa using List.find?_some found⟩
  · rintro ⟨mem, rfl⟩
    induction items with
    | nil => cases mem
    | cons head items ih =>
      rw [List.map_cons, List.nodup_cons] at nodup
      obtain rfl | mem := List.mem_cons.mp mem
      · rw [List.find?_cons_of_pos (by simp)]
      · have other : key head ≠ key item := fun same => nodup.1 (same ▸ List.mem_map_of_mem mem)
        rw [List.find?_cons_of_neg (by simpa using other)]
        exact ih nodup.2 mem

theorem valueOf_eq_some_iff (nodup : (items.map key).Nodup) :
    valueOf items key value k = some v ↔ ∃ item ∈ items, key item = k ∧ value item = v := by
  unfold valueOf
  rw [Option.map_eq_some_iff]
  constructor
  · rintro ⟨item, found, rfl⟩
    obtain ⟨mem, same⟩ := (find?_eq_some_iff_of_nodup nodup).mp found
    exact ⟨item, mem, same, rfl⟩
  · rintro ⟨item, mem, same, rfl⟩
    exact ⟨item, (find?_eq_some_iff_of_nodup nodup).mpr ⟨mem, same⟩, rfl⟩

/-- Two lists are the same map when they have the same keys and values. -/
theorem valueOf_eq_iff {others : List β} {key' : β → κ} {value' : β → ν}
    (nodup : (items.map key).Nodup) (nodup' : (others.map key').Nodup) :
    valueOf items key value = valueOf others key' value' ↔
      (∀ item ∈ items, ∃ other ∈ others, key' other = key item ∧ value' other = value item) ∧
      ∀ other ∈ others, ∃ item ∈ items, key item = key' other ∧ value item = value' other := by
  constructor
  · intro same
    refine ⟨fun item mem => ?_, fun other mem => ?_⟩
    · have found : valueOf items key value (key item) = some (value item) :=
        (valueOf_eq_some_iff nodup).mpr ⟨item, mem, rfl, rfl⟩
      rw [same] at found
      exact (valueOf_eq_some_iff nodup').mp found
    · have found : valueOf others key' value' (key' other) = some (value' other) :=
        (valueOf_eq_some_iff nodup').mpr ⟨other, mem, rfl, rfl⟩
      rw [← same] at found
      exact (valueOf_eq_some_iff nodup).mp found
  · rintro ⟨left, right⟩
    funext k
    refine Option.ext fun v => ?_
    rw [valueOf_eq_some_iff nodup, valueOf_eq_some_iff nodup']
    constructor
    · rintro ⟨item, mem, rfl, rfl⟩
      exact left item mem
    · rintro ⟨other, mem, rfl, rfl⟩
      exact right other mem

end MakopaVerified.Foundation
