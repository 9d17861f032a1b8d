import Mathlib

/-!
# Sets of numbers as lists of spans

A span is a run of consecutive numbers. A list of spans is canonical when its spans are not empty,
come in increasing order and do not touch each other, so that every span is a maximal run of the set
that the list stands for. The lemmas say how that set changes when a number is taken off the front
or put in, with and without merging, and when a span is joined on at the end.
-/

namespace MakopaVerified.Foundation

open List

/-- The numbers from `first` on, `size` of them. -/
structure Span where
  first : Nat
  size : Nat
  deriving DecidableEq, Repr

namespace Span

/-- The number after the last one. -/
def stop (s : Span) : Nat := s.first + s.size

/-- `x` is one of the numbers. -/
def Has (s : Span) (x : Nat) : Prop := s.first ≤ x ∧ x < s.stop

instance (s : Span) (x : Nat) : Decidable (s.Has x) := inferInstanceAs (Decidable (_ ∧ _))

end Span

namespace Spans

/-- The set that a list of spans stands for. -/
def points (l : List Span) : Set Nat := { x | ∃ s ∈ l, s.Has x }

/-- Not empty, in order, and not touching. -/
structure Canonical (l : List Span) : Prop where
  nonempty : ∀ s ∈ l, 0 < s.size
  gaps : l.Pairwise fun s t => s.stop < t.first

variable {l before after : List Span} {s t m : Span} {x : Nat}

theorem mem_points : x ∈ points l ↔ ∃ s ∈ l, s.Has x := Iff.rfl

theorem points_append : points (before ++ after) = points before ∪ points after := by
  ext x
  simp only [Set.mem_union, mem_points, mem_append]
  constructor
  · rintro ⟨s, hs | hs, hx⟩
    · exact .inl ⟨s, hs, hx⟩
    · exact .inr ⟨s, hs, hx⟩
  · rintro (⟨s, hs, hx⟩ | ⟨s, hs, hx⟩)
    · exact ⟨s, .inl hs, hx⟩
    · exact ⟨s, .inr hs, hx⟩

theorem mem_points_cons : x ∈ points (s :: l) ↔ s.Has x ∨ x ∈ points l := by
  simp only [mem_points, mem_cons, exists_eq_or_imp]

/-- A span anywhere in the list adds its numbers. -/
theorem mem_points_middle :
    x ∈ points (before ++ m :: after) ↔ m.Has x ∨ x ∈ points (before ++ after) := by
  rw [points_append, points_append, Set.mem_union, Set.mem_union, mem_points_cons]
  tauto

theorem points_nil : points [] = ∅ := by
  ext x
  simp [mem_points]

namespace Canonical

theorem nil : Canonical [] := ⟨by simp, .nil⟩

theorem points_eq_empty_iff (h : Canonical l) : points l = ∅ ↔ l = [] := by
  constructor
  · intro hempty
    cases l with
    | nil => rfl
    | cons s l =>
      have hpos := h.nonempty s mem_cons_self
      have hmem : s.first ∈ points (s :: l) :=
        mem_points_cons.mpr (.inl ⟨le_refl _, by unfold Span.stop; omega⟩)
      rw [hempty] at hmem
      exact absurd hmem (Set.notMem_empty _)
  · rintro rfl
    exact points_nil

/-- A part of the list is canonical. -/
theorem sublist {l' : List Span} (h : Canonical l) (hs : l'.Sublist l) : Canonical l' :=
  ⟨fun s hm => h.nonempty s (hs.subset hm), h.gaps.sublist hs⟩

theorem before_after (h : Canonical (before ++ after)) :
    ∀ s ∈ before, ∀ t ∈ after, s.stop < t.first :=
  (pairwise_append.mp h.gaps).2.2

/-- A span that keeps its distance on both sides can be put in. -/
theorem insert (h : Canonical (before ++ after)) (hpos : 0 < m.size)
    (hleft : ∀ s ∈ before, s.stop < m.first) (hright : ∀ t ∈ after, m.stop < t.first) :
    Canonical (before ++ m :: after) := by
  obtain ⟨hb, ha, hba⟩ := pairwise_append.mp h.gaps
  refine ⟨fun s hs => ?_, ?_⟩
  · rcases mem_append.mp hs with hs | hs
    · exact h.nonempty s (mem_append_left _ hs)
    · rcases mem_cons.mp hs with rfl | hs
      · exact hpos
      · exact h.nonempty s (mem_append_right _ hs)
  · refine pairwise_append.mpr ⟨hb, pairwise_cons.mpr ⟨hright, ha⟩, ?_⟩
    intro s hs t ht
    rcases mem_cons.mp ht with rfl | ht
    · exact hleft s hs
    · exact hba s hs t ht

/-- Some neighbours give way to one span that covers them and the number `x`. -/
theorem replace {middle : List Span} (h : Canonical (before ++ (middle ++ after)))
    (hcovers : ∀ y, m.Has y ↔ y = x ∨ y ∈ points middle)
    (hleft : ∀ s ∈ before, s.stop < m.first) (hright : ∀ t ∈ after, m.stop < t.first) :
    Canonical (before ++ m :: after) ∧
      points (before ++ m :: after) = Insert.insert x (points (before ++ (middle ++ after))) := by
  have hpos : 0 < m.size := by
    have hx := (hcovers x).mpr (.inl rfl)
    unfold Span.Has Span.stop at hx
    omega
  refine ⟨?_, ?_⟩
  · have hrest : Canonical (before ++ after) :=
      h.sublist (.append (List.Sublist.refl _) (sublist_append_right _ _))
    exact hrest.insert hpos hleft hright
  · ext y
    rw [mem_points_middle, hcovers, Set.mem_insert_iff, points_append, points_append,
      points_append, Set.mem_union, Set.mem_union, Set.mem_union]
    tauto

/-! ## Taking the least number -/

theorem least (h : Canonical (s :: l)) : IsLeast (points (s :: l)) s.first := by
  have hpos := h.nonempty s mem_cons_self
  refine ⟨mem_points_cons.mpr (.inl ⟨le_refl _, by unfold Span.stop; omega⟩), ?_⟩
  intro x hx
  rcases mem_points_cons.mp hx with hx | ⟨t, ht, hx⟩
  · exact hx.1
  · have hgap := (pairwise_cons.mp h.gaps).1 t ht
    have hfirst := hx.1
    unfold Span.stop at hgap
    omega

theorem first_notMem_tail (h : Canonical (s :: l)) : s.first ∉ points l := by
  rintro ⟨t, ht, hx⟩
  have hgap := (pairwise_cons.mp h.gaps).1 t ht
  have hfirst := hx.1
  unfold Span.stop at hgap
  omega

theorem tail (h : Canonical (s :: l)) : Canonical l := h.sublist (sublist_cons_self s l)

/-- The front span has one number: the span goes. -/
theorem points_tail (h : Canonical (s :: l)) (hone : s.size = 1) :
    points l = points (s :: l) \ {s.first} := by
  ext x
  have hnot := h.first_notMem_tail
  rw [Set.mem_sdiff, Set.mem_singleton_iff, mem_points_cons]
  constructor
  · intro hx
    refine ⟨.inr hx, ?_⟩
    rintro rfl
    exact hnot hx
  · rintro ⟨hx | hx, hne⟩
    · unfold Span.Has Span.stop at hx
      omega
    · exact hx

/-- The front span has more: it starts one later. -/
theorem shrink (h : Canonical (s :: l)) (hmore : 1 < s.size) :
    Canonical (⟨s.first + 1, s.size - 1⟩ :: l) ∧
      points (⟨s.first + 1, s.size - 1⟩ :: l) = points (s :: l) \ {s.first} := by
  have hstop : (⟨s.first + 1, s.size - 1⟩ : Span).stop = s.stop := by
    unfold Span.stop
    dsimp only
    omega
  refine ⟨?_, ?_⟩
  · have hrest : Canonical ([] ++ l) := h.tail
    refine hrest.insert (by dsimp only; omega) (by simp) fun t ht => ?_
    rw [hstop]
    exact (pairwise_cons.mp h.gaps).1 t ht
  · ext x
    have hnot := h.first_notMem_tail
    rw [Set.mem_sdiff, Set.mem_singleton_iff, mem_points_cons, mem_points_cons]
    unfold Span.Has
    rw [hstop]
    dsimp only
    constructor
    · rintro (hx | hx)
      · exact ⟨.inl ⟨by omega, hx.2⟩, by omega⟩
      · refine ⟨.inr hx, ?_⟩
        rintro rfl
        exact hnot hx
    · rintro ⟨hx | hx, hne⟩
      · exact .inl ⟨by omega, hx.2⟩
      · exact .inr hx

end Canonical

/-! ## Joining a span on at the end -/

/-- Append a span; when it touches the last one, the two become one. -/
def join (l : List Span) (s : Span) : List Span :=
  match l.getLast? with
  | none => [s]
  | some t =>
    if t.stop = s.first then l.dropLast ++ [⟨t.first, t.size + s.size⟩] else l ++ [s]

theorem join_nil : join [] s = [s] := rfl

theorem join_touching (h : t.stop = s.first) :
    join (l ++ [t]) s = l ++ [⟨t.first, t.size + s.size⟩] := by
  unfold join
  rw [List.getLast?_concat, dropLast_concat]
  exact if_pos h

theorem join_gap (h : t.stop ≠ s.first) : join (l ++ [t]) s = l ++ [t] ++ [s] := by
  unfold join
  rw [List.getLast?_concat]
  exact if_neg h

theorem join_apart (h : ∀ t ∈ l, t.stop ≠ s.first) : join l s = l ++ [s] := by
  rcases eq_nil_or_concat l with rfl | ⟨l, t, rfl⟩
  · rfl
  · rw [concat_eq_append] at h ⊢
    exact join_gap (h t (by simp))

/-- The last span of a joined list stops where the new one does. -/
theorem join_eq_concat : ∃ l' t, join l s = l' ++ [t] ∧ t.stop = s.stop := by
  rcases eq_nil_or_concat l with rfl | ⟨l, t, rfl⟩
  · exact ⟨[], s, rfl, rfl⟩
  · rw [concat_eq_append]
    by_cases htouch : t.stop = s.first
    · refine ⟨l, _, join_touching htouch, ?_⟩
      unfold Span.stop at *
      dsimp only
      omega
    · exact ⟨l ++ [t], s, join_gap htouch, rfl⟩

/-- Joining adds the numbers of the span. -/
theorem points_join : points (join l s) = points l ∪ points [s] := by
  rcases eq_nil_or_concat l with rfl | ⟨l, t, rfl⟩
  · rw [join_nil, points_nil, Set.empty_union]
  · rw [concat_eq_append]
    by_cases htouch : t.stop = s.first
    · rw [join_touching htouch, points_append, points_append, Set.union_assoc]
      congr 1
      ext x
      unfold Span.stop at htouch
      simp only [Set.mem_union, mem_points, mem_singleton, exists_eq_left, Span.Has,
        Span.stop]
      omega
    · rw [join_gap htouch, points_append]

theorem length_join_le : (join l s).length ≤ l.length + 1 := by
  rcases eq_nil_or_concat l with rfl | ⟨l, t, rfl⟩
  · exact le_refl _
  · rw [concat_eq_append]
    by_cases htouch : t.stop = s.first
    · rw [join_touching htouch]
      simp
    · rw [join_gap htouch]
      simp

theorem length_le_join : l.length ≤ (join l s).length := by
  rcases eq_nil_or_concat l with rfl | ⟨l, t, rfl⟩
  · exact Nat.zero_le _
  · rw [concat_eq_append]
    by_cases htouch : t.stop = s.first
    · rw [join_touching htouch]
      simp
    · rw [join_gap htouch]
      simp

namespace Canonical

/-- A span that starts at or after the end of every span can be joined on. -/
theorem join (h : Canonical l) (hpos : 0 < s.size) (hle : ∀ t ∈ l, t.stop ≤ s.first) :
    Canonical (join l s) := by
  rcases eq_nil_or_concat l with rfl | ⟨l, t, rfl⟩
  · rw [join_nil]
    exact ⟨by simpa using hpos, pairwise_singleton _ _⟩
  · rw [concat_eq_append] at *
    have hlt : ∀ r ∈ l, r.stop < t.first := fun r hr => h.before_after r hr t (by simp)
    have hl : Canonical (l ++ []) := by
      rw [append_nil]
      exact h.sublist (sublist_append_left _ _)
    have ht := hle t (by simp)
    by_cases htouch : t.stop = s.first
    · rw [join_touching htouch]
      exact hl.insert (by dsimp only; omega) hlt (by simp)
    · rw [join_apart]
      · rw [← append_nil (l ++ [t])] at h
        refine h.insert hpos (fun r hr => ?_) (by simp)
        rcases mem_append.mp hr with hr | hr
        · have hr' := hlt r hr
          have hpos' := h.nonempty t (by simp)
          unfold Span.stop at ht hr' ⊢
          omega
        · obtain rfl := mem_singleton.mp hr
          omega
      · intro r hr
        rcases mem_append.mp hr with hr | hr
        · have hr' := hlt r hr
          have hpos' := h.nonempty t (by simp)
          unfold Span.stop at ht hr' ⊢
          omega
        · obtain rfl := mem_singleton.mp hr
          exact htouch

end Canonical

/-- After joining, every span stops where one did before or where the new one does. -/
theorem stop_join {r : Span} (hr : r ∈ join l s) : (∃ t ∈ l, r.stop = t.stop) ∨ r.stop = s.stop := by
  rcases eq_nil_or_concat l with rfl | ⟨l, t, rfl⟩
  · rw [join_nil, mem_singleton] at hr
    exact .inr (by rw [hr])
  · rw [concat_eq_append] at *
    by_cases htouch : t.stop = s.first
    · rw [join_touching htouch, mem_append, mem_singleton] at hr
      rcases hr with hr | rfl
      · exact .inl ⟨r, mem_append_left _ hr, rfl⟩
      · unfold Span.stop at *
        exact .inr (by dsimp only; omega)
    · rw [join_gap htouch, mem_append, mem_singleton] at hr
      rcases hr with hr | rfl
      · exact .inl ⟨r, hr, rfl⟩
      · exact .inr rfl

/-! ## Counting runs -/

/-- The numbers that begin a maximal run of a set. -/
def runStarts (S : Set Nat) : Set Nat := { x ∈ S | ∀ y, y + 1 = x → y ∉ S }

theorem Canonical.runStarts_eq (h : Canonical l) :
    runStarts (points l) = { x | ∃ s ∈ l, x = s.first } := by
  ext x
  constructor
  · rintro ⟨⟨s, hs, hx⟩, hstart⟩
    refine ⟨s, hs, ?_⟩
    by_contra hne
    -- a number that is not the first of its span has its predecessor in the span
    refine hstart (x - 1) ?_ ⟨s, hs, ?_⟩
    · have hfirst := hx.1
      omega
    · unfold Span.Has at hx ⊢
      omega
  · rintro ⟨s, hs, rfl⟩
    obtain ⟨before, after, rfl⟩ := append_of_mem hs
    have hpos := h.nonempty s hs
    refine ⟨⟨s, hs, le_refl _, by unfold Span.stop; omega⟩, ?_⟩
    rintro y hy hmem
    rcases mem_points_middle.mp hmem with hown | ⟨t, ht, hother⟩
    · have hfirst := hown.1
      omega
    · rcases mem_append.mp ht with ht | ht
      · have hgap := h.before_after t ht s (by simp)
        have hstop := hother.2
        omega
      · have hgap := (pairwise_cons.mp (pairwise_append.mp h.gaps).2.1).1 t ht
        have hfirst := hother.1
        unfold Span.stop at hgap
        omega

/-- A canonical list has one span for each maximal run. -/
theorem Canonical.ncard_runStarts (h : Canonical l) : (runStarts (points l)).ncard = l.length := by
  have hnodup : (l.map Span.first).Nodup := by
    refine pairwise_map.mpr (h.gaps.imp_of_mem fun {s t} hs _ hlt => ?_)
    have hpos := h.nonempty s hs
    unfold Span.stop at hlt
    omega
  have hset : { x | ∃ s ∈ l, x = s.first } = ((l.map Span.first).toFinset : Set Nat) := by
    ext x
    simp [eq_comm]
  rw [h.runStarts_eq, hset, Set.ncard_coe_finset, toFinset_card_of_nodup hnodup,
    length_map]

theorem Canonical.finite_runStarts (h : Canonical l) : (runStarts (points l)).Finite := by
  rw [h.runStarts_eq]
  exact (l.map Span.first).toFinset.finite_toSet.subset fun x hx => by
    obtain ⟨s, hs, rfl⟩ := hx
    exact mem_toFinset.mpr (mem_map_of_mem hs)

section

variable {S : Set Nat} {a b : Nat}

/-- Below every number of a set, or at it, a run of the set begins. -/
theorem exists_runStart (hx : x ∈ S) : ∃ y ∈ runStarts S, y ≤ x := by
  induction x with
  | zero => exact ⟨0, ⟨hx, fun y hy => by omega⟩, le_refl _⟩
  | succ x ih =>
    by_cases hbefore : x ∈ S
    · obtain ⟨y, hy, hle⟩ := ih hbefore
      exact ⟨y, hy, by omega⟩
    · refine ⟨x + 1, ⟨hx, fun y hy => ?_⟩, le_refl _⟩
      obtain rfl : y = x := by omega
      exact hbefore

theorem runStarts_subset : runStarts S ⊆ S := fun _ h => h.1

/-- Cutting off the numbers below a bound adds no run. -/
theorem ncard_runStarts_from_le (hfinite : (runStarts S).Finite) :
    (runStarts (S ∩ Set.Ici b)).ncard ≤ (runStarts S).ncard := by
  have hcases : ∀ x ∈ runStarts (S ∩ Set.Ici b), x ∈ runStarts S ∨ x = b := by
    rintro x ⟨⟨hx, hge⟩, hstart⟩
    by_cases hb : x = b
    · exact .inr hb
    · refine .inl ⟨hx, fun y hy hmem => hstart y hy ⟨hmem, ?_⟩⟩
      have hle : b ≤ x := hge
      show b ≤ y
      omega
  by_cases hcut : b ∈ runStarts (S ∩ Set.Ici b) ∧ b ∉ runStarts S
  · -- the run that is cut open begins before the bound
    obtain ⟨⟨⟨hb, -⟩, -⟩, hnot⟩ := hcut
    obtain ⟨y, hy, hle⟩ := exists_runStart hb
    have hlt : y < b := lt_of_le_of_ne hle fun heq => hnot (heq ▸ hy)
    calc (runStarts (S ∩ Set.Ici b)).ncard
        ≤ (insert b (runStarts S \ {y})).ncard := by
          refine Set.ncard_le_ncard (fun x hx => ?_) (hfinite.sdiff.insert b)
          rcases hcases x hx with hx' | rfl
          · refine .inr ⟨hx', ?_⟩
            rintro rfl
            have hge : b ≤ x := hx.1.2
            omega
          · exact .inl rfl
      _ ≤ (runStarts S \ {y}).ncard + 1 := Set.ncard_insert_le _ _
      _ = (runStarts S).ncard := Set.ncard_sdiff_singleton_add_one hy hfinite
  · refine Set.ncard_le_ncard (fun x hx => ?_) hfinite
    rcases hcases x hx with hx' | rfl
    · exact hx'
    · by_contra hnot
      exact hcut ⟨hx, hnot⟩

/-- Cutting a hole into a set adds one run at most. -/
theorem ncard_runStarts_hole_le (hfinite : (runStarts S).Finite) :
    (runStarts (S \ Set.Ico a b)).ncard ≤ (runStarts S).ncard + 1 := by
  refine (Set.ncard_le_ncard ?_ (hfinite.insert b)).trans (Set.ncard_insert_le _ _)
  rintro x ⟨⟨hx, hout⟩, hstart⟩
  by_cases hb : x = b
  · exact .inl hb
  · refine .inr ⟨hx, fun y hy hmem => hstart y hy ⟨hmem, ?_⟩⟩
    rintro ⟨hge, hlt⟩
    exact hout ⟨by omega, by omega⟩

/-- A number without neighbours is a run of its own. -/
theorem runStarts_insert_alone (hbefore : ∀ y, y + 1 = x → y ∉ S) (hafter : x + 1 ∉ S) :
    runStarts (insert x S) = insert x (runStarts S) := by
  ext y
  constructor
  · rintro ⟨hy | hy, hstart⟩
    · exact .inl hy
    · exact .inr ⟨hy, fun z hz hmem => hstart z hz (.inr hmem)⟩
  · rintro (rfl | ⟨hy, hstart⟩)
    · refine ⟨.inl rfl, fun z hz hmem => ?_⟩
      rcases hmem with rfl | hmem
      · omega
      · exact hbefore z hz hmem
    · refine ⟨.inr hy, fun z hz hmem => ?_⟩
      rcases hmem with rfl | hmem
      · exact hafter (hz ▸ hy)
      · exact hstart z hz hmem

end

end Spans

end MakopaVerified.Foundation
