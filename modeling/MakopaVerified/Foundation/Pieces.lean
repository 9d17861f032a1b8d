import MakopaVerified.Foundation.Spans

/-!
# Labelled numbers as lists of labelled spans

A list of labelled spans in order stands for a labelling of the numbers that it covers. It is merged
when no two of its spans touch and have the same label. A labelling has only one merged list: the
one that is got by going through the numbers in order (`runs`).
-/

namespace MakopaVerified.Foundation

open List

/-- A span whose numbers have a label. -/
structure Piece (κ : Type) where
  span : Span
  label : κ
  deriving DecidableEq, Repr

namespace Pieces

variable {κ : Type} {l m : List (Piece κ)} {p q : Piece κ} {f g : Nat → Option κ}
  {k : κ} {x a b size : Nat}

/-- The label of a number. -/
def labelAt (l : List (Piece κ)) (x : Nat) : Option κ :=
  (l.find? fun p => p.span.Has x).map Piece.label

/-- Not empty and in order. -/
structure Ordered (l : List (Piece κ)) : Prop where
  nonempty : ∀ p ∈ l, 0 < p.span.size
  ordered : l.Pairwise fun p q => p.span.stop ≤ q.span.first

/-- No two spans could be one. -/
structure Merged (l : List (Piece κ)) : Prop extends Ordered l where
  merged : l.Pairwise fun p q => p.span.stop = q.span.first → p.label ≠ q.label

/-- The labelling of `base`, with the labels of `top` where it has any. -/
def overlay (base top : Nat → Option κ) (x : Nat) : Option κ :=
  (base x).map ((top x).getD ·)

/-- Laying the same labels over twice changes nothing. -/
theorem overlay_overlay : overlay (overlay f g) g = overlay f g := by
  funext x
  unfold overlay
  rw [Option.map_map]
  congr 1
  funext k
  cases g x with
  | none => rfl
  | some k' => rfl

theorem labelAt_nil : labelAt ([] : List (Piece κ)) x = none := rfl

theorem labelAt_append : labelAt (l ++ m) x = (labelAt l x).or (labelAt m x) := by
  unfold labelAt
  rw [List.find?_append, Option.map_or]

theorem labelAt_eq_none : labelAt l x = none ↔ ∀ p ∈ l, ¬ p.span.Has x := by
  unfold labelAt
  rw [Option.map_eq_none_iff, List.find?_eq_none]
  simp

theorem labelAt_singleton (h : p.span.Has x) : labelAt [p] x = some p.label := by
  unfold labelAt
  rw [List.find?_cons_of_pos (by simpa using h)]
  rfl

theorem labelAt_singleton_none (h : ¬ p.span.Has x) : labelAt [p] x = none :=
  labelAt_eq_none.mpr (by simpa using h)

/-- The first span that has a number gives its label. -/
theorem labelAt_middle (hp : p.span.Has x) (hbefore : ∀ q ∈ l, ¬ q.span.Has x) :
    labelAt (l ++ p :: m) x = some p.label := by
  rw [labelAt_append, labelAt_eq_none.mpr hbefore, Option.none_or, ← singleton_append,
    labelAt_append, labelAt_singleton hp, Option.some_or]

namespace Ordered

theorem nil : Ordered ([] : List (Piece κ)) := ⟨by simp, .nil⟩

theorem sublist (h : Ordered l) (hs : m.Sublist l) : Ordered m :=
  ⟨fun p hp => h.nonempty p (hs.subset hp), h.ordered.sublist hs⟩

theorem before_after (h : Ordered (l ++ m)) : ∀ p ∈ l, ∀ q ∈ m, p.span.stop ≤ q.span.first :=
  (pairwise_append.mp h.ordered).2.2

/-- In a list in order, any span that has a number gives its label. -/
theorem labelAt_eq_some (h : Ordered l) :
    labelAt l x = some k ↔ ∃ p ∈ l, p.span.Has x ∧ p.label = k := by
  constructor
  · intro hk
    unfold labelAt at hk
    obtain ⟨p, hp, rfl⟩ := Option.map_eq_some_iff.mp hk
    have hhas := List.find?_some hp
    exact ⟨p, mem_of_find?_eq_some hp, by simpa using hhas, rfl⟩
  · rintro ⟨p, hp, hhas, rfl⟩
    obtain ⟨before, after, rfl⟩ := append_of_mem hp
    refine labelAt_middle hhas fun q hq hother => ?_
    have hle := h.before_after q hq p (by simp)
    have hfirst := hhas.1
    have hstop := hother.2
    omega

end Ordered

namespace Merged

theorem nil : Merged ([] : List (Piece κ)) := ⟨Ordered.nil, .nil⟩

theorem sublist (h : Merged l) (hs : m.Sublist l) : Merged m :=
  ⟨h.toOrdered.sublist hs, h.merged.sublist hs⟩

/-- A piece after the others can be appended when it neither touches the last one nor has its
label. -/
theorem concat (h : Merged l) (hpos : 0 < p.span.size) (hle : ∀ q ∈ l, q.span.stop ≤ p.span.first)
    (hnew : ∀ q ∈ l, q.span.stop = p.span.first → q.label ≠ p.label) : Merged (l ++ [p]) := by
  refine ⟨⟨?_, ?_⟩, ?_⟩
  · intro q hq
    rcases mem_append.mp hq with hq | hq
    · exact h.nonempty q hq
    · obtain rfl := mem_singleton.mp hq
      exact hpos
  · refine pairwise_append.mpr ⟨h.ordered, pairwise_singleton _ _, ?_⟩
    intro q hq p' hp'
    obtain rfl := mem_singleton.mp hp'
    exact hle q hq
  · refine pairwise_append.mpr ⟨h.merged, pairwise_singleton _ _, ?_⟩
    intro q hq p' hp'
    obtain rfl := mem_singleton.mp hp'
    exact hnew q hq

/-- Only the last piece can touch what comes after the list. -/
theorem last_of_touch (h : Ordered (l ++ [q])) (hq : q.span.stop ≤ x) {r : Piece κ} (hr : r ∈ l) :
    r.span.stop < x := by
  have hle := h.before_after r hr q (by simp)
  have hpos := h.nonempty q (by simp)
  unfold Span.stop at *
  omega

end Merged

/-! ## Putting a piece at the end -/

variable [DecidableEq κ]

/-- Append a piece; when it touches the last one and has its label, the two become one. -/
def put (l : List (Piece κ)) (p : Piece κ) : List (Piece κ) :=
  match l.getLast? with
  | none => [p]
  | some q =>
    if q.label = p.label ∧ q.span.stop = p.span.first then
      l.dropLast ++ [⟨⟨q.span.first, q.span.size + p.span.size⟩, q.label⟩]
    else l ++ [p]

theorem put_nil : put [] p = [p] := rfl

theorem put_same (hlabel : q.label = p.label) (htouch : q.span.stop = p.span.first) :
    put (l ++ [q]) p = l ++ [⟨⟨q.span.first, q.span.size + p.span.size⟩, q.label⟩] := by
  unfold put
  rw [List.getLast?_concat, dropLast_concat]
  exact if_pos ⟨hlabel, htouch⟩

theorem put_other (h : ¬ (q.label = p.label ∧ q.span.stop = p.span.first)) :
    put (l ++ [q]) p = l ++ [q] ++ [p] := by
  unfold put
  rw [List.getLast?_concat]
  exact if_neg h

/-- What `put` can do: open a new piece, or let the last one grow. -/
theorem put_cases :
    (put l p = l ++ [p] ∧
      ∀ before q, l = before ++ [q] → ¬ (q.label = p.label ∧ q.span.stop = p.span.first)) ∨
    ∃ before q, l = before ++ [q] ∧ q.label = p.label ∧ q.span.stop = p.span.first ∧
      put l p = before ++ [⟨⟨q.span.first, q.span.size + p.span.size⟩, q.label⟩] := by
  rcases eq_nil_or_concat l with rfl | ⟨l, q, rfl⟩
  · exact .inl ⟨rfl, by simp⟩
  rw [concat_eq_append]
  by_cases hsame : q.label = p.label ∧ q.span.stop = p.span.first
  · exact .inr ⟨l, q, rfl, hsame.1, hsame.2, put_same hsame.1 hsame.2⟩
  · refine .inl ⟨put_other hsame, ?_⟩
    intro before q' heq
    obtain ⟨-, rfl⟩ := append_singleton_inj.mp heq
    exact hsame

theorem length_le_put : l.length ≤ (put l p).length := by
  rcases put_cases (l := l) (p := p) with ⟨hput, -⟩ | ⟨before, q, rfl, -, -, hput⟩
  · rw [hput, length_append]
    omega
  · rw [hput, length_append, length_append]
    rfl

/-- Two pieces with one label that touch may be put as one. -/
theorem put_put :
    put (put l ⟨⟨x, a⟩, k⟩) ⟨⟨x + a, b⟩, k⟩ = put l ⟨⟨x, a + b⟩, k⟩ := by
  rcases eq_nil_or_concat l with rfl | ⟨l, q, rfl⟩
  · exact put_same (l := []) (q := ⟨⟨x, a⟩, k⟩) rfl rfl
  rw [concat_eq_append]
  by_cases hsame : q.label = k ∧ q.span.stop = x
  · have hgrown : (⟨q.span.first, q.span.size + a⟩ : Span).stop = x + a := by
      rw [← hsame.2]
      exact (Nat.add_assoc _ _ _).symm
    rw [put_same (p := ⟨⟨x, a⟩, k⟩) hsame.1 hsame.2, put_same (p := ⟨⟨x, a + b⟩, k⟩) hsame.1 hsame.2,
      put_same (q := ⟨⟨q.span.first, q.span.size + a⟩, q.label⟩) hsame.1 hgrown]
    simp [Nat.add_assoc]
  · rw [put_other (p := ⟨⟨x, a⟩, k⟩) hsame, put_other (p := ⟨⟨x, a + b⟩, k⟩) hsame]
    exact put_same (q := ⟨⟨x, a⟩, k⟩) rfl rfl

/-- Putting a piece after the others labels its numbers. -/
theorem labelAt_put (hle : ∀ q ∈ l, q.span.stop ≤ p.span.first) :
    labelAt (put l p) x = if p.span.Has x then some p.label else labelAt l x := by
  have hnot : p.span.Has x → labelAt l x = none := by
    intro hx
    refine labelAt_eq_none.mpr fun q hq hother => ?_
    have hstop := hle q hq
    have hfirst := hx.1
    have hlast := hother.2
    omega
  rcases put_cases (l := l) (p := p) with ⟨hput, -⟩ | ⟨before, q, rfl, hlabel, htouch, hput⟩
  · rw [hput, labelAt_append]
    by_cases hx : p.span.Has x
    · rw [if_pos hx, hnot hx, labelAt_singleton hx, Option.none_or]
    · rw [if_neg hx, labelAt_singleton_none hx, Option.or_none]
  · rw [hput]
    by_cases hx : p.span.Has x
    · have hgrown : (⟨q.span.first, q.span.size + p.span.size⟩ : Span).Has x := by
        unfold Span.Has Span.stop at *
        dsimp only
        omega
      have hbefore : labelAt before x = none := by
        have hall := hnot hx
        rw [labelAt_append, Option.or_eq_none_iff] at hall
        exact hall.1
      rw [if_pos hx, labelAt_append, hbefore, Option.none_or, labelAt_singleton hgrown, hlabel]
    · have hgrown : (⟨q.span.first, q.span.size + p.span.size⟩ : Span).Has x ↔ q.span.Has x := by
        unfold Span.Has Span.stop at *
        dsimp only
        omega
      rw [if_neg hx, labelAt_append, labelAt_append]
      congr 1
      by_cases hq : q.span.Has x
      · rw [labelAt_singleton hq, labelAt_singleton (hgrown.mpr hq)]
      · rw [labelAt_singleton_none hq, labelAt_singleton_none fun h => hq (hgrown.mp h)]

namespace Merged

theorem put (h : Merged l) (hpos : 0 < p.span.size) (hle : ∀ q ∈ l, q.span.stop ≤ p.span.first) :
    Merged (put l p) := by
  rcases put_cases (l := l) (p := p) with ⟨hput, hnew⟩ | ⟨before, q, rfl, hlabel, htouch, hput⟩
  · rw [hput]
    refine h.concat hpos hle fun q hq htouch hlabel => ?_
    rcases eq_nil_or_concat l with rfl | ⟨l, t, rfl⟩
    · cases hq
    rw [concat_eq_append] at *
    rcases mem_append.mp hq with hq | hq
    · have hlt := last_of_touch h.toOrdered (hle t (by simp)) hq
      omega
    · obtain rfl := mem_singleton.mp hq
      exact hnew l q rfl ⟨hlabel, htouch⟩
  · rw [hput]
    have hbefore := (pairwise_append.mp h.ordered).2.2
    have hmerged := (pairwise_append.mp h.merged).2.2
    refine (h.sublist (sublist_append_left _ _)).concat ?_ ?_ ?_
    · dsimp only
      omega
    · exact fun r hr => hbefore r hr q (by simp)
    · exact fun r hr => hmerged r hr q (by simp)

end Merged

/-! ## The merged list of a labelling -/

/-- The merged list of the labelled numbers below a bound. -/
def runs (f : Nat → Option κ) : Nat → List (Piece κ)
  | 0 => []
  | x + 1 =>
    match f x with
    | none => runs f x
    | some k => put (runs f x) ⟨⟨x, 1⟩, k⟩

theorem runs_some (h : f x = some k) : runs f (x + 1) = put (runs f x) ⟨⟨x, 1⟩, k⟩ := by
  rw [runs, h]

theorem runs_none (h : f x = none) : runs f (x + 1) = runs f x := by
  rw [runs, h]

/-- Numbers without a label add nothing. -/
theorem runs_gap (hle : a ≤ b) (h : ∀ x, a ≤ x → x < b → f x = none) : runs f b = runs f a := by
  induction b, hle using Nat.le_induction with
  | base => rfl
  | succ b hab ih =>
    rw [runs_none (h b hab (by omega))]
    exact ih fun x hx hlt => h x hx (by omega)

/-- Consecutive numbers with one label are put as one piece. -/
theorem runs_span (hpos : 0 < size) (h : ∀ x, a ≤ x → x < a + size → f x = some k) :
    runs f (a + size) = put (runs f a) ⟨⟨a, size⟩, k⟩ := by
  induction size, hpos using Nat.le_induction with
  | base => exact runs_some (h a (le_refl _) (by omega))
  | succ size hsize ih =>
    rw [← Nat.add_assoc, runs_some (h (a + size) (by omega) (by omega)),
      ih fun x hx hlt => h x hx (by omega)]
    exact put_put

theorem runs_congr (h : ∀ x < a, f x = g x) : runs f a = runs g a := by
  induction a with
  | zero => rfl
  | succ a ih =>
    have hsame := h a (by omega)
    have hrest := ih fun x hx => h x (by omega)
    rw [runs, runs, hsame, hrest]

/-- What the list of runs up to a bound is. -/
structure RunsOf (f : Nat → Option κ) (bound : Nat) (l : List (Piece κ)) : Prop extends Merged l where
  inside : ∀ p ∈ l, p.span.stop ≤ bound
  labels : ∀ x, labelAt l x = if x < bound then f x else none

theorem runsOf_runs : RunsOf f a (runs f a) := by
  induction a with
  | zero => exact ⟨.nil, by simp [runs], fun x => rfl⟩
  | succ a ih =>
    cases hf : f a with
    | none =>
      rw [runs_none hf]
      refine ⟨ih.toMerged, fun p hp => (ih.inside p hp).trans (Nat.le_succ a), fun x => ?_⟩
      rw [ih.labels x]
      by_cases hx : x = a
      · subst hx
        rw [if_neg (Nat.lt_irrefl x), if_pos (Nat.lt_succ_self x), hf]
      · exact if_congr (by omega) rfl rfl
    | some k =>
      rw [runs_some hf]
      refine ⟨ih.put Nat.one_pos ih.inside, ?_, fun x => ?_⟩
      · intro p hp
        rcases put_cases (l := runs f a) (p := ⟨⟨a, 1⟩, k⟩) with
          ⟨hput, -⟩ | ⟨before, q, hl, hlabel, htouch, hput⟩
        · rw [hput] at hp
          rcases mem_append.mp hp with hp | hp
          · exact (ih.inside p hp).trans (Nat.le_succ a)
          · obtain rfl := mem_singleton.mp hp
            exact le_refl _
        · rw [hput] at hp
          rcases mem_append.mp hp with hp | hp
          · exact (ih.inside p (by rw [hl]; exact mem_append_left _ hp)).trans (Nat.le_succ a)
          · obtain rfl := mem_singleton.mp hp
            unfold Span.stop at *
            dsimp only at *
            omega
      · rw [labelAt_put ih.inside, ih.labels x]
        by_cases hx : x = a
        · subst hx
          rw [if_pos ⟨le_refl _, Nat.lt_succ_self x⟩, if_pos (Nat.lt_succ_self x), hf]
        · rw [if_neg]
          · exact if_congr (by omega) rfl rfl
          · unfold Span.Has Span.stop
            dsimp only
            omega

theorem length_runs_mono (hle : a ≤ b) : (runs f a).length ≤ (runs f b).length := by
  induction b, hle using Nat.le_induction with
  | base => exact le_refl _
  | succ b _ ih =>
    refine ih.trans ?_
    rw [runs]
    split
    · exact le_refl _
    · exact length_le_put

/-- A merged list is the list of runs of its labelling. -/
theorem Merged.eq_runs (h : Merged l) (hbound : ∀ p ∈ l, p.span.stop ≤ a) :
    l = runs (labelAt l) a := by
  induction l using List.reverseRecOn generalizing a with
  | nil => rw [runs_gap (Nat.zero_le a) fun x _ _ => labelAt_nil, runs]
  | append_singleton l p ih =>
    have hpos := h.nonempty p (by simp)
    have hbefore : ∀ q ∈ l, q.span.stop ≤ p.span.first :=
      fun q hq => h.before_after q hq p (by simp)
    have hstart : runs (labelAt (l ++ [p])) p.span.first = l := by
      rw [ih (h.sublist (sublist_append_left _ _)) hbefore]
      refine runs_congr fun x hx => ?_
      rw [← ih (h.sublist (sublist_append_left _ _)) hbefore, labelAt_append,
        labelAt_singleton_none, Option.or_none]
      exact fun hhas => absurd hhas.1 (by omega)
    have hlabel : ∀ x, p.span.first ≤ x → x < p.span.first + p.span.size →
        labelAt (l ++ [p]) x = some p.label :=
      fun x hx hlt => h.labelAt_eq_some.mpr ⟨p, by simp, ⟨hx, hlt⟩, rfl⟩
    have hafter : ∀ x, p.span.stop ≤ x → x < a → labelAt (l ++ [p]) x = none := by
      refine fun x hx _ => labelAt_eq_none.mpr fun q hq hhas => ?_
      have hlt := hhas.2
      rcases mem_append.mp hq with hq | hq
      · have hle := hbefore q hq
        unfold Span.stop at *
        omega
      · obtain rfl := mem_singleton.mp hq
        omega
    rw [runs_gap (hbound p (by simp)) hafter, Span.stop, runs_span hpos hlabel, hstart]
    rcases put_cases (l := l) (p := p) with ⟨hput, -⟩ | ⟨before, q, rfl, hsame, htouch, -⟩
    · exact hput.symm
    · exact absurd hsame ((pairwise_append.mp h.merged).2.2 q (by simp) p (by simp) htouch)

/-- Two merged lists of one labelling are equal. -/
theorem Merged.ext (hl : Merged l) (hm : Merged m) (h : labelAt l = labelAt m) : l = m := by
  obtain ⟨bound, hbound⟩ : ∃ bound, ∀ p ∈ l ++ m, p.span.stop ≤ bound := by
    obtain ⟨bound, hmax⟩ := ((l ++ m).map fun p => p.span.stop).toFinset.bddAbove
    exact ⟨bound, fun p hp => hmax (mem_toFinset.mpr (mem_map_of_mem hp))⟩
  rw [hl.eq_runs fun p hp => hbound p (mem_append_left _ hp),
    hm.eq_runs fun p hp => hbound p (mem_append_right _ hp), h]

end Pieces

/-- Two canonical lists of one set are equal. -/
theorem Spans.Canonical.ext {l m : List Span} (hl : Canonical l) (hm : Canonical m)
    (h : points l = points m) : l = m := by
  have hmerged : ∀ {l : List Span}, Canonical l → Pieces.Merged (l.map fun s => ⟨s, ()⟩) := by
    intro l hl
    refine ⟨⟨?_, pairwise_map.mpr (hl.gaps.imp fun hlt => hlt.le)⟩,
      pairwise_map.mpr (hl.gaps.imp fun hlt heq => absurd heq hlt.ne)⟩
    intro p hp
    obtain ⟨s, hs, rfl⟩ := mem_map.mp hp
    exact hl.nonempty s hs
  have hlabel : ∀ (l : List Span) (x : Nat),
      Pieces.labelAt (l.map fun s => (⟨s, ()⟩ : Piece Unit)) x = none ↔ x ∉ points l := by
    intro l x
    rw [Pieces.labelAt_eq_none, forall_mem_map]
    exact ⟨fun hno ⟨s, hs, hx⟩ => hno s hs hx, fun hno s hs hx => hno ⟨s, hs, hx⟩⟩
  have hsame : l.map (fun s => (⟨s, ()⟩ : Piece Unit)) = m.map fun s => ⟨s, ()⟩ := by
    refine (hmerged hl).ext (hmerged hm) (funext fun x => ?_)
    by_cases hx : x ∈ points l
    · have hx' : x ∈ points m := h ▸ hx
      obtain ⟨u, hu⟩ := Option.ne_none_iff_exists'.mp (mt (hlabel l x).mp (not_not.mpr hx))
      obtain ⟨v, hv⟩ := Option.ne_none_iff_exists'.mp (mt (hlabel m x).mp (not_not.mpr hx'))
      rw [hu, hv]
    · have hx' : x ∉ points m := h ▸ hx
      rw [(hlabel l x).mpr hx, (hlabel m x).mpr hx']
  exact (map_injective_iff.mpr fun s t hst => congrArg Piece.span hst) hsame

end MakopaVerified.Foundation
