import MakopaVerified.BootContract.Proofs.WriterProofs

/-!
# `normalize_memory_regions` writes the canonical overlay

The loop over the sources and the loop over the overrides write the runs of the overlaid map up to
the cursor. The overrides that are passed end before the cursor, so the one in hand and the source
decide the kind of the next frames.
-/

namespace MakopaVerified.BootContract

open Foundation RegionWriter Method

variable {sources : List SourceMemoryRegion} {overrides : List MemoryRegionOverride}
  {done : List MemoryRegion} {n x a : Nat} {k : UInt32}

/-! ## The overlaid map -/

/-- Two lists that the checks accept. -/
structure MapsOk (sources : List SourceMemoryRegion) (overrides : List MemoryRegionOverride) :
    Prop where
  sourcesOk : RegionsOk (sources.map SourceMemoryRegion.region)
  overridesOk : RegionsOk (overrides.map MemoryRegionOverride.region)

namespace MapsOk

variable {s : SourceMemoryRegion} {o : MemoryRegionOverride}

theorem source (h : MapsOk sources overrides) (hs : s ∈ sources) :
    RegionOk s.physicalStart s.pageCount s.kind :=
  h.sourcesOk.each s.region (List.mem_map_of_mem hs)

theorem replacement (h : MapsOk sources overrides) (ho : o ∈ overrides) :
    RegionOk o.physicalStart o.pageCount o.kind :=
  h.overridesOk.each o.region (List.mem_map_of_mem ho)

theorem kindAt_source (h : MapsOk sources overrides) (hs : s ∈ sources) (hx : s.region.span.Has x) :
    kindAt (sources.map SourceMemoryRegion.region) x = some s.kind :=
  h.sourcesOk.kindAt_eq_some.mpr ⟨s.region, List.mem_map_of_mem hs, hx, rfl⟩

theorem kindAt_override (h : MapsOk sources overrides) (ho : o ∈ overrides)
    (hx : o.region.span.Has x) :
    kindAt (overrides.map MemoryRegionOverride.region) x = some o.kind :=
  h.overridesOk.kindAt_eq_some.mpr ⟨o.region, List.mem_map_of_mem ho, hx, rfl⟩

/-- A frame of a source that an override contains. -/
theorem overlaid_override (h : MapsOk sources overrides) (hs : s ∈ sources)
    (hsx : s.region.span.Has x) (ho : o ∈ overrides) (hox : o.region.span.Has x) :
    overlaidKind sources overrides x = some o.kind := by
  unfold overlaidKind Pieces.overlay
  rw [h.kindAt_source hs hsx, h.kindAt_override ho hox]
  rfl

/-- A frame of a source that no override contains. -/
theorem overlaid_source (h : MapsOk sources overrides) (hs : s ∈ sources)
    (hsx : s.region.span.Has x) (hnone : ∀ o ∈ overrides, ¬ o.region.span.Has x) :
    overlaidKind sources overrides x = some s.kind := by
  unfold overlaidKind Pieces.overlay
  rw [h.kindAt_source hs hsx, kindAt_eq_none.mpr (List.forall_mem_map.mpr hnone)]
  rfl

end MapsOk

/-- A frame is in the overlaid map when a source contains it. -/
theorem overlaid_eq_none :
    overlaidKind sources overrides x = none ↔ ∀ s ∈ sources, ¬ s.region.span.Has x := by
  unfold overlaidKind Pieces.overlay
  rw [Option.map_eq_none_iff, kindAt_eq_none]
  exact List.forall_mem_map

/-! ## The loop over the overrides -/

/-- The overrides that are left, when those before them end at or before the frame `a`. -/
def PassedUpTo (overrides left : List MemoryRegionOverride) (a : Nat) : Prop :=
  ∃ passed, overrides = passed ++ left ∧ ∀ o ∈ passed, o.region.span.stop ≤ a

/-- The overrides after one that is left start at or after its end. -/
theorem PassedUpTo.after {o : MemoryRegionOverride} {left : List MemoryRegionOverride}
    (h : PassedUpTo overrides (o :: left) a) (hm : MapsOk sources overrides) :
    ∀ o' ∈ left, o.region.span.stop ≤ o'.region.span.first := by
  obtain ⟨passed, rfl, -⟩ := h
  have hordered := List.pairwise_map.mp hm.overridesOk.ordered
  exact (List.pairwise_cons.mp (List.pairwise_append.mp hordered).2.1).1

theorem PassedUpTo.mem {o : MemoryRegionOverride} {left : List MemoryRegionOverride}
    (h : PassedUpTo overrides (o :: left) a) : o ∈ overrides := by
  obtain ⟨passed, rfl, -⟩ := h
  simp

/-- One more override is passed. -/
theorem PassedUpTo.next {o : MemoryRegionOverride} {left : List MemoryRegionOverride} {b : Nat}
    (h : PassedUpTo overrides (o :: left) a) (hle : a ≤ b) (ho : o.region.span.stop ≤ b) :
    PassedUpTo overrides left b := by
  obtain ⟨passed, rfl, hpassed⟩ := h
  refine ⟨passed ++ [o], by simp, fun o' ho' => ?_⟩
  rcases List.mem_append.mp ho' with ho' | ho'
  · exact (hpassed o' ho').trans hle
  · obtain rfl := List.mem_singleton.mp ho'
    exact ho

theorem PassedUpTo.mono {left : List MemoryRegionOverride} {b : Nat}
    (h : PassedUpTo overrides left a) (hle : a ≤ b) : PassedUpTo overrides left b := by
  obtain ⟨passed, heq, hpassed⟩ := h
  exact ⟨passed, heq, fun o ho => (hpassed o ho).trans hle⟩

/-- The frames between the cursor and the override in hand lie in no override. -/
theorem PassedUpTo.notMem_before {o : MemoryRegionOverride} {left : List MemoryRegionOverride}
    (h : PassedUpTo overrides (o :: left) a) (hm : MapsOk sources overrides) (hx : a ≤ x)
    (hlt : x < o.region.span.first) : ∀ o' ∈ overrides, ¬ o'.region.span.Has x := by
  have hafter := h.after hm
  have hpos := hm.overridesOk.span_pos (List.mem_map_of_mem h.mem)
  obtain ⟨passed, rfl, hpassed⟩ := h
  intro o' ho' hhas
  have hfirst := hhas.1
  have hstop := hhas.2
  rcases List.mem_append.mp ho' with ho' | ho'
  · have hle := hpassed o' ho'
    omega
  · rcases List.mem_cons.mp ho' with rfl | ho'
    · omega
    · have hle := hafter o' ho'
      omega

theorem PassedUpTo.notMem_nil (h : PassedUpTo overrides [] a) (hx : a ≤ x) :
    ∀ o ∈ overrides, ¬ o.region.span.Has x := by
  obtain ⟨passed, rfl, hpassed⟩ := h
  intro o ho hhas
  have hle := hpassed o (by simpa using ho)
  have hstop := hhas.2
  omega

variable {w : RegionWriter n} {s : SourceMemoryRegion} {cursor sourceEnd : UInt64}

/-- Where the loop over the overrides leaves the cursor: what is left of the source lies in no
override. -/
structure SourceLeft (sources : List SourceMemoryRegion) (overrides : List MemoryRegionOverride)
    (s : SourceMemoryRegion) (result : UInt64 × List MemoryRegionOverride) (w : RegionWriter n)
    (b : Nat) : Prop where
  cursor : result.1.toNat = b * 4096
  first_le : s.region.span.first ≤ b
  le_stop : b ≤ s.region.span.stop
  passed : PassedUpTo overrides result.2 b
  written : Written (overlaidKind sources overrides) b w
  source : ∀ x, b ≤ x → x < s.region.span.stop → ∀ o ∈ overrides, ¬ o.region.span.Has x

/-- A failure at some frame is a failure of the whole. -/
theorem emits_mono {α : Type} {m : Method (RegionWriter n) NormalizeError α}
    {f : Nat → Option UInt32} {a b : Nat} {Q : α → RegionWriter n → Prop}
    (h : Emits m w f a Q) (hle : a ≤ b) : Emits m w f b Q :=
  h.mono (fun _ _ hQ => hQ) fun _ _ hlt => hlt.trans_le (Pieces.length_runs_mono hle)

/-- The loop over the overrides, for a source. -/
theorem overlaySource_ends {left : List MemoryRegionOverride} (hm : MapsOk sources overrides)
    (hs : s ∈ sources) (hend : sourceEnd.toNat = s.region.span.stop * 4096)
    (hcursor : cursor.toNat = a * 4096) (hfirst : s.region.span.first ≤ a)
    (hstop : a ≤ s.region.span.stop) (hpassed : PassedUpTo overrides left a)
    (hw : Written (overlaidKind sources overrides) a w) :
    Emits (overlaySource s.kind sourceEnd cursor left) w (overlaidKind sources overrides)
      s.region.span.stop fun result w' =>
        ∃ b, SourceLeft sources overrides s result w' b := by
  induction left generalizing a cursor w with
  | nil =>
    refine .pure ⟨a, ⟨hcursor, hfirst, hstop, hpassed, hw, ?_⟩⟩
    exact fun x hx _ => hpassed.notMem_nil hx
  | cons o left ih =>
    have ho := hm.replacement hpassed.mem
    obtain ⟨replacementEnd, hrun, hrend⟩ := ho.regionEnd
    replace hrend : replacementEnd.toNat = o.region.span.stop * 4096 := hrend
    have hostart : o.physicalStart.toNat = o.region.span.first * 4096 := ho.start_eq
    refine .bind (.query (fun stop hstop' => ?_) fun e he => ?_)
    swap
    · rw [hrun] at he
      cases he
    obtain rfl : replacementEnd = stop := Except.ok.inj (hrun.symm.trans hstop')
    refine .ite (fun hover => ?_) fun hover => .ite (fun hbeyond => .pure ?_) fun hbeyond => ?_
    · -- the override ends before the cursor
      rw [UInt64.le_iff_toNat_le, hrend, hcursor] at hover
      exact ih hcursor hfirst hstop (hpassed.next (le_refl _) (by omega)) hw
    · -- the override starts after the source
      rw [ge_iff_le, UInt64.le_iff_toNat_le, hend, hostart] at hbeyond
      refine ⟨a, ⟨hcursor, hfirst, hstop, hpassed, hw, ?_⟩⟩
      exact fun x hx hlt => hpassed.notMem_before hm hx (by omega)
    · rw [UInt64.le_iff_toNat_le, hrend, hcursor] at hover
      rw [ge_iff_le, UInt64.le_iff_toNat_le, hend, hostart] at hbeyond
      have hpos := hm.overridesOk.span_pos (List.mem_map_of_mem hpassed.mem)
      -- the frames of the overlap, from `c` to `d`
      obtain ⟨c, hc⟩ : ∃ c, c = max o.region.span.first a := ⟨_, rfl⟩
      obtain ⟨d, hd⟩ : ∃ d, d = min o.region.span.stop s.region.span.stop := ⟨_, rfl⟩
      have hcNat : (max o.physicalStart cursor).toNat = c * 4096 := by
        rw [toNat_max, hostart, hcursor, hc]
        omega
      have hdNat : (min replacementEnd sourceEnd).toNat = d * 4096 := by
        rw [toNat_min, hrend, hend, hd]
        omega
      have hsource : ∀ x, a ≤ x → x < c →
          overlaidKind sources overrides x = some s.kind := by
        intro x hx hlt
        refine hm.overlaid_source hs ⟨by omega, by omega⟩ ?_
        exact hpassed.notMem_before hm hx (by omega)
      have hoverlap : ∀ x, c ≤ x → x < d →
          overlaidKind sources overrides x = some o.kind := by
        intro x hx hlt
        exact hm.overlaid_override hs ⟨by omega, by omega⟩ hpassed.mem ⟨by omega, by omega⟩
      have hgap := emits_mono (b := s.region.span.stop)
        (emit_ends hw hcursor hcNat (by omega) (hm.source hs).known hsource) (by omega)
      refine .bind (hgap.mono (fun _ w₁ hw₁ => ?_) fun _ _ h => h)
      have hover₁ := emits_mono (b := s.region.span.stop)
        (emit_ends hw₁ hcNat hdNat (by omega) ho.known hoverlap) (by omega)
      refine .bind (hover₁.mono (fun _ w₂ hw₂ => ?_) fun _ _ h => h)
      refine .ite (fun hall => ?_) fun hpart => .pure ?_
      · rw [← UInt64.toNat_inj, hdNat, hrend] at hall
        exact ih hdNat (by omega) (by omega) (hpassed.next (by omega) (by omega)) hw₂
      · rw [← UInt64.toNat_inj, hdNat, hrend] at hpart
        refine ⟨d, ⟨hdNat, by omega, by omega, hpassed.mono (by omega), hw₂, ?_⟩⟩
        intro x hx hlt
        omega

/-! ## The loop over the sources -/

/-- The loop passes only over well formed sources. -/
theorem regionsOk_of_overlaySources {left : List MemoryRegionOverride} {w' : RegionWriter n}
    (h : RegionsOk done)
    (hrun : (overlaySources (lastStart done) (lastEnd done) left sources).run w = (.ok (), w')) :
    RegionsOk (done ++ sources.map SourceMemoryRegion.region) := by
  induction sources generalizing done left w with
  | nil => simpa using h
  | cons s sources ih =>
    rw [overlaySources] at hrun
    obtain ⟨sourceEnd, w₁, hquery, hrun⟩ := run_bind_eq_ok.mp hrun
    obtain ⟨hcheck, rfl⟩ := Prod.mk.inj hquery
    rw [run_ite] at hrun
    split at hrun
    · cases hrun
    rename_i hstart
    rw [run_ite] at hrun
    split at hrun
    · cases hrun
    rename_i hend
    obtain ⟨⟨cursor, left'⟩, w₂, -, hrun⟩ := run_bind_eq_ok.mp hrun
    obtain ⟨-, w₃, -, hrun⟩ := run_bind_eq_ok.mp hrun
    have hlastEnd : lastEnd (done ++ [s.region]) = some sourceEnd := lastEnd_of_checked hcheck
    have hstep : RegionsOk (done ++ [s.region]) :=
      (regionsOk_concat_iff_end h rfl).mpr
        ⟨sourceEnd, hcheck, Bool.eq_false_iff.mpr hstart, Bool.eq_false_iff.mpr hend⟩
    have hrun' : (overlaySources (lastStart (done ++ [s.region])) (lastEnd (done ++ [s.region]))
        left' sources).run w₃ = (.ok (), w') := by
      rw [lastStart_concat, hlastEnd]
      exact hrun
    have hrest := ih hstep hrun'
    rw [List.append_assoc] at hrest
    exact hrest

/-- The sources that are done end at or before the frame `a`, and the others start there. -/
structure Between (front back : List SourceMemoryRegion) (a : Nat) : Prop where
  before : ∀ s ∈ front, s.region.span.stop ≤ a
  after : ∀ s ∈ back, a ≤ s.region.span.first

/-- The next source is done. -/
theorem Between.next {front back : List SourceMemoryRegion} (h : Between front (s :: back) a)
    (hlater : ∀ t ∈ back, s.region.span.stop ≤ t.region.span.first)
    (hpos : s.region.span.first < s.region.span.stop) :
    Between (front ++ [s]) back s.region.span.stop := by
  refine ⟨fun t ht => ?_, hlater⟩
  rcases List.mem_append.mp ht with ht | ht
  · have hle := h.before t ht
    have hfirst := h.after s (by simp)
    omega
  · obtain rfl := List.mem_singleton.mp ht
    exact le_refl _

/-- No source has a frame between those that are done and the next one. -/
theorem Between.gap {front back : List SourceMemoryRegion} (h : Between front (s :: back) a)
    (hlater : ∀ t ∈ back, s.region.span.stop ≤ t.region.span.first)
    (hpos : s.region.span.first < s.region.span.stop) (hx : a ≤ x)
    (hlt : x < s.region.span.first) : ∀ t ∈ front ++ s :: back, ¬ t.region.span.Has x := by
  intro t ht hhas
  have hfirst := hhas.1
  have hstop := hhas.2
  rcases List.mem_append.mp ht with ht | ht
  · have hle := h.before t ht
    omega
  · rcases List.mem_cons.mp ht with rfl | ht
    · omega
    · have hle := hlater t ht
      omega

/-- The loop over the sources writes the runs of the whole map. -/
theorem overlaySources_ends {front back : List SourceMemoryRegion} {bound : Nat}
    {left : List MemoryRegionOverride} (hm : MapsOk sources overrides)
    (hsplit : sources = front ++ back) (hbound : ∀ s ∈ sources, s.region.span.stop ≤ bound)
    (hbetween : Between front back a) (hpassed : PassedUpTo overrides left a)
    (hw : Written (overlaidKind sources overrides) a w) :
    Emits (overlaySources (lastStart (front.map SourceMemoryRegion.region))
        (lastEnd (front.map SourceMemoryRegion.region)) left back) w
      (overlaidKind sources overrides) bound fun _ w' =>
        ∃ b, Written (overlaidKind sources overrides) b w' ∧
          ∀ s ∈ sources, s.region.span.stop ≤ b := by
  induction back generalizing front a left w with
  | nil =>
    refine .pure ⟨a, hw, ?_⟩
    rw [hsplit, List.append_nil]
    exact hbetween.before
  | cons s back ih =>
    have hs : s ∈ sources := by simp [hsplit]
    have hordered := List.pairwise_map.mp hm.sourcesOk.ordered
    rw [hsplit] at hordered
    have hlater := (List.pairwise_cons.mp (List.pairwise_append.mp hordered).2.1).1
    have hpos : s.region.span.first < s.region.span.stop :=
      hm.sourcesOk.span_pos (List.mem_map_of_mem hs)
    have hfirst := hbetween.after s (by simp)
    have hok : RegionsOk (front.map SourceMemoryRegion.region ++ [s.region]) := by
      have hall := hm.sourcesOk
      rw [hsplit, List.map_append, List.map_cons, List.append_cons] at hall
      exact hall.of_append
    obtain ⟨sourceEnd, hcheck, hstart, hend⟩ :=
      (regionsOk_concat_iff_end hok.of_append rfl).mp hok
    have hlastEnd : lastEnd (front.map SourceMemoryRegion.region ++ [s.region]) = some sourceEnd :=
      lastEnd_of_checked hcheck
    replace hcheck : checkedRegionEnd s.physicalStart s.pageCount s.kind = .ok sourceEnd := hcheck
    have hendNat : sourceEnd.toNat = s.region.span.stop * 4096 :=
      (checkedRegionEnd_eq_ok.mp hcheck).2
    have hstartNat : s.physicalStart.toNat = s.region.span.first * 4096 := (hm.source hs).start_eq
    have hw₀ : Written (overlaidKind sources overrides) s.region.span.first w := by
      refine hw.gap hfirst fun x hx hlt => overlaid_eq_none.mpr ?_
      rw [hsplit]
      exact hbetween.gap hlater hpos hx hlt
    rw [overlaySources]
    refine .bind (.query (fun stop hstop => ?_) fun e he => ?_)
    swap
    · rw [hcheck] at he
      cases he
    obtain rfl : sourceEnd = stop := Except.ok.inj (hcheck.symm.trans hstop)
    refine .ite (fun hc => absurd hc (Bool.eq_false_iff.mp hstart)) fun _ =>
      .ite (fun hc => absurd hc (Bool.eq_false_iff.mp hend)) fun _ => ?_
    have hloop := emits_mono
      (overlaySource_ends hm hs hendNat hstartNat (le_refl _) (by omega) (hpassed.mono hfirst) hw₀)
      (hbound s hs)
    refine .bind (hloop.mono ?_ fun _ _ h => h)
    rintro ⟨cursor, left'⟩ w₁ ⟨b, hleft⟩
    have hrest : ∀ x, b ≤ x → x < s.region.span.stop →
        overlaidKind sources overrides x = some s.kind := by
      intro x hx hlt
      have hb := hleft.first_le
      exact hm.overlaid_source hs ⟨by omega, hlt⟩ (hleft.source x hx hlt)
    have hemit := emits_mono
      (emit_ends hleft.written hleft.cursor hendNat hleft.le_stop (hm.source hs).known hrest)
      (hbound s hs)
    refine .bind (hemit.mono (fun _ w₂ hw₂ => ?_) fun _ _ h => h)
    have hsplit' : sources = (front ++ [s]) ++ back := by
      rw [hsplit]
      simp
    have hnext := ih hsplit' (hbetween.next hlater hpos) (hleft.passed.mono hleft.le_stop) hw₂
    rw [List.map_append, List.map_singleton, lastStart_concat, hlastEnd] at hnext
    exact hnext

/-! ## The checks of the overrides -/

theorem validateOverridesFrom_eq_ok (h : RegionsOk done) :
    validateOverridesFrom (lastStart done) (lastEnd done) overrides = .ok () ↔
      RegionsOk (done ++ overrides.map MemoryRegionOverride.region) := by
  induction overrides generalizing done with
  | nil =>
    rw [List.map_nil, List.append_nil]
    exact ⟨fun _ => h, fun _ => rfl⟩
  | cons o overrides ih =>
    have hstep := regionsOk_concat_iff_end (r := o.region) h rfl
    rw [List.map_cons, List.append_cons, validateOverridesFrom]
    constructor
    · intro hrun
      cases hcheck : checkedRegionEnd o.physicalStart o.pageCount o.kind with
      | error e =>
        rw [hcheck] at hrun
        cases hrun
      | ok stop =>
        rw [hcheck] at hrun
        dsimp only at hrun
        split at hrun
        · cases hrun
        rename_i hstart
        split at hrun
        · cases hrun
        rename_i hend
        have hlastEnd : lastEnd (done ++ [o.region]) = some stop := lastEnd_of_checked hcheck
        have hnext := hstep.mpr
          ⟨stop, hcheck, Bool.eq_false_iff.mpr hstart, Bool.eq_false_iff.mpr hend⟩
        refine (ih hnext).mp ?_
        rw [lastStart_concat, hlastEnd]
        exact hrun
    · intro hall
      obtain ⟨stop, hcheck, hstart, hend⟩ := hstep.mp hall.of_append
      have hlastEnd : lastEnd (done ++ [o.region]) = some stop := lastEnd_of_checked hcheck
      replace hcheck : checkedRegionEnd o.physicalStart o.pageCount o.kind = .ok stop := hcheck
      have hrest := (ih hall.of_append).mpr hall
      rw [lastStart_concat, hlastEnd] at hrest
      rw [hcheck]
      dsimp only
      exact (if_neg (Bool.eq_false_iff.mp hstart)).trans
        ((if_neg (Bool.eq_false_iff.mp hend)).trans hrest)

/-- `validate_overrides` accepts the well formed lists. -/
theorem validateOverrides_eq_ok :
    validateOverrides overrides = .ok () ↔
      RegionsOk (overrides.map MemoryRegionOverride.region) :=
  validateOverridesFrom_eq_ok regionsOk_nil

/-- The scan reaches the end of a range when every frame of it has the kind. -/
theorem coverFrom_reaches {output : List MemoryRegion} {replacementEnd : UInt64} {b : Nat}
    (h : RegionsOk output) (hcursor : cursor.toNat = a * 4096)
    (hend : replacementEnd.toNat = b * 4096) (hlt : a < b) :
    ∃ reached, coverFrom k replacementEnd cursor output = .ok reached ∧
      (reached = replacementEnd ↔ ∀ x, a ≤ x → x < b → kindAt output x = some k) := by
  induction output generalizing a cursor with
  | nil =>
    refine ⟨cursor, rfl, ?_⟩
    rw [← UInt64.toNat_inj, hcursor, hend]
    refine ⟨fun heq => by omega, fun hall => ?_⟩
    exact absurd (hall a (le_refl _) hlt) nofun
  | cons r output ih =>
    have hr := h.each r (by simp)
    obtain ⟨outputEnd, hrun, hrend⟩ := hr.regionEnd
    replace hrend : outputEnd.toNat = r.span.stop * 4096 := hrend
    have hrstart : r.physicalStart.toNat = r.span.first * 4096 := hr.start_eq
    have hlater := (List.pairwise_cons.mp h.ordered).1
    have hpos := h.span_pos (r := r) (by simp)
    -- beyond the first region, the others give the kinds
    have hskip : ∀ x, r.span.stop ≤ x → (kindAt (r :: output) x = some k ↔ kindAt output x = some k) := by
      intro x hx
      rw [h.kindAt_eq_some, h.tail.kindAt_eq_some, List.exists_mem_cons_iff]
      refine ⟨fun hor => hor.resolve_left fun hhas => ?_, .inr⟩
      have hstop := hhas.1.2
      omega
    rw [coverFrom, hrun]
    dsimp only
    by_cases hover : outputEnd ≤ cursor
    · rw [if_pos hover]
      rw [UInt64.le_iff_toNat_le, hrend, hcursor] at hover
      obtain ⟨reached, hcover, hiff⟩ := ih h.tail hcursor hlt
      refine ⟨reached, hcover, hiff.trans ?_⟩
      exact forall₃_congr fun x hx _ => (hskip x (by omega)).symm
    rw [if_neg hover]
    rw [UInt64.le_iff_toNat_le, hrend, hcursor] at hover
    by_cases hbreak : r.physicalStart > cursor ∨ r.kind ≠ k
    · rw [if_pos hbreak]
      refine ⟨cursor, rfl, ?_⟩
      rw [← UInt64.toNat_inj, hcursor, hend]
      refine ⟨fun heq => by omega, fun hall => ?_⟩
      -- the frame at the cursor lies in no region of the kind
      obtain ⟨t, ht, hhas, hkind⟩ := h.kindAt_eq_some.mp (hall a (le_refl _) hlt)
      have htfirst := hhas.1
      rw [gt_iff_lt, UInt64.lt_iff_toNat_lt, hcursor, hrstart] at hbreak
      rcases List.mem_cons.mp ht with rfl | ht
      · rcases hbreak with hbefore | hother
        · omega
        · exact absurd hkind hother
      · have hle := hlater t ht
        omega
    rw [if_neg hbreak]
    rw [gt_iff_lt, UInt64.lt_iff_toNat_lt, hcursor, hrstart, not_or, not_not] at hbreak
    have hhere : ∀ x, a ≤ x → x < r.span.stop → kindAt (r :: output) x = some k := fun x hx hxlt =>
      h.kindAt_eq_some.mpr ⟨r, by simp, ⟨by omega, hxlt⟩, hbreak.2⟩
    have hminNat : (min outputEnd replacementEnd).toNat = min r.span.stop b * 4096 := by
      rw [toNat_min, hrend, hend]
      omega
    by_cases hdone : min outputEnd replacementEnd = replacementEnd
    · rw [if_pos hdone]
      refine ⟨_, rfl, ⟨fun _ x hx hxlt => hhere x hx ?_, fun _ => hdone⟩⟩
      rw [← UInt64.toNat_inj, hminNat, hend] at hdone
      omega
    · rw [if_neg hdone]
      rw [← UInt64.toNat_inj, hminNat, hend] at hdone
      have hstop : min r.span.stop b = r.span.stop := by omega
      rw [hstop] at hminNat
      obtain ⟨reached, hcover, hiff⟩ := ih h.tail hminNat (by omega)
      refine ⟨reached, hcover, hiff.trans ⟨fun hall x hx hxlt => ?_, fun hall x hx hxlt => ?_⟩⟩
      · rcases Nat.lt_or_ge x r.span.stop with hin | hout
        · exact hhere x hx hin
        · exact (hskip x hout).mpr (hall x hout hxlt)
      · exact (hskip x hx).mp (hall x (by omega) hxlt)

/-- `validate_required_overrides` asks for the kind of every frame of an override that must be
covered. -/
theorem validateRequiredOverrides_eq_ok {output : List MemoryRegion} (h : RegionsOk output)
    (hok : ∀ o ∈ overrides, RegionOk o.physicalStart o.pageCount o.kind) :
    validateRequiredOverrides output overrides = .ok () ↔
      ∀ o ∈ overrides, o.requireFullCoverage = true →
        ∀ x, o.region.span.Has x → kindAt output x = some o.kind := by
  induction overrides with
  | nil => exact ⟨fun _ => nofun, fun _ => rfl⟩
  | cons o overrides ih =>
    have hrest := ih fun o' ho' => hok o' (List.mem_cons_of_mem _ ho')
    have ho := hok o (by simp)
    rw [List.forall_mem_cons, ← hrest, validateRequiredOverrides]
    by_cases hrequired : o.requireFullCoverage = true
    swap
    · rw [if_neg hrequired]
      exact ⟨fun hrun => ⟨fun h => absurd h hrequired, hrun⟩, fun hrun => hrun.2⟩
    rw [if_pos hrequired]
    obtain ⟨replacementEnd, hrun, hend⟩ := ho.regionEnd
    have hpos := ho.nonempty
    obtain ⟨reached, hcover, hiff⟩ := coverFrom_reaches (k := o.kind) h ho.start_eq hend
      (by unfold Span.stop; exact Nat.lt_add_of_pos_right hpos)
    rw [hrun]
    dsimp only
    rw [hcover]
    dsimp only
    by_cases hreached : reached = replacementEnd
    · rw [if_neg (not_not.mpr hreached)]
      exact ⟨fun hrest => ⟨fun _ x hx => hiff.mp hreached x hx.1 hx.2, hrest⟩, fun hall => hall.2⟩
    · rw [if_pos hreached]
      refine ⟨nofun, fun hall => absurd (hiff.mpr fun x hx hxlt => ?_) hreached⟩
      exact hall.1 hrequired x ⟨hx, hxlt⟩

/-! ## The canonical overlay -/

variable {output out : List MemoryRegion}

/-- The pieces of a canonical overlay are merged. -/
theorem CanonicalOverlay.pieces (h : CanonicalOverlay sources overrides output) :
    Pieces.Merged (output.map MemoryRegion.piece) :=
  ⟨h.toRegionsOk.pieces, List.pairwise_map.mpr h.coalesced⟩

/-- There is only one canonical overlay. -/
theorem CanonicalOverlay.ext (h : CanonicalOverlay sources overrides output)
    (h' : CanonicalOverlay sources overrides out) : output = out := by
  refine h.toRegionsOk.ext h'.toRegionsOk (h.pieces.ext h'.pieces ?_)
  funext x
  exact (h.kinds x).trans (h'.kinds x).symm

/-- The overlaid map has no frames from a bound of the sources on. -/
theorem runs_overlaid {b : Nat} (hb : ∀ s ∈ sources, s.region.span.stop ≤ b) :
    Pieces.labelAt (Pieces.runs (overlaidKind sources overrides) b) =
      overlaidKind sources overrides := by
  funext x
  rw [Pieces.runsOf_runs.labels x]
  split
  · rfl
  · rename_i hx
    refine (overlaid_eq_none.mpr fun s hs hhas => ?_).symm
    have hle := hb s hs
    have hlt := hhas.2
    omega

/-- A canonical overlay has as many regions as the overlaid map has runs. -/
theorem CanonicalOverlay.length_runs {b : Nat} (h : CanonicalOverlay sources overrides output)
    (hb : ∀ s ∈ sources, s.region.span.stop ≤ b) :
    (Pieces.runs (overlaidKind sources overrides) b).length = output.length := by
  have hsame : output.map MemoryRegion.piece = Pieces.runs (overlaidKind sources overrides) b := by
    refine h.pieces.ext Pieces.runsOf_runs.toMerged ?_
    rw [runs_overlaid hb]
    funext x
    exact h.kinds x
  rw [← hsame, List.length_map]

/-- What the writer has written when it is past all sources is the canonical overlay. -/
theorem Written.canonical {b : Nat} (h : Written (overlaidKind sources overrides) b w)
    (hb : ∀ s ∈ sources, s.region.span.stop ≤ b) :
    CanonicalOverlay sources overrides (live w.output w.len) := by
  have hmerged := (Pieces.runsOf_runs (f := overlaidKind sources overrides) (a := b)).toMerged
  rw [← h.runs] at hmerged
  refine ⟨h.regionsOk, fun x => ?_, List.pairwise_map.mp hmerged.merged⟩
  unfold kindAt
  rw [h.runs, runs_overlaid hb]

/-- An override lies inside the sources when the output has its kind on all of its frames. -/
theorem CanonicalOverlay.requiredCovered (h : CanonicalOverlay sources overrides output)
    (hm : MapsOk sources overrides) :
    (∀ o ∈ overrides, o.requireFullCoverage = true →
      ∀ x, o.region.span.Has x → kindAt output x = some o.kind) ↔
      RequiredCovered sources overrides := by
  refine forall₃_congr fun o ho _ => forall₂_congr fun x hx => ?_
  rw [h.kinds x]
  constructor
  · intro hkind
    by_contra hnone
    rw [overlaid_eq_none.mpr fun s hs hhas => hnone ⟨s, hs, hhas⟩] at hkind
    cases hkind
  · rintro ⟨s, hs, hhas⟩
    exact hm.overlaid_override hs hhas ho hx

/-- All regions lie below the frame `2 ^ 52`. -/
theorem RegionsOk.stop_le (h : RegionsOk done) {r : MemoryRegion} (hr : r ∈ done) :
    r.span.stop ≤ 2 ^ 52 := by
  have hinside := (h.each r hr).inside
  have hstart : r.physicalStart.toNat = r.span.first * 4096 := (h.each r hr).start_eq
  have hsize : r.span.size = r.pageCount.toNat := rfl
  unfold Span.stop
  omega

/-! ## `normalize_memory_regions` -/

/-- The start of the writer. -/
theorem written_start {f : Nat → Option UInt32} (buffer : Vector MemoryRegion n) :
    Written f 0 (⟨buffer, 0⟩ : RegionWriter n) :=
  ⟨Nat.zero_le n, regionsOk_nil, rfl⟩

/-- The two loops, from an empty writer. -/
theorem overlay_ends (hm : MapsOk sources overrides) (buffer : Vector MemoryRegion n) :
    Emits (overlaySources none none overrides sources) (⟨buffer, 0⟩ : RegionWriter n)
      (overlaidKind sources overrides) (2 ^ 52) fun _ w' =>
        w'.len ≤ n ∧ CanonicalOverlay sources overrides (live w'.output w'.len) := by
  have hbound : ∀ s ∈ sources, s.region.span.stop ≤ 2 ^ 52 :=
    fun s hs => hm.sourcesOk.stop_le (List.mem_map_of_mem hs)
  have hloop := overlaySources_ends hm (List.nil_append sources).symm hbound
    ⟨by simp, fun _ _ => Nat.zero_le _⟩ ⟨[], rfl, by simp⟩ (written_start buffer)
  refine hloop.mono ?_ fun _ _ h => h
  rintro - w' ⟨b, hw, hb⟩
  exact ⟨hw.len_le, hw.canonical hb⟩

/-- The canonical overlay of some sources is not empty. -/
theorem CanonicalOverlay.ne_nil (h : CanonicalOverlay sources overrides output)
    (hm : MapsOk sources overrides) (hne : sources ≠ []) : output ≠ [] := by
  rintro rfl
  obtain ⟨s, hs⟩ := List.exists_mem_of_ne_nil _ hne
  have hpos : s.region.span.first < s.region.span.stop :=
    hm.sourcesOk.span_pos (List.mem_map_of_mem hs)
  exact overlaid_eq_none.mp (h.kinds s.region.span.first).symm s hs ⟨le_refl _, hpos⟩

theorem run_normalizeMemoryRegions {buffer buffer' : Vector MemoryRegion n} {len : Nat} :
    (normalizeMemoryRegions sources overrides).run buffer = (.ok len, buffer') ↔
      ∃ w', (normalizeWith sources overrides).run ⟨buffer, 0⟩ = (.ok len, w') ∧
        w'.output = buffer' := by
  show (((normalizeWith sources overrides).run ⟨buffer, 0⟩).1,
    ((normalizeWith sources overrides).run ⟨buffer, 0⟩).2.output) = _ ↔ _
  rcases (normalizeWith sources overrides).run ⟨buffer, 0⟩ with ⟨result, w'⟩
  simp only [Prod.mk.injEq]
  constructor
  · rintro ⟨rfl, rfl⟩
    exact ⟨w', ⟨rfl, rfl⟩, rfl⟩
  · rintro ⟨_, ⟨rfl, rfl⟩, rfl⟩
    exact ⟨rfl, rfl⟩

/-- What a success has checked and written. -/
theorem normalize_ok {buffer buffer' : Vector MemoryRegion n} {len : Nat}
    (hrun : (normalizeMemoryRegions sources overrides).run buffer = (.ok len, buffer')) :
    sources ≠ [] ∧ MapsOk sources overrides ∧ RequiredCovered sources overrides ∧ len ≤ n ∧
      CanonicalOverlay sources overrides (live buffer' len) := by
  obtain ⟨w', hwith, rfl⟩ := run_normalizeMemoryRegions.mp hrun
  unfold normalizeWith at hwith
  rw [run_ite] at hwith
  split at hwith
  · cases hwith
  obtain ⟨⟨⟩, w₁, hquery, hrun⟩ := run_bind_eq_ok.mp hwith
  obtain ⟨hoverrides, rfl⟩ := Prod.mk.inj hquery
  obtain ⟨⟨⟩, w₂, hloop, hrun⟩ := run_bind_eq_ok.mp hrun
  have hm : MapsOk sources overrides :=
    ⟨regionsOk_of_overlaySources regionsOk_nil hloop, validateOverrides_eq_ok.mp hoverrides⟩
  obtain ⟨hlen, hcanonical⟩ := (overlay_ends hm buffer).ok hloop
  rw [run_ite] at hrun
  split at hrun
  · cases hrun
  rename_i hne
  rw [run_bind_ok (run_self w₂), run_ite] at hrun
  split at hrun
  · cases hrun
  obtain ⟨⟨⟩, w₃, hquery, hrun⟩ := run_bind_eq_ok.mp hrun
  obtain ⟨hrequired, rfl⟩ := Prod.mk.inj hquery
  obtain ⟨hlength, rfl⟩ := Prod.mk.inj hrun
  obtain rfl := Except.ok.inj hlength
  have hcovered := (hcanonical.requiredCovered hm).mp
    ((validateRequiredOverrides_eq_ok hcanonical.toRegionsOk fun o ho => hm.replacement ho).mp
      hrequired)
  exact ⟨fun hnil => hne (by simp [hnil]), hm, hcovered, hlen, hcanonical⟩

/-- A success needs a buffer of at most 1024 entries. -/
theorem normalize_buffer {buffer buffer' : Vector MemoryRegion n} {len : Nat}
    (hrun : (normalizeMemoryRegions sources overrides).run buffer = (.ok len, buffer')) :
    n ≤ maxMemoryRegions := by
  obtain ⟨w', hwith, rfl⟩ := run_normalizeMemoryRegions.mp hrun
  unfold normalizeWith at hwith
  rw [run_ite] at hwith
  split at hwith
  · cases hwith
  · omega

/-- What makes a success: nothing else can fail. -/
theorem normalize_succeeds (buffer : Vector MemoryRegion n) (hn : n ≤ maxMemoryRegions)
    (hne : sources ≠ []) (hm : MapsOk sources overrides)
    (hcovered : RequiredCovered sources overrides)
    (hout : CanonicalOverlay sources overrides out) (hfits : out.length ≤ n) :
    ∃ buffer', (normalizeMemoryRegions sources overrides).run buffer = (.ok out.length, buffer') ∧
      live buffer' out.length = out := by
  have hbound : ∀ s ∈ sources, s.region.span.stop ≤ 2 ^ 52 :=
    fun s hs => hm.sourcesOk.stop_le (List.mem_map_of_mem hs)
  have hends := overlay_ends hm buffer
  cases hloop : (overlaySources none none overrides sources).run (⟨buffer, 0⟩ : RegionWriter n) with
  | mk result w' =>
    cases result with
    | error e =>
      have hfull := hends.error hloop
      rw [hout.length_runs hbound] at hfull
      omega
    | ok u =>
      obtain ⟨hlen, hcanonical⟩ := hends.ok hloop
      have hsame : live w'.output w'.len = out := hcanonical.ext hout
      have hlength : w'.len = out.length := by
        rw [← hsame, length_live hlen]
      have hpos : out.length ≠ 0 := fun hzero =>
        hout.ne_nil hm hne (List.length_eq_zero_iff.mp hzero)
      have hrequired : validateRequiredOverrides out overrides = .ok () :=
        (validateRequiredOverrides_eq_ok hout.toRegionsOk fun o ho => hm.replacement ho).mpr
          ((hout.requiredCovered hm).mpr hcovered)
      have hoverrides := validateOverrides_eq_ok.mpr hm.overridesOk
      have hfirst : (query fun _ => validateOverrides overrides).run
          (⟨buffer, 0⟩ : RegionWriter n) = (.ok (), ⟨buffer, 0⟩) := by
        rw [run_query, hoverrides]
      have hlast : (query fun _ => validateRequiredOverrides (live w'.output w'.len)
          overrides).run w' = (.ok (), w') := by
        rw [run_query, hsame, hrequired]
      refine ⟨w'.output, run_normalizeMemoryRegions.mpr ⟨w', ?_, rfl⟩, by rw [← hlength, hsame]⟩
      unfold normalizeWith
      rw [if_neg (by omega), run_bind_ok hfirst, run_bind_ok hloop,
        if_neg (by simpa using hne), run_bind_ok (run_self w'), if_neg (by omega),
        run_bind_ok hlast, run_pure, hlength]

/-- The output as a source map. -/
theorem region_source (h : RegionsOk output) :
    (output.map MemoryRegion.source).map SourceMemoryRegion.region = output := by
  rw [List.map_map]
  refine (List.map_congr_left fun r hr => ?_).trans (List.map_id _)
  have hattributes := h.noAttributes r hr
  obtain ⟨start, pages, kind, attributes⟩ := r
  obtain rfl : attributes = 0 := hattributes
  rfl

/-- The canonical overlay with the same overrides laid over it is itself. -/
theorem CanonicalOverlay.again (h : CanonicalOverlay sources overrides output) :
    CanonicalOverlay (output.map MemoryRegion.source) overrides output := by
  refine ⟨h.toRegionsOk, fun x => ?_, h.coalesced⟩
  unfold overlaidKind
  rw [region_source h.toRegionsOk, show kindAt output = overlaidKind sources overrides from
    funext h.kinds]
  exact (congrFun Pieces.overlay_overlay x).symm

/-- The output has the frames of the sources. -/
theorem CanonicalOverlay.frames (h : CanonicalOverlay sources overrides output) :
    (∃ r ∈ output, r.span.Has x) ↔ ∃ s ∈ sources, s.region.span.Has x := by
  rw [← not_iff_not]
  push Not
  rw [← kindAt_eq_none, h.kinds x, overlaid_eq_none]

/-- `normalize_memory_regions` computes the canonical overlay. It succeeds exactly when there are
sources, both lists are well formed, the overrides that must be covered are, and the canonical
overlay fits the buffer; it then writes that overlay, which a second call with the same overrides
reproduces. -/
theorem normalize_canonical_overlay (sources : List SourceMemoryRegion)
    (overrides : List MemoryRegionOverride) (buffer : Vector MemoryRegion n)
    (hn : n ≤ maxMemoryRegions) :
    ((∃ len buffer', (normalizeMemoryRegions sources overrides).run buffer = (.ok len, buffer')) ↔
      sources ≠ [] ∧ RegionsOk (sources.map SourceMemoryRegion.region) ∧
        RegionsOk (overrides.map MemoryRegionOverride.region) ∧
        RequiredCovered sources overrides ∧
        ∃ out, CanonicalOverlay sources overrides out ∧ out.length ≤ n) ∧
    ∀ len buffer', (normalizeMemoryRegions sources overrides).run buffer = (.ok len, buffer') →
      len ≤ n ∧ CanonicalOverlay sources overrides (live buffer' len) ∧
        ∀ {m : Nat} (again : Vector MemoryRegion m), len ≤ m → m ≤ maxMemoryRegions →
          ∃ again',
            (normalizeMemoryRegions ((live buffer' len).map MemoryRegion.source) overrides).run again =
              (.ok len, again') ∧
            live again' len = live buffer' len := by
  refine ⟨⟨?_, ?_⟩, ?_⟩
  · rintro ⟨len, buffer', hrun⟩
    obtain ⟨hne, hm, hcovered, hlen, hcanonical⟩ := normalize_ok hrun
    exact ⟨hne, hm.sourcesOk, hm.overridesOk, hcovered, _, hcanonical,
      by rw [length_live hlen]; exact hlen⟩
  · rintro ⟨hne, hsources, hoverrides, hcovered, out, hout, hfits⟩
    obtain ⟨buffer', hrun, -⟩ :=
      normalize_succeeds buffer hn hne ⟨hsources, hoverrides⟩ hcovered hout hfits
    exact ⟨_, buffer', hrun⟩
  · intro len buffer' hrun
    obtain ⟨hne, hm, hcovered, hlen, hcanonical⟩ := normalize_ok hrun
    refine ⟨hlen, hcanonical, fun {m} again hroom hm' => ?_⟩
    set out := live buffer' len with hout
    have hlength : out.length = len := length_live hlen
    have hmaps : MapsOk (out.map MemoryRegion.source) overrides :=
      ⟨by rw [region_source hcanonical.toRegionsOk]; exact hcanonical.toRegionsOk, hm.overridesOk⟩
    have hcovered' : RequiredCovered (out.map MemoryRegion.source) overrides := by
      intro o ho hrequired x hx
      obtain ⟨r, hr, hhas⟩ := hcanonical.frames.mpr (hcovered o ho hrequired x hx)
      exact ⟨r.source, List.mem_map_of_mem hr, hhas⟩
    have hne' : out.map MemoryRegion.source ≠ [] := fun hnil =>
      hcanonical.ne_nil hm hne (List.map_eq_nil_iff.mp hnil)
    obtain ⟨again', hrun', hlive⟩ := normalize_succeeds again hm' hne' hmaps hcovered'
      hcanonical.again (by omega)
    rw [hlength] at hrun' hlive
    exact ⟨again', hrun', hlive⟩

/-- A kernel image in the middle of usable memory, and a framebuffer beyond it. -/
theorem normalize_canonical_overlay_image :
    ∃ buffer', (normalizeMemoryRegions
          [⟨0x1000, 8, memoryUsable⟩, ⟨0x9000, 4, memoryReserved⟩]
          [⟨0x3000, 2, memoryReserved, true⟩, ⟨0x20000, 4, memoryMmio, false⟩]).run
        (Vector.replicate 5 ⟨0, 0, 0, 0⟩) = (.ok 4, buffer') ∧
      CanonicalOverlay [⟨0x1000, 8, memoryUsable⟩, ⟨0x9000, 4, memoryReserved⟩]
        [⟨0x3000, 2, memoryReserved, true⟩, ⟨0x20000, 4, memoryMmio, false⟩] (live buffer' 4) := by
  have hrun := run_eq_of_result (r := .ok 4) (s := Vector.replicate 5 ⟨0, 0, 0, 0⟩)
    (m := normalizeMemoryRegions
      [⟨0x1000, 8, memoryUsable⟩, ⟨0x9000, 4, memoryReserved⟩]
      [⟨0x3000, 2, memoryReserved, true⟩, ⟨0x20000, 4, memoryMmio, false⟩]) (by decide +kernel)
  exact ⟨_, hrun, ((normalize_canonical_overlay _ _ _ (by decide)).2 _ _ hrun).2.1⟩

end MakopaVerified.BootContract
