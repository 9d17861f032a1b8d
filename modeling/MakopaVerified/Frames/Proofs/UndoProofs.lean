import MakopaVerified.Foundation.Pieces
import MakopaVerified.Foundation.Triples
import MakopaVerified.Frames.Proofs.PoolProofs

/-!
# Frees undo allocations

A free only fails for want of room when the frame needs an extent of its own and there are 1024
already. Counting the runs of the set that the free would leave shows that there is room. The list
of extents is the canonical list of the free set, so where the set is the same, the list is.
-/

namespace MakopaVerified.Frames

open Foundation BootContract Spans

variable {fa fa' : FrameAllocator} {pool pool' : FramePool} {address : UInt64}
  {addresses : List UInt64} {extents extents' : Extents} {len len' : Nat}

/-! ## The list of extents is canonical -/

/-- Extents that stand for the same frames are the same. -/
theorem ExtentsOk.ext (h : ExtentsOk extents len) (h' : ExtentsOk extents' len')
    (hframes : frames extents len = frames extents' len') :
    live extents len = live extents' len' := by
  have hspans := h.canonical.ext h'.canonical hframes
  have hinj : ∀ {l m : List Extent}, (∀ e ∈ l, PageRange e.physicalStart e.pageCount) →
      (∀ e ∈ m, PageRange e.physicalStart e.pageCount) →
      l.map Extent.span = m.map Extent.span → l = m := by
    intro l
    induction l with
    | nil => exact fun _ _ heq => (List.map_eq_nil_iff.mp heq.symm).symm
    | cons e l ih =>
      intro m hl hm heq
      cases m with
      | nil => cases heq
      | cons e' m =>
        obtain ⟨hhead, htail⟩ := List.cons.inj heq
        have hfirst := congrArg Span.first hhead
        have hsize := congrArg Span.size hhead
        have he := hl e (by simp)
        have he' := hm e' (by simp)
        have hrest := ih (fun e he => hl e (List.mem_cons_of_mem _ he))
          (fun e he => hm e (List.mem_cons_of_mem _ he)) htail
        obtain ⟨start, pages⟩ := e
        obtain ⟨start', pages'⟩ := e'
        obtain rfl := (frameNumber_inj he.aligned he'.aligned).mp hfirst
        obtain rfl := UInt64.toNat_inj.mp hsize
        rw [hrest]
  exact hinj h.fits h'.fits hspans

/-- The free set has as many runs as there are free extents. -/
theorem Stands.ncard_free (h : Stands fa pool) :
    (Spans.runStarts pool.free).ncard = fa.freeLen := by
  rw [← h.free, frames, h.freeOk.canonical.ncard_runStarts, List.length_map,
    length_live h.freeOk.len_le]

theorem Stands.finite_runStarts (h : Stands fa pool) : (Spans.runStarts pool.free).Finite := by
  rw [← h.free]
  exact h.freeOk.canonical.finite_runStarts

/-- A frame that is managed ends below the end of the address space. -/
theorem Stands.frame_inside (h : Stands fa pool) {x : Nat} (hx : x ∈ pool.managed) :
    x * 4096 + 4096 < 2 ^ 64 := by
  rw [← h.managed] at hx
  obtain ⟨e, he, hhas⟩ := mem_frames.mp hx
  have hinside := (h.managedOk.fits e he).inside
  have hstart := (h.managedOk.fits e he).start_eq
  have hstop := hhas.2
  have hspan : e.span.stop = (pageSpan e.physicalStart e.pageCount).first + e.pageCount.toNat := rfl
  omega

theorem Stands.finite_free (h : Stands fa pool) : pool.free.Finite := by
  refine (Set.finite_lt_nat (2 ^ 52)).subset fun x hx => ?_
  have hinside := h.frame_inside (pool.free_subset hx)
  show x < 2 ^ 52
  omega

/-! ## Room for a frame -/

/-- There is room for a frame when the set with the frame has few enough runs. -/
theorem FramePool.not_noRoom {x : Nat} (hfinite : (Spans.runStarts pool.free).Finite)
    (hx : x ∉ pool.free)
    (hfew : (Spans.runStarts (insert x pool.free)).ncard ≤ maxFrameExtents) : ¬ pool.NoRoom x := by
  rintro ⟨⟨hafter, hbefore⟩, hfull⟩
  have hnew : x ∉ Spans.runStarts pool.free := fun hmem => hx hmem.1
  rw [runStarts_insert_alone hbefore hafter, Set.ncard_insert_of_notMem hnew hfinite,
    hfull] at hfew
  omega

/-- A free of a frame that is out, with room for it. -/
theorem Stands.free_ok (h : Stands fa pool) (haligned : address.toNat % 4096 = 0)
    (hmanaged : frameNumber address ∈ pool.managed) (hout : frameNumber address ∉ pool.free)
    (hfew : (Spans.runStarts (insert (frameNumber address) pool.free)).ncard ≤ maxFrameExtents) :
    ∃ fa', (FrameAllocator.freeFrame address).run fa = (.ok (), fa') ∧
      Stands fa' (pool.put (frameNumber address) hmanaged) := by
  have hinside := h.frame_inside hmanaged
  have haddress : address.toNat = frameNumber address * 4096 := by
    unfold frameNumber
    omega
  have hroom := FramePool.not_noRoom h.finite_runStarts hout hfew
  have hnone : pool.refusal address = none := by
    unfold FramePool.refusal
    rw [if_neg (not_not.mpr haligned), if_neg (by omega), if_neg (not_not.mpr hmanaged),
      if_neg hout, if_neg hroom]
  rcases FrameAllocator.freeFrame_spec h address with ⟨e, hsome, -⟩ | ⟨_, fa', -, hrun, hstands⟩
  · rw [hnone] at hsome
    cases hsome
  · exact ⟨fa', hrun, hstands⟩

/-! ## Handing out frames in a row -/

namespace FramePool.Hands

variable {before after : List UInt64} {middle : FramePool}

theorem managed_eq (h : pool.Hands addresses pool') : pool'.managed = pool.managed := by
  induction h with
  | nil => rfl
  | cons _ _ _ ih => exact ih

/-- What is left is what lies above some bound. -/
theorem free_eq (h : pool.Hands addresses pool') : ∃ b, pool'.free = pool.free ∩ Set.Ici b := by
  induction h with
  | @nil pool =>
    refine ⟨0, ?_⟩
    ext x
    simp
  | @cons pool pool' address rest haligned hleast _ ih =>
    obtain ⟨b, hb⟩ := ih
    refine ⟨max b (frameNumber address + 1), ?_⟩
    rw [hb]
    ext x
    have hlow : x ∈ pool.free → frameNumber address ≤ x := fun hx => hleast.2 hx
    simp only [FramePool.take, Set.mem_inter_iff, Set.mem_sdiff, Set.mem_singleton_iff, Set.mem_Ici]
    constructor
    · rintro ⟨⟨hx, hne⟩, hge⟩
      have hle := hlow hx
      exact ⟨hx, by omega⟩
    · rintro ⟨hx, hge⟩
      exact ⟨⟨hx, by omega⟩, by omega⟩

/-- The frames handed out are those that are no longer free. -/
theorem mem_iff (h : pool.Hands addresses pool') {x : Nat} :
    x ∈ pool.free \ pool'.free ↔ ∃ address ∈ addresses, x = frameNumber address := by
  induction h with
  | nil => simp
  | @cons pool pool' address rest haligned hleast hrest ih =>
    obtain ⟨b, hb⟩ := hrest.free_eq
    rw [List.exists_mem_cons_iff, ← ih]
    constructor
    · rintro ⟨hx, hnot⟩
      by_cases hsame : x = frameNumber address
      · exact .inl hsame
      · exact .inr ⟨⟨hx, hsame⟩, hnot⟩
    · rintro (rfl | ⟨hx, hnot⟩)
      · refine ⟨hleast.1, fun hmem => ?_⟩
        rw [hb] at hmem
        exact hmem.1.2 rfl
      · exact ⟨hx.1, hnot⟩

/-- A frame that was handed out is no longer free. -/
theorem not_free (h : pool.Hands addresses pool') (hmem : address ∈ addresses) :
    frameNumber address ∉ pool'.free :=
  (h.mem_iff.mpr ⟨address, hmem, rfl⟩).2

/-- Every handout takes one frame. -/
theorem ncard_add_length (h : pool.Hands addresses pool') (hfinite : pool.free.Finite) :
    pool'.free.ncard + addresses.length = pool.free.ncard := by
  induction h with
  | nil => rfl
  | @cons pool pool' address rest haligned hleast _ ih =>
    have hrest := ih (hfinite.subset Set.sdiff_subset)
    have hone := Set.ncard_sdiff_singleton_add_one hleast.1 hfinite
    have htaken : (pool.take (frameNumber address)).free = pool.free \ {frameNumber address} := rfl
    rw [htaken] at hrest
    rw [List.length_cons]
    omega

theorem append (h : pool.Hands before middle) (h' : middle.Hands after pool') :
    pool.Hands (before ++ after) pool' := by
  induction h with
  | nil => exact h'
  | cons haligned hleast _ ih => exact .cons haligned hleast (ih h')

end FramePool.Hands

/-- The pool as it was, with some frames free again. -/
def FramePool.with (pool : FramePool) (S : Set Nat) (h : S ⊆ pool.managed) : FramePool :=
  ⟨pool.managed, S, h⟩

/-- A free frame can be allocated. -/
theorem Stands.allocates_one (h : Stands fa pool) (hsome : pool.free.Nonempty) :
    ∃ address fa', FrameAllocator.allocateFrame.run fa = (.ok address, fa') ∧
      pool.Hands [address] (pool.take (frameNumber address)) ∧
      Stands fa' (pool.take (frameNumber address)) := by
  rcases FrameAllocator.allocateFrame_spec h with
    ⟨hempty, -⟩ | ⟨address, fa', hrun, haligned, hleast, hstands⟩
  · rw [hempty] at hsome
    exact absurd hsome Set.not_nonempty_empty
  · exact ⟨address, fa', hrun, .cons haligned hleast .nil, hstands⟩

/-- Enough free frames can be allocated. -/
theorem Stands.allocates {count : Nat} (h : Stands fa pool) (hfinite : pool.free.Finite)
    (hcount : count ≤ pool.free.ncard) :
    ∃ addresses fa' pool', (FrameAllocator.allocateFrames count).run fa = (.ok addresses, fa') ∧
      addresses.length = count ∧ pool.Hands addresses pool' ∧ Stands fa' pool' := by
  induction count generalizing fa pool with
  | zero => exact ⟨[], fa, pool, rfl, rfl, .nil, h⟩
  | succ count ih =>
    obtain ⟨address, fa₁, hrun, hone, hstands⟩ :=
      h.allocates_one ((Set.ncard_pos hfinite).mp (by omega))
    have hless := hone.ncard_add_length hfinite
    rw [List.length_singleton] at hless
    obtain ⟨rest, fa', pool', hrest, hlength, hhands, hstands'⟩ :=
      ih hstands hstands.finite_free (by omega)
    refine ⟨address :: rest, fa', pool', ?_, by rw [List.length_cons, hlength],
      hone.append hhands, hstands'⟩
    rw [FrameAllocator.allocateFrames, Method.run_bind_ok hrun, Method.run_bind_ok hrest,
      Method.run_pure]

theorem run_freeFrames_cons {rest : List UInt64} :
    (FrameAllocator.freeFrames (address :: rest)).run fa = (.ok (), fa') ↔
      ∃ fa₁, (FrameAllocator.freeFrame address).run fa = (.ok (), fa₁) ∧
        (FrameAllocator.freeFrames rest).run fa₁ = (.ok (), fa') := by
  rw [FrameAllocator.freeFrames, Method.run_bind_eq_ok]
  constructor
  · rintro ⟨⟨⟩, fa₁, hfree, hrest⟩
    exact ⟨fa₁, hfree, hrest⟩
  · rintro ⟨fa₁, hfree, hrest⟩
    exact ⟨(), fa₁, hfree, hrest⟩

theorem run_freeFrames_append {before after : List UInt64}
    (h : (FrameAllocator.freeFrames before).run fa = (.ok (), fa₁))
    (h' : (FrameAllocator.freeFrames after).run fa₁ = (.ok (), fa₂)) :
    (FrameAllocator.freeFrames (before ++ after)).run fa = (.ok (), fa₂) := by
  induction before generalizing fa with
  | nil =>
    obtain ⟨-, rfl⟩ := Prod.mk.inj h
    exact h'
  | cons a before ih =>
    obtain ⟨fa₀, hfree, hrest⟩ := run_freeFrames_cons.mp h
    exact run_freeFrames_cons.mpr ⟨fa₀, hfree, ih hrest⟩

/-- The frames of a row of handouts come back, last one first, to a pool that has `rest` free. While
they do, the frames above some bound are back, and there must be room for those. -/
theorem FramePool.Hands.freed {rest : Set Nat} (h : pool.Hands addresses pool')
    (hrest : rest ⊆ pool.managed) (hout : Disjoint (pool.free \ pool'.free) rest)
    (hfew : ∀ b, (Spans.runStarts ((pool.free \ pool'.free) ∩ Set.Ici b ∪ rest)).ncard ≤
      maxFrameExtents)
    (hstands : Stands fa (pool.with rest hrest)) :
    ∃ fa' hback, (FrameAllocator.freeFrames addresses.reverse).run fa = (.ok (), fa') ∧
      Stands fa' (pool.with ((pool.free \ pool'.free) ∪ rest) hback) := by
  induction h with
  | @nil pool =>
    have hsame : (pool.free \ pool.free) ∪ rest = rest := by
      rw [Set.sdiff_self, Set.empty_union]
    refine ⟨fa, by rw [hsame]; exact hrest, rfl, ?_⟩
    simp only [hsame]
    exact hstands
  | @cons pool pool' address addresses haligned hleast hhands ih =>
    obtain ⟨b₀, hb₀⟩ := hhands.free_eq
    have hgone : frameNumber address ∉ pool'.free := by
      rw [hb₀]
      exact fun hmem => hmem.1.2 rfl
    have hmem : frameNumber address ∈ pool.free \ pool'.free := ⟨hleast.1, hgone⟩
    -- the frames that come back before the first one
    have hlater : (pool.take (frameNumber address)).free \ pool'.free =
        (pool.free \ pool'.free) ∩ Set.Ici (frameNumber address + 1) := by
      ext x
      have hlow : x ∈ pool.free → frameNumber address ≤ x := fun hx => hleast.2 hx
      simp only [FramePool.take, Set.mem_inter_iff, Set.mem_sdiff, Set.mem_singleton_iff, Set.mem_Ici]
      constructor
      · rintro ⟨⟨hx, hne⟩, hnot⟩
        have hle := hlow hx
        exact ⟨⟨hx, hnot⟩, by omega⟩
      · rintro ⟨⟨hx, hnot⟩, hge⟩
        exact ⟨⟨hx, by omega⟩, hnot⟩
    have hback : (pool.free \ pool'.free) ∪ rest = insert (frameNumber address)
        ((pool.take (frameNumber address)).free \ pool'.free ∪ rest) := by
      ext x
      simp only [FramePool.take, Set.mem_union, Set.mem_insert_iff, Set.mem_sdiff,
        Set.mem_singleton_iff]
      by_cases hx : x = frameNumber address
      · subst hx
        exact iff_of_true (.inl hmem) (.inl rfl)
      · simp [hx]
    have hfew' : ∀ b, (Spans.runStarts ((pool.take (frameNumber address)).free \ pool'.free ∩
        Set.Ici b ∪ rest)).ncard ≤ maxFrameExtents := by
      intro b
      rw [hlater, Set.inter_assoc, Set.Ici_inter_Ici]
      exact hfew _
    obtain ⟨fa₁, hsub₁, hrun₁, hstands₁⟩ := ih hrest
      (hout.mono_left (hlater.subset.trans Set.inter_subset_left)) hfew' hstands
    have hnot : frameNumber address ∉
        (pool.take (frameNumber address)).free \ pool'.free ∪ rest := by
      rintro (hin | hin)
      · exact hin.1.2 rfl
      · exact Set.disjoint_left.mp hout hmem hin
    have hroom : (Spans.runStarts (insert (frameNumber address)
        ((pool.take (frameNumber address)).free \ pool'.free ∪ rest))).ncard ≤ maxFrameExtents := by
      rw [← hback]
      have hall := hfew 0
      rwa [← Nat.bot_eq_zero, Set.Ici_bot, Set.inter_univ] at hall
    obtain ⟨fa₂, hfree, hstands₂⟩ :=
      hstands₁.free_ok haligned (pool.free_subset hleast.1) hnot hroom
    refine ⟨fa₂, hback ▸ Set.insert_subset (pool.free_subset hleast.1) hsub₁, ?_, ?_⟩
    · rw [List.reverse_cons]
      exact run_freeFrames_append hrun₁ (run_freeFrames_cons.mpr ⟨fa₂, hfree, rfl⟩)
    · simp only [hback]
      exact hstands₂

/-! ## Two rows of allocations -/

section TwoRows

variable {first second : List UInt64} {middle : FramePool}

/-- Both rows of handouts, as bounds on the frames that are left. -/
theorem FramePool.Hands.bounds (h : pool.Hands first middle) (h' : middle.Hands second pool') :
    ∃ c d, middle.free = pool.free ∩ Set.Ici c ∧ pool'.free = pool.free ∩ Set.Ici d ∧ c ≤ d := by
  obtain ⟨c, hc⟩ := h.free_eq
  obtain ⟨d, hd⟩ := h'.free_eq
  refine ⟨c, max c d, hc, ?_, le_max_left _ _⟩
  rw [hd, hc, Set.inter_assoc, Set.Ici_inter_Ici]

/-- The first row comes back while the second is out. -/
theorem Stands.first_freed (hstands : Stands fa pool') (h : pool.Hands first middle)
    (h' : middle.Hands second pool') (hfinite : pool.free.Finite)
    (hfew : (Spans.runStarts pool.free).ncard < maxFrameExtents) :
    ∃ fa' hback, (FrameAllocator.freeFrames first.reverse).run fa = (.ok (), fa') ∧
      Stands fa' (pool.with ((pool.free \ middle.free) ∪ pool'.free) hback) := by
  obtain ⟨c, d, hc, hd, hcd⟩ := h.bounds h'
  have hsub : pool'.free ⊆ pool.managed := by
    rw [hd]
    exact Set.inter_subset_left.trans pool.free_subset
  refine h.freed hsub ?_ (fun b => ?_) ?_
  · rw [Set.disjoint_left, hc, hd]
    rintro x ⟨hx, hnot⟩ ⟨-, hge⟩
    exact hnot ⟨hx, hcd.trans hge⟩
  · -- what is free then has one hole, from `c` to `d`
    have hset : (pool.free \ middle.free) ∩ Set.Ici b ∪ pool'.free =
        (pool.free ∩ Set.Ici (min b d)) \ Set.Ico c d := by
      ext x
      rw [hc, hd]
      simp only [Set.mem_union, Set.mem_inter_iff, Set.mem_sdiff, Set.mem_Ici, Set.mem_Ico]
      by_cases hx : x ∈ pool.free
      · simp only [hx, true_and]
        omega
      · simp [hx]
    have habove : (Spans.runStarts (pool.free ∩ Set.Ici (min b d))).ncard ≤
        (Spans.runStarts pool.free).ncard :=
      ncard_runStarts_from_le (hfinite.subset runStarts_subset)
    have hhole := ncard_runStarts_hole_le (a := c) (b := d)
      ((hfinite.inter_of_left (Set.Ici (min b d))).subset runStarts_subset)
    rw [hset]
    omega
  · have hpool : pool.with pool'.free hsub = pool' := by
      obtain ⟨managed, free, hfree⟩ := pool'
      obtain rfl : managed = pool.managed := h'.managed_eq.trans h.managed_eq
      rfl
    rw [hpool]
    exact hstands

/-- Then the second row comes back. -/
theorem Stands.second_freed {hback : (pool.free \ middle.free) ∪ pool'.free ⊆ pool.managed}
    (hstands : Stands fa (pool.with ((pool.free \ middle.free) ∪ pool'.free) hback))
    (h : pool.Hands first middle) (h' : middle.Hands second pool') (hfinite : pool.free.Finite)
    (hfew : (Spans.runStarts pool.free).ncard < maxFrameExtents) :
    ∃ fa', (FrameAllocator.freeFrames second.reverse).run fa = (.ok (), fa') ∧ Stands fa' pool := by
  obtain ⟨c, d, hc, hd, hcd⟩ := h.bounds h'
  have hpool : middle.with ((pool.free \ middle.free) ∪ pool'.free) (h.managed_eq ▸ hback) =
      pool.with ((pool.free \ middle.free) ∪ pool'.free) hback := by
    unfold FramePool.with
    congr 1
    exact h.managed_eq
  rw [← hpool] at hstands
  have hout : Disjoint (middle.free \ pool'.free) ((pool.free \ middle.free) ∪ pool'.free) := by
    rw [Set.disjoint_left]
    rintro x ⟨hx, hnot⟩ (⟨-, hnot'⟩ | hmem)
    · exact hnot' hx
    · exact hnot hmem
  have hroom : ∀ b, (Spans.runStarts ((middle.free \ pool'.free) ∩ Set.Ici b ∪
      ((pool.free \ middle.free) ∪ pool'.free))).ncard ≤ maxFrameExtents := by
    intro b
    have hset : (middle.free \ pool'.free) ∩ Set.Ici b ∪ ((pool.free \ middle.free) ∪ pool'.free) =
        pool.free \ Set.Ico c (min (max b c) d) := by
      ext x
      rw [hc, hd]
      simp only [Set.mem_union, Set.mem_inter_iff, Set.mem_sdiff, Set.mem_Ici, Set.mem_Ico]
      by_cases hx : x ∈ pool.free
      · simp only [hx, true_and]
        omega
      · simp [hx]
    have hhole := ncard_runStarts_hole_le (a := c) (b := min (max b c) d)
      (hfinite.subset runStarts_subset)
    rw [hset]
    omega
  obtain ⟨fa', hback', hrun, hstands'⟩ := h'.freed _ hout hroom hstands
  refine ⟨fa', hrun, ?_⟩
  have hsame : middle.with ((middle.free \ pool'.free) ∪ ((pool.free \ middle.free) ∪ pool'.free))
      hback' = pool := by
    obtain ⟨managed, free, hfree⟩ := pool
    unfold FramePool.with
    congr 1
    · exact h.managed_eq
    · have hin : middle.free ⊆ free := hc ▸ Set.inter_subset_left
      have hin' : pool'.free ⊆ middle.free := by
        rw [hc, hd]
        exact Set.inter_subset_inter_right _ (Set.Ici_subset_Ici.mpr hcd)
      rw [Set.union_left_comm, Set.sdiff_union_of_subset hin', Set.sdiff_union_of_subset hin]
  rw [hsame] at hstands'
  exact hstands'

end TwoRows

/-! ## The same pool, the same calls -/

variable {fa₁ fa₂ fa₁' fa₂' : FrameAllocator} {e : AllocatorEvent} {history : List AllocatorEvent}

/-- Until the allocator is started afresh, it manages the frames of the last start. -/
theorem pool_managed {before since : List AllocatorEvent} {regions : List MemoryRegion}
    (h : Run poolSystem history pool)
    (hsplit : history = before ++ .initialized regions (.ok ()) :: since)
    (hsince : ∀ e ∈ since, ¬ e.Restarts) : pool.managed = usableFrames regions := by
  induction h generalizing since with
  | start _ => simp at hsplit
  | @step history s s' e hrun hstep ih =>
    rcases snoc_eq_append_cons hsplit with ⟨rfl, he, -⟩ | ⟨since', rfl, hsplit'⟩
    · subst he
      cases hstep with
      | initialized => rfl
    · have hbefore := ih hsplit' fun e he => hsince e (List.mem_append_left _ he)
      have hstep : s.Does e s' := hstep
      exact (hstep.managed_eq (hsince e (by simp))).trans hbefore

/-- Whether and how `initialize` fails depends on the regions only. -/
theorem initialize_result {regions : List MemoryRegion} {result : Except InitError Unit}
    (h : (FrameAllocator.initializeRegions regions).run fa₁ = (result, fa₁')) :
    ∃ fa₂', (FrameAllocator.initializeRegions regions).run fa₂ = (result, fa₂') := by
  unfold FrameAllocator.initializeRegions at *
  cases hscan : validateAndCountExtents regions with
  | error e =>
    rw [hscan] at h
    obtain ⟨rfl, -⟩ := Prod.mk.inj h
    exact ⟨fa₂, rfl⟩
  | ok count =>
    rw [hscan] at h
    obtain ⟨rfl, -⟩ := Prod.mk.inj h
    exact ⟨_, rfl⟩

/-- Allocators that stand for one pool answer every call alike. -/
theorem Stands.step_same (h₁ : Stands fa₁ pool) (h₂ : Stands fa₂ pool) (hstep : fa₁.Does e fa₁') :
    ∃ fa₂' pool', fa₂.Does e fa₂' ∧ Stands fa₁' pool' ∧ Stands fa₂' pool' := by
  obtain ⟨pool', hdoes, hstands⟩ := h₁.step hstep
  -- it is enough to find the call of the second allocator
  suffices hcall : ∃ fa₂', fa₂.Does e fa₂' by
    obtain ⟨fa₂', hstep₂⟩ := hcall
    obtain ⟨pool'', hdoes', hstands'⟩ := h₂.step hstep₂
    obtain rfl : pool'' = pool' := by
      cases hdoes <;> cases hdoes' <;> rfl
    exact ⟨fa₂', pool'', hstep₂, hstands, hstands'⟩
  cases e with
  | initialized regions result => exact initialize_result hstep
  | allocated result =>
    have hrun : FrameAllocator.allocateFrame.run fa₁ = (result, fa₁') := hstep
    rcases FrameAllocator.allocateFrame_spec h₂ with
      ⟨hempty, hspec⟩ | ⟨address, fa₂', hspec, haligned, hleast, -⟩
    · cases hdoes with
      | allocated _ hleast =>
        rw [hempty] at hleast
        exact absurd hleast.1 (Set.notMem_empty _)
      | exhausted _ => exact ⟨fa₂, hspec⟩
    · cases hdoes with
      | allocated haligned' hleast' =>
        obtain rfl := (frameNumber_inj haligned haligned').mp (hleast.unique hleast')
        exact ⟨fa₂', hspec⟩
      | exhausted hempty =>
        rw [hempty] at hleast
        exact absurd hleast.1 (Set.notMem_empty _)
  | freed address result =>
    rcases FrameAllocator.freeFrame_spec h₂ address with
      ⟨err, hrefusal, hspec⟩ | ⟨_, fa₂', hrefusal, hspec, -⟩
    · cases hdoes with
      | freed _ hnone =>
        rw [hrefusal] at hnone
        cases hnone
      | refused hsome =>
        rw [hrefusal] at hsome
        obtain rfl := Option.some.inj hsome
        exact ⟨fa₂, hspec⟩
    · cases hdoes with
      | freed _ _ => exact ⟨fa₂', hspec⟩
      | refused hsome =>
        rw [hrefusal] at hsome
        cases hsome

/-- So they do for all calls from then on. -/
theorem Stands.steps_same {future : List AllocatorEvent} (h₁ : Stands fa₁ pool)
    (h₂ : Stands fa₂ pool) (hsteps : Steps allocatorSystem fa₁ future fa₁') :
    ∃ fa₂' pool', Steps allocatorSystem fa₂ future fa₂' ∧ Stands fa₁' pool' ∧ Stands fa₂' pool' := by
  induction hsteps generalizing fa₂ pool with
  | nil => exact ⟨fa₂, pool, .nil, h₁, h₂⟩
  | cons hstep _ ih =>
    obtain ⟨fa₃, pool₁, hstep₂, hstands₁, hstands₂⟩ := h₁.step_same h₂ hstep
    obtain ⟨fa₂', pool', hrest, h₁', h₂'⟩ := ih hstands₁ hstands₂
    exact ⟨fa₂', pool', .cons hstep₂ hrest, h₁', h₂'⟩

/-! ## The two results -/

/-- A row of handouts comes back, last one first. -/
theorem Stands.row_freed (hstands : Stands fa pool') (h : pool.Hands addresses pool')
    (hfinite : pool.free.Finite) (hfew : (Spans.runStarts pool.free).ncard ≤ maxFrameExtents) :
    ∃ fa', (FrameAllocator.freeFrames addresses.reverse).run fa = (.ok (), fa') ∧
      Stands fa' pool := by
  obtain ⟨b₀, hb₀⟩ := h.free_eq
  have hsub : pool'.free ⊆ pool.free := hb₀ ▸ Set.inter_subset_left
  have hpool : pool.with pool'.free (hsub.trans pool.free_subset) = pool' := by
    obtain ⟨managed, free, hfree⟩ := pool'
    obtain rfl : managed = pool.managed := h.managed_eq
    rfl
  have hroom : ∀ b, (Spans.runStarts ((pool.free \ pool'.free) ∩ Set.Ici b ∪ pool'.free)).ncard ≤
      maxFrameExtents := by
    intro b
    have hset : (pool.free \ pool'.free) ∩ Set.Ici b ∪ pool'.free =
        pool.free ∩ Set.Ici (min b b₀) := by
      ext x
      rw [hb₀]
      simp only [Set.mem_union, Set.mem_inter_iff, Set.mem_sdiff, Set.mem_Ici]
      by_cases hx : x ∈ pool.free
      · simp only [hx, true_and]
        omega
      · simp [hx]
    rw [hset]
    exact (ncard_runStarts_from_le (hfinite.subset runStarts_subset)).trans hfew
  rw [← hpool] at hstands
  obtain ⟨fa', hback, hfree, hstands'⟩ := h.freed _ Set.disjoint_sdiff_left hroom hstands
  refine ⟨fa', hfree, ?_⟩
  have hsame : pool.with ((pool.free \ pool'.free) ∪ pool'.free) hback = pool := by
    unfold FramePool.with
    congr 1
    exact Set.sdiff_union_of_subset hsub
  rw [hsame] at hstands'
  exact hstands'

/-- Frees in the reverse order take a row of allocations back. -/
theorem Stands.undo {count : Nat} (h : Stands fa pool) (hcount : count ≤ pool.free.ncard) :
    ∃ addresses fa₁ fa', (FrameAllocator.allocateFrames count).run fa = (.ok addresses, fa₁) ∧
      addresses.length = count ∧
      (FrameAllocator.freeFrames addresses.reverse).run fa₁ = (.ok (), fa') ∧ Stands fa' pool := by
  obtain ⟨addresses, fa₁, pool', hrun, hlength, hhands, hstands⟩ :=
    h.allocates h.finite_free hcount
  have hfew : (Spans.runStarts pool.free).ncard ≤ maxFrameExtents := by
    rw [h.ncard_free]
    exact h.freeOk.len_le
  obtain ⟨fa', hfree, hstands'⟩ := hstands.row_freed hhands h.finite_free hfew
  exact ⟨addresses, fa₁, fa', hrun, hlength, hfree, hstands'⟩

/-- Allocators that stand for one pool have the same list of free extents. -/
theorem Stands.same_list (h : Stands fa pool) (h' : Stands fa' pool) :
    live fa.free fa.freeLen = live fa'.free fa'.freeLen :=
  h.freeOk.ext h'.freeOk (h.free.trans h'.free.symm)

/-- Allocations are undone by frees in the reverse order, in every reachable state and for every
number of frames that is free. And the list of free extents depends on the free set alone: two
histories since the same start that leave the same frames free leave the same list, and every call
from then on has the same result in both. -/
theorem allocation_undone_by_frees :
    (∀ history fa count, Run allocatorSystem history fa →
      count ≤ (frames fa.free fa.freeLen).ncard →
      ∃ addresses fa₁ fa', (FrameAllocator.allocateFrames count).run fa = (.ok addresses, fa₁) ∧
        addresses.length = count ∧
        (FrameAllocator.freeFrames addresses.reverse).run fa₁ = (.ok (), fa') ∧
        live fa'.free fa'.freeLen = live fa.free fa.freeLen) ∧
    ∀ regions before₁ since₁ fa₁ before₂ since₂ fa₂,
      Run allocatorSystem (before₁ ++ .initialized regions (.ok ()) :: since₁) fa₁ →
      Run allocatorSystem (before₂ ++ .initialized regions (.ok ()) :: since₂) fa₂ →
      (∀ e ∈ since₁, ¬ e.Restarts) → (∀ e ∈ since₂, ¬ e.Restarts) →
      frames fa₁.free fa₁.freeLen = frames fa₂.free fa₂.freeLen →
      live fa₁.free fa₁.freeLen = live fa₂.free fa₂.freeLen ∧
        ∀ future fa₁', Steps allocatorSystem fa₁ future fa₁' →
          ∃ fa₂', Steps allocatorSystem fa₂ future fa₂' ∧
            live fa₁'.free fa₁'.freeLen = live fa₂'.free fa₂'.freeLen := by
  constructor
  · intro history fa count hrun hcount
    obtain ⟨pool, -, hstands⟩ := allocator_simulates hrun
    rw [hstands.free] at hcount
    obtain ⟨addresses, fa₁, fa', hallocate, hlength, hfree, hstands'⟩ := hstands.undo hcount
    exact ⟨addresses, fa₁, fa', hallocate, hlength, hfree, hstands'.same_list hstands⟩
  · intro regions before₁ since₁ fa₁ before₂ since₂ fa₂ hrun₁ hrun₂ hsince₁ hsince₂ hfree
    obtain ⟨pool₁, hpool₁, hstands₁⟩ := allocator_simulates hrun₁
    obtain ⟨pool₂, hpool₂, hstands₂⟩ := allocator_simulates hrun₂
    have hmanaged : pool₁.managed = pool₂.managed :=
      (pool_managed hpool₁ rfl hsince₁).trans (pool_managed hpool₂ rfl hsince₂).symm
    obtain rfl : pool₁ = pool₂ := by
      rw [hstands₁.free, hstands₂.free] at hfree
      obtain ⟨managed₁, free₁, hsub₁⟩ := pool₁
      obtain ⟨managed₂, free₂, hsub₂⟩ := pool₂
      dsimp only at hmanaged hfree
      subst hmanaged hfree
      rfl
    refine ⟨hstands₁.same_list hstands₂, fun future fa₁' hsteps => ?_⟩
    obtain ⟨fa₂', pool', hsteps₂, h₁', h₂'⟩ := hstands₁.steps_same hstands₂ hsteps
    exact ⟨fa₂', hsteps₂, h₁'.same_list h₂'⟩

/-- Five usable pages in two extents. -/
def fivePages : List MemoryRegion := [⟨0x1000, 2, memoryUsable, 0⟩, ⟨0x5000, 3, memoryUsable, 0⟩]

/-- The allocator of these pages. -/
def fivePageAllocator : FrameAllocator := ((FrameAllocator.initializeRegions fivePages).run .new).2

theorem fivePages_started : Run allocatorSystem [.initialized fivePages (.ok ())] fivePageAllocator := by
  have hstarted : allocatorSystem.step .new (.initialized fivePages (.ok ())) fivePageAllocator :=
    Method.run_eq_of_result (by decide +kernel)
  exact (Run.start rfl).step hstarted

theorem fivePages_frames :
    frames fivePageAllocator.free fivePageAllocator.freeLen = ↑({1, 2, 5, 6, 7} : Finset Nat) := by
  have hlive : live fivePageAllocator.free fivePageAllocator.freeLen = [⟨0x1000, 2⟩, ⟨0x5000, 3⟩] := by
    decide +kernel
  rw [frames, hlive]
  ext x
  rw [List.map_cons, List.map_singleton, mem_points_cons, mem_points_cons, points_nil]
  show (1 ≤ x ∧ x < 3) ∨ (5 ≤ x ∧ x < 8) ∨ x ∈ ∅ ↔ x ∈ ({1, 2, 5, 6, 7} : Finset Nat)
  simp only [Set.mem_empty_iff_false, or_false, Finset.mem_insert, Finset.mem_singleton]
  omega

/-- Two of the pages are handed out. -/
def pagesOut : FrameAllocator :=
  (FrameAllocator.allocateFrame.run (FrameAllocator.allocateFrame.run fivePageAllocator).2).2

/-- The two pages have come back, the first one first. -/
def pagesBack : FrameAllocator :=
  ((FrameAllocator.freeFrame 0x2000).run ((FrameAllocator.freeFrame 0x1000).run pagesOut).2).2

theorem pagesBack_run : Run allocatorSystem ([] ++ .initialized fivePages (.ok ()) ::
    [.allocated (.ok 0x1000), .allocated (.ok 0x2000), .freed 0x1000 (.ok ()),
      .freed 0x2000 (.ok ())]) pagesBack := by
  have h₁ : allocatorSystem.step fivePageAllocator (.allocated (.ok 0x1000)) _ :=
    Method.run_eq_of_result (by decide +kernel)
  have h₂ : allocatorSystem.step _ (.allocated (.ok 0x2000)) pagesOut :=
    Method.run_eq_of_result (by decide +kernel)
  have h₃ : allocatorSystem.step pagesOut (.freed 0x1000 (.ok ())) _ :=
    Method.run_eq_of_result (by decide +kernel)
  have h₄ : allocatorSystem.step _ (.freed 0x2000 (.ok ())) pagesBack :=
    Method.run_eq_of_result (by decide +kernel)
  exact (((fivePages_started.step h₁).step h₂).step h₃).step h₄

/-- Four frames of both extents are allocated and freed; and after two frames came back, in the order
in which they went, all goes on as if they never had. -/
theorem five_pages_undone :
    (∃ addresses fa₁ fa', (FrameAllocator.allocateFrames 4).run fivePageAllocator =
        (.ok addresses, fa₁) ∧ addresses.length = 4 ∧
      (FrameAllocator.freeFrames addresses.reverse).run fa₁ = (.ok (), fa') ∧
      live fa'.free fa'.freeLen = live fivePageAllocator.free fivePageAllocator.freeLen) ∧
    ∀ future fa, Steps allocatorSystem fivePageAllocator future fa →
      ∃ fa', Steps allocatorSystem pagesBack future fa' ∧
        live fa.free fa.freeLen = live fa'.free fa'.freeLen := by
  constructor
  · refine allocation_undone_by_frees.1 _ _ 4 fivePages_started ?_
    rw [fivePages_frames, Set.ncard_coe_finset]
    decide
  · have hsame : live fivePageAllocator.free fivePageAllocator.freeLen =
        live pagesBack.free pagesBack.freeLen := by decide +kernel
    refine (allocation_undone_by_frees.2 fivePages [] [] _ [] _ _ fivePages_started pagesBack_run
      (by simp) (by simp [AllocatorEvent.Restarts]) ?_).2
    rw [frames, hsame, ← frames]

end MakopaVerified.Frames
