import MakopaVerified.Frames.Proofs.ExtentProofs

/-!
# `free_frame`

The scan finds where a frame goes among the free extents, and each of the four ways to put it there
replaces at most two neighbours by one extent that covers them and the frame.
-/

namespace MakopaVerified.Frames

open Foundation BootContract List

namespace FrameAllocator

variable {fa : FrameAllocator} {pool : FramePool} {p q : UInt64} {x : Nat}
  {before after : List Extent} {l r : Extent}

/-! ## Finding the place -/

/-- The loop passes the extents that stop at or before the frame. -/
theorem scanFree_spec (h : ExtentsOk fa.free fa.freeLen) (hp : p.toNat = x * 4096)
    (hq : q.toNat = p.toNat + 4096) {insertion passes : Nat}
    (hpasses : insertion + passes = fa.freeLen) :
    (fa.scanFree p q insertion passes = .error .duplicate ∧ x ∈ frames fa.free fa.freeLen) ∨
      ∃ k, fa.scanFree p q insertion passes = .ok k ∧ k ≤ fa.freeLen ∧
        (∀ j, insertion ≤ j → j < k → (extentAt fa.free j).span.stop ≤ x) ∧
        (k < fa.freeLen → x ≤ (extentAt fa.free k).span.first) := by
  induction passes generalizing insertion with
  | zero => exact .inr ⟨insertion, rfl, by omega, by omega, by omega⟩
  | succ passes ih =>
    have hmem := extentAt_mem h (i := insertion) (by omega)
    have hfits := h.fits _ hmem
    have hstart := start_toNat hfits
    have hcontains := containsFrame_iff hfits hp hq
    unfold scanFree
    by_cases hlt : (extentAt fa.free insertion).physicalStart < p
    · rw [if_pos hlt]
      rw [UInt64.lt_iff_toNat_lt] at hlt
      by_cases hhas : (extentAt fa.free insertion).span.Has x
      · rw [if_pos (hcontains.mpr hhas)]
        exact .inl ⟨rfl, mem_frames.mpr ⟨_, hmem, hhas⟩⟩
      · rw [if_neg fun hc => hhas (hcontains.mp hc)]
        have hstop : (extentAt fa.free insertion).span.stop ≤ x := by
          unfold Span.Has at hhas
          omega
        have hpasses' : insertion + 1 + passes = fa.freeLen := by omega
        rcases ih hpasses' with hdup | ⟨k, hk, hle, hpassed, hnext⟩
        · exact .inl hdup
        · refine .inr ⟨k, hk, hle, fun j hj hjk => ?_, hnext⟩
          rcases Nat.eq_or_lt_of_le hj with rfl | hj
          · exact hstop
          · exact hpassed j hj hjk
    · rw [if_neg hlt]
      rw [UInt64.lt_iff_toNat_lt] at hlt
      exact .inr ⟨insertion, rfl, by omega, by omega, fun _ => by omega⟩

/-- Either the frame is free already, or the free extents split into those that stop at or before
it and those that start after it. -/
theorem findInsertion_spec (h : ExtentsOk fa.free fa.freeLen) (hp : p.toNat = x * 4096)
    (hq : q.toNat = p.toNat + 4096) :
    (fa.findInsertion p q = .error .duplicate ∧ x ∈ frames fa.free fa.freeLen) ∨
      ∃ before after, fa.findInsertion p q = .ok before.length ∧
        live fa.free fa.freeLen = before ++ after ∧
        (∀ e ∈ before, e.span.stop ≤ x) ∧ ∀ e ∈ after, x < e.span.first := by
  unfold findInsertion
  rcases scanFree_spec h hp hq (Nat.zero_add _) with ⟨hscan, hmem⟩ | ⟨k, hscan, hle, hpassed, hnext⟩
  · rw [hscan]
    exact .inl ⟨rfl, hmem⟩
  rw [hscan]
  simp only [bind, Except.bind]
  by_cases hhas : k < fa.freeLen ∧ (extentAt fa.free k).containsFrame p q
  · rw [if_pos hhas]
    have hmem := extentAt_mem h hhas.1
    exact .inl ⟨rfl, mem_frames.mpr
      ⟨_, hmem, (containsFrame_iff (h.fits _ hmem) hp hq).mp hhas.2⟩⟩
  rw [if_neg hhas]
  have hlen := length_extents h
  have hsplit := (take_append_drop k (live fa.free fa.freeLen)).symm
  refine .inr ⟨_, _, ?_, hsplit, ?_, ?_⟩
  · rw [length_take, hlen, Nat.min_eq_left hle]
  · intro e he
    obtain ⟨j, hj⟩ := mem_iff_getElem?.mp he
    rw [List.getElem?_take] at hj
    split at hj
    · rename_i hjk
      rw [getElem?_extents h (by omega), Option.some.injEq] at hj
      rw [← hj]
      exact hpassed j (Nat.zero_le j) hjk
    · cases hj
  · intro e he
    by_cases hk : k < fa.freeLen
    · -- the frame is not in the first extent behind it, and the others start later still
      have hmem := extentAt_mem h hk
      have hfits := h.fits _ hmem
      have hpos := h.size_pos hmem
      have hfirst : x < (extentAt fa.free k).span.first := by
        have hnot : ¬ (extentAt fa.free k).span.Has x := fun hc =>
          hhas ⟨hk, (containsFrame_iff hfits hp hq).mpr hc⟩
        have hle' := hnext hk
        unfold Span.Has Span.stop at hnot
        omega
      rw [drop_eq_getElem_cons (by omega)] at he hsplit
      have hat : (live fa.free fa.freeLen)[k] = extentAt fa.free k := by
        have hget := getElem?_extents h hk
        rw [List.getElem?_eq_getElem (by omega), Option.some.injEq] at hget
        exact hget
      rw [hat] at he hsplit
      rcases mem_cons.mp he with rfl | he
      · exact hfirst
      · have hgap := h.split ((append_cons _ _ _).symm.trans hsplit.symm).symm
          (extentAt fa.free k) (by simp) e he
        unfold Span.stop at hgap
        omega
    · rw [drop_eq_nil_of_le (by omega)] at he
      cases he

/-! ## The neighbours -/

/-- The frame joins an extent on its left exactly when the last one before it stops there. -/
theorem joinsLeft_spec (h : ExtentsOk fa.free fa.freeLen) (hp : p.toNat = x * 4096)
    (hsplit : live fa.free fa.freeLen = before ++ after) (hbefore : ∀ e ∈ before, e.span.stop ≤ x) :
    (fa.joinsLeft before.length p = .ok true ∧ ∃ rest l, before = rest ++ [l] ∧ l.span.stop = x) ∨
      (fa.joinsLeft before.length p = .ok false ∧ ∀ e ∈ before, e.span.stop < x) := by
  unfold joinsLeft
  rcases eq_nil_or_concat before with rfl | ⟨rest, l, rfl⟩
  · exact .inr ⟨rfl, by simp⟩
  rw [concat_eq_append] at *
  have hsplit' : live fa.free fa.freeLen = rest ++ l :: after := by rw [hsplit]; simp
  have hat := extentAt_middle h hsplit'
  have hmem : l ∈ live fa.free fa.freeLen := by rw [hsplit']; simp
  have hfits := h.fits l hmem
  have hlast := hbefore l (by simp)
  obtain ⟨stop, hstop⟩ := hfits.exists_rangeEnd
  have hstop' := (endAddress_eq_some hfits).mp hstop
  rw [if_neg (by simp), length_append, length_singleton, Nat.add_sub_cancel, hat,
    show l.endAddress = some stop from hstop]
  dsimp only
  by_cases hjoin : l.span.stop = x
  · refine .inl ⟨?_, rest, l, rfl, hjoin⟩
    rw [decide_eq_true]
    rw [← UInt64.toNat_inj]
    omega
  · refine .inr ⟨?_, ?_⟩
    · rw [decide_eq_false]
      rw [← UInt64.toNat_inj]
      omega
    · intro e he
      rcases mem_append.mp he with he | he
      · have hgap := h.split hsplit' e he l (by simp)
        have hpos := h.size_pos hmem
        unfold Span.stop at hlast hgap ⊢
        omega
      · obtain rfl := mem_singleton.mp he
        omega

/-- The frame joins an extent on its right exactly when the first one after it starts there. -/
theorem joinsRight_spec (h : ExtentsOk fa.free fa.freeLen) (hq : q.toNat = (x + 1) * 4096)
    (hsplit : live fa.free fa.freeLen = before ++ after) (hafter : ∀ e ∈ after, x < e.span.first) :
    (fa.joinsRight before.length q = true ∧ ∃ r rest, after = r :: rest ∧ r.span.first = x + 1) ∨
      (fa.joinsRight before.length q = false ∧ ∀ e ∈ after, x + 1 < e.span.first) := by
  have hlen := length_extents h
  rw [hsplit, length_append] at hlen
  unfold joinsRight
  cases after with
  | nil =>
    rw [length_nil, Nat.add_zero] at hlen
    exact .inr ⟨decide_eq_false fun hc => absurd hc.1 (by omega), by simp⟩
  | cons r rest =>
    have hat := extentAt_middle h hsplit
    have hmem : r ∈ live fa.free fa.freeLen := by rw [hsplit]; simp
    have hstart := start_toNat (h.fits r hmem)
    have hfirst := hafter r (by simp)
    rw [length_cons] at hlen
    by_cases hjoin : r.span.first = x + 1
    · refine .inl ⟨decide_eq_true ⟨by omega, ?_⟩, r, rest, rfl, hjoin⟩
      rw [hat, ← UInt64.toNat_inj]
      omega
    · refine .inr ⟨decide_eq_false fun hc => hjoin ?_, ?_⟩
      · have heq := hc.2
        rw [hat, ← UInt64.toNat_inj] at heq
        omega
      · intro e he
        rcases mem_cons.mp he with rfl | he
        · omega
        · have hgap := h.split (append_cons _ _ _ ▸ hsplit) r (by simp) e he
          unfold Span.stop at hgap
          omega

/-! ## The four arms -/

/-- What putting the frame `x` back among the free extents has to achieve. -/
def PutBack (fa : FrameAllocator) (x : Nat) (result : Except FreeError FrameAllocator) : Prop :=
  ∃ free freeLen, result = .ok { fa with free := free, freeLen := freeLen } ∧
    ExtentsOk free freeLen ∧ frames free freeLen = insert x (frames fa.free fa.freeLen)

/-- The frame between two extents: the left one takes the frame and the right one. -/
theorem giveBack_both (h : ExtentsOk fa.free fa.freeLen)
    (hsplit : live fa.free fa.freeLen = (before ++ [l]) ++ r :: after) (hl : l.span.stop = x)
    (hr : r.span.first = x + 1) :
    PutBack fa x (fa.giveBack (before ++ [l]).length p true true) := by
  have hsplit' : live fa.free fa.freeLen = before ++ ([l, r] ++ after) := by rw [hsplit]; simp
  have hlmem : l ∈ live fa.free fa.freeLen := by rw [hsplit']; simp
  have hrmem : r ∈ live fa.free fa.freeLen := by rw [hsplit']; simp
  have hlstart := start_toNat (h.fits l hlmem)
  have hrstart := start_toNat (h.fits r hrmem)
  have hinside := (h.fits r hrmem).inside
  have hlsize := pageCount_toNat (e := l)
  have hrsize := pageCount_toNat (e := r)
  unfold Span.stop at hl
  -- the right extent stops at an address, so the sum of the pages does not overflow
  have hsum : (l.pageCount + 1).toNat = l.pageCount.toNat + 1 :=
    toNat_add_of_lt (show l.pageCount.toNat + 1 < 2 ^ 64 by omega)
  have hsum' : (l.pageCount + 1 + r.pageCount).toNat =
      l.pageCount.toNat + 1 + r.pageCount.toNat := by
    rw [toNat_add_of_lt (by omega), hsum]
  have hpages : (checkedAdd l.pageCount 1).bind (checkedAdd · r.pageCount) =
      some (l.pageCount + 1 + r.pageCount) := by
    rw [checkedAdd_eq_some.mpr hsum, Option.bind_some, checkedAdd_eq_some]
    omega
  obtain ⟨hfits, hspan⟩ := pageRange_of_span hlstart
    (show l.span.first * 4096 + (l.pageCount + 1 + r.pageCount).toNat * 4096 < 2 ^ 64 by omega)
  have hlen := length_extents h
  have hle := h.len_le
  rw [hsplit', length_append, length_append] at hlen
  have hmodified := live_modifyExtent h hsplit' fun e =>
    { e with pageCount := l.pageCount + 1 + r.pageCount }
  have hgive : fa.giveBack (before ++ [l]).length p true true =
      .ok (removeFreeExtent (before.length + 1)
        { fa with free := modifyExtent fa.free before.length fun e =>
          { e with pageCount := l.pageCount + 1 + r.pageCount } }) := by
    have hprevious : (before ++ [l]).length - 1 = before.length := by simp
    unfold giveBack
    dsimp only
    rw [extentAt_middle h hsplit, hprevious, extentAt_middle h hsplit', hpages]
    simp
  refine ⟨_, _, hgive, h.replace hsplit' (m := ⟨l.physicalStart, l.pageCount + 1 + r.pageCount⟩)
    ?_ ?_ hfits ?_ ?_ ?_⟩
  · show live (shiftDown _ (before.length + 1 + 1) (fa.freeLen - (before.length + 1 + 1)))
      (fa.freeLen - 1) = _
    rw [live_shiftDown (by simp at hlen; omega) hle, hmodified,
      eraseIdx_append_of_length_le (by omega)]
    simp
  · show fa.freeLen - 1 ≤ _
    omega
  · intro y
    rw [hspan]
    simp only [mem_cons, not_mem_nil, or_false, exists_eq_or_imp, exists_eq_left,
      Span.Has, Span.stop]
    omega
  · intro e he
    rw [hspan]
    exact h.split hsplit' e he l (by simp)
  · intro e he
    have hgap := h.split (show _ = (before ++ [l, r]) ++ after by rw [hsplit']; simp) r (by simp) e he
    rw [hspan]
    unfold Span.stop at hgap ⊢
    dsimp only
    omega

/-- The frame behind an extent and apart from the next. -/
theorem giveBack_left (h : ExtentsOk fa.free fa.freeLen)
    (hsplit : live fa.free fa.freeLen = (before ++ [l]) ++ after) (hl : l.span.stop = x)
    (hx : x * 4096 + 4096 < 2 ^ 64) (hafter : ∀ e ∈ after, x + 1 < e.span.first) :
    PutBack fa x (fa.giveBack (before ++ [l]).length p true false) := by
  have hsplit' : live fa.free fa.freeLen = before ++ ([l] ++ after) := by rw [hsplit]; simp
  have hlmem : l ∈ live fa.free fa.freeLen := by rw [hsplit']; simp
  have hlstart := start_toNat (h.fits l hlmem)
  have hlsize := pageCount_toNat (e := l)
  unfold Span.stop at hl
  have hsum : (l.pageCount + 1).toNat = l.pageCount.toNat + 1 :=
    toNat_add_of_lt (show l.pageCount.toNat + 1 < 2 ^ 64 by omega)
  have hend : l.span.first * 4096 + (l.pageCount + 1).toNat * 4096 = x * 4096 + 4096 := by omega
  obtain ⟨hfits, hspan⟩ := pageRange_of_span hlstart (lt_of_eq_of_lt hend hx)
  have hgive : fa.giveBack (before ++ [l]).length p true false =
      .ok { fa with free := modifyExtent fa.free before.length fun e =>
        { e with pageCount := l.pageCount + 1 } } := by
    have hprevious : (before ++ [l]).length - 1 = before.length := by simp
    unfold giveBack
    dsimp only
    rw [hprevious, extentAt_middle h hsplit', checkedAdd_eq_some.mpr hsum]
  refine ⟨_, _, hgive, h.replace hsplit' (live_modifyExtent h hsplit' _) h.len_le hfits ?_ ?_ ?_⟩
  · intro y
    rw [hspan]
    simp only [mem_cons, not_mem_nil, or_false, exists_eq_left, Span.Has, Span.stop]
    omega
  · intro e he
    rw [hspan]
    exact h.split hsplit' e he l (by simp)
  · intro e he
    have hgap := hafter e he
    rw [hspan]
    unfold Span.stop
    dsimp only
    omega

/-- The frame in front of an extent and apart from the one before. -/
theorem giveBack_right (h : ExtentsOk fa.free fa.freeLen) (hp : p.toNat = x * 4096)
    (hsplit : live fa.free fa.freeLen = before ++ r :: after)
    (hbefore : ∀ e ∈ before, e.span.stop < x) (hr : r.span.first = x + 1) :
    PutBack fa x (fa.giveBack before.length p false true) := by
  have hsplit' : live fa.free fa.freeLen = before ++ ([r] ++ after) := hsplit
  have hrmem : r ∈ live fa.free fa.freeLen := by rw [hsplit]; simp
  have hrstart := start_toNat (h.fits r hrmem)
  have hinside := (h.fits r hrmem).inside
  have hrsize := pageCount_toNat (e := r)
  have hsum : (r.pageCount + 1).toNat = r.pageCount.toNat + 1 :=
    toNat_add_of_lt (show r.pageCount.toNat + 1 < 2 ^ 64 by omega)
  obtain ⟨hfits, hspan⟩ := pageRange_of_span hp
    (show x * 4096 + (r.pageCount + 1).toNat * 4096 < 2 ^ 64 by omega)
  have hgive : fa.giveBack before.length p false true =
      .ok { fa with free := modifyExtent fa.free before.length fun _ => ⟨p, r.pageCount + 1⟩ } := by
    unfold giveBack
    dsimp only
    rw [extentAt_middle h hsplit, checkedAdd_eq_some.mpr hsum]
  refine ⟨_, _, hgive, h.replace hsplit' (live_modifyExtent h hsplit' _) h.len_le hfits ?_ ?_ ?_⟩
  · intro y
    rw [hspan]
    simp only [mem_cons, not_mem_nil, or_false, exists_eq_left, Span.Has, Span.stop]
    omega
  · intro e he
    rw [hspan]
    exact hbefore e he
  · intro e he
    have hgap := h.split (show _ = (before ++ [r]) ++ after by rw [hsplit]; simp) r (by simp) e he
    rw [hspan]
    unfold Span.stop at hgap ⊢
    dsimp only
    omega

/-- The frame apart from every extent, with room for one more. -/
theorem giveBack_alone (h : ExtentsOk fa.free fa.freeLen) (hp : p.toNat = x * 4096)
    (hx : x * 4096 + 4096 < 2 ^ 64) (hsplit : live fa.free fa.freeLen = before ++ after)
    (hbefore : ∀ e ∈ before, e.span.stop < x) (hafter : ∀ e ∈ after, x + 1 < e.span.first)
    (hroom : fa.freeLen ≠ maxFrameExtents) :
    PutBack fa x (fa.giveBack before.length p false false) := by
  have hsplit' : live fa.free fa.freeLen = before ++ ([] ++ after) := hsplit
  obtain ⟨hfits, hspan⟩ := pageRange_of_span hp
    (show x * 4096 + (1 : UInt64).toNat * 4096 < 2 ^ 64 from hx)
  change _ = (⟨x, 1⟩ : Span) at hspan
  have hlen := length_extents h
  have hle := h.len_le
  rw [hsplit, length_append] at hlen
  have hgive : fa.giveBack before.length p false false =
      .ok { fa with
        free := (shiftUp fa.free before.length (fa.freeLen - before.length)).setIfInBounds
          before.length ⟨p, 1⟩
        freeLen := fa.freeLen + 1 } := if_neg hroom
  refine ⟨_, _, hgive, h.replace hsplit' (m := ⟨p, 1⟩) ?_ (by omega) hfits ?_ ?_ ?_⟩
  · rw [live_shiftUp (by omega) (by omega), hsplit]
    exact insertIdx_between before after
  · intro y
    rw [hspan]
    simp only [not_mem_nil, false_and, exists_false, or_false, Span.Has, Span.stop]
    omega
  · intro e he
    rw [hspan]
    exact hbefore e he
  · intro e he
    have hgap := hafter e he
    rw [hspan]
    unfold Span.stop
    dsimp only
    omega

/-! ## The whole call -/

/-- A frame next to a free one is not isolated. -/
theorem not_isolated (h : ExtentsOk fa.free fa.freeLen) {e : Extent}
    (he : e ∈ live fa.free fa.freeLen) (hnext : e.span.stop = x ∨ e.span.first = x + 1) :
    ¬ Isolated (frames fa.free fa.freeLen) x := by
  have hpos := h.size_pos he
  rintro ⟨hright, hleft⟩
  rcases hnext with hstop | hfirst
  · refine hleft (x - 1) ?_ (mem_frames.mpr ⟨e, he, ?_⟩)
    · unfold Span.stop at hstop
      omega
    · unfold Span.Has Span.stop at *
      omega
  · refine hright (mem_frames.mpr ⟨e, he, ?_⟩)
    unfold Span.Has Span.stop
    omega

/-- A frame away from the extents on both sides is isolated. -/
theorem isolated_of_apart (hsplit : live fa.free fa.freeLen = before ++ after)
    (hbefore : ∀ e ∈ before, e.span.stop < x) (hafter : ∀ e ∈ after, x + 1 < e.span.first) :
    Isolated (frames fa.free fa.freeLen) x := by
  have hside : ∀ y, y + 1 = x ∨ y = x + 1 → y ∉ frames fa.free fa.freeLen := by
    intro y hy hmem
    obtain ⟨e, he, hhas⟩ := mem_frames.mp hmem
    rw [hsplit, mem_append] at he
    unfold Span.Has at hhas
    rcases he with he | he
    · have hgap := hbefore e he
      omega
    · have hgap := hafter e he
      omega
  exact ⟨hside _ (.inr rfl), fun y hy => hside y (.inl hy)⟩

theorem notMem_of_split (hsplit : live fa.free fa.freeLen = before ++ after)
    (hbefore : ∀ e ∈ before, e.span.stop ≤ x) (hafter : ∀ e ∈ after, x < e.span.first) :
    x ∉ frames fa.free fa.freeLen := by
  intro hmem
  obtain ⟨e, he, hhas⟩ := mem_frames.mp hmem
  rw [hsplit, mem_append] at he
  unfold Span.Has at hhas
  rcases he with he | he
  · have hgap := hbefore e he
    omega
  · have hgap := hafter e he
    omega

/-- The three ways to end for a managed frame. -/
theorem freeManaged_spec (h : ExtentsOk fa.free fa.freeLen) (hp : p.toNat = x * 4096)
    (hq : q.toNat = p.toNat + 4096) :
    (x ∈ frames fa.free fa.freeLen ∧ fa.freeManaged p q = .error .duplicate) ∨
      (x ∉ frames fa.free fa.freeLen ∧
        ((Isolated (frames fa.free fa.freeLen) x ∧ fa.freeLen = maxFrameExtents ∧
            fa.freeManaged p q = .error .capacityExceeded) ∨
          (¬ (Isolated (frames fa.free fa.freeLen) x ∧ fa.freeLen = maxFrameExtents) ∧
            PutBack fa x (fa.freeManaged p q)))) := by
  unfold freeManaged
  rcases findInsertion_spec h hp hq with ⟨hfind, hmem⟩ | ⟨before, after, hfind, hsplit, hb, ha⟩
  · rw [hfind]
    exact .inl ⟨hmem, rfl⟩
  refine .inr ⟨notMem_of_split hsplit hb ha, ?_⟩
  have hx : x * 4096 + 4096 < 2 ^ 64 := by
    rw [← hp, ← hq]
    exact toNat_lt q
  have hq' : q.toNat = (x + 1) * 4096 := by rw [hq, hp, Nat.add_mul, Nat.one_mul]
  rw [hfind]
  rcases joinsLeft_spec h hp hsplit hb with ⟨hleft, rest, l, rfl, hl⟩ | ⟨hleft, hlapart⟩ <;>
    rcases joinsRight_spec h hq' hsplit ha with
      ⟨hright, r, rest', rfl, hr⟩ | ⟨hright, hrapart⟩
  · refine .inr ⟨fun hfull => ?_, ?_⟩
    · exact not_isolated h (by rw [hsplit]; simp) (.inl hl) hfull.1
    · simp only [bind, Except.bind, hleft, hright]
      exact giveBack_both h hsplit hl hr
  · refine .inr ⟨fun hfull => ?_, ?_⟩
    · exact not_isolated h (by rw [hsplit]; simp) (.inl hl) hfull.1
    · simp only [bind, Except.bind, hleft, hright]
      exact giveBack_left h hsplit hl hx hrapart
  · refine .inr ⟨fun hfull => ?_, ?_⟩
    · exact not_isolated h (by rw [hsplit]; simp) (.inr hr) hfull.1
    · simp only [bind, Except.bind, hleft, hright]
      exact giveBack_right h hp hsplit hlapart hr
  · simp only [bind, Except.bind, hleft, hright]
    by_cases hfull : fa.freeLen = maxFrameExtents
    · exact .inl ⟨isolated_of_apart hsplit hlapart hrapart, hfull, if_pos hfull⟩
    · exact .inr ⟨fun hc => hfull hc.2, giveBack_alone h hp hx hsplit hlapart hrapart hfull⟩

theorem managed_any_iff (h : ExtentsOk fa.managed fa.managedLen) (hp : p.toNat = x * 4096)
    (hq : q.toNat = p.toNat + 4096) :
    (live fa.managed fa.managedLen).any (·.containsFrame p q) = true ↔
      x ∈ frames fa.managed fa.managedLen := by
  rw [any_eq_true, mem_frames]
  constructor
  · rintro ⟨e, he, hc⟩
    exact ⟨e, he, (containsFrame_iff (h.fits e he) hp hq).mp hc⟩
  · rintro ⟨e, he, hc⟩
    exact ⟨e, he, (containsFrame_iff (h.fits e he) hp hq).mpr hc⟩

/-- `free_frame` takes the frame back, or says why not and changes nothing. -/
theorem freeFrame_spec (h : Stands fa pool) (address : UInt64) :
    (∃ e, pool.refusal address = some e ∧ (freeFrame address).run fa = (.error e, fa)) ∨
      ∃ (hm : frameNumber address ∈ pool.managed) (fa' : FrameAllocator),
        pool.refusal address = none ∧ (freeFrame address).run fa = (.ok (), fa') ∧
          Stands fa' (pool.put (frameNumber address) hm) := by
  unfold freeFrame FramePool.refusal
  by_cases haligned : address.toNat % 4096 = 0
  swap
  · rw [if_pos haligned, if_pos fun hz => haligned (mod_pageSize.mp hz)]
    exact .inl ⟨_, rfl, rfl⟩
  rw [if_neg (not_not.mpr haligned), if_neg (not_not.mpr (mod_pageSize.mpr haligned))]
  by_cases hover : 2 ^ 64 ≤ address.toNat + 4096
  · rw [if_pos hover, checkedAdd_eq_none.mpr (by rw [pageSize_toNat]; exact hover)]
    exact .inl ⟨_, rfl, rfl⟩
  have hend : checkedAdd address pageSize = some (address + pageSize) :=
    if_pos (by rw [pageSize_toNat]; omega)
  have hq := checkedAdd_eq_some.mp hend
  rw [pageSize_toNat] at hq
  have hp : address.toNat = frameNumber address * 4096 := by
    unfold frameNumber
    omega
  rw [if_neg hover, hend]
  dsimp only
  rw [Method.run_bind, Method.run_self]
  dsimp only
  have hmanaged := managed_any_iff h.managedOk hp hq
  rw [h.managed] at hmanaged
  by_cases hm : frameNumber address ∈ pool.managed
  swap
  · rw [if_pos hm, if_pos fun hc => hm (hmanaged.mp hc)]
    exact .inl ⟨_, rfl, rfl⟩
  rw [if_neg (not_not.mpr hm), if_neg (not_not.mpr (hmanaged.mpr hm))]
  have hspec := freeManaged_spec h.freeOk hp hq
  have hcount := ncard_runStarts_frames h.freeOk
  rw [h.free] at hspec hcount
  unfold FramePool.NoRoom
  rw [hcount]
  rcases hspec with ⟨hfree, hrun⟩ | ⟨hfree, ⟨halone, hfull, hrun⟩ | ⟨hroom, hrun⟩⟩
  · rw [if_pos hfree, hrun]
    exact .inl ⟨_, rfl, rfl⟩
  · rw [if_neg hfree, if_pos ⟨halone, hfull⟩, hrun]
    exact .inl ⟨_, rfl, rfl⟩
  · obtain ⟨free, freeLen, hrun, hok, hframes⟩ := hrun
    rw [if_neg hfree, if_neg hroom, hrun]
    rw [h.free] at hframes
    exact .inr ⟨hm, _, rfl, rfl, ⟨h.managedOk, hok, h.managed, hframes⟩⟩

end FrameAllocator

end MakopaVerified.Frames
