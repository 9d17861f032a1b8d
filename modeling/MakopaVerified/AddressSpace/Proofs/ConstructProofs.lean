import MakopaVerified.AddressSpace.Proofs.LifecycleProofs

/-!
# Construction over a backend that is known

What `construct_address_space` leaves when something is known about the calls of its backend: an
assertion about the backend goes from one allocated frame to the next and then from one installed
link to the next. Only allocations may fail; the rollback then starts from the frames so far.
-/

namespace MakopaVerified.AddressSpace

open Foundation List

variable {σ ε α : Type} {B : AddressSpaceBackend σ ε} {generation : UInt64}
  {P : List OwnedFrame → σ → Prop} {F : List OwnedFrame → ε → σ → Prop}
  {L : List OwnedFrame → Nat → σ → Prop} {frames : List OwnedFrame}

/-- Frames of the first roles, in order. -/
def FirstFrames (frames : List OwnedFrame) : Prop :=
  (∃ rest, FrameRole.all = frames.map (·.role) ++ rest) ∧ FramesOk frames

/-- Frames of all roles, in order. -/
def AllFrames (frames : List OwnedFrame) : Prop :=
  frames.map (·.role) = FrameRole.all ∧ FramesOk frames

theorem AllFrames.frameFor (h : AllFrames frames) (role : FrameRole) :
    ∃ frame, FrameLedger.frameFor ⟨frames⟩ role = some frame :=
  frameFor_of_roles h.1 role

/-- `P frames` holds of the backend when the frames are allocated and prepared. An allocation that
fails leaves it with `F`. -/
def Prepares (B : AddressSpaceBackend σ ε) (generation : UInt64) (P : List OwnedFrame → σ → Prop)
    (F : List OwnedFrame → ε → σ → Prop) : Prop :=
  ∀ done role rest s, FrameRole.all = done.map (·.role) ++ role :: rest → FramesOk done → P done s →
    (B.allocateFrame role).Ends s
      (fun frame s₁ => FramesOk (done ++ [⟨role, frame⟩]) ∧
        (B.prepareFrame generation role frame).Ends s₁
          (fun _ s₂ => P (done ++ [⟨role, frame⟩]) s₂) fun _ _ => False)
      fun e s₁ => F done e s₁

/-- `L frames n` holds of the backend when `n` links between the frames are installed. -/
def Links (B : AddressSpaceBackend σ ε) (L : List OwnedFrame → Nat → σ → Prop) : Prop :=
  ∀ frames n link parent child s, AllFrames frames → buildLinks[n]? = some link →
    FrameLedger.frameFor ⟨frames⟩ link.parent = some parent →
    FrameLedger.frameFor ⟨frames⟩ link.child = some child → L frames n s →
    (B.installLink link parent child).Ends s (fun _ s' => L frames (n + 1) s') fun _ _ => False

/-- The construction has ended in the rollback after a failed allocation. -/
def RolledBack (B : AddressSpaceBackend σ ε) (F : List OwnedFrame → ε → σ → Prop)
    (generation : UInt64) (e : Stop (BuildFailure ε)) (s : σ) : Prop :=
  ∃ done err s₁ st, FirstFrames done ∧ F done err s₁ ∧
    (rollbackBuild B (.backend err) : Method _ _ Unit).run
      ⟨⟨generation, true, .building, none, ⟨done⟩⟩, 0, s₁⟩ = (.error e, st) ∧ st.backend = s

/-! ## The frames -/

theorem validateLatest_of_framesOk {done : List OwnedFrame} {role : FrameRole} {frame : UInt64}
    {rest : List FrameRole} (hall : FrameRole.all = done.map (·.role) ++ role :: rest)
    (h : FramesOk (done ++ [⟨role, frame⟩])) :
    FrameLedger.validateLatest ⟨done ++ [⟨role, frame⟩]⟩ = .ok () := by
  have haligned := h.aligned ⟨role, frame⟩ (by simp)
  have hdistinct := h.distinct
  rw [map_append, nodup_append] at hdistinct
  have hroles : (done.map (·.role) ++ role :: rest).Nodup := by
    rw [← hall]
    decide
  rw [nodup_append] at hroles
  have hnew : ¬ (done.any fun owned => owned.physicalStart = frame || owned.role = role) := by
    rw [any_eq_true]
    rintro ⟨owned, howned, hsame⟩
    rw [Bool.or_eq_true, decide_eq_true_eq, decide_eq_true_eq] at hsame
    rcases hsame with hstart | hrole
    · exact hdistinct.2.2 _ (mem_map_of_mem howned) _ (by simp) hstart
    · exact hroles.2.2 _ (mem_map_of_mem howned) _ mem_cons_self hrole
  unfold FrameLedger.validateLatest
  rw [List.getLast?_concat]
  dsimp only
  rw [dropLast_concat, if_neg (not_not.mpr haligned), if_neg hnew]

/-- There is room for the frame of one more role. -/
theorem room_of_roles {done : List OwnedFrame} {role : FrameRole} {rest : List FrameRole}
    (hall : FrameRole.all = done.map (·.role) ++ role :: rest) :
    done.length < taskLedgerCapacity := by
  have htotal := congrArg List.length hall
  rw [length_append, length_map, length_cons] at htotal
  have hseven : FrameRole.all.length = 7 := rfl
  unfold taskLedgerCapacity
  omega

/-- A rollback has no value, so its type does not matter. -/
theorem rollbackBuild_known {cause : BuildCause ε} {st : BuildState σ}
    {Q : α → BuildState σ → Prop} {E : Stop (BuildFailure ε) → BuildState σ → Prop}
    (h : ∀ e st', (rollbackBuild B cause : Method _ _ Unit).run st = (.error e, st') → E e st') :
    (rollbackBuild B cause : Method _ _ α).Ends st Q E := by
  have hrun : ∀ {β : Type}, (rollbackBuild B cause : Method _ _ β).run st =
      rollbackResult cause st.installedLinks
        ((rollbackOwnedFrames B st.installedLinks).run (st.owner, st.backend)) := rfl
  rcases hr : (rollbackOwnedFrames B st.installedLinks).run (st.owner, st.backend) with
    ⟨(_ | _) | _, owner, s⟩
  all_goals
    refine .of_error (hrun.trans (congrArg _ hr)) (h _ _ (hrun.trans (congrArg _ hr)))

/-- A call that may fail into the rollback. -/
theorem backendOrRollback_known {m : Method σ ε α} {st : BuildState σ}
    {Q : α → BuildState σ → Prop} {E : Stop (BuildFailure ε) → BuildState σ → Prop}
    (h : m.Ends st.backend (fun a s => Q a { st with backend := s }) fun e s =>
      (rollbackBuild B (.backend e) : Method _ _ α).Ends { st with backend := s } Q E) :
    (backendOrRollback B m).Ends st Q E := by
  refine .bind (.onPart (.attempt ?_))
  exact h.mono (fun a s hQ => .pure hQ) fun e s hE => hE

theorem allocateRoles_known (hP : Prepares B generation P F) {done : List OwnedFrame}
    {rest : List FrameRole} {s : σ} (hall : FrameRole.all = done.map (·.role) ++ rest)
    (hok : FramesOk done) (h : P done s) :
    (allocateRoles B generation rest).Ends ⟨⟨generation, true, .building, none, ⟨done⟩⟩, 0, s⟩
      (fun _ st => ∃ frames, AllFrames frames ∧ P frames st.backend ∧
        st.owner = ⟨generation, true, .building, none, ⟨frames⟩⟩ ∧ st.installedLinks = 0)
      fun e st => RolledBack B F generation e st.backend := by
  induction rest generalizing done s with
  | nil =>
    rw [append_nil] at hall
    exact .pure ⟨done, ⟨hall.symm, hok⟩, h, rfl, rfl⟩
  | cons role rest ih =>
    have hroom : done.length < taskLedgerCapacity := room_of_roles hall
    refine .bind (backendOrRollback_known ((hP done role rest s hall hok h).mono ?_ ?_))
    · rintro frame s₁ ⟨hok', hprepare⟩
      have hrecord : (AddressSpaceOwner.recordFrame ⟨role, frame⟩).run
          ⟨generation, true, .building, none, ⟨done⟩⟩ =
          (.ok (), ⟨generation, true, .building, none, ⟨done ++ [⟨role, frame⟩]⟩⟩) := by
        rw [run_recordFrame ⟨role, frame⟩ rfl rfl hroom]
        exact congrArg (·, _) (validateLatest_of_framesOk hall hok')
      refine .bind (.bind (.onPart (.of_ok (Method.run_attempt_of hrecord) (.pure ?_))))
      refine .bind (backendOrRollback_known (hprepare.mono (fun _ s₂ hP' => ?_) nofun))
      exact ih (by rw [hall]; simp) hok' hP'
    · intro e s₁ hF
      refine rollbackBuild_known fun e' st' hrun => ?_
      exact ⟨done, e, s₁, st', ⟨⟨_, hall⟩, hok⟩, hF, hrun, rfl⟩

/-! ## The links -/

theorem installLinks_known (hL : Links B L) {n : Nat} {rest : List LinkSpec} {s : σ}
    {E : Stop (BuildFailure ε) → BuildState σ → Prop} (hframes : AllFrames frames)
    (hrest : buildLinks.drop n = rest) (h : L frames n s) :
    (installLinks B rest).Ends ⟨⟨generation, true, .building, none, ⟨frames⟩⟩, n, s⟩
      (fun _ st => L frames (n + rest.length) st.backend ∧
        st.owner = ⟨generation, true, .building, none, ⟨frames⟩⟩) E := by
  induction rest generalizing n s with
  | nil => exact .pure ⟨h, rfl⟩
  | cons link rest ih =>
    have hlink : buildLinks[n]? = some link := by
      have hhead := congrArg List.head? hrest
      rwa [List.head?_drop] at hhead
    have htail : buildLinks.drop (n + 1) = rest := by
      rw [← tail_drop, hrest, tail_cons]
    obtain ⟨parent, hparent⟩ := hframes.frameFor link.parent
    obtain ⟨child, hchild⟩ := hframes.frameFor link.child
    refine .bind (.of_ok (run_expectBuilt hparent) ?_)
    refine .bind (.of_ok (run_expectBuilt hchild) ?_)
    refine .bind (backendOrRollback_known
      ((hL frames n link parent child s hframes hlink hparent hchild h).mono ?_ nofun))
    intro _ s' h'
    refine .bind (.update ?_)
    have hdone := ih htail h'
    rw [Nat.add_right_comm n 1] at hdone
    exact hdone

/-! ## The whole construction -/

theorem AllFrames.published {root : UInt64} (h : AllFrames frames)
    (hroot : FrameLedger.frameFor ⟨frames⟩ .root = some root) :
    AddressSpaceOwner.Published generation ⟨generation, true, .inactive, some root, ⟨frames⟩⟩ :=
  ⟨rfl, rfl, rfl, h.1, h.2.aligned, h.2.distinct, root, rfl, mem_of_frameFor hroot⟩

/-- The root is the first frame of the ledger. -/
theorem AddressSpaceOwner.Published.head {owner : AddressSpaceOwner}
    (h : owner.Published generation) :
    ∃ root rest, owner.root = some root ∧ owner.ledger.frames = ⟨.root, root⟩ :: rest := by
  obtain ⟨root, hroot, hmem⟩ := h.root
  have hroles := h.roles
  cases hframes : owner.ledger.frames with
  | nil =>
    rw [hframes] at hroles
    cases hroles
  | cons f rest =>
    rw [hframes, map_cons] at hroles
    obtain ⟨hrole, hrest⟩ := List.cons.inj hroles
    rw [hframes] at hmem
    rcases mem_cons.mp hmem with rfl | hmem
    · exact ⟨root, rest, hroot, rfl⟩
    · have hnot : FrameRole.root ∈ rest.map (·.role) := mem_map_of_mem hmem
      rw [hrest] at hnot
      exact absurd hnot (by decide)

theorem AddressSpaceOwner.Published.frameFor_root {owner : AddressSpaceOwner} {root : UInt64}
    (h : owner.Published generation) (hroot : owner.root = some root) :
    owner.ledger.frameFor .root = some root := by
  obtain ⟨root', rest, hroot', hframes⟩ := h.head
  rw [hroot] at hroot'
  cases hroot'
  unfold FrameLedger.frameFor
  rw [hframes]
  rfl

/-- The last two lines of `construct_address_space` publish the owner. -/
theorem publish_known (hframes : AllFrames frames) {n : Nat} {s : σ}
    {Q : Unit → BuildState σ → Prop} {E : Stop (BuildFailure ε) → BuildState σ → Prop}
    (h : ∀ owner : AddressSpaceOwner, owner.Published generation → owner.ledger = ⟨frames⟩ →
      Q () ⟨owner, n, s⟩) :
    (expectBuilt .root >>= fun root => ownerOrRollback B (AddressSpaceOwner.publish root)).Ends
      ⟨⟨generation, true, .building, none, ⟨frames⟩⟩, n, s⟩ Q E := by
  obtain ⟨root, hroot⟩ := hframes.frameFor .root
  have hlen : frames.length = taskFrameCount := by
    have hroles := congrArg List.length hframes.1
    rwa [length_map] at hroles
  have hpublish : (AddressSpaceOwner.publish root).run
      ⟨generation, true, .building, none, ⟨frames⟩⟩ =
        (.ok (), ⟨generation, true, .inactive, some root, ⟨frames⟩⟩) :=
    run_publish rfl rfl hroot hlen
  refine .bind (.of_ok (run_expectBuilt hroot) ?_)
  exact .bind (.onPart (.of_ok (Method.run_attempt_of hpublish)
    (.pure (h _ (hframes.published hroot) rfl))))

/-- `construct_address_space` ends as the loops and the publication do. -/
theorem construct_of_build (hgeneration : generation ≠ 0) {s : σ}
    {Q : AddressSpaceOwner → σ → Prop} {E : Stop (BuildFailure ε) → σ → Prop}
    (h : (buildOwner B generation).Ends ⟨⟨generation, true, .building, none, .new⟩, 0, s⟩
      (fun _ st => Q st.owner st.backend) fun e st => E e st.backend) :
    (constructAddressSpace B generation).Ends s Q E := by
  have hbegin : AddressSpaceOwner.begin generation =
      .ok ⟨generation, true, .building, none, .new⟩ := if_neg hgeneration
  have hrun : (constructAddressSpace B generation).run s = constructResult
      ((buildOwner B generation).run ⟨⟨generation, true, .building, none, .new⟩, 0, s⟩) := by
    unfold constructAddressSpace
    simp only [Method.run, hbegin]
  rcases hr : (buildOwner B generation).run ⟨⟨generation, true, .building, none, .new⟩, 0, s⟩ with
    ⟨_ | _, st⟩
  · rw [hr] at hrun
    exact .of_error hrun (h.error hr)
  · rw [hr] at hrun
    exact .of_ok hrun (h.ok hr)

theorem framesOk_nil : FramesOk [] := ⟨nofun, nodup_nil⟩

theorem constructAddressSpace_known (hgeneration : generation ≠ 0) (hP : Prepares B generation P F)
    (hL : Links B L) (hlinked : ∀ frames s, AllFrames frames → P frames s → L frames 0 s) {s : σ}
    (hstart : P [] s) :
    (constructAddressSpace B generation).Ends s
      (fun owner s' => owner.Published generation ∧ L owner.ledger.frames buildLinks.length s')
      fun e s' => RolledBack B F generation e s' := by
  refine construct_of_build hgeneration ?_
  refine .bind ((allocateRoles_known hP rfl framesOk_nil hstart).mono ?_ fun _ _ he => he)
  rintro _ ⟨owner, installed, s₁⟩ ⟨frames, hframes, hprepared, howner, hinstalled⟩
  obtain rfl : owner = _ := howner
  obtain rfl : installed = 0 := hinstalled
  refine .bind ((installLinks_known hL hframes rfl (hlinked frames s₁ hframes hprepared)).mono ?_
    fun _ _ he => he)
  rintro _ ⟨owner, installed, s₂⟩ ⟨hlinks, howner⟩
  obtain rfl : owner = _ := howner
  rw [Nat.zero_add] at hlinks
  refine publish_known hframes fun owner hpublished hledger => ⟨hpublished, ?_⟩
  show L owner.ledger.frames _ s₂
  rw [hledger]
  exact hlinks

end MakopaVerified.AddressSpace
