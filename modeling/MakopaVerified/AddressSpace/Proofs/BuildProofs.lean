import MakopaVerified.AddressSpace.Proofs.UnwindProofs

/-!
# `construct_address_space`

While an address space is built, the ledger has the frames that the log shows as allocated, and the
count of links is that of the links in the log. Whatever call fails, the rollback therefore unwinds
what the log shows.
-/

namespace MakopaVerified.AddressSpace

open Foundation Method List

variable {σ ε α : Type} {B : AddressSpaceBackend σ ε} {st : BuildState (σ × List (Call ε))}
  {base calls : List (Call ε)} {s : σ} {generation : UInt64}

theorem allocatedFrames_append (calls calls' : List (Call ε)) :
    allocatedFrames (calls ++ calls') = allocatedFrames calls ++ allocatedFrames calls' :=
  filterMap_append

/-! ## What a rollback finds -/

/-- The local variables agree with the calls made since the log was `base`. -/
structure Consistent (base calls : List (Call ε)) (st : BuildState (σ × List (Call ε))) :
    Prop where
  log : st.backend.2 = base ++ calls
  builds : ∀ c ∈ calls, c.Builds
  ledger : st.owner.ledger.frames = allocatedFrames calls
  links : installedLinks calls =
    (buildLinks.take st.installedLinks).map (withFrames st.owner.ledger)
  ends : ∀ link ∈ buildLinks.take st.installedLinks, HasEnds st.owner.ledger link

/-- How a failed construction ends: what was built is unwound, and what the backend did not take
back is in the ledger of the failure. -/
structure Aborted (failure : BuildFailure ε) (calls : List (Call ε)) : Prop where
  orderly : Orderly calls
  frames : allocatedFrames calls = failure.retained.frames ++ (returnedFrames calls).reverse

/-- The construction has failed, with the calls made since the log was `base`. -/
def AbortedSince (base : List (Call ε)) (e : Stop (BuildFailure ε)) (log : List (Call ε)) : Prop :=
  ∃ failure calls, e = .failed failure ∧ log = base ++ calls ∧ Aborted failure calls

theorem returnedFrames_of_builds (h : ∀ c ∈ calls, c.Builds) : returnedFrames calls = [] := by
  refine filterMap_eq_nil_iff.mpr fun c hc => ?_
  have hb := h c hc
  cases c <;> first | rfl | exact absurd hb id

theorem allocatedFrames_of_unwinding {frames : List OwnedFrame} {links : List InstalledLink}
    {r : Except ε Unit} (h : Follows (unwinding frames links) calls r) :
    allocatedFrames calls = [] := by
  refine filterMap_eq_nil_iff.mpr (h.forall_mem ?_)
  intro call hcall r
  simp only [unwinding, mem_append, mem_map, mem_cons] at hcall
  rcases hcall with ⟨l, -, rfl⟩ | ⟨root, -, rfl⟩ | rfl | rfl | ⟨frame, -, rfl⟩ <;> rfl

theorem run_rollbackBuild {τ : Type} (B : AddressSpaceBackend τ ε) (cause : BuildCause ε)
    (s : BuildState τ) :
    (rollbackBuild B cause : Method _ _ α).run s = rollbackResult cause s.installedLinks
      ((rollbackOwnedFrames B s.installedLinks).run (s.owner, s.backend)) := rfl

/-- A rollback from a consistent state. -/
theorem rollbackBuild_ends (h : Consistent base calls st) (cause : BuildCause ε)
    {Q : α → _ → Prop} :
    (rollbackBuild B.logged cause : Method _ _ α).Ends st Q
      fun e st' => AbortedSince base e st'.backend.2 := by
  obtain ⟨owner, installed, s, log⟩ := st
  have hunwinds := unwinds_rollback (B := B) h.ends s log
  -- the failure has the ledger that the rollback leaves
  have haborted : ∀ {r : Except ε Unit} {rollbackError : Option ε}
      {st' : AddressSpaceOwner × (σ × List (Call ε))},
      Released owner.ledger.frames log (unwinding owner.ledger.frames
        ((buildLinks.take installed).map (withFrames owner.ledger))) r st' →
      AbortedSince base (.failed ⟨cause, rollbackError, st'.1.ledger⟩) st'.2.2 := by
    rintro r rollbackError st' ⟨unwind, hlog, hfollows, hkept⟩
    have hbase : log = base ++ calls := h.log
    have hframes : owner.ledger.frames = allocatedFrames calls := h.ledger
    have hlinks : installedLinks calls =
        (buildLinks.take installed).map (withFrames owner.ledger) := h.links
    refine ⟨_, calls ++ unwind, rfl, by rw [hlog, hbase, append_assoc],
      ⟨calls, unwind, rfl, h.builds, .inr ⟨r, ?_⟩⟩, ?_⟩
    · rw [← hframes, hlinks]
      exact hfollows
    · rw [allocatedFrames_append, returnedFrames_append, returnedFrames_of_builds h.builds,
        allocatedFrames_of_unwinding hfollows, append_nil, nil_append, ← hframes]
      exact hkept
  rcases hrun : (rollbackOwnedFrames B.logged installed).run (owner, (s, log)) with
    ⟨result, owner', backend'⟩
  cases result with
  | ok u =>
    obtain ⟨-, hreleased⟩ := hunwinds.ok hrun
    have hrun' : (rollbackBuild B.logged cause : Method _ _ α).run ⟨owner, installed, (s, log)⟩ =
        (.error (.failed ⟨cause, none, owner'.ledger⟩), ⟨owner', installed, backend'⟩) := by
      rw [run_rollbackBuild, hrun]
      rfl
    exact .of_error hrun' (haborted hreleased)
  | error e =>
    obtain ⟨b, rfl, -, hreleased⟩ := hunwinds.error hrun
    have hrun' : (rollbackBuild B.logged cause : Method _ _ α).run ⟨owner, installed, (s, log)⟩ =
        (.error (.failed ⟨cause, some b, owner'.ledger⟩), ⟨owner', installed, backend'⟩) := by
      rw [run_rollbackBuild, hrun]
      rfl
    exact .of_error hrun' (haborted hreleased)

/-! ## One call -/

/-- A call that is part of building, and that obtains and installs nothing when it fails. -/
structure BuildEntry (entry : Except ε α → Call ε) : Prop where
  builds : ∀ r, (entry r).Builds
  allocated : ∀ e, (entry (.error e)).allocated = none
  installed : ∀ e, (entry (.error e)).installed = none

theorem allocateFrame_entry (role : FrameRole) : BuildEntry (Call.allocateFrame (ε := ε) role) :=
  ⟨fun _ => trivial, fun _ => rfl, fun _ => rfl⟩

theorem prepareFrame_entry (generation : UInt64) (role : FrameRole) (frame : UInt64) :
    BuildEntry (Call.prepareFrame (ε := ε) generation role frame) :=
  ⟨fun _ => trivial, fun _ => rfl, fun _ => rfl⟩

theorem installLink_entry (link : LinkSpec) (parent child : UInt64) :
    BuildEntry (Call.installLink (ε := ε) link parent child) :=
  ⟨fun _ => trivial, fun _ => rfl, fun _ => rfl⟩

/-- The state after a call on the backend. -/
def BuildState.after (st : BuildState (σ × List (Call ε))) (s : σ) (c : Call ε) :
    BuildState (σ × List (Call ε)) :=
  { st with backend := (s, st.backend.2 ++ [c]) }

theorem Consistent.log_after (h : Consistent base calls st) (s : σ) (c : Call ε) :
    (st.after s c).backend.2 = base ++ (calls ++ [c]) := by
  show st.backend.2 ++ [c] = _
  rw [h.log, append_assoc]

/-- A call that obtains and installs nothing keeps the state consistent. -/
theorem Consistent.after (h : Consistent base calls st) {c : Call ε} (hbuilds : c.Builds)
    (hallocated : c.allocated = none) (hinstalled : c.installed = none) (s : σ) :
    Consistent base (calls ++ [c]) (st.after s c) := by
  refine ⟨h.log_after s c, ?_, ?_, ?_, h.ends⟩
  · intro c' hc'
    rcases mem_append.mp hc' with hc' | hc'
    · exact h.builds c' hc'
    · obtain rfl := mem_singleton.mp hc'
      exact hbuilds
  · show st.owner.ledger.frames = allocatedFrames (calls ++ [c])
    rw [allocatedFrames, filterMap_snoc, hallocated, Option.toList_none, append_nil]
    exact h.ledger
  · show installedLinks (calls ++ [c]) = _
    rw [installedLinks, filterMap_snoc, hinstalled, Option.toList_none, append_nil]
    exact h.links

/-- A call on the backend from a consistent state succeeds, or everything is rolled back. -/
theorem backendOrRollback_ends (h : Consistent base calls st) {m : Method σ ε α} {entry : Except ε α → Call ε}
    (hentry : BuildEntry entry) {Q : α → BuildState (σ × List (Call ε)) → Prop}
    (hok : ∀ a s, Q a (st.after s (entry (.ok a)))) :
    (backendOrRollback B.logged (m.logged entry)).Ends st Q
      fun e st' => AbortedSince base e st'.backend.2 := by
  refine .bind (.onPart (.of_ok (run_attempt _ _) ?_))
  have hafter : ∀ r, (m.run st.backend.1).1 = r →
      { st with backend := ((m.logged entry).run st.backend).2 } =
        st.after (m.run st.backend.1).2 (entry r) := by
    rintro _ rfl
    rfl
  cases hresult : (m.run st.backend.1).1 with
  | ok a =>
    rw [show ((m.logged entry).run st.backend).1 = .ok a from hresult, hafter _ hresult]
    exact .pure (hok a _)
  | error e =>
    rw [show ((m.logged entry).run st.backend).1 = .error e from hresult, hafter _ hresult]
    exact rollbackBuild_ends
      (h.after (hentry.builds _) (hentry.allocated e) (hentry.installed e) _) _

/-! ## The frames -/

/-- What is known of the frames in the ledger of a construction that goes on. -/
structure FramesOk (frames : List OwnedFrame) : Prop where
  aligned : ∀ f ∈ frames, f.physicalStart % pageSize = 0
  distinct : (frames.map (·.physicalStart)).Nodup

/-- The construction has allocated the frames of the roles `done`. -/
structure Allocating (base calls : List (Call ε)) (done : List FrameRole)
    (st : BuildState (σ × List (Call ε))) : Prop extends Consistent base calls st where
  building : st.owner.state = .building
  live : st.owner.generationLive = true
  noLinks : st.installedLinks = 0
  roles : st.owner.ledger.frames.map (·.role) = done
  framesOk : FramesOk st.owner.ledger.frames

/-- The owner with one more frame in its ledger. -/
def AddressSpaceOwner.withFrame (owner : AddressSpaceOwner) (frame : OwnedFrame) :
    AddressSpaceOwner :=
  { owner with ledger := ⟨owner.ledger.frames ++ [frame]⟩ }

/-- `record_frame` records the frame first and checks it then. -/
theorem run_recordFrame {owner : AddressSpaceOwner} (frame : OwnedFrame)
    (hstate : owner.state = .building) (hlive : owner.generationLive = true)
    (hroom : owner.ledger.frames.length < taskLedgerCapacity) :
    (AddressSpaceOwner.recordFrame frame).run owner =
      ((owner.withFrame frame).ledger.validateLatest, owner.withFrame frame) := by
  have hpush : (FrameLedger.pushOwned frame).run owner.ledger =
      (.ok (), ⟨owner.ledger.frames ++ [frame]⟩) := by
    unfold FrameLedger.pushOwned
    rw [run_bind_ok (run_self _), if_neg (by omega), run_update]
  unfold AddressSpaceOwner.recordFrame
  rw [run_bind_ok (run_self _), if_neg (by simp [hstate, hlive]), run_bind,
    run_onPart, hpush]
  rfl

/-- A frame that passes the check is aligned and new. -/
theorem FramesOk.of_validateLatest {frames : List OwnedFrame} {frame : OwnedFrame}
    (h : FramesOk frames) (hvalid : FrameLedger.validateLatest ⟨frames ++ [frame]⟩ = .ok ()) :
    FramesOk (frames ++ [frame]) := by
  unfold FrameLedger.validateLatest at hvalid
  rw [List.getLast?_concat] at hvalid
  dsimp only at hvalid
  rw [dropLast_concat, check_ite_eq_ok, check_ite_eq_ok] at hvalid
  obtain ⟨haligned, hnew, -⟩ := hvalid
  rw [any_eq_true] at hnew
  refine ⟨?_, ?_⟩
  · intro f hf
    rcases mem_append.mp hf with hf | hf
    · exact h.aligned f hf
    · obtain rfl := mem_singleton.mp hf
      exact not_not.mp haligned
  · rw [map_append, nodup_append]
    refine ⟨h.distinct, nodup_singleton _, ?_⟩
    intro a ha b hb
    obtain ⟨f, hf, rfl⟩ := mem_map.mp ha
    obtain rfl := mem_singleton.mp hb
    intro hsame
    exact hnew ⟨f, hf, by simp [hsame]⟩

/-- Recording the frame of the last call makes the state consistent again. -/
theorem Allocating.recorded {done : List FrameRole} (h : Allocating base calls done st)
    (role : FrameRole) (frame : UInt64) (s : σ) :
    Consistent base (calls ++ [.allocateFrame role (.ok frame)])
      { st.after s (.allocateFrame role (.ok frame)) with
        owner := st.owner.withFrame ⟨role, frame⟩ } := by
  refine ⟨h.log_after s _, ?_, ?_, ?_, ?_⟩
  · intro c hc
    rcases mem_append.mp hc with hc | hc
    · exact h.builds c hc
    · obtain rfl := mem_singleton.mp hc
      trivial
  · show st.owner.ledger.frames ++ [⟨role, frame⟩] = allocatedFrames (calls ++ [_])
    rw [allocatedFrames, filterMap_snoc, h.ledger]
    rfl
  · have hlinks := h.links
    rw [h.noLinks] at hlinks
    show installedLinks (calls ++ [_]) = (buildLinks.take st.installedLinks).map _
    rw [h.noLinks, installedLinks, filterMap_snoc]
    exact (append_nil _).trans hlinks
  · show ∀ link ∈ buildLinks.take st.installedLinks, _
    rw [h.noLinks]
    simp

theorem allocateRoles_ends {done rest : List FrameRole} (hall : FrameRole.all = done ++ rest)
    (h : Allocating base calls done st) :
    (allocateRoles B.logged generation rest).Ends st
      (fun _ st' => (∃ calls', Allocating base calls' FrameRole.all st') ∧
        st'.owner.generation = st.owner.generation)
      fun e st' => AbortedSince base e st'.backend.2 := by
  induction rest generalizing done calls st with
  | nil =>
    rw [append_nil] at hall
    exact .pure ⟨⟨calls, hall ▸ h⟩, rfl⟩
  | cons role rest ih =>
    have hroom : st.owner.ledger.frames.length < taskLedgerCapacity := by
      have hlen := congrArg List.length h.roles
      have htotal := congrArg List.length hall
      rw [length_map] at hlen
      rw [length_append, length_cons] at htotal
      have hseven : FrameRole.all.length = 7 := rfl
      unfold taskLedgerCapacity
      omega
    refine .bind (backendOrRollback_ends h.toConsistent (allocateFrame_entry role)
      fun frame s => ?_)
    have hrecord := run_recordFrame ⟨role, frame⟩ h.building h.live hroom
    have hconsistent := h.recorded role frame s
    refine .bind (.bind (.onPart (.of_ok (run_attempt_of hrecord) ?_)))
    cases hvalid : (st.owner.withFrame ⟨role, frame⟩).ledger.validateLatest with
    | error e => exact rollbackBuild_ends hconsistent (.owner e)
    | ok u =>
      refine .pure (.bind (backendOrRollback_ends hconsistent
        (prepareFrame_entry generation role frame) fun u' s' => ?_))
      have hprepared := hconsistent.after
        (show (Call.prepareFrame generation role frame (.ok u')).Builds from trivial) rfl rfl s'
      have hroles : (st.owner.withFrame ⟨role, frame⟩).ledger.frames.map (·.role) =
          done ++ [role] := by
        unfold AddressSpaceOwner.withFrame
        rw [map_append, h.roles]
        rfl
      exact ih (by rw [hall]; simp) (show Allocating base _ (done ++ [role]) _ from
        ⟨hprepared, h.building, h.live, h.noLinks, hroles, h.framesOk.of_validateLatest hvalid⟩)

/-! ## The links -/

theorem frameFor_of_roles {ledger : FrameLedger}
    (h : ledger.frames.map (·.role) = FrameRole.all) (role : FrameRole) :
    ∃ frame, ledger.frameFor role = some frame := by
  have hmem : role ∈ ledger.frames.map (·.role) := by
    rw [h]
    cases role <;> decide
  obtain ⟨f, hf, hrole⟩ := mem_map.mp hmem
  unfold FrameLedger.frameFor
  cases hfind : ledger.frames.find? (·.role = role) with
  | some f' => exact ⟨f'.physicalStart, rfl⟩
  | none =>
    have hnone := List.find?_eq_none.mp hfind f hf
    exact absurd (by simpa using hrole) hnone

theorem hasEnds_of_roles {ledger : FrameLedger}
    (h : ledger.frames.map (·.role) = FrameRole.all) (link : LinkSpec) : HasEnds ledger link :=
  ⟨frameFor_of_roles h _, frameFor_of_roles h _⟩

/-- The construction has all frames and has installed the first links. -/
structure Linking (base calls : List (Call ε)) (st : BuildState (σ × List (Call ε))) : Prop
    extends Consistent base calls st where
  building : st.owner.state = .building
  live : st.owner.generationLive = true
  roles : st.owner.ledger.frames.map (·.role) = FrameRole.all
  framesOk : FramesOk st.owner.ledger.frames

theorem Allocating.linking (h : Allocating base calls FrameRole.all st) : Linking base calls st :=
  ⟨h.toConsistent, h.building, h.live, h.roles, h.framesOk⟩

theorem run_expectBuilt {τ : Type} {st : BuildState τ} {role : FrameRole} {frame : UInt64}
    (hframe : st.owner.ledger.frameFor role = some frame) :
    (expectBuilt role : Method _ (Stop (BuildFailure ε)) UInt64).run st = (.ok frame, st) := by
  unfold expectBuilt
  rw [run_query, hframe]

/-- One more link. -/
theorem Linking.installed (h : Linking base calls st) {link : LinkSpec} {parent child : UInt64}
    (hlink : buildLinks[st.installedLinks]? = some link)
    (hparent : st.owner.ledger.frameFor link.parent = some parent)
    (hchild : st.owner.ledger.frameFor link.child = some child) (s : σ) :
    Linking base (calls ++ [.installLink link parent child (.ok ())])
      { st.after s (.installLink link parent child (.ok ())) with
        installedLinks := st.installedLinks + 1 } := by
  have htake : buildLinks.take (st.installedLinks + 1) =
      buildLinks.take st.installedLinks ++ [link] := by
    rw [take_add_one, hlink]
    rfl
  refine ⟨⟨h.log_after s _, ?_, ?_, ?_, fun link _ => hasEnds_of_roles h.roles link⟩, h.building, h.live, h.roles,
    h.framesOk⟩
  · intro c hc
    rcases mem_append.mp hc with hc | hc
    · exact h.builds c hc
    · obtain rfl := mem_singleton.mp hc
      trivial
  · show st.owner.ledger.frames = allocatedFrames (calls ++ [_])
    rw [allocatedFrames, filterMap_snoc]
    exact h.ledger.trans (append_nil _).symm
  · show installedLinks (calls ++ [_]) = (buildLinks.take (st.installedLinks + 1)).map _
    rw [htake, map_append, installedLinks, filterMap_snoc, ← installedLinks, h.links]
    show _ ++ [_] = _ ++ [withFrames st.owner.ledger link]
    rw [withFrames, hparent, hchild]
    rfl

theorem installLinks_ends {rest : List LinkSpec} (h : Linking base calls st)
    (hrest : buildLinks.drop st.installedLinks = rest) :
    (installLinks B.logged rest).Ends st
      (fun _ st' => (∃ calls', Linking base calls' st') ∧
        st'.installedLinks = st.installedLinks + rest.length ∧ st'.owner = st.owner)
      fun e st' => AbortedSince base e st'.backend.2 := by
  induction rest generalizing calls st with
  | nil => exact .pure ⟨⟨calls, h⟩, rfl, rfl⟩
  | cons link rest ih =>
    obtain ⟨parent, hparent⟩ := frameFor_of_roles h.roles link.parent
    obtain ⟨child, hchild⟩ := frameFor_of_roles h.roles link.child
    have hlink : buildLinks[st.installedLinks]? = some link := by
      have hhead := congrArg List.head? hrest
      rw [List.head?_drop] at hhead
      exact hhead
    refine .bind (.of_ok (run_expectBuilt hparent) (.bind (.of_ok (run_expectBuilt hchild) ?_)))
    refine .bind (backendOrRollback_ends h.toConsistent (installLink_entry link parent child)
      fun u s => .bind (.update ?_))
    refine (ih (h.installed hlink hparent hchild s) ?_).mono ?_ fun _ _ he => he
    · show buildLinks.drop (st.installedLinks + 1) = rest
      rw [← drop_drop, hrest]
      rfl
    · rintro _ st' ⟨hlinking, hcount, howner⟩
      refine ⟨hlinking, ?_, howner⟩
      rw [hcount, length_cons]
      show st.installedLinks + 1 + _ = _
      omega

/-! ## The whole construction -/

/-- The owner has the frames and the links that the calls obtained and installed, and they are all
there. -/
structure Built (owner : AddressSpaceOwner) (calls : List (Call ε)) : Prop where
  builds : ∀ c ∈ calls, c.Builds
  ledger : owner.ledger.frames = allocatedFrames calls
  links : installedLinks calls = buildLinks.map (withFrames owner.ledger)
  roles : owner.ledger.frames.map (·.role) = FrameRole.all
  framesOk : FramesOk owner.ledger.frames

theorem run_publish {owner : AddressSpaceOwner} {root : UInt64} (hstate : owner.state = .building)
    (hlive : owner.generationLive = true) (hroot : owner.ledger.frameFor .root = some root)
    (hlen : owner.ledger.frames.length = taskFrameCount) :
    (AddressSpaceOwner.publish root).run owner =
      (.ok (), { owner with root := some root, state := .inactive }) := by
  unfold AddressSpaceOwner.publish
  rw [run_bind_ok (run_self _), if_neg (by simp [hstate, hlive]),
    if_neg (by simp [hroot, hlen]), run_update]

/-- What `construct_address_space` hands back is built and inactive. -/
structure Constructed (generation : UInt64) (owner : AddressSpaceOwner) (calls : List (Call ε)) :
    Prop extends Built owner calls where
  inactive : owner.state = .inactive
  live : owner.generationLive = true
  generation_eq : owner.generation = generation
  root : owner.root = owner.ledger.frameFor .root

theorem buildOwner_ends (h : Allocating base [] [] st) (hgeneration : st.owner.generation = generation) :
    (buildOwner B.logged generation).Ends st
      (fun _ st' => ∃ calls, st'.backend.2 = base ++ calls ∧ Constructed generation st'.owner calls)
      fun e st' => AbortedSince base e st'.backend.2 := by
  refine .bind ((allocateRoles_ends rfl h).mono ?_ fun _ _ he => he)
  rintro _ st₁ ⟨⟨calls₁, hallocated⟩, hgeneration₁⟩
  have hdrop : buildLinks.drop st₁.installedLinks = buildLinks := by rw [hallocated.noLinks]; rfl
  refine .bind ((installLinks_ends hallocated.linking hdrop).mono ?_ fun _ _ he => he)
  rintro _ st₂ ⟨⟨calls₂, hlinking⟩, hcount, howner⟩
  obtain ⟨root, hroot⟩ := frameFor_of_roles hlinking.roles .root
  have hlen : st₂.owner.ledger.frames.length = taskFrameCount := by
    have hroles := congrArg List.length hlinking.roles
    rw [length_map] at hroles
    exact hroles
  have hpublish := run_publish hlinking.building hlinking.live hroot hlen
  refine .bind (.of_ok (run_expectBuilt hroot) ?_)
  refine .bind (.onPart (.of_ok (run_attempt_of hpublish) (.pure ?_)))
  have hlinks := hlinking.links
  rw [hcount, hallocated.noLinks, Nat.zero_add, take_length] at hlinks
  exact ⟨calls₂, hlinking.log,
    ⟨hlinking.builds, hlinking.ledger, hlinks, hlinking.roles, hlinking.framesOk⟩, rfl,
    hlinking.live, by rw [← hgeneration, ← hgeneration₁, ← howner], hroot.symm⟩

/-- `construct_address_space` builds an address space, or unwinds all it did; it does not panic. -/
theorem constructAddressSpace_ends (generation : UInt64) (s : σ) (base : List (Call ε)) :
    (constructAddressSpace B.logged generation).Ends (s, base)
      (fun owner st => ∃ calls, st.2 = base ++ calls ∧ Constructed generation owner calls)
      fun e st => AbortedSince base e st.2 := by
  by_cases hzero : generation = 0
  · have hbegin : AddressSpaceOwner.begin generation = .error .invalidGeneration := if_pos hzero
    have hrun : (constructAddressSpace B.logged generation).run (s, base) =
        (.error (.failed ⟨.owner .invalidGeneration, none, .new⟩), (s, base)) := by
      unfold constructAddressSpace
      simp only [Method.run, hbegin]
    exact .of_error hrun ⟨_, [], rfl, (append_nil _).symm,
      ⟨[], [], rfl, by simp, .inl rfl⟩, rfl⟩
  · have hbegin : AddressSpaceOwner.begin generation =
        .ok ⟨generation, true, .building, none, .new⟩ := if_neg hzero
    have hstart : Allocating base [] [] (⟨⟨generation, true, .building, none, .new⟩, 0, (s, base)⟩ :
        BuildState (σ × List (Call ε))) :=
      ⟨⟨(append_nil _).symm, by simp, rfl, rfl, by simp⟩, rfl, rfl, rfl, rfl,
        by simp [FrameLedger.new], by simp [FrameLedger.new]⟩
    have hends := buildOwner_ends (B := B) hstart rfl
    have hrun : (constructAddressSpace B.logged generation).run (s, base) =
        constructResult ((buildOwner B.logged generation).run
          ⟨⟨generation, true, .building, none, .new⟩, 0, (s, base)⟩) := by
      unfold constructAddressSpace
      simp only [Method.run, hbegin]
    rcases hbuild : (buildOwner B.logged generation).run
        ⟨⟨generation, true, .building, none, .new⟩, 0, (s, base)⟩ with ⟨_ | _, st⟩
    · rw [hbuild] at hrun
      exact .of_error hrun (hends.error hbuild)
    · rw [hbuild] at hrun
      exact .of_ok hrun (hends.ok hbuild)

end MakopaVerified.AddressSpace
