import MakopaVerified.AddressSpace.Proofs.BuildProofs

/-!
# Address spaces over whole runs

For every address space that was ever begun, the calls made for it are in order, and the frames it
obtained are those that the backend took back and those that the caller still holds.
-/

namespace MakopaVerified.AddressSpace

open Foundation List

variable {σ ε : Type} {B : AddressSpaceBackend σ ε} {earlier : List (Call ε)} {s : σ}
  {owner : AddressSpaceOwner} {owner' : AddressSpaceOwner}

/-- What holds of every address space at any time. -/
structure Space.Ok (sp : Space ε) : Prop where
  orderly : Orderly sp.calls
  frames : allocatedFrames sp.calls = sp.holding.frames ++ (returnedFrames sp.calls).reverse
  built : ∀ o, sp.holding = .owner o → o.generationLive = true → Built o sp.calls

theorem Constructed.spaceOk {generation : UInt64} {calls : List (Call ε)}
    (h : Constructed generation owner calls) : Space.Ok ⟨calls, .owner owner⟩ := by
  refine ⟨⟨calls, [], (append_nil _).symm, h.builds, .inl rfl⟩, ?_, ?_⟩
  · rw [returnedFrames_of_builds h.builds]
    exact h.ledger.symm.trans (append_nil _).symm
  · rintro o ho -
    cases ho
    exact h.toBuilt

theorem Aborted.spaceOk {failure : BuildFailure ε} {calls : List (Call ε)}
    (h : Aborted failure calls) : Space.Ok ⟨calls, .retained failure.retained⟩ :=
  ⟨h.orderly, h.frames, nofun⟩

/-! ## Teardown -/

/-- An address space that is being taken back, by the calls after those that built it. -/
theorem Built.spaceOk_unwound (h : Built owner earlier) {unwind : List (Call ε)}
    {r : Except ε Unit} {o : AddressSpaceOwner} (hdead : o.generationLive = false)
    (hfollows : Follows
      (unwinding owner.ledger.frames (buildLinks.map (withFrames owner.ledger))) unwind r)
    (hkept : owner.ledger.frames = o.ledger.frames ++ (returnedFrames unwind).reverse) :
    Space.Ok ⟨earlier ++ unwind, .owner o⟩ := by
  refine ⟨⟨earlier, unwind, rfl, h.builds, .inr ⟨r, ?_⟩⟩, ?_, ?_⟩
  · rw [← h.ledger, h.links]
    exact hfollows
  · rw [allocatedFrames_append, returnedFrames_append, returnedFrames_of_builds h.builds,
      allocatedFrames_of_unwinding hfollows, append_nil, nil_append, ← h.ledger]
    exact hkept
  · rintro o' ho hlive
    cases ho
    rw [hdead] at hlive
    cases hlive

/-- What every event keeps of an owner: its generation and, as long as it is live, its ledger and
its root. An owner that is no longer live stays so. -/
structure AddressSpaceOwner.Becomes (owner owner' : AddressSpaceOwner) : Prop where
  generation : owner'.generation = owner.generation
  live : owner'.generationLive = true →
    owner.generationLive = true ∧ owner'.ledger = owner.ledger ∧ owner'.root = owner.root

theorem AddressSpaceOwner.Becomes.refl (owner : AddressSpaceOwner) : owner.Becomes owner :=
  ⟨rfl, fun h => ⟨h, rfl, rfl⟩⟩

theorem AddressSpaceOwner.Becomes.of_dead (hgeneration : owner'.generation = owner.generation)
    (hdead : owner'.generationLive = false) :
    owner.Becomes owner' := by
  refine ⟨hgeneration, fun hlive => ?_⟩
  rw [hdead] at hlive
  cases hlive

/-- `teardown_checked` does not panic, and leaves an address space that is in order. An owner that
was inactive is not live any more, even when the backend has stopped the teardown. -/
theorem teardownChecked_ends (h : Space.Ok ⟨earlier, .owner owner⟩) (s : σ)
    (base : List (Call ε)) :
    (teardownChecked B.logged owner).Ends (s, base)
      (fun dead st => ∃ calls, st.2 = base ++ calls ∧ dead.ledger = .new ∧
        Space.Ok ⟨earlier ++ calls, .owner dead⟩ ∧ owner.Becomes dead ∧
        dead.generationLive = false)
      fun e st => ∃ failure calls, e = .failed failure ∧ st.2 = base ++ calls ∧
        Space.Ok ⟨earlier ++ calls, .owner failure.handedBack⟩ ∧
        owner.Becomes failure.handedBack ∧
        (owner.state = .inactive → failure.handedBack.generationLive = false) := by
  refine .ite (fun hnot => .fail ?_) fun hready => ?_
  · exact ⟨_, [], rfl, (append_nil _).symm, by rw [append_nil]; exact h, .refl owner,
      fun hinactive => hnot.resolve_left (not_not.mpr hinactive)⟩
  · push Not at hready
    have hlive : owner.generationLive = true := by simpa using hready.2
    have hbuilt := h.built owner rfl hlive
    obtain ⟨root, hroot⟩ := frameFor_of_roles hbuilt.roles .root
    have hunwinds := unwinds_teardown (B := B) (show
      (AddressSpaceOwner.ledger { owner with generationLive := false }).frameFor .root = some root
      from hroot) (fun link _ => hasEnds_of_roles hbuilt.roles link) s base
    have hrun : (teardownAddressSpace B.logged owner).run (s, base) =
        teardownResult ((teardownInactive B.logged).run
          ({ owner with generationLive := false }, (s, base))) := rfl
    refine .onPart ?_
    rcases hteardown : (teardownInactive B.logged).run
        ({ owner with generationLive := false }, (s, base)) with ⟨_ | _, o, backend⟩
    · obtain ⟨b, rfl, howner, calls, hlog, hfollows, hkept⟩ := hunwinds.error hteardown
      rw [hteardown] at hrun
      have hdead : o.generationLive = false := by rw [show o = _ from howner]
      have hgeneration : o.generation = owner.generation := by rw [show o = _ from howner]
      exact .of_error hrun ⟨_, calls, rfl, hlog, hbuilt.spaceOk_unwound hdead hfollows hkept,
        .of_dead hgeneration hdead, fun _ => hdead⟩
    · obtain ⟨howner, calls, hlog, hfollows, hkept⟩ := hunwinds.ok hteardown
      rw [hteardown] at hrun
      have hdead : o.generationLive = false := by rw [show o = _ from howner]; rfl
      have hempty : o.ledger = .new := by rw [show o = _ from howner]; rfl
      have hgeneration : o.generation = owner.generation := by rw [show o = _ from howner]; rfl
      have hdead' : (AddressSpaceOwner.generationLive { o with root := none, state := .dead }) = false :=
        hdead
      exact .of_ok hrun ⟨calls, hlog, hempty, hbuilt.spaceOk_unwound hdead' hfollows hkept,
        .of_dead hgeneration hdead', hdead'⟩

/-! ## Runs -/

/-- Every address space is in order. -/
def Spaces.Ok (w : Spaces σ ε) : Prop := ∀ sp ∈ w.spaces, sp.Ok

theorem Spaces.Ok.replace {w : Spaces σ ε} {before after : List (Space ε)} {sp sp' : Space ε}
    {backend : σ} (h : w.Ok) (hsplit : w.spaces = before ++ sp :: after) (hsp' : sp'.Ok) :
    Spaces.Ok ⟨backend, before ++ sp' :: after⟩ := by
  intro sp₀ hsp₀
  rcases mem_append.mp hsp₀ with hmem | hmem
  · exact h sp₀ (by rw [hsplit]; exact mem_append_left _ hmem)
  · rcases mem_cons.mp hmem with rfl | hmem
    · exact hsp'
    · exact h sp₀ (by rw [hsplit]; exact mem_append_right _ (mem_cons_of_mem _ hmem))

theorem Spaces.Ok.middle {w : Spaces σ ε} {before after : List (Space ε)} {sp : Space ε} (h : w.Ok)
    (hsplit : w.spaces = before ++ sp :: after) : sp.Ok :=
  h sp (by rw [hsplit]; simp)

theorem Spaces.Ok.append {w : Spaces σ ε} {new : List (Space ε)} {backend : σ} (h : w.Ok)
    (hnew : ∀ sp ∈ new, sp.Ok) : Spaces.Ok ⟨backend, w.spaces ++ new⟩ := by
  intro sp hsp
  rcases mem_append.mp hsp with hmem | hmem
  · exact h sp hmem
  · exact hnew sp hmem

theorem Built.of_ledger {calls : List (Call ε)} (h : Built owner calls)
    (hledger : owner'.ledger = owner.ledger) : Built owner' calls := by
  refine ⟨h.builds, ?_, ?_, ?_, ?_⟩ <;> rw [hledger]
  · exact h.ledger
  · exact h.links
  · exact h.roles
  · exact h.framesOk

/-- What entering and leaving a task keep of its owner. -/
def KeepsOwner (owner owner' : AddressSpaceOwner) : Prop :=
  owner'.ledger = owner.ledger ∧ owner'.generationLive = owner.generationLive

/-- Only the lifecycle state changes when a task is entered or left. -/
theorem Space.Ok.lifecycle {calls : List (Call ε)} (h : Space.Ok ⟨calls, .owner owner⟩)
    (hkeeps : KeepsOwner owner owner') :
    Space.Ok ⟨calls, .owner owner'⟩ := by
  obtain ⟨hledger, hlive⟩ := hkeeps
  refine ⟨h.orderly, ?_, ?_⟩
  · show _ = owner'.ledger.frames ++ _
    rw [hledger]
    exact h.frames
  · rintro o ho hlive'
    cases ho
    exact (h.built owner rfl (hlive.symm.trans hlive')).of_ledger hledger

/-- Nothing but the lifecycle state differs. -/
def SameButState (owner owner' : AddressSpaceOwner) : Prop :=
  ∃ state, owner' = { owner with state := state }

theorem SameButState.keeps (h : SameButState owner owner') :
    KeepsOwner owner owner' := by
  obtain ⟨state, rfl⟩ := h
  exact ⟨rfl, rfl⟩

theorem SameButState.becomes (h : SameButState owner owner') :
    owner.Becomes owner' := by
  obtain ⟨state, rfl⟩ := h
  exact ⟨rfl, fun hlive => ⟨hlive, rfl, rfl⟩⟩

theorem activate_same {result : Except OwnerError Unit}
    (h : AddressSpaceOwner.activate.run owner = (result, owner')) : SameButState owner owner' := by
  have hends : AddressSpaceOwner.activate.Ends owner (fun _ => SameButState owner)
      fun _ => SameButState owner :=
    .bind (.self (.ite (fun _ => .fail ⟨_, rfl⟩) fun _ => .update ⟨_, rfl⟩))
  exact hends.result h

theorem recover_same {result : Except OwnerError Unit}
    (h : AddressSpaceOwner.recover.run owner = (result, owner')) : SameButState owner owner' := by
  have hends : AddressSpaceOwner.recover.Ends owner (fun _ => SameButState owner)
      fun _ => SameButState owner :=
    .bind (.self (.ite (fun _ => .fail ⟨_, rfl⟩) fun _ => .update ⟨_, rfl⟩))
  exact hends.result h

/-- The construction of the second address space, on a log that has the calls of the first. -/
theorem constructed_since (base : List (Call ε)) {generation : UInt64} {calls : List (Call ε)}
    {backend : σ}
    (h : (constructAddressSpace B.logged generation).run (s, base) =
      (.ok owner, (backend, base ++ calls))) : Space.Ok ⟨calls, .owner owner⟩ := by
  obtain ⟨calls', hlog, hconstructed⟩ := (constructAddressSpace_ends generation s base).ok h
  obtain rfl := append_cancel_left hlog
  exact hconstructed.spaceOk

theorem aborted_since (base : List (Call ε)) {generation : UInt64} {calls : List (Call ε)}
    {backend : σ} {failure : BuildFailure ε}
    (h : (constructAddressSpace B.logged generation).run (s, base) =
      (.error (.failed failure), (backend, base ++ calls))) :
    Space.Ok ⟨calls, .retained failure.retained⟩ := by
  obtain ⟨failure', calls', hfailure, hlog, haborted⟩ :=
    (constructAddressSpace_ends generation s base).error h
  cases hfailure
  obtain rfl := append_cancel_left hlog
  exact haborted.spaceOk

/-- Both address spaces of a pair are in order. -/
theorem PairSpaces.ok {firstGeneration secondGeneration : UInt64}
    {result : Except (Stop (PairBuildFailure ε)) AddressSpacePair} {st : σ × List (Call ε)}
    {new : List (Space ε)} (h : PairSpaces B firstGeneration secondGeneration s result st new) :
    ∀ sp ∈ new, sp.Ok := by
  cases h with
  | firstFailed hfirst =>
    simpa using aborted_since [] hfirst
  | both hfirst hsecond =>
    simpa using ⟨constructed_since [] hfirst, constructed_since _ hsecond⟩
  | tornDown hfirst hsecond hteardown =>
    obtain ⟨calls, hlog, hempty, hok, -⟩ :=
      (teardownChecked_ends (constructed_since [] hfirst) _ _).ok hteardown
    obtain rfl := append_cancel_left hlog
    have hframes := hok.frames
    rw [show Holding.frames (.owner _) = [] from congrArg FrameLedger.frames hempty] at hframes
    simpa using ⟨(⟨hok.orderly, hframes, nofun⟩ : Space.Ok ⟨_, .retained .new⟩),
      aborted_since _ hsecond⟩
  | stuck hfirst hsecond hteardown =>
    obtain ⟨failure, calls, hfailure, hlog, hok, -⟩ :=
      (teardownChecked_ends (constructed_since [] hfirst) _ _).error hteardown
    cases hfailure
    obtain rfl := append_cancel_left hlog
    simpa using ⟨hok, aborted_since _ hsecond⟩

/-- One event keeps every address space in order. -/
theorem Spaces.Ok.step {w w' : Spaces σ ε} {e : SpaceEvent} (h : w.Ok)
    (hstep : Spaces.Step B w e w') : w'.Ok := by
  cases hstep with
  | constructed hrun =>
    exact h.append (by simpa using constructed_since [] hrun)
  | constructFailed hrun =>
    exact h.append (by simpa using aborted_since [] hrun)
  | paired _ hnew => exact h.append hnew.ok
  | tornDown hsplit hrun =>
    obtain ⟨calls, rfl, -, hok, -⟩ := (teardownChecked_ends (h.middle hsplit) _ _).ok hrun
    exact h.replace hsplit hok
  | teardownFailed hsplit hrun =>
    obtain ⟨failure, calls, hfailure, rfl, hok, -⟩ :=
      (teardownChecked_ends (h.middle hsplit) _ _).error hrun
    cases hfailure
    exact h.replace hsplit hok
  | activated hsplit hrun =>
    exact h.replace hsplit ((h.middle hsplit).lifecycle (activate_same hrun).keeps)
  | recovered hsplit hrun =>
    exact h.replace hsplit ((h.middle hsplit).lifecycle (recover_same hrun).keeps)
  | tokenAsked _ => exact h
  | tokenValidated _ => exact h

theorem spaces_ok {history : List SpaceEvent} {w : Spaces σ ε}
    (h : Run (spaceSystem B) history w) : w.Ok := by
  refine h.state_invariant (fun w hw sp hsp => ?_) fun w e w' hw hstep => hw.step hstep
  rw [show w.spaces = [] from hw] at hsp
  cases hsp

/-! ## Every call is an event -/

theorem construct_step (w : Spaces σ ε) (generation : UInt64) :
    ∃ w', Spaces.Step B w (.construct generation) w' := by
  rcases hrun : (constructAddressSpace B.logged generation).run (w.backend, []) with
    ⟨_ | owner, backend, calls⟩
  · obtain ⟨failure, -, rfl, -, -⟩ := (constructAddressSpace_ends generation w.backend []).error hrun
    exact ⟨_, .constructFailed hrun⟩
  · exact ⟨_, .constructed hrun⟩

/-- The calls of a pair can always be told apart. -/
theorem exists_pairSpaces (firstGeneration secondGeneration : UInt64) (s : σ) :
    ∃ result st new,
      (constructAddressSpacePair B.logged firstGeneration secondGeneration).run (s, []) =
        (result, st) ∧ PairSpaces B firstGeneration secondGeneration s result st new := by
  have hpair : (constructAddressSpacePair B.logged firstGeneration secondGeneration).Ends (s, [])
      (fun pair st => ∃ new,
        PairSpaces B firstGeneration secondGeneration s (.ok pair) st new)
      fun e st => ∃ new,
        PairSpaces B firstGeneration secondGeneration s (.error e) st new := by
    refine .bind (.onPart ?_)
    rcases hfirst : (constructAddressSpace B.logged firstGeneration).run (s, []) with
      ⟨_ | first, backend₁, calls₁⟩
    · obtain ⟨failure, -, rfl, -, -⟩ :=
        (constructAddressSpace_ends firstGeneration s []).error hfirst
      exact .of_error hfirst ⟨_, .firstFailed hfirst⟩
    refine .of_ok hfirst (.bind (.attempt ?_))
    rcases hsecond : (constructAddressSpace B.logged secondGeneration).run (backend₁, calls₁) with
      ⟨_ | second, backend₂, log₂⟩
    · obtain ⟨failure, calls₂, rfl, rfl, -⟩ :=
        (constructAddressSpace_ends secondGeneration backend₁ calls₁).error hsecond
      refine .of_error hsecond (.bind (.attempt ?_))
      have hteardown := teardownChecked_ends (B := B) (constructed_since [] hfirst) backend₂
        (calls₁ ++ calls₂)
      rcases hrun : (teardownChecked B.logged first).run (backend₂, calls₁ ++ calls₂) with
        ⟨_ | dead, backend₃, log₃⟩
      · obtain ⟨failure', calls₃, rfl, rfl, -⟩ := hteardown.error hrun
        exact .of_error hrun (.fail ⟨_, .stuck hfirst hsecond hrun⟩)
      · obtain ⟨calls₃, rfl, -, -⟩ := hteardown.ok hrun
        exact .of_ok hrun (.fail ⟨_, .tornDown hfirst hsecond hrun⟩)
    · obtain ⟨calls₂, rfl, -⟩ :=
        (constructAddressSpace_ends secondGeneration backend₁ calls₁).ok hsecond
      exact .of_ok hsecond (.pure ⟨_, .both hfirst hsecond⟩)
  rcases hrun : (constructAddressSpacePair B.logged firstGeneration secondGeneration).run (s, [])
    with ⟨e | pair, st⟩
  · obtain ⟨new, hnew⟩ := hpair.error hrun
    exact ⟨_, st, new, rfl, hnew⟩
  · obtain ⟨new, hnew⟩ := hpair.ok hrun
    exact ⟨_, st, new, rfl, hnew⟩

theorem pair_step (w : Spaces σ ε) (firstGeneration secondGeneration : UInt64) :
    ∃ w', Spaces.Step B w (.constructPair firstGeneration secondGeneration) w' := by
  obtain ⟨result, st, new, hrun, hnew⟩ :=
    exists_pairSpaces (B := B) firstGeneration secondGeneration w.backend
  exact ⟨_, .paired hrun hnew⟩

theorem teardown_step {w : Spaces σ ε} (h : w.Ok) {before after : List (Space ε)}
    {calls : List (Call ε)} (hsplit : w.spaces = before ++ ⟨calls, .owner owner⟩ :: after) :
    ∃ w', Spaces.Step B w (.teardown before.length) w' := by
  rcases hrun : (teardownChecked B.logged owner).run (w.backend, []) with
    ⟨_ | dead, backend, calls'⟩
  · obtain ⟨failure, -, rfl, -, -⟩ := (teardownChecked_ends (h.middle hsplit) _ _).error hrun
    exact ⟨_, .teardownFailed hsplit hrun⟩
  · exact ⟨_, .tornDown hsplit hrun⟩

/-- The events that a state of the address spaces can take: each of the three functions comes to its
end, on any backend. -/
def Spaces.Responsive (B : AddressSpaceBackend σ ε) (w : Spaces σ ε) : Prop :=
  (∀ generation, ∃ w', Spaces.Step B w (.construct generation) w') ∧
    (∀ first second, ∃ w', Spaces.Step B w (.constructPair first second) w') ∧
    ∀ before calls owner after, w.spaces = before ++ ⟨calls, .owner owner⟩ :: after →
      ∃ w', Spaces.Step B w (.teardown before.length) w'

theorem spaces_responsive {history : List SpaceEvent} {w : Spaces σ ε}
    (h : Run (spaceSystem B) history w) : w.Responsive B :=
  ⟨construct_step w, pair_step w, fun _ _ _ _ hsplit => teardown_step (spaces_ok h) hsplit⟩

/-! ## The results -/

/-- No frame is lost or returned twice, whatever the backend does: for every address space, at any
time, the frames obtained for it are those that the backend took back and those in what the caller
holds of it. -/
theorem frames_conserved (B : AddressSpaceBackend σ ε) {history : List SpaceEvent}
    {w : Spaces σ ε} (h : Run (spaceSystem B) history w) :
    w.Responsive B ∧ ∀ sp ∈ w.spaces,
      (allocatedFrames sp.calls).Perm (returnedFrames sp.calls ++ sp.holding.frames) := by
  refine ⟨spaces_responsive h, fun sp hsp => ?_⟩
  rw [(spaces_ok h sp hsp).frames]
  exact perm_append_comm.trans ((reverse_perm _).append_right _)

/-- A backend that hands out one frame after the other and lets every other call pass. -/
def countingBackend : AddressSpaceBackend UInt64 Unit where
  allocateFrame _ := fun next => (.ok next, next + pageSize)
  prepareFrame _ _ _ := pure ()
  installLink _ _ _ := pure ()
  removeLink _ _ _ := pure ()
  clearSharedEntries _ := pure ()
  clearTemporaryWindow := pure ()
  verifyUnreachable _ := pure ()
  returnFrame _ := pure ()

/-- The owner of seven frames in a row, in the order of their roles. -/
def countedOwner (generation start : UInt64) : AddressSpaceOwner :=
  ⟨generation, true, .inactive, some start,
    ⟨FrameRole.all.zipIdx.map fun entry => ⟨entry.1, start + UInt64.ofNat entry.2 * pageSize⟩⟩⟩

/-- Two address spaces are built, and the first is torn down. -/
theorem run_of_results {start : σ} {first second dead : AddressSpaceOwner}
    {st₁ st₂ st₃ : σ × List (Call ε)}
    (h₁ : (constructAddressSpace B.logged 1).run (start, []) = (.ok first, st₁))
    (h₂ : (constructAddressSpace B.logged 2).run (st₁.1, []) = (.ok second, st₂))
    (h₃ : (teardownChecked B.logged first).run (st₂.1, []) = (.ok dead, st₃)) :
    Run (spaceSystem B) [.construct 1, .construct 2, .teardown 0]
      ⟨st₃.1, [⟨st₁.2 ++ st₃.2, .owner dead⟩, ⟨st₂.2, .owner second⟩]⟩ := by
  have hbegun : Run (spaceSystem B) [] ⟨start, []⟩ := .start rfl
  have hsplit : [⟨st₁.2, .owner first⟩, ⟨st₂.2, .owner second⟩] =
      [] ++ (⟨st₁.2, .owner first⟩ : Space ε) :: [⟨st₂.2, .owner second⟩] := rfl
  have htorn := Spaces.Step.tornDown (w := ⟨st₂.1, _⟩) hsplit h₃
  exact ((hbegun.step (.constructed h₁)).step (.constructed h₂)).step htorn

/-- These two over the counting backend. -/
def countedSpaces : Spaces UInt64 Unit :=
  let first := ((constructAddressSpace countingBackend.logged 1).run (4096, [])).2
  let second := ((constructAddressSpace countingBackend.logged 2).run (first.1, [])).2
  let torn := ((teardownChecked countingBackend.logged (countedOwner 1 4096)).run (second.1, [])).2
  ⟨torn.1, [⟨first.2 ++ torn.2, .owner ⟨1, false, .dead, none, .new⟩⟩,
    ⟨second.2, .owner (countedOwner 2 32768)⟩]⟩

theorem countedSpaces_run : Run (spaceSystem countingBackend)
    [.construct 1, .construct 2, .teardown 0] countedSpaces :=
  run_of_results (Method.run_eq_of_result (by decide +kernel))
    (Method.run_eq_of_result (by decide +kernel)) (Method.run_eq_of_result (by decide +kernel))

theorem counted_frames_conserved :
    countedSpaces.spaces.map (fun sp => ((allocatedFrames sp.calls).length,
        (returnedFrames sp.calls).length, sp.holding.frames.length)) = [(7, 7, 0), (7, 0, 7)] ∧
      ∀ sp ∈ countedSpaces.spaces,
        (allocatedFrames sp.calls).Perm (returnedFrames sp.calls ++ sp.holding.frames) :=
  ⟨by decide +kernel, (frames_conserved countingBackend countedSpaces_run).2⟩

/-- Links are removed before frames go back, for every backend: the calls made for an address space
build it and then take it back in the order of `unwinding`, up to the first call that fails. No
lookup in a ledger panics. -/
theorem unwinding_in_order (B : AddressSpaceBackend σ ε) {history : List SpaceEvent}
    {w : Spaces σ ε} (h : Run (spaceSystem B) history w) :
    (∀ sp ∈ w.spaces, Orderly sp.calls) ∧
      (∀ generation st, (constructAddressSpace B.logged generation).run (w.backend, []) ≠
        (.error .panicked, st)) ∧
      (∀ first second st, (constructAddressSpacePair B.logged first second).run (w.backend, []) ≠
        (.error .panicked, st)) ∧
      ∀ sp ∈ w.spaces, ∀ owner, sp.holding = .owner owner → ∀ st,
        (teardownChecked B.logged owner).run (w.backend, []) ≠ (.error .panicked, st) := by
  refine ⟨fun sp hsp => (spaces_ok h sp hsp).orderly, ?_, ?_, ?_⟩
  · intro generation st hrun
    obtain ⟨failure, -, hfailure, -, -⟩ := (constructAddressSpace_ends generation _ []).error hrun
    cases hfailure
  · intro first second st hrun
    obtain ⟨result, st', new, hrun', hnew⟩ := exists_pairSpaces (B := B) first second w.backend
    rw [hrun', Prod.mk.injEq] at hrun
    obtain ⟨rfl, rfl⟩ := hrun
    cases hnew
  · rintro ⟨calls, holding⟩ hsp owner rfl st hrun
    obtain ⟨failure, -, hfailure, -, -⟩ :=
      (teardownChecked_ends (spaces_ok h _ hsp) _ _).error hrun
    cases hfailure

/-- Both are built with six links, and the first is taken back in sixteen calls. -/
theorem counted_teardown_in_order :
    countedSpaces.spaces.map (fun sp => (sp.calls.length, (installedLinks sp.calls).length,
        (returnedFrames sp.calls).length)) = [(36, 6, 7), (20, 6, 0)] ∧
      ∀ sp ∈ countedSpaces.spaces, Orderly sp.calls :=
  ⟨by decide +kernel, (unwinding_in_order countingBackend countedSpaces_run).1⟩

end MakopaVerified.AddressSpace
