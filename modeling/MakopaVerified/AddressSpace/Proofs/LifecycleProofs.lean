import MakopaVerified.AddressSpace.Proofs.SpaceProofs

/-!
# Owners that started teardown stay dead

A teardown clears the generation flag before its first call on the backend, and nothing sets it
again. The lifecycle state still reads inactive when the backend stops a teardown midway; it is the
flag that every operation on the owner asks for.
-/

namespace MakopaVerified.AddressSpace

open Foundation Method

variable {σ ε : Type} {B : AddressSpaceBackend σ ε} {owner owner' : AddressSpaceOwner}
  {w w' : Spaces σ ε} {e : SpaceEvent} {i : Nat} {calls : List (Call ε)}

/-! ## Owners as construction returns them -/

/-- An owner as it comes out of its construction: inactive, with the seven roles on seven distinct
frames, of which one is the root. -/
structure AddressSpaceOwner.Published (generation : UInt64) (owner : AddressSpaceOwner) : Prop where
  generation_eq : owner.generation = generation
  live : owner.generationLive = true
  inactive : owner.state = .inactive
  roles : owner.ledger.frames.map (·.role) = FrameRole.all
  aligned : ∀ f ∈ owner.ledger.frames, f.physicalStart % pageSize = 0
  distinct : (owner.ledger.frames.map (·.physicalStart)).Nodup
  root : ∃ root, owner.root = some root ∧ ⟨.root, root⟩ ∈ owner.ledger.frames

theorem mem_of_frameFor {ledger : FrameLedger} {role : FrameRole} {frame : UInt64}
    (h : ledger.frameFor role = some frame) : ⟨role, frame⟩ ∈ ledger.frames := by
  obtain ⟨owned, hfind, rfl⟩ := Option.map_eq_some_iff.mp h
  have hrole : owned.role = role := by simpa using List.find?_some hfind
  rw [← hrole]
  exact List.mem_of_find?_eq_some hfind

theorem Constructed.published {generation : UInt64} (h : Constructed generation owner calls) :
    owner.Published generation := by
  obtain ⟨root, hroot⟩ := frameFor_of_roles h.roles .root
  exact ⟨h.generation_eq, h.live, h.inactive, h.roles, h.framesOk.aligned, h.framesOk.distinct,
    root, h.root.trans hroot, mem_of_frameFor hroot⟩

theorem constructed_published {generation : UInt64} {s : σ} {log : List (Call ε)}
    {st : σ × List (Call ε)}
    (h : (constructAddressSpace B.logged generation).run (s, log) = (.ok owner, st)) :
    owner.Published generation := by
  obtain ⟨_, -, hconstructed⟩ := (constructAddressSpace_ends generation s log).ok h
  exact hconstructed.published

theorem pair_published {first second : UInt64} {pair : AddressSpacePair} {s : σ}
    {st : σ × List (Call ε)}
    (h : (constructAddressSpacePair B.logged first second).run (s, []) = (.ok pair, st)) :
    pair.first.Published first ∧ pair.second.Published second := by
  obtain ⟨result, st', new, hrun, hnew⟩ := exists_pairSpaces (B := B) first second s
  rw [hrun, Prod.mk.injEq] at h
  obtain ⟨rfl, rfl⟩ := h
  cases hnew with
  | both hfirst hsecond => exact ⟨constructed_published hfirst, constructed_published hsecond⟩

/-! ## Owners that refuse everything -/

/-- No operation on the owner succeeds, and none of them gets to the backend. -/
structure AddressSpaceOwner.Refuses (owner : AddressSpaceOwner) : Prop where
  activate : AddressSpaceOwner.activate.run owner = (.error .wrongState, owner)
  recover : AddressSpaceOwner.recover.run owner = (.error .wrongState, owner)
  mappingToken : ∀ address, owner.mappingToken address = .error .staleOwner
  validateToken : ∀ token, owner.validateToken token = .error .staleOwner
  teardownChecked : ∀ {σ ε : Type} (B : AddressSpaceBackend σ ε) (s : σ),
    (teardownChecked B owner).run s = (.error (.failed (.owner .wrongState owner)), s)

theorem teardownChecked_refused (B : AddressSpaceBackend σ ε)
    (h : owner.state ≠ .inactive ∨ owner.generationLive = false) (s : σ) :
    (teardownChecked B owner).run s = (.error (.failed (.owner .wrongState owner)), s) := by
  unfold teardownChecked
  rw [if_pos h, run_fail]

theorem AddressSpaceOwner.refuses_of_dead (h : owner.generationLive = false) : owner.Refuses := by
  refine ⟨?_, ?_, fun address => if_pos (.inl h), fun token => if_pos (.inl h),
    fun B s => teardownChecked_refused B (.inr h) s⟩
  · unfold AddressSpaceOwner.activate
    rw [run_bind_ok (run_self _), if_pos (.inr h), run_fail]
  · unfold AddressSpaceOwner.recover
    rw [run_bind_ok (run_self _), if_pos (.inr h), run_fail]

theorem AddressSpaceOwner.validateToken_of_other {token : MappingToken}
    (h : token.generation ≠ owner.generation) : owner.validateToken token ≠ .ok () := by
  unfold AddressSpaceOwner.validateToken
  rw [if_pos h]
  split <;> exact nofun

/-! ## An owner along a run -/

theorem AddressSpaceOwner.Becomes.trans {owner'' : AddressSpaceOwner} (h : owner.Becomes owner')
    (h' : owner'.Becomes owner'') : owner.Becomes owner'' := by
  refine ⟨h'.generation.trans h.generation, fun hlive => ?_⟩
  obtain ⟨hlive', hledger', hroot'⟩ := h'.live hlive
  obtain ⟨hlive₀, hledger, hroot⟩ := h.live hlive'
  exact ⟨hlive₀, hledger'.trans hledger, hroot'.trans hroot⟩

theorem AddressSpaceOwner.Becomes.dead (h : owner.Becomes owner')
    (hdead : owner.generationLive = false) : owner'.generationLive = false := by
  by_contra hlive
  have hbefore := (h.live (by simpa using hlive)).1
  rw [hdead] at hbefore
  cases hbefore

/-- The caller holds an owner in the place `i`, which has come about from `owner`. -/
def Spaces.Descends (w : Spaces σ ε) (i : Nat) (owner : AddressSpaceOwner) : Prop :=
  ∃ owner', w.Owns i owner' ∧ owner.Becomes owner'

theorem Spaces.Descends.append {new : List (Space ε)} {backend : σ}
    (h : w.Owns i owner) : Spaces.Descends ⟨backend, w.spaces ++ new⟩ i owner := by
  obtain ⟨calls, hget⟩ := h
  obtain ⟨hlt, -⟩ := List.getElem?_eq_some_iff.mp hget
  exact ⟨owner, ⟨calls, (List.getElem?_append_left hlt).trans hget⟩, .refl owner⟩

/-- An event in the place `before.length` leaves the other places alone. -/
theorem Spaces.Descends.replace {before after : List (Space ε)} {owner₀ : AddressSpaceOwner}
    {calls calls' : List (Call ε)} {backend : σ}
    (hsplit : w.spaces = before ++ ⟨calls, .owner owner₀⟩ :: after) (h : w.Owns i owner)
    (hbecomes : owner₀.Becomes owner') :
    Spaces.Descends ⟨backend, before ++ ⟨calls', .owner owner'⟩ :: after⟩ i owner := by
  obtain ⟨calls₀, hget⟩ := h
  have hset : before ++ ⟨calls', .owner owner'⟩ :: after =
      w.spaces.set before.length ⟨calls', .owner owner'⟩ := by
    rw [hsplit]
    simp
  by_cases hi : before.length = i
  · subst hi
    rw [hsplit, List.getElem?_append_right le_rfl, Nat.sub_self] at hget
    cases hget
    exact ⟨owner', ⟨calls', by simp⟩, hbecomes⟩
  · refine ⟨owner, ⟨calls₀, ?_⟩, .refl owner⟩
    show (before ++ ⟨calls', .owner owner'⟩ :: after)[i]? = _
    rw [hset, List.getElem?_set_ne hi]
    exact hget

/-- One event. -/
theorem Spaces.Step.descends (hw : w.Ok) (hstep : Spaces.Step B w e w') (h : w.Owns i owner) :
    w'.Descends i owner := by
  cases hstep with
  | constructed _ => exact .append h
  | constructFailed _ => exact .append h
  | paired _ _ => exact .append h
  | tornDown hsplit hrun =>
    obtain ⟨_, -, -, -, hbecomes, -⟩ := (teardownChecked_ends (hw.middle hsplit) _ _).ok hrun
    exact .replace hsplit h hbecomes
  | teardownFailed hsplit hrun =>
    obtain ⟨_, _, hfailure, -, -, hbecomes, -⟩ :=
      (teardownChecked_ends (hw.middle hsplit) _ _).error hrun
    cases hfailure
    exact .replace hsplit h hbecomes
  | activated hsplit hrun => exact .replace hsplit h (activate_same hrun).becomes
  | recovered hsplit hrun => exact .replace hsplit h (recover_same hrun).becomes
  | tokenAsked _ => exact ⟨owner, h, .refl owner⟩
  | tokenValidated _ => exact ⟨owner, h, .refl owner⟩

/-- Any number of events. -/
theorem Spaces.steps_descend {later : List SpaceEvent} (hw : w.Ok)
    (hsteps : Steps (spaceSystem B) w later w') (h : w.Owns i owner) : w'.Descends i owner := by
  induction hsteps generalizing owner with
  | nil => exact ⟨owner, h, .refl owner⟩
  | cons hstep _ ih =>
    obtain ⟨owner₁, howns₁, hbecomes₁⟩ := hstep.descends hw h
    obtain ⟨owner₂, howns₂, hbecomes₂⟩ := ih (hw.step hstep) howns₁
    exact ⟨owner₂, howns₂, hbecomes₁.trans hbecomes₂⟩

/-- The teardown of an inactive owner leaves one that is not live. -/
theorem Spaces.Step.dead_of_teardown (hw : w.Ok) (hstep : Spaces.Step B w (.teardown i) w')
    (h : w.Owns i owner) (hinactive : owner.state = .inactive) :
    ∃ owner', w'.Owns i owner' ∧ owner'.generationLive = false := by
  obtain ⟨calls, hget⟩ := h
  have hhere : ∀ {before after : List (Space ε)} {sp : Space ε},
      (before ++ sp :: after)[before.length]? = some sp := by simp
  cases hstep with
  | tornDown hsplit hrun =>
    rw [hsplit, hhere] at hget
    cases hget
    obtain ⟨_, -, -, -, -, hdead⟩ := (teardownChecked_ends (hw.middle hsplit) _ _).ok hrun
    exact ⟨_, ⟨_, hhere⟩, hdead⟩
  | teardownFailed hsplit hrun =>
    rw [hsplit, hhere] at hget
    cases hget
    obtain ⟨_, _, hfailure, -, -, -, hdead⟩ :=
      (teardownChecked_ends (hw.middle hsplit) _ _).error hrun
    cases hfailure
    exact ⟨_, ⟨_, hhere⟩, hdead hinactive⟩

/-- A call that takes something back has been made for the address space only if its owner is no
longer live. -/
theorem Space.Ok.dead_of_call {sp : Space ε} (h : sp.Ok) (howner : sp.holding = .owner owner)
    {c : Call ε} (hc : c ∈ sp.calls) (hnot : ¬ c.Builds) : owner.generationLive = false := by
  by_contra hlive
  exact hnot ((h.built owner howner (by simpa using hlive)).builds c hc)

/-! ## The result -/

/-- Owners that started teardown stay dead, for every backend and every sequence of operations, each
of which may be the next one in a state that a run has reached.
A construction returns owners that are inactive and own their seven frames, and neither the ledger nor
the root of an owner changes while it is live. The teardown of an owner that is not live and inactive
makes no call and hands the owner back. Once a teardown has begun, no operation on the owner succeeds
again; the same holds when it was the construction of a pair that began it, and a call of it is in the
log. No owner accepts a token of another generation. -/
theorem torn_down_stays_dead (B : AddressSpaceBackend σ ε) (history : List SpaceEvent)
    (w : Spaces σ ε) (h : Run (spaceSystem B) history w) :
    (∀ generation owner st,
      (constructAddressSpace B.logged generation).run (w.backend, []) = (.ok owner, st) →
        owner.Published generation) ∧
    (∀ first second pair st,
      (constructAddressSpacePair B.logged first second).run (w.backend, []) = (.ok pair, st) →
        pair.first.Published first ∧ pair.second.Published second) ∧
    (∀ i owner later w', w.Owns i owner → Steps (spaceSystem B) w later w' →
      ∃ owner', w'.Owns i owner' ∧
        (owner'.generationLive = true →
          owner'.generation = owner.generation ∧ owner'.ledger = owner.ledger ∧
            owner'.root = owner.root)) ∧
    (∀ owner : AddressSpaceOwner, owner.state ≠ .inactive ∨ owner.generationLive = false →
      ∀ st, (teardownChecked B.logged owner).run st =
        (.error (.failed (.owner .wrongState owner)), st)) ∧
    (∀ i owner w₁ later w₂, w.Owns i owner → owner.state = .inactive →
      owner.generationLive = true → (spaceSystem B).step w (.teardown i) w₁ →
      Steps (spaceSystem B) w₁ later w₂ → ∃ owner', w₂.Owns i owner' ∧ owner'.Refuses) ∧
    (∀ sp ∈ w.spaces, ∀ owner, sp.holding = .owner owner → (∃ c ∈ sp.calls, ¬ c.Builds) →
      owner.Refuses) ∧
    (∀ (owner : AddressSpaceOwner) (token : MappingToken), token.generation ≠ owner.generation →
      owner.validateToken token ≠ .ok ()) := by
  have hw := spaces_ok h
  refine ⟨fun _ _ _ hrun => constructed_published hrun, fun _ _ _ _ hrun => pair_published hrun,
    ?_, fun owner hnot st => teardownChecked_refused _ hnot st, ?_, ?_,
    fun _ _ hother => AddressSpaceOwner.validateToken_of_other hother⟩
  · intro i owner later w' howns hsteps
    obtain ⟨owner', howns', hbecomes⟩ := Spaces.steps_descend hw hsteps howns
    exact ⟨owner', howns', fun hlive => ⟨hbecomes.generation, (hbecomes.live hlive).2⟩⟩
  · intro i owner w₁ later w₂ howns hinactive _ hstep hsteps
    obtain ⟨owner₁, howns₁, hdead⟩ := Spaces.Step.dead_of_teardown hw hstep howns hinactive
    obtain ⟨owner₂, howns₂, hbecomes⟩ := Spaces.steps_descend (hw.step hstep) hsteps howns₁
    exact ⟨owner₂, howns₂, AddressSpaceOwner.refuses_of_dead (hbecomes.dead hdead)⟩
  · rintro sp hsp owner howner ⟨c, hc, hnot⟩
    exact AddressSpaceOwner.refuses_of_dead ((hw sp hsp).dead_of_call howner hc hnot)

/-- A backend that hands out frames and fails to remove any link. -/
def stickyBackend : AddressSpaceBackend UInt64 Unit :=
  { countingBackend with removeLink := fun _ _ _ => fail () }

/-- A teardown that stops at its first call. -/
theorem stuck_teardown_stays_dead :
    ∃ w₁ w₂ owner, w₁.Owns 0 (countedOwner 1 4096) ∧ Spaces.Step stickyBackend w₁ (.teardown 0) w₂ ∧
      w₂.Owns 0 owner ∧ owner.Refuses := by
  obtain ⟨⟨backend, calls⟩, hconstruct⟩ : ∃ st,
      (constructAddressSpace stickyBackend.logged 1).run (4096, []) = (.ok (countedOwner 1 4096), st) :=
    ⟨_, run_eq_of_result (by decide +kernel)⟩
  have hstep := Spaces.Step.constructed (w := ⟨4096, []⟩) hconstruct
  have hrun : Run (spaceSystem stickyBackend) [.construct 1] _ := .step (.start rfl) hstep
  have hsplit : ([] : List (Space Unit)) ++ [⟨calls, .owner (countedOwner 1 4096)⟩] =
      [] ++ ⟨calls, .owner (countedOwner 1 4096)⟩ :: [] := rfl
  obtain ⟨w₂, hteardown⟩ := teardown_step (spaces_ok hrun) hsplit
  obtain ⟨owner, howns, hrefuses⟩ := (torn_down_stays_dead stickyBackend _ _ hrun).2.2.2.2.1
    0 (countedOwner 1 4096) _ [] _ ⟨_, rfl⟩ rfl rfl hteardown .nil
  exact ⟨_, w₂, owner, ⟨_, rfl⟩, hteardown, howns, hrefuses⟩

end MakopaVerified.AddressSpace
