import MakopaVerified.AddressSpace.Proofs.ConstructProofs

/-!
# Rollback and teardown over a backend that is known

The counterpart of `ConstructProofs`: an assertion about the backend goes from one removed link to
the next, through the calls that clear and check, and then from one returned frame to the next. What
a call fails with is what the teardown fails with. Nothing has to be known of the backend for the
owners that a construction hands back, and for it not to panic.
-/

namespace MakopaVerified.AddressSpace

open Foundation

variable {σ ε : Type} {B : AddressSpaceBackend σ ε} {L : Nat → σ → Prop} {C W : σ → Prop}
  {R : List OwnedFrame → σ → Prop} {Err : ε → σ → Prop} {owner : AddressSpaceOwner}

/-- The function has failed with an error of the backend. -/
def FailedIn (Err : ε → σ → Prop) (e : Stop ε) (st : AddressSpaceOwner × σ) : Prop :=
  ∃ b, e = .failed b ∧ Err b st.2

/-- `L n` holds of the backend when the first `n` links between the frames are there. -/
def Removes (B : AddressSpaceBackend σ ε) (frames : List OwnedFrame) (L : Nat → σ → Prop)
    (Err : ε → σ → Prop) : Prop :=
  ∀ n link parent child s, buildLinks[n]? = some link →
    FrameLedger.frameFor ⟨frames⟩ link.parent = some parent →
    FrameLedger.frameFor ⟨frames⟩ link.child = some child → L (n + 1) s →
    (B.removeLink link parent child).Ends s (fun _ s' => L n s') Err

/-- The calls after the links are gone: from `C` the temporary window is closed, from `W` the frames
are checked, and `R frames` holds while `frames` are still to be returned. -/
structure Releases (B : AddressSpaceBackend σ ε) (frames : List OwnedFrame) (C W : σ → Prop)
    (R : List OwnedFrame → σ → Prop) (Err : ε → σ → Prop) : Prop where
  closes : ∀ s, C s → B.clearTemporaryWindow.Ends s (fun _ s' => W s') Err
  verifies : ∀ s, W s → (B.verifyUnreachable frames).Ends s (fun _ s' => R frames s') Err
  returns : ∀ rest frame s, R (rest ++ [frame]) s →
    (B.returnFrame frame).Ends s (fun _ s' => R rest s') Err

/-! ## The loops -/

theorem onBackend_known {α : Type} {m : Method σ ε α} {s : σ}
    {Q : α → AddressSpaceOwner × σ → Prop} (h : m.Ends s (fun a s' => Q a (owner, s')) Err) :
    (onBackend m).Ends (owner, s) Q (FailedIn Err) :=
  .onPart (h.mono (fun _ _ hQ => hQ) fun e _ he => ⟨e, rfl, he⟩)

/-- The links from the last to the first. -/
theorem removeLinks_known {n : Nat} {s : σ} (hL : Removes B owner.ledger.frames L Err)
    (hends : ∀ link ∈ buildLinks.take n, HasEnds owner.ledger link) (hn : n ≤ buildLinks.length)
    (h : L n s) :
    (removeLinks B (buildLinks.take n).reverse).Ends (owner, s)
      (fun _ st => st.1 = owner ∧ L 0 st.2) (FailedIn Err) := by
  induction n generalizing s with
  | zero => exact .pure ⟨rfl, h⟩
  | succ n ih =>
    obtain ⟨link, hlink⟩ : ∃ link, buildLinks[n]? = some link :=
      ⟨_, List.getElem?_eq_getElem (by omega)⟩
    have htake : buildLinks.take (n + 1) = buildLinks.take n ++ [link] := by
      rw [List.take_add_one, hlink]
      rfl
    rw [htake] at hends ⊢
    obtain ⟨⟨parent, hparent⟩, child, hchild⟩ := hends link (by simp)
    rw [List.reverse_append, List.reverse_singleton, List.singleton_append]
    refine .bind (.of_ok (run_expectFrame hparent s) ?_)
    refine .bind (.of_ok (run_expectFrame hchild s) ?_)
    refine .bind (onBackend_known ((hL n link parent child s hlink hparent hchild h).mono ?_
      fun _ _ he => he))
    intro _ s' h'
    exact ih (fun link' hlink' => hends link' (List.mem_append_left _ hlink')) (by omega) h'

/-- The frames from the last to the first. -/
theorem returnFrames_known {frames : List OwnedFrame} {s : σ}
    (hreturns : ∀ rest frame s, R (rest ++ [frame]) s →
      (B.returnFrame frame).Ends s (fun _ s' => R rest s') Err)
    (howner : owner.ledger.frames = frames) (h : R frames s) :
    (returnFrames B frames.length).Ends (owner, s)
      (fun _ st => st.1 = { owner with ledger := .new } ∧ R [] st.2) (FailedIn Err) := by
  induction frames using List.reverseRecOn generalizing owner s with
  | nil =>
    refine .pure ⟨?_, h⟩
    rw [← FrameLedger.eq_new howner]
  | append_singleton rest frame ih =>
    rw [List.length_append, List.length_singleton]
    refine .bind (.self ?_)
    rw [howner, List.getLast?_concat]
    refine .bind (onBackend_known ((hreturns rest frame s h).mono ?_ fun _ _ he => he))
    intro _ s' h'
    have hpopped : owner.ledger.pop = ⟨rest⟩ := by
      unfold FrameLedger.pop
      rw [howner, List.dropLast_concat]
    refine .bind (.update ?_)
    rw [hpopped]
    exact ih rfl h'

theorem releaseFrames_known {s : σ} (hrel : Releases B owner.ledger.frames C W R Err) (h : C s) :
    (releaseFrames B).Ends (owner, s)
      (fun _ st => st.1 = { owner with ledger := .new } ∧ R [] st.2) (FailedIn Err) := by
  refine .bind (onBackend_known ((hrel.closes s h).mono ?_ fun _ _ he => he))
  intro _ s₁ h₁
  refine .bind (.self (.bind (onBackend_known ((hrel.verifies s₁ h₁).mono ?_ fun _ _ he => he))))
  intro _ s₂ h₂
  exact returnFrames_known hrel.returns rfl h₂

/-! ## `rollback_owned_frames` and `teardown_checked` -/

theorem rollbackOwnedFrames_known {n : Nat} {s : σ} (hL : Removes B owner.ledger.frames L Err)
    (hends : ∀ link ∈ buildLinks.take n, HasEnds owner.ledger link) (hn : n ≤ buildLinks.length)
    (hclears : ∀ root s, owner.ledger.frameFor .root = some root → L 0 s →
      (B.clearSharedEntries root).Ends s (fun _ s' => C s') Err)
    (hnone : ∀ s, owner.ledger.frameFor .root = none → L 0 s → C s)
    (hrel : Releases B owner.ledger.frames C W R Err) (h : L n s) :
    (rollbackOwnedFrames B n).Ends (owner, s)
      (fun _ st => st.1.ledger = .new ∧ R [] st.2) (FailedIn Err) := by
  refine .bind ((removeLinks_known hL hends hn h).mono ?_ fun _ _ he => he)
  rintro _ ⟨owner, s₁⟩ ⟨rfl, h₁⟩
  have hrest : ∀ s₂, C s₂ → (releaseFrames B >>= fun _ => Method.update fun s =>
      ({ s.1 with generationLive := false, root := none, state := .dead }, s.2)).Ends (owner, s₂)
        (fun _ st => st.1.ledger = .new ∧ R [] st.2) (FailedIn Err) := by
    intro s₂ h₂
    refine .bind ((releaseFrames_known hrel h₂).mono ?_ fun _ _ he => he)
    rintro _ ⟨owner', s₃⟩ ⟨rfl, h₃⟩
    exact .update ⟨rfl, h₃⟩
  refine .bind (.self ?_)
  dsimp only
  cases hroot : owner.ledger.frameFor .root with
  | none => exact hrest s₁ (hnone s₁ hroot h₁)
  | some root =>
    exact .bind (onBackend_known ((hclears root s₁ hroot h₁).mono (fun _ s₂ h₂ => hrest s₂ h₂)
      fun _ _ he => he))

theorem teardownInactive_known {root : UInt64} {s : σ} (hends : ∀ link, HasEnds owner.ledger link)
    (hroot : owner.ledger.frameFor .root = some root) (hL : Removes B owner.ledger.frames L Err)
    (hclears : ∀ s, L 0 s → (B.clearSharedEntries root).Ends s (fun _ s' => C s') Err)
    (hrel : Releases B owner.ledger.frames C W R Err) (h : L buildLinks.length s) :
    (teardownInactive B).Ends (owner, s) (fun _ st => st.1.ledger = .new ∧ R [] st.2)
      (FailedIn Err) := by
  have hall := removeLinks_known hL (fun link _ => hends link) le_rfl h
  rw [List.take_length] at hall
  refine .bind (hall.mono ?_ fun _ _ he => he)
  rintro _ ⟨owner', s₁⟩ ⟨howner, h₁⟩
  obtain rfl : owner' = owner := howner
  refine .bind (.of_ok (run_expectFrame hroot s₁) ?_)
  refine .bind (onBackend_known ((hclears s₁ h₁).mono ?_ fun _ _ he => he))
  intro _ s₂ h₂
  refine (releaseFrames_known hrel h₂).mono ?_ fun _ _ he => he
  rintro _ ⟨_, s₃⟩ ⟨rfl, h₃⟩
  exact ⟨rfl, h₃⟩

/-- An inactive owner is dead after its teardown and owns nothing; only the backend can stop that. -/
theorem teardownChecked_known {generation root : UInt64} {s : σ}
    (howner : owner.Published generation) (hroot : owner.root = some root)
    (hL : Removes B owner.ledger.frames L Err)
    (hclears : ∀ s, L 0 s → (B.clearSharedEntries root).Ends s (fun _ s' => C s') Err)
    (hrel : Releases B owner.ledger.frames C W R Err) (h : L buildLinks.length s) :
    (teardownChecked B owner).Ends s
      (fun dead s' => dead.state = .dead ∧ dead.ledger = .new ∧ R [] s')
      fun e s' => ∃ failure, e = .failed (.backend failure) ∧ Err failure.error s' := by
  have hinner : (teardownInactive B).Ends ({ owner with generationLive := false }, s)
      (fun _ st => st.1.ledger = .new ∧ R [] st.2) (FailedIn Err) :=
    teardownInactive_known (hasEnds_of_roles howner.roles) (howner.frameFor_root hroot) hL hclears
      hrel h
  unfold teardownChecked
  rw [if_neg (by simp [howner.inactive, howner.live])]
  refine .onPart ?_
  show (teardownAddressSpace B owner).Ends s _ _
  have hrun : (teardownAddressSpace B owner).run s = teardownResult
      ((teardownInactive B).run ({ owner with generationLive := false }, s)) := rfl
  rcases hr : (teardownInactive B).run ({ owner with generationLive := false }, s) with
    ⟨e | _, owner', s'⟩
  · obtain ⟨b, rfl, hb⟩ := hinner.error hr
    rw [hr] at hrun
    exact .of_error hrun ⟨_, rfl, hb⟩
  · rw [hr] at hrun
    obtain ⟨hledger, hreturned⟩ := hinner.ok hr
    exact .of_ok hrun ⟨rfl, hledger, hreturned⟩

/-! ## Any backend -/

section AnyBackend

variable {α : Type} {generation : UInt64}

/-- The function has failed, and not panicked. -/
def Failed {ε' : Type} (e : Stop ε') : Prop := ∃ failure, e = .failed failure

/-- The calls that take an address space back. -/
inductive TeardownCall (B : AddressSpaceBackend σ ε) : Method σ ε Unit → Prop where
  | removeLink (link : LinkSpec) (parent child : UInt64) :
      TeardownCall B (B.removeLink link parent child)
  | clearSharedEntries (root : UInt64) : TeardownCall B (B.clearSharedEntries root)
  | clearTemporaryWindow : TeardownCall B B.clearTemporaryWindow
  | verifyUnreachable (frames : List OwnedFrame) : TeardownCall B (B.verifyUnreachable frames)
  | returnFrame (frame : OwnedFrame) : TeardownCall B (B.returnFrame frame)

/-- Such a call has returned the error `e` and left the backend in `s`. -/
def Refused (B : AddressSpaceBackend σ ε) (e : ε) (s : σ) : Prop :=
  ∃ call before, TeardownCall B call ∧ call.run before = (.error e, s)

theorem TeardownCall.any {call : Method σ ε Unit} (h : TeardownCall B call) (s : σ) :
    call.Ends s (fun _ _ => True) (Refused B) :=
  ⟨fun _ => trivial, fun hrun => ⟨call, s, h, hrun⟩⟩

theorem removes_any (frames : List OwnedFrame) :
    Removes B frames (fun _ _ => True) (Refused B) :=
  fun _ link parent child s _ _ _ _ => (TeardownCall.removeLink link parent child).any s

theorem releases_any (frames : List OwnedFrame) :
    Releases B frames (fun _ => True) (fun _ => True) (fun _ _ => True) (Refused B) where
  closes s _ := TeardownCall.clearTemporaryWindow.any s
  verifies s _ := (TeardownCall.verifyUnreachable frames).any s
  returns _ frame s _ := (TeardownCall.returnFrame frame).any s

/-- The teardown of an inactive owner is stopped by an error of the backend, or by nothing. -/
theorem teardownChecked_any (howner : owner.Published generation) (s : σ) :
    (teardownChecked B owner).Ends s (fun dead _ => dead.state = .dead ∧ dead.ledger = .new)
      fun e s' => ∃ failure, e = .failed (.backend failure) ∧ Refused B failure.error s' := by
  obtain ⟨root, hroot, -⟩ := howner.root
  refine (teardownChecked_known howner hroot (removes_any _)
    (fun s _ => (TeardownCall.clearSharedEntries root).any s) (releases_any _) trivial).mono
    ?_ fun _ _ he => he
  exact fun dead s' h => ⟨h.1, h.2.1⟩

/-- A rollback with frames for the ends of the links does not panic. -/
theorem rollbackBuild_any {cause : BuildCause ε} {st : BuildState σ}
    {Q : α → BuildState σ → Prop}
    (hends : ∀ link ∈ buildLinks.take st.installedLinks, HasEnds st.owner.ledger link)
    (hn : st.installedLinks ≤ buildLinks.length) :
    (rollbackBuild B cause : Method _ _ α).Ends st Q fun e _ => Failed e := by
  have hinner := rollbackOwnedFrames_known (s := st.backend) (removes_any (B := B) _) hends hn
    (fun root s _ _ => (TeardownCall.clearSharedEntries root).any s) (fun _ _ _ => trivial) (releases_any _) trivial
  refine rollbackBuild_known fun e st' hrun => ?_
  rw [run_rollbackBuild] at hrun
  rcases hr : (rollbackOwnedFrames B st.installedLinks).run (st.owner, st.backend) with
    ⟨e' | _, owner, s⟩
  · obtain ⟨b, rfl, -⟩ := hinner.error hr
    rw [hr] at hrun
    cases hrun
    exact ⟨_, rfl⟩
  · rw [hr] at hrun
    cases hrun
    exact ⟨_, rfl⟩

theorem backendOrRollback_any {m : Method σ ε α} {st : BuildState σ}
    {Q : α → BuildState σ → Prop}
    (hends : ∀ link ∈ buildLinks.take st.installedLinks, HasEnds st.owner.ledger link)
    (hn : st.installedLinks ≤ buildLinks.length) (h : ∀ a s, Q a { st with backend := s }) :
    (backendOrRollback B m).Ends st Q fun e _ => Failed e :=
  backendOrRollback_known ⟨fun _ => h _ _, fun _ => rollbackBuild_any hends hn⟩

theorem allocateRoles_any {done : List OwnedFrame} {rest : List FrameRole} {s : σ}
    (hall : FrameRole.all = done.map (·.role) ++ rest) (hok : FramesOk done) :
    (allocateRoles B generation rest).Ends ⟨⟨generation, true, .building, none, ⟨done⟩⟩, 0, s⟩
      (fun _ st => ∃ frames, AllFrames frames ∧
        st.owner = ⟨generation, true, .building, none, ⟨frames⟩⟩ ∧ st.installedLinks = 0)
      fun e _ => Failed e := by
  induction rest generalizing done s with
  | nil =>
    rw [List.append_nil] at hall
    exact .pure ⟨done, ⟨hall.symm, hok⟩, rfl, rfl⟩
  | cons role rest ih =>
    have hnone : ∀ {owner : AddressSpaceOwner}, ∀ link ∈ buildLinks.take 0,
        HasEnds owner.ledger link := nofun
    refine .bind (backendOrRollback_any hnone (Nat.zero_le _) fun frame s₁ => ?_)
    have hrecord := @run_recordFrame ⟨generation, true, .building, none, ⟨done⟩⟩ ⟨role, frame⟩ rfl
      rfl (room_of_roles hall)
    refine .bind (.bind (.onPart (.of_ok (Method.run_attempt_of hrecord) ?_)))
    cases hvalid : (AddressSpaceOwner.withFrame ⟨generation, true, .building, none, ⟨done⟩⟩
        ⟨role, frame⟩).ledger.validateLatest with
    | error e => exact rollbackBuild_any hnone (Nat.zero_le _)
    | ok u =>
      refine .pure (.bind (backendOrRollback_any hnone (Nat.zero_le _) fun _ s₂ => ?_))
      exact ih (by rw [hall]; simp) (hok.of_validateLatest hvalid)

theorem installLinks_any {frames : List OwnedFrame} {n : Nat} {rest : List LinkSpec} {s : σ}
    (hframes : AllFrames frames) (hrest : n + rest.length ≤ buildLinks.length) :
    (installLinks B rest).Ends ⟨⟨generation, true, .building, none, ⟨frames⟩⟩, n, s⟩
      (fun _ st => st.owner = ⟨generation, true, .building, none, ⟨frames⟩⟩)
      fun e _ => Failed e := by
  induction rest generalizing n s with
  | nil => exact .pure rfl
  | cons link rest ih =>
    rw [List.length_cons] at hrest
    obtain ⟨parent, hparent⟩ := hframes.frameFor link.parent
    obtain ⟨child, hchild⟩ := hframes.frameFor link.child
    refine .bind (.of_ok (run_expectBuilt hparent) ?_)
    refine .bind (.of_ok (run_expectBuilt hchild) ?_)
    have hn : n + 1 + rest.length ≤ buildLinks.length := by omega
    refine .bind (backendOrRollback_any (fun link' _ => hasEnds_of_roles hframes.1 link')
      (by show n ≤ _; omega) fun _ s' => .bind (.update ?_))
    exact ih hn

theorem constructAddressSpace_any (hgeneration : generation ≠ 0) (s : σ) :
    (constructAddressSpace B generation).Ends s (fun owner _ => owner.Published generation)
      fun e _ => Failed e := by
  refine construct_of_build hgeneration ?_
  refine .bind ((allocateRoles_any rfl framesOk_nil).mono ?_ fun _ _ he => he)
  rintro _ ⟨owner, installed, s₁⟩ ⟨frames, hframes, howner, hinstalled⟩
  obtain rfl : owner = _ := howner
  obtain rfl : installed = 0 := hinstalled
  refine .bind ((installLinks_any hframes (Nat.zero_add _).le).mono ?_ fun _ _ he => he)
  rintro _ ⟨owner, installed, s₂⟩ howner
  obtain rfl : owner = _ := howner
  exact publish_known hframes fun owner hpublished _ => hpublished

theorem constructAddressSpacePair_any {first second : UInt64} (hfirst : first ≠ 0)
    (hsecond : second ≠ 0) (s : σ) :
    (constructAddressSpacePair B first second).Ends s
      (fun pair _ => pair.first.Published first ∧ pair.second.Published second)
      fun e _ => Failed e := by
  refine .bind (.onPart ((constructAddressSpace_any hfirst s).mono ?_ ?_))
  · intro owner s₁ howner
    refine .bind (.attempt ((constructAddressSpace_any hsecond s₁).mono ?_ ?_))
    · exact fun second s₂ hsecond => .pure ⟨howner, hsecond⟩
    · rintro _ s₂ ⟨failure, rfl⟩
      refine .bind (.attempt ((teardownChecked_any howner s₂).mono ?_ ?_))
      · exact fun _ _ _ => .fail ⟨_, rfl⟩
      · rintro _ s₃ ⟨failure', rfl, -⟩
        exact .fail ⟨_, rfl⟩
  · rintro _ s₁ ⟨failure, rfl⟩
    exact ⟨_, rfl⟩

end AnyBackend

end MakopaVerified.AddressSpace
