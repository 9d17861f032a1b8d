import MakopaVerified.TaskRuntime.Proofs.CooperativeTrapProofs
import MakopaVerified.TaskRuntime.Proofs.TeardownProofs

/-!
# The cooperative invariant is kept

Every effect of a trap, the capture of registers and both phases of a teardown keep `CoopInv`.
-/

namespace MakopaVerified.TaskRuntime

open Foundation TaskRuntime.Runtime CapabilityTable

/-! ## The endpoint and the states -/

namespace CoopOk

variable {rt : Runtime}

/-- Other states and another queue. -/
theorem restate (h : CoopOk rt) {state0 state1 : TaskState} {q : RunQueue}
    (h0 : state0 ≠ .staged ∧ state0 ≠ .blockedApproval)
    (h1 : state1 ≠ .staged ∧ state1 ≠ .blockedApproval)
    (hlive : rt.task0.state ≠ .dead ∨ rt.task1.state ≠ .dead)
    (hblocked : state1 = .blockedReceive →
      rt.endpoint.occupied = false ∧ rt.endpoint.senderGeneration ≠ 0)
    (hdead : ¬ (state0 = .dead ∧ state1 = .dead)) :
    CoopOk { rt with
      task0 := rt.task0.withState state0
      task1 := rt.task1.withState state1
      queue := q } :=
  { h with
    sender_state := h0
    receiver_state := h1
    blocked := hblocked
    object_live := fun _ => h.object_live hlive
    all_dead := fun hd0 hd1 => absurd ⟨hd0, hd1⟩ hdead }

/-- The endpoint gives up its message. -/
theorem clear (h : CoopOk rt) :
    CoopOk { rt with endpoint := { rt.endpoint with occupied := false, payload := 0 } } :=
  { h with
    blocked := fun hb => ⟨rfl, (h.blocked hb).2⟩
    unreceived := fun _ => rfl
    vacant := fun _ => rfl
    all_dead := fun hd0 hd1 => by
      show ({ rt.endpoint with occupied := false, payload := 0 } : Endpoint) = Endpoint.empty
      rw [h.all_dead hd0 hd1]
      rfl }

/-- The endpoint takes a message for a receiver that is bound and does not wait. -/
theorem store (h : CoopOk rt) (value : UInt64) (hbound : rt.endpoint.receiverGeneration ≠ 0)
    (hawake : rt.task1.state ≠ .blockedReceive) (hlive : rt.task0.state ≠ .dead) :
    CoopOk { rt with endpoint := { rt.endpoint with occupied := true, payload := value } } :=
  { h with
    blocked := fun hb => absurd hb hawake
    unreceived := fun hr => absurd hr hbound
    vacant := nofun
    all_dead := fun hd0 _ => absurd hd0 hlive }

/-- A runtime with nothing left in it. -/
theorem finished (h0 : rt.task0.state = .dead) (h1 : rt.task1.state = .dead)
    (t0 : rt.task0.capabilities.state = .dead) (t1 : rt.task1.capabilities.state = .dead)
    (he : rt.endpoint = Endpoint.empty) (hm : rt.manifest = ManifestPublication.empty)
    (hb : rt.broker = ApprovalBroker.dead) (hf : rt.effect = SyntheticEffect.empty) :
    CoopOk rt where
  sender_state := by rw [h0]; decide
  receiver_state := by rw [h1]; decide
  manifest_empty := hm
  broker_dead := hb
  effect_empty := hf
  sender_live hl := nomatch t0.symm.trans hl
  sender_gone _ := by rw [he]; exact ⟨rfl, rfl⟩
  receiver_live hl := nomatch t1.symm.trans hl
  receiver_gone _ := by rw [he]; exact ⟨rfl, rfl⟩
  blocked hb := nomatch h1.symm.trans hb
  unreceived _ := by rw [he]; rfl
  vacant _ := by rw [he]; rfl
  object_generation := .inl (by rw [he]; rfl)
  object_live := by
    rintro (h | h)
    · exact absurd h0 h
    · exact absurd h1 h
  sender_bound := by rw [he]; exact Iff.rfl
  receiver_bound := by rw [he]; exact Iff.rfl
  sender_task := .inl (by rw [he]; rfl)
  receiver_task := .inl (by rw [he]; rfl)
  all_dead _ _ := he

end CoopOk

namespace CoopInv

variable {rt : Runtime} {task : UInt64}

/-! ## Registers, tables and states -/

/-- The cooperative half of the check is enough. -/
theorem valid_of {rt' : Runtime} (hp : rt'.profile = .cooperative) (hs : SlotsOk rt')
    (hc : CoopOk rt') : Valid rt' :=
  { hs with
    cooperative := fun _ => hc
    supervised := fun hp' => absurd (hp.symm.trans hp') (by decide) }

/-- Other registers. -/
theorem withContexts (h : CoopInv rt) {c0 c1 : TaskContext} (h0 : ContextOk rt.task0 c0)
    (h1 : ContextOk rt.task1 c1) :
    CoopInv { rt with task0 := rt.task0.withContext c0, task1 := rt.task1.withContext c1 } :=
  { h with
    valid := valid_of h.profile (h.valid.toSlotsOk.withContexts h0 h1) { h.coop with } }

/-- A result in the registers of one task. -/
theorem answered (h : CoopInv rt) (hk : KnownTask task) (status : TrapStatus) (value : UInt64) :
    CoopInv (mapSlot task (TaskSlot.answered status value) rt) := by
  rcases hk with rfl | rfl <;> exact h.withContexts h.valid.slot0.contextOk h.valid.slot1.contextOk

/-- Another endpoint that the check accepts. -/
theorem withEndpoint (h : CoopInv rt) {endpoint : Endpoint}
    (hc : CoopOk { rt with endpoint := endpoint }) : CoopInv { rt with endpoint := endpoint } :=
  { h with valid := valid_of h.profile { h.valid.toSlotsOk with } hc }

/-- Two live tasks in other live states. -/
theorem restate (h : CoopInv rt) (live0 : rt.task0.state.isLive = true)
    (live1 : rt.task1.state.isLive = true) {state0 state1 : TaskState} {l : List UInt64}
    (seats : Seats .blockedReceive state0 state1 l)
    (hblocked : state1 = .blockedReceive →
      rt.endpoint.occupied = false ∧ rt.endpoint.senderGeneration ≠ 0) :
    CoopInv { rt with
      task0 := rt.task0.withState state0
      task1 := rt.task1.withState state1
      queue := RunQueue.ofList l } where
  profile := h.profile
  id0 := h.id0
  id1 := h.id1
  valid := by
    refine valid_of h.profile
      (h.valid.toSlotsOk.restate h.id0 h.id1 live0 live1 seats (.inl rfl))
      (h.coop.restate ?_ ?_ (.inl (SlotOk.not_dead_of_live live0)) hblocked ?_) <;>
      cases seats <;> decide
  phase := seats.phase rfl
  sender_awake := by
    show state0 ≠ .blockedReceive
    cases seats <;> decide
  sender_rights := h.sender_rights
  receiver_rights := h.receiver_rights

/-- The receiver that waits is made ready while the sender runs. -/
theorem wake (h : CoopInv rt) (hr : rt.task0.state = .running)
    (hb : rt.task1.state = .blockedReceive) :
    CoopInv { rt with
      task1 := rt.task1.withState .ready
      queue := RunQueue.ofList [receiverTaskId] } := by
  have hself : rt.task0.withState .running = rt.task0 := TaskSlot.withState_self hr
  rw [← hself]
  exact h.restate (by rw [hr]; rfl) (by rw [hb]; rfl) .first nofun

/-- The running task exits. -/
theorem exited (h : CoopInv rt) (hr : rt.Running task) :
    CoopInv (mapSlot task (TaskSlot.withState .exited) rt) := by
  have hslots := h.valid.toSlotsOk.exit hr
  rcases hr with ⟨rfl, hr⟩ | ⟨rfl, hr⟩
  · have hpassive := h.phase.second_passive (by rw [hr]; rfl)
    exact
      { h with
        valid := valid_of h.profile hslots
          { h.coop with
            sender_state := ⟨nofun, nofun⟩
            object_live := fun _ => h.coop.object_live (.inl (by rw [hr]; decide))
            all_dead := nofun }
        phase := .inl ⟨rfl, hpassive⟩
        sender_awake := nofun }
  · have hpassive := h.phase.first_passive (by rw [hr]; rfl)
    exact
      { h with
        valid := valid_of h.profile hslots
          { h.coop with
            receiver_state := ⟨nofun, nofun⟩
            blocked := nofun
            object_live := fun _ => h.coop.object_live (.inr (by rw [hr]; decide))
            all_dead := nofun }
        phase := .inr (.inl ⟨hpassive, rfl⟩) }

/-- The table of the running task changes in place. -/
theorem withTable (h : CoopInv rt) (hr : rt.Running task) {table : CapabilityTable}
    (hok : table.TableOk) (hsame : (rt.slotOf task).capabilities.SameOwner table)
    (hlacks : ∀ right, (rt.slotOf task).capabilities.Lacks right → table.Lacks right) :
    CoopInv (mapSlot task (TaskSlot.withTable table) rt) := by
  have hslots := h.valid.toSlotsOk.withTable hr hok hsame
  have hlive := h.valid.toSlotsOk.table_live hr
  have hstate : table.state = (rt.slotOf task).capabilities.state := hsame.2.2
  rcases hr.known with rfl | rfl
  · exact
      { h with
        valid := valid_of h.profile hslots
          { h.coop with
            sender_live := fun _ => h.coop.sender_live hlive
            sender_gone := fun hg => h.coop.sender_gone (hstate ▸ hg) }
        sender_rights := hlacks _ h.sender_rights }
  · exact
      { h with
        valid := valid_of h.profile hslots
          { h.coop with
            receiver_live := fun _ => h.coop.receiver_live hlive
            receiver_gone := fun hg => h.coop.receiver_gone (hstate ▸ hg) }
        receiver_rights := hlacks _ h.receiver_rights }

/-! ## Traps -/

theorem lacks_of_duplicated {requested : UInt64} {t t' : CapabilityTable}
    (h : CapabilityTable.Duplicated requested t t') (right : UInt64) (ht : t.Lacks right) :
    t'.Lacks right :=
  h.entries ht fun _ he _ hsub => and_eq_zero_of_subset hsub he

/-- Every effect of a trap keeps the invariant. -/
theorem effect (h : CoopInv rt) (hr : rt.Running task) {outcome : TrapOutcome} {rt' : Runtime}
    (he : TrapEffect rt task outcome rt') : CoopInv rt' := by
  have hunsupervised : rt.profile ≠ .supervised := by rw [h.profile]; decide
  have hk := hr.known
  have hlive : (rt.slotOf task).state.isLive = true := by rw [hr.state]; rfl
  have htable := h.valid.toSlotsOk.tableOk hr
  cases he with
  | refused => exact h.answered hk _ _
  | kept => exact h.answered hk _ _
  | yielded op other known waiting =>
    rcases hk with rfl | rfl
    · obtain rfl : _ = receiverTaskId := known.resolve_left other
      have hready := h.valid.toSlotsOk.ready1 h.id1 waiting
      exact (h.restate hlive (by rw [hready]; rfl) .second nofun).answered
        (.inl rfl) .ok 0
    · obtain rfl : _ = senderTaskId := known.resolve_right other
      have hready := h.valid.toSlotsOk.ready0 h.id0 waiting
      exact (h.restate (by rw [hready]; rfl) hlive .first nofun).answered
        (.inr rfl) .ok 0
  | stored op sender bound vacant awake =>
    subst sender
    have hdead : rt.task0.state ≠ .dead := SlotOk.not_dead_of_live hlive
    exact (h.withEndpoint (h.coop.store _ bound awake hdead)).answered (.inl rfl) .ok 0
  | delivered op sender vacant blocked =>
    subst sender
    have hwoken := h.wake hr.state blocked
    exact ((hwoken.withEndpoint hwoken.coop.clear).answered (.inr rfl) .ok _).answered (.inl rfl)
      .ok 0
  | took op receiver occupied =>
    subst receiver
    exact (h.withEndpoint h.coop.clear).answered (.inr rfl) .ok _
  | blocked op receiver vacant bound waiting =>
    subst receiver
    have hready := h.valid.toSlotsOk.ready0 h.id0 waiting
    exact h.restate (by rw [hready]; rfl) hlive .waiting fun _ => ⟨vacant, bound⟩
  | exited => exact h.exited hr
  | duplicated op change =>
    obtain ⟨hok, hsame⟩ := change.keeps htable
    rw [← mapSlot_mapSlot task (TaskSlot.answered .ok _) (TaskSlot.withTable _)]
    exact (h.withTable hr hok hsame (lacks_of_duplicated change)).answered hk .ok _
  | closed op change =>
    obtain ⟨hok, hsame⟩ := change.keeps htable
    rw [← mapSlot_mapSlot task (TaskSlot.answered .ok 0) (TaskSlot.withTable _)]
    exact (h.withTable hr hok hsame fun _ ht => change.entries ht).answered hk .ok 0
  | launched _ _ supervised | submitted _ _ supervised | inspected _ supervised
  | approved _ _ supervised | concluded _ _ supervised | exhausted _ _ supervised
  | committed _ _ supervised => exact absurd supervised hunsupervised

/-! ## Teardown -/

/-- The first phase keeps the invariant. -/
theorem begun (h : CoopInv rt) (hx : Exited rt task)
    (hlive : (rt.slotOf task).capabilities.state = .live) {rt' : Runtime}
    (hb : TeardownBegun rt task rt') : CoopInv rt' := by
  have hunsupervised : rt.profile ≠ .supervised := by rw [h.profile]; decide
  cases hb with
  | sender cooperative quiet =>
    have hs0 : rt.task0.state = .exited := hx.state
    have hawake : rt.task1.state ≠ .blockedReceive := fun hb =>
      quiet ⟨(h.coop.blocked hb).1, hb⟩
    exact
      { h with
        valid := valid_of h.profile
          { h.valid.toSlotsOk with slot0 := h.valid.slot0.close hs0 hlive }
          { h.coop with
            sender_live := nofun
            sender_gone := fun _ => ⟨rfl, rfl⟩
            blocked := fun hb => absurd hb hawake
            sender_bound := Iff.rfl
            sender_task := .inl rfl
            all_dead := fun hd _ => nomatch hs0.symm.trans hd }
        sender_rights := .of_empty fun _ => closed_entry }
  | senderWakes cooperative vacant blocked =>
    have hs0 : rt.task0.state = .exited := hx.state
    have hslots := h.valid.toSlotsOk.closedAndWoken h.id0 h.id1 hs0 hlive (by rw [blocked]; rfl)
      (by rw [blocked]; decide) .peerExited
    exact
      { h with
        valid := valid_of h.profile { hslots with }
          { h.coop with
            receiver_state := ⟨nofun, nofun⟩
            sender_live := nofun
            sender_gone := fun _ => ⟨rfl, rfl⟩
            blocked := nofun
            object_live := fun _ => h.coop.object_live (.inl (by rw [hs0]; decide))
            sender_bound := Iff.rfl
            sender_task := .inl rfl
            all_dead := nofun }
        phase := .inl ⟨show rt.task0.state.isActive = true by rw [hs0]; rfl, rfl⟩
        sender_rights := .of_empty fun _ => closed_entry }
  | receiver cooperative =>
    have hs1 : rt.task1.state = .exited := hx.state
    exact
      { h with
        valid := valid_of h.profile
          { h.valid.toSlotsOk with slot1 := h.valid.slot1.close hs1 hlive }
          { h.coop with
            receiver_live := nofun
            receiver_gone := fun _ => ⟨rfl, rfl⟩
            blocked := fun hb => nomatch hs1.symm.trans hb
            unreceived := fun _ => rfl
            vacant := fun _ => rfl
            receiver_bound := Iff.rfl
            receiver_task := .inl rfl
            all_dead := fun _ hd => nomatch hs1.symm.trans hd }
        receiver_rights := .of_empty fun _ => closed_entry }
  | supervisor supervised | supervisorWakes supervised | workload supervised =>
    exact absurd supervised hunsupervised

/-- Nobody waits for a task whose handles are closed. -/
theorem peer_ready_or_dead (h : CoopInv rt) (hx : Exited rt task)
    (hclosing : (rt.slotOf task).capabilities.state = .closing) :
    (rt.slotOf (peerOf task)).state = .ready ∧ rt.queue = RunQueue.ofList [peerOf task] ∨
      (rt.slotOf (peerOf task)).state = .dead ∧ rt.queue = RunQueue.ofList [] := by
  rcases h.valid.toSlotsOk.peer_of_exited h.id0 h.id1 h.phase hx with hready | ⟨hidle, hq⟩
  · exact .inl hready
  · refine .inr ⟨hidle.resolve_right ?_, hq⟩
    rcases hx.known with rfl | rfl
    · rintro (hs | hs | hs)
      · exact h.coop.receiver_state.1 hs
      · exact (h.coop.blocked hs).2 (h.coop.sender_gone (.inl hclosing)).2
      · exact h.coop.receiver_state.2 hs
    · rintro (hs | hs | hs)
      · exact h.coop.sender_state.1 hs
      · exact h.sender_awake hs
      · exact h.coop.sender_state.2 hs

/-- What the second phase leaves passes the cooperative part of the check. -/
theorem buried_coop (h : CoopInv rt) (hx : Exited rt task)
    (hclosing : (rt.slotOf task).capabilities.state = .closing) : CoopOk (rt.buried task) := by
  have hunsupervised : ¬ (rt.profile = .supervised ∧ task = senderTaskId) := by
    rw [h.profile]
    rintro ⟨hp, -⟩
    cases hp
  by_cases hpeer : (rt.slotOf (peerOf task)).state = .dead
  · rw [buried_of_peer_dead hx.known hpeer]
    rcases hx.known with rfl | rfl
    · have hs1 : rt.task1.state = .dead := hpeer
      exact CoopOk.finished rfl hs1 rfl (h.valid.slot1.table_dead hs1) rfl rfl rfl rfl
    · have hs0 : rt.task0.state = .dead := hpeer
      exact CoopOk.finished hs0 rfl (h.valid.slot0.table_dead hs0) rfl rfl rfl rfl rfl
  · rw [buried_of_peer_alive hx.known hpeer, if_neg hunsupervised]
    rcases hx.known with rfl | rfl
    · exact
        { h.coop with
          sender_state := ⟨nofun, nofun⟩
          sender_live := nofun
          sender_gone := fun _ => h.coop.sender_gone (.inl hclosing)
          object_live := fun _ => h.coop.object_live (.inr hpeer)
          all_dead := fun _ hd => absurd hd hpeer }
    · exact
        { h.coop with
          receiver_state := ⟨nofun, nofun⟩
          receiver_live := nofun
          receiver_gone := fun _ => h.coop.receiver_gone (.inl hclosing)
          blocked := nofun
          object_live := fun _ => h.coop.object_live (.inl hpeer)
          all_dead := fun hd _ => absurd hd hpeer }

/-- The runtime of the second phase passes its check before the dispatch. -/
theorem buried_valid (h : CoopInv rt) (hx : Exited rt task)
    (hclosing : (rt.slotOf task).capabilities.state = .closing) : Valid (rt.buried task) := by
  refine valid_of ?_ (h.valid.toSlotsOk.buried hx) (h.buried_coop hx hclosing)
  rw [buried_profile hx.known]
  exact h.profile

/-- The second phase keeps the invariant. -/
theorem completed (h : CoopInv rt) (hx : Exited rt task)
    (hclosing : (rt.slotOf task).capabilities.state = .closing) {next : Option UInt64}
    {rt' : Runtime} (hc : TeardownCompleted rt task next rt') : CoopInv rt' := by
  have hunsupervised : ¬ (rt.profile = .supervised ∧ task = senderTaskId) := by
    rw [h.profile]
    rintro ⟨hp, -⟩
    cases hp
  cases hc with
  | finished dead =>
    have hvalid := h.buried_valid hx hclosing
    rw [buried_of_peer_dead hx.known dead] at hvalid ⊢
    rcases hx.known with rfl | rfl
    · exact
        { h with
          valid := hvalid
          phase := .inr (.inr ⟨rfl, dead⟩)
          sender_awake := nofun
          sender_rights := CapabilityTable.Entries.building 0 0 }
    · exact
        { h with
          valid := hvalid
          phase := .inr (.inr ⟨dead, rfl⟩)
          receiver_rights := CapabilityTable.Entries.building 0 0 }
  | handedOver ready =>
    have hslots := h.valid.toSlotsOk.handedOver hx ready
    have hcoop := h.buried_coop hx hclosing
    have hpeer : (rt.slotOf (peerOf task)).state ≠ .dead := by rw [ready]; decide
    rw [buried_of_peer_alive hx.known hpeer, if_neg hunsupervised] at hslots hcoop ⊢
    rcases hx.known with rfl | rfl
    · exact
        { h with
          valid := valid_of h.profile hslots
            { hcoop with
              receiver_state := ⟨nofun, nofun⟩
              blocked := nofun
              object_live := fun _ => hcoop.object_live (.inr hpeer)
              all_dead := nofun }
          phase := .inr (.inl ⟨rfl, rfl⟩)
          sender_awake := nofun
          sender_rights := CapabilityTable.Entries.building 0 0 }
    · exact
        { h with
          valid := valid_of h.profile hslots
            { hcoop with
              sender_state := ⟨nofun, nofun⟩
              object_live := fun _ => hcoop.object_live (.inl hpeer)
              all_dead := nofun }
          phase := .inl ⟨rfl, rfl⟩
          sender_awake := nofun
          receiver_rights := CapabilityTable.Entries.building 0 0 }

end CoopInv

end MakopaVerified.TaskRuntime
