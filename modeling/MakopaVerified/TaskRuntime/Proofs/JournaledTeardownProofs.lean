import MakopaVerified.TaskRuntime.Proofs.JournaledStepProofs

/-!
# Teardown and reclamation of the journaled profile

The first teardown seals the journal. A request that is still open then is closed by the kernel
itself, in the one record that names no task. Later teardowns leave the journal alone, and the
reclamation clears it.
-/

namespace MakopaVerified.TaskRuntime

open Foundation Method TaskRuntime.Runtime JournaledRuntime EffectJournal

/-! ## What a teardown leaves -/

namespace TeardownBegun

variable {rt rt' : Runtime} {task : UInt64}

/-- The handles of the task are closed, those of its peer are not touched. -/
theorem tables (hb : TeardownBegun rt task rt') :
    (rt'.slotOf task).capabilities = (rt.slotOf task).capabilities.closed ∧
      (rt'.slotOf (peerOf task)).capabilities = (rt.slotOf (peerOf task)).capabilities := by
  cases hb with
  | sender | senderWakes | receiver | supervisor | supervisorWakes | workload => exact ⟨rfl, rfl⟩

theorem known (hb : TeardownBegun rt task rt') : KnownTask task := by
  cases hb with
  | sender | senderWakes | supervisor | supervisorWakes => exact .inl rfl
  | receiver | workload => exact .inr rfl

/-- The broker has no request any more; its counters stay. -/
theorem broker (h : SupCore rt) (hx : Exited rt task) (hb : TeardownBegun rt task rt') :
    rt'.broker.Idle ∧ rt'.broker.requestPresent = false ∧
      (rt'.broker.state ≠ .dead → rt.broker.state ≠ .dead) ∧
      rt'.broker.decisionEpoch = rt.broker.decisionEpoch ∧
      rt'.broker.nextSequence = rt.broker.nextSequence ∧
      rt'.broker.sequenceExhausted = rt.broker.sequenceExhausted := by
  cases hb with
  | sender cooperative | senderWakes cooperative | receiver cooperative =>
    exact absurd (h.profile.symm.trans cooperative) (by decide)
  | supervisor | supervisorWakes =>
    have hs0 : rt.task0.state = .exited := hx.state
    exact ⟨⟨nofun, nofun⟩, rfl,
      fun _ => h.broker_alive (by rw [hs0]; decide), rfl, rfl, rfl⟩
  | workload =>
    refine ⟨?_, rfl, ?_, rfl, rfl, rfl⟩
    · have hstate : (Runtime.releaseWorkload rt).broker.state = rt.broker.state ∧
          (rt.broker.state = .closing ∨ rt.broker.state = .dead) ∨
          (Runtime.releaseWorkload rt).broker.state = .closing ∨
          (Runtime.releaseWorkload rt).broker.state = .empty := by
        by_cases hc : rt.broker.state = .closing ∨ rt.broker.state = .dead
        · exact .inl ⟨if_neg (not_not.mpr hc), hc⟩
        · right
          have hif : (Runtime.releaseWorkload rt).broker.state =
              if rt.task0.state = .dead then .closing else .empty := if_pos hc
          rw [hif]
          split
          · exact .inl rfl
          · exact .inr rfl
      show (Runtime.releaseWorkload rt).broker.state ≠ .pending ∧
        (Runtime.releaseWorkload rt).broker.state ≠ .approved
      rcases hstate with ⟨hs, hc | hc⟩ | hs | hs
      · rw [hs, hc]
        decide
      · rw [hs, hc]
        decide
      · rw [hs]
        decide
      · rw [hs]
        decide
    · intro hd hbad
      have hstate : (Runtime.releaseWorkload rt).broker.state = rt.broker.state :=
        if_neg (not_not.mpr (.inr hbad))
      exact hd (hstate.trans hbad)

end TeardownBegun

theorem reservation_of_idle {b : ApprovalBroker} (h : b.Idle) :
    JournaledRuntime.reservation b.state = 0 := by
  cases hs : b.state with
  | pending => exact absurd hs h.1
  | approved => exact absurd hs h.2
  | building | empty | closing | dead => rfl

namespace JInv

variable {jr : JournaledRuntime} {task : UInt64}

theorem torn_of_not_live (h : JInv jr) (hs : jr.journal.state ≠ .live) : jr.runtime.Torn := by
  by_contra ht
  exact hs (h.live_iff.mpr ht)

/-- The runtime half of the first phase, with a sealed journal next to it. -/
theorem begun (h : JInv jr) {rt₁ rt' : Runtime} (hcore : SupCore rt₁) (hx : Exited rt₁ task)
    (hlive : (rt₁.slotOf task).capabilities.state = .live)
    (h0 : rt₁.task0.capabilities = jr.runtime.task0.capabilities)
    (h1 : rt₁.task1.capabilities = jr.runtime.task1.capabilities)
    (hb : TeardownBegun rt₁ task rt') {j : EffectJournal} (hj : j.JournalOk)
    (hs : j.state = .sealed)
    (hist : ∃ finished current, History rt'.broker j.committed finished current)
    (hkernel : ∀ i (h : i < j.committed.length), j.committed[i].actorTaskId = 0 →
      i + 1 = j.committed.length ∧ j.state = .sealed) :
    JInv { runtime := rt', journal := j } := by
  have hidle := (hb.broker hcore hx).1
  obtain ⟨hself, hpeer⟩ := hb.tables
  have hentries := journalEntries_closed (rt₁.slotOf task).capabilities
  have htorn : rt'.Torn := by
    rcases hx.known with rfl | rfl
    · exact .inl (.inl (congrArg CapabilityTable.state hself))
    · exact .inr (.inl (congrArg CapabilityTable.state hself))
  have hsup := hcore.begun hx hlive hb
  have hnotlive : j.state ≠ .live := by rw [hs]; decide
  have hrest : (JournaledRuntime.journalEntries rt'.task0.capabilities).length ≤ 1 ∧
      (JournaledRuntime.journalEntries rt'.task1.capabilities).length = 0 ∧
      ∀ entry ∈ JournaledRuntime.journalEntries rt'.task0.capabilities,
        JournaledRuntime.EntryFixed entry := by
    rcases hx.known with rfl | rfl
    · have hself : rt'.task0.capabilities = rt₁.task0.capabilities.closed := hself
      have hpeer : rt'.task1.capabilities = rt₁.task1.capabilities := hpeer
      rw [hself, hpeer, h1, journalEntries_closed]
      exact ⟨Nat.zero_le _, h.workload_entries, fun _ hbad => absurd hbad List.not_mem_nil⟩
    · have hself : rt'.task1.capabilities = rt₁.task1.capabilities.closed := hself
      have hpeer : rt'.task0.capabilities = rt₁.task0.capabilities := hpeer
      rw [hself, hpeer, h0, journalEntries_closed]
      exact ⟨h.supervisor_entries, rfl, h.entries_fixed⟩
  exact
    { sup := hsup
      journal := .inr hj
      supervisor_entries := hrest.1
      workload_entries := hrest.2.1
      entries_fixed := hrest.2.2
      live_iff := ⟨fun hl => absurd hl hnotlive, fun ht => absurd htorn ht⟩
      dead_done := fun hd => nomatch hs.symm.trans hd
      reserved := (hj.sealed_reserved hs).trans (reservation_of_idle hidle).symm
      history := hist
      kernel_last := hkernel }

/-- In a live journal no record is the kernel's, so only the one that is appended can be. -/
theorem kernel_only_last (h : JInv jr) (hlive : jr.journal.state = .live)
    {records : List EffectRecord} {r : EffectRecord}
    (hrecords : records = jr.journal.committed ++ [r]) (i : Nat) (hi : i < records.length)
    (hz : records[i].actorTaskId = 0) : i + 1 = records.length := by
  subst hrecords
  by_cases hlt : i < jr.journal.committed.length
  · rw [List.getElem_append_left hlt] at hz
    have hs := (h.kernel_last i hlt hz).2
    exact nomatch hlive.symm.trans hs
  · rw [List.length_append, List.length_singleton] at hi ⊢
    omega

end JInv

/-! ## First phase -/

/-- The runtime whose epoch the kernel has moved on. -/
def Runtime.bumped (rt : Runtime) : Runtime :=
  { rt with broker := { rt.broker with decisionEpoch := rt.broker.decisionEpoch + 1 } }

/-- What `begin_teardown` does to the journaled runtime. -/
inductive JournaledBegun (jr : JournaledRuntime) (task : UInt64) : JournaledRuntime → Prop where
  /-- The journal is sealed already, or nothing is open: no record. -/
  | quiet {rt' : Runtime} {j : EffectJournal} (inner : TeardownBegun jr.runtime task rt')
      (idle : jr.runtime.broker.Idle)
      (journal : j = { jr.journal with state := .sealed }) :
      JournaledBegun jr task { runtime := rt', journal := j }
  /-- The open request is closed by the kernel. -/
  | terminal {rt' : Runtime} {kind : EffectEventKind} {status : TrapStatus}
      (inner : TeardownBegun jr.runtime.bumped task rt')
      (live : jr.journal.state = .live)
      (decision : (jr.runtime.broker.state = .pending ∧ kind = .denied) ∨
        (jr.runtime.broker.state = .approved ∧ kind = .expired)) :
      JournaledBegun jr task
        { runtime := rt'
          journal :=
            { EffectJournal.appended
                (EffectRecord.event kind status (jr.runtime.broker.decisionEpoch + 1) 0 0
                  jr.runtime.broker.request objectTypeApprovalBroker 0) 0 jr.journal with
              state := .sealed } }

namespace JInv

variable {jr jr' : JournaledRuntime} {task : UInt64}

theorem bumped_core (h : JInv jr) (hd : jr.runtime.broker.state ≠ .dead) :
    SupCore jr.runtime.bumped := by
  have hcore := h.sup.toSupCore
  exact
    { hcore with
      valid := SupCore.valid_of hcore.profile { hcore.valid.toSlotsOk with }
        { hcore.sup with
          broker_live := fun hd' => by
            obtain ⟨hgen, hseq, -⟩ := hcore.sup.broker_live hd'
            exact ⟨hgen, hseq, add_one_ne_zero (h.epoch_ne_max hd)⟩
          broker_dead := fun hd' => absurd hd' hd
          all_dead := fun hd0 hd1 => by
            have hdead := (hcore.sup.all_dead hd0 hd1).2.1
            exact absurd (by rw [hdead]; rfl) hd } }

/-- The first phase keeps the invariant. -/
theorem journaledBegun (h : JInv jr) (hx : Exited jr.runtime task)
    (hlive : (jr.runtime.slotOf task).capabilities.state = .live)
    (hb : JournaledBegun jr task jr') : JInv jr' := by
  have hcore := h.sup.toSupCore
  have halive : jr.journal.state ≠ .dead := by
    intro hd
    obtain ⟨h0, h1⟩ := h.dead_done hd
    have hstate := hx.state
    rcases hx.known with rfl | rfl
    · exact nomatch hstate.symm.trans h0
    · exact nomatch hstate.symm.trans h1
  have hok : jr.journal.JournalOk := by
    rcases h.journal with hd | hok
    · exact absurd (by rw [hd]; rfl) halive
    · exact hok
  obtain ⟨finished, current, hist⟩ := h.history
  cases hb with
  | quiet inner idle journal =>
    subst journal
    obtain ⟨hidle, hnone, hstate, hepoch, hseq, hexh⟩ := inner.broker hcore hx
    have hzero : jr.journal.reservedRecordCount = 0 := by
      rw [h.reserved, reservation_of_idle idle]
    refine h.begun hcore hx hlive rfl rfl inner (hok.sealed hzero) rfl ?_ ?_
    · exact ⟨finished, current, hist.rebind idle hidle
        (fun hd => ⟨hstate hd, hepoch, hseq, hexh⟩) hnone⟩
    · intro i hi hz
      exact ⟨(h.kernel_last i hi hz).1, rfl⟩
  | terminal inner live decision =>
    rename_i rt' kind status
    have ho : jr.runtime.broker.state = .pending ∨ jr.runtime.broker.state = .approved := by
      rcases decision with ⟨hs, -⟩ | ⟨hs, -⟩
      · exact .inl hs
      · exact .inr hs
    have hd : jr.runtime.broker.state ≠ .dead := by rcases ho with ho | ho <;> rw [ho] <;> decide
    obtain ⟨hroom, hpos⟩ := h.open_room ho
    have hbumped := h.bumped_core hd
    have hxb : Exited jr.runtime.bumped task := ⟨hx.known, hx.state⟩
    obtain ⟨hidle, hnone, hstate, hepoch, hseq, hexh⟩ := inner.broker hbumped hxb
    have happended := hok.appended live (event_fresh kind status
      (jr.runtime.broker.decisionEpoch + 1) 0 0 jr.runtime.broker.request objectTypeApprovalBroker 0)
      (show jr.journal.committedRecordCount + 1 + 0 ≤ effectJournalRecordCount by omega)
      (Nat.zero_le 2)
    have hcommitted := @EffectJournal.committed_appended jr.journal
      (EffectRecord.event kind status (jr.runtime.broker.decisionEpoch + 1) 0 0
        jr.runtime.broker.request objectTypeApprovalBroker 0) (by omega) 0
    refine h.begun hbumped hxb hlive rfl rfl inner (happended.sealed rfl) rfl ?_ ?_
    · show ∃ finished current,
        History _ (EffectJournal.appended _ 0 jr.journal).committed finished current
      rw [hcommitted]
      refine ⟨_, _, hist.finish ho (h.epoch_ne_max hd) hidle hepoch ⟨hseq, hexh⟩ hnone ?_
        ⟨rfl, hist.request (h.sup.present_of_open ho), ?_⟩ (h.next_position live hd)⟩
      · rcases decision with ⟨hs, rfl⟩ | ⟨hs, rfl⟩
        · rw [hs]
          decide
        · rw [hs]
          decide
      · rcases decision with ⟨-, rfl⟩ | ⟨-, rfl⟩ <;> exact .inr ⟨rfl, rfl, rfl, rfl, rfl, rfl⟩
    · exact fun i hi hz => ⟨h.kernel_only_last live hcommitted i hi hz, rfl⟩

end JInv

namespace JournaledRuntime

variable {jr jr' : JournaledRuntime} {task : UInt64}

/-- The calls that follow once the journal has been dealt with. -/
theorem run_beginTeardown_tail (before jr₁ : JournaledRuntime) {rt' : Runtime}
    (hinner : (Runtime.beginTeardown task).run jr₁.runtime = (.ok (), rt'))
    (hv : ({ jr₁ with runtime := rt' } : JournaledRuntime).validate = .ok ()) :
    (Method.undoing (fun _ => before) (onRuntime (Runtime.beginTeardown task)) >>= fun _ =>
      validateOrRestore before).run jr₁ = (.ok (), { jr₁ with runtime := rt' }) := by
  have hcall : (Method.undoing (fun _ => before) (onRuntime (Runtime.beginTeardown task))).run jr₁ =
      (.ok (), { jr₁ with runtime := rt' }) := by
    rw [run_undoing, run_onRuntime jr₁ hinner]
  rw [run_bind_ok hcall, run_validateOrRestore before hv]

/-- `begin_teardown` up to its match on the journal state. -/
theorem run_beginTeardown_head (hx : Exited jr.runtime task) :
    (beginTeardown task).run jr =
      ((if jr.journal.state = .live then sealJournal jr else pure ()) >>= fun _ =>
        Method.undoing (fun _ => jr) (onRuntime (Runtime.beginTeardown task)) >>= fun _ =>
          validateOrRestore jr).run jr := by
  unfold beginTeardown
  rw [run_self_bind]
  rw [run_bind, run_query, slot_of_known hx.known]
  simp only [hx.state, ne_eq, not_true_eq_false, if_false]
  by_cases hlive : jr.journal.state = .live
  · rw [if_pos hlive, if_pos hlive]
  · rw [if_neg hlive, if_neg hlive]
    rfl

theorem run_sealJournal_quiet (hlive : jr.journal.state = .live)
    (hnone : jr.runtime.broker.requestPresent = false) (hres : jr.journal.reservedRecordCount = 0) :
    (sealJournal jr).run jr = (.ok (), { jr with journal := { jr.journal with state := .sealed } }) := by
  unfold sealJournal
  rw [hnone]
  simp only [Bool.false_eq_true, if_false]
  rw [run_bind_ok (run_onJournal jr (run_sealLive hlive hres))]
  rfl

theorem run_sealJournal_terminal (hok : jr.journal.JournalOk) (hlive : jr.journal.state = .live)
    (hpresent : jr.runtime.broker.requestPresent = true)
    (hmax : jr.runtime.broker.decisionEpoch ≠ u64Max)
    (hres : jr.journal.reservedRecordCount = reservation jr.runtime.broker.state)
    {kind : EffectEventKind} {status : TrapStatus}
    (hdecision : (jr.runtime.broker.state = .pending ∧ kind = .denied ∧ status = .approvalDenied) ∨
      (jr.runtime.broker.state = .approved ∧ kind = .expired ∧ status = .approvalExpired)) :
    (sealJournal jr).run jr =
      (.ok (), { runtime := jr.runtime.bumped
                 journal :=
                  { EffectJournal.appended
                      (EffectRecord.event kind status (jr.runtime.broker.decisionEpoch + 1) 0 0
                        jr.runtime.broker.request objectTypeApprovalBroker 0) 0 jr.journal with
                    state := .sealed } }) := by
  obtain ⟨release, hrecord, hleft⟩ : ∃ release,
      terminalRecord jr.runtime.broker = some (kind, status, release) ∧
        (if release = true then 0 else jr.journal.reservedRecordCount - 1) = 0 := by
    unfold terminalRecord
    rcases hdecision with ⟨hs, rfl, rfl⟩ | ⟨hs, rfl, rfl⟩
    · exact ⟨true, by rw [hs], rfl⟩
    · exact ⟨false, by rw [hs], by rw [hres, hs]; rfl⟩
  have hnonzero : jr.journal.reservedRecordCount ≠ 0 := by
    rw [hres]
    rcases hdecision with ⟨hs, -⟩ | ⟨hs, -⟩ <;> rw [hs] <;> decide
  have happend := @run_appendOrRestore { jr with runtime := jr.runtime.bumped } jr _ hok hlive
    hnonzero (event_fresh kind status (jr.runtime.broker.decisionEpoch + 1) 0 0
      jr.runtime.broker.request objectTypeApprovalBroker 0) release
  rw [show (if release = true then 0 else
    ({ jr with runtime := jr.runtime.bumped } : JournaledRuntime).journal.reservedRecordCount - 1)
    = 0 from hleft] at happend
  have hrecorded : (recordTeardown jr).run jr =
      (.ok (), { runtime := jr.runtime.bumped
                 journal := EffectJournal.appended
                  (EffectRecord.event kind status (jr.runtime.broker.decisionEpoch + 1) 0 0
                    jr.runtime.broker.request objectTypeApprovalBroker 0) 0 jr.journal }) := by
    unfold recordTeardown
    rw [checkedAdd_one hmax]
    dsimp only
    rw [hrecord]
    exact (run_bind_ok (show (onRuntime _).run jr =
      (.ok (), { jr with runtime := jr.runtime.bumped }) from rfl)).trans happend
  have hseal := run_onJournal
    { runtime := jr.runtime.bumped
      journal := EffectJournal.appended
        (EffectRecord.event kind status (jr.runtime.broker.decisionEpoch + 1) 0 0
          jr.runtime.broker.request objectTypeApprovalBroker 0) 0 jr.journal }
    (run_sealLive hlive rfl)
  unfold sealJournal
  rw [hpresent]
  simp only [if_true]
  rw [run_bind_ok hrecorded, run_bind_ok hseal]
  rfl

/-- The first phase succeeds on every exited task whose handles are still open. -/
theorem beginTeardown_begins (h : JInv jr) (hx : Exited jr.runtime task)
    (hlive : (jr.runtime.slotOf task).capabilities.state = .live) :
    ∃ jr', JournaledBegun jr task jr' ∧ (beginTeardown task).run jr = (.ok (), jr') := by
  have hcore := h.sup.toSupCore
  rw [run_beginTeardown_head hx]
  by_cases hj : jr.journal.state = .live
  · rw [if_pos hj]
    have hok := h.journal_ok hj
    by_cases hpresent : jr.runtime.broker.requestPresent = true
    · have ho := hcore.open_of_present hpresent
      have hd : jr.runtime.broker.state ≠ .dead := by rcases ho with ho | ho <;> rw [ho] <;> decide
      have hbumped := h.bumped_core hd
      have hxb : Exited jr.runtime.bumped task := ⟨hx.known, hx.state⟩
      obtain ⟨rt', inner, hinner⟩ := beginTeardown_supervised hbumped.profile
        hbumped.valid.toSlotsOk hbumped.id0 hbumped.id1 hbumped.waiting hxb hlive
      obtain ⟨kind, status, hdecision⟩ : ∃ kind status,
          (jr.runtime.broker.state = .pending ∧ kind = EffectEventKind.denied ∧
            status = TrapStatus.approvalDenied) ∨
          (jr.runtime.broker.state = .approved ∧ kind = .expired ∧ status = .approvalExpired) := by
        rcases ho with ho | ho
        · exact ⟨_, _, .inl ⟨ho, rfl, rfl⟩⟩
        · exact ⟨_, _, .inr ⟨ho, rfl, rfl⟩⟩
      have hbegun : JournaledBegun jr task
          { runtime := rt'
            journal :=
              { EffectJournal.appended
                  (EffectRecord.event kind status (jr.runtime.broker.decisionEpoch + 1) 0 0
                    jr.runtime.broker.request objectTypeApprovalBroker 0) 0 jr.journal with
                state := .sealed } } := by
        refine .terminal inner hj ?_
        rcases hdecision with ⟨hs, hk, -⟩ | ⟨hs, hk, -⟩
        · exact .inl ⟨hs, hk⟩
        · exact .inr ⟨hs, hk⟩
      refine ⟨_, hbegun, ?_⟩
      rw [run_bind_ok (run_sealJournal_terminal hok hj hpresent (h.epoch_ne_max hd) h.reserved
        hdecision)]
      exact run_beginTeardown_tail jr _
        (hinner (TaskRuntime.validate_eq_ok.mpr (hbumped.begun hxb hlive inner).valid))
        (h.journaledBegun hx hlive hbegun).validate
    · have hnone : jr.runtime.broker.requestPresent = false := by simpa using hpresent
      have hidle : jr.runtime.broker.Idle :=
        ⟨fun hs => hpresent (h.sup.present_of_open (.inl hs)),
          fun hs => hpresent (h.sup.present_of_open (.inr hs))⟩
      have hzero : jr.journal.reservedRecordCount = 0 := by
        rw [h.reserved, reservation_of_idle hidle]
      obtain ⟨rt', inner, hinner⟩ := beginTeardown_supervised hcore.profile
        hcore.valid.toSlotsOk hcore.id0 hcore.id1 hcore.waiting hx hlive
      have hbegun := JournaledBegun.quiet inner hidle rfl
      refine ⟨_, hbegun, ?_⟩
      rw [run_bind_ok (run_sealJournal_quiet hj hnone hzero)]
      exact run_beginTeardown_tail jr _
        (hinner (TaskRuntime.validate_eq_ok.mpr (hcore.begun hx hlive inner).valid))
        (h.journaledBegun hx hlive hbegun).validate
  · rw [if_neg hj]
    have hsealed : jr.journal.state = .sealed := by
      rcases h.journal with hd | hok
      · obtain ⟨h0, h1⟩ := h.dead_done (by rw [hd]; rfl)
        have hstate := hx.state
        rcases hx.known with rfl | rfl
        · exact nomatch hstate.symm.trans h0
        · exact nomatch hstate.symm.trans h1
      · exact hok.state.resolve_left hj
    have hsame : jr.journal = { jr.journal with state := .sealed } := by rw [← hsealed]
    obtain ⟨rt', inner, hinner⟩ := beginTeardown_supervised hcore.profile
      hcore.valid.toSlotsOk hcore.id0 hcore.id1 hcore.waiting hx hlive
    have hbegun := JournaledBegun.quiet inner (h.idle_of_torn (h.torn_of_not_live hj)) hsame
    refine ⟨_, hbegun, ?_⟩
    exact run_beginTeardown_tail jr jr
      (hinner (TaskRuntime.validate_eq_ok.mpr (hcore.begun hx hlive inner).valid))
      (h.journaledBegun hx hlive hbegun).validate

/-- The first phase refuses every other task. -/
theorem beginTeardown_ok (h : JInv jr) (hrun : (beginTeardown task).run jr = (.ok (), jr')) :
    Exited jr.runtime task ∧ (jr.runtime.slotOf task).capabilities.state = .live := by
  have hx : Exited jr.runtime task := by
    unfold beginTeardown at hrun
    rw [run_self_bind] at hrun
    rw [run_bind_eq_ok] at hrun
    obtain ⟨slot, jr₁, hslot, hrest⟩ := hrun
    rw [run_query, Prod.mk.injEq] at hslot
    obtain ⟨hslot, rfl⟩ := hslot
    have hk := known_of_slot hslot
    rw [slot_of_known hk] at hslot
    obtain rfl := Except.ok.inj hslot
    refine ⟨hk, ?_⟩
    by_contra hne
    rw [if_pos hne] at hrest
    cases hrest
  refine ⟨hx, ?_⟩
  rw [run_beginTeardown_head hx] at hrun
  have hslot : SlotOk jr.runtime.queue (jr.runtime.slotOf task) := by
    rcases hx.known with rfl | rfl
    · exact h.sup.valid.slot0
    · exact h.sup.valid.slot1
  have htable := hslot.table_state
  rw [hx.state] at htable
  rcases htable with hlive | hclosing
  · exact hlive
  · have htorn : jr.runtime.Torn := by
      rcases hx.known with rfl | rfl
      · exact .inl (.inl hclosing)
      · exact .inr (.inl hclosing)
    rw [if_neg fun hl => h.live_iff.mp hl htorn] at hrun
    rw [run_bind_ok (run_pure () jr), run_bind_eq_ok] at hrun
    obtain ⟨u, jr₁, hinner, -⟩ := hrun
    rw [run_undoing] at hinner
    rcases hcall : (Runtime.beginTeardown task).run jr.runtime with ⟨_ | u', rt'⟩
    · rw [run_onRuntime jr hcall] at hinner
      cases hinner
    · exact (Runtime.beginTeardown_ok hcall).2

end JournaledRuntime

/-! ## Second phase -/

/-- The second phase leaves a broker that is as before or dead. -/
theorem TeardownCompleted.broker {rt rt' : Runtime} {task : UInt64} {next : Option UInt64}
    (hk : KnownTask task) (hc : TeardownCompleted rt task next rt') :
    rt'.broker = rt.broker ∨ rt'.broker = ApprovalBroker.dead := by
  have hburied : (rt.buried task).broker = rt.broker ∨
      (rt.buried task).broker = ApprovalBroker.dead := by
    by_cases hpeer : (rt.slotOf (peerOf task)).state = .dead
    · rw [buried_of_peer_dead hk hpeer]
      exact .inr rfl
    · rw [buried_of_peer_alive hk hpeer]
      split
      · exact .inr rfl
      · exact .inl (mapSlot_broker ..)
  cases hc with
  | finished => exact hburied
  | handedOver =>
    rw [mapSlot_broker]
    exact hburied

/-- The table of the task is dead, that of its peer is not touched. -/
theorem TeardownCompleted.tables {rt rt' : Runtime} {task : UInt64} {next : Option UInt64}
    (hk : KnownTask task) (hc : TeardownCompleted rt task next rt') :
    (rt'.slotOf task).capabilities = CapabilityTable.dead ∧
      (rt'.slotOf (peerOf task)).capabilities = (rt.slotOf (peerOf task)).capabilities := by
  have hself := congrArg TaskSlot.capabilities (@Runtime.slotOf_buried_self rt task hk)
  have hpeer := congrArg TaskSlot.capabilities (@Runtime.slotOf_buried_peer rt task hk)
  cases hc with
  | finished => exact ⟨hself, hpeer⟩
  | handedOver =>
    rcases hk with rfl | rfl <;> exact ⟨hself, hpeer⟩

namespace JInv

variable {jr jr' : JournaledRuntime} {task : UInt64}

/-- The second phase keeps the invariant. -/
theorem completed (h : JInv jr) (hx : Exited jr.runtime task)
    (hclosing : (jr.runtime.slotOf task).capabilities.state = .closing) {next : Option UInt64}
    {rt' : Runtime} (hc : TeardownCompleted jr.runtime task next rt') :
    JInv { jr with runtime := rt' } := by
  have htorn : jr.runtime.Torn := by
    rcases hx.known with rfl | rfl
    · exact .inl (.inl hclosing)
    · exact .inr (.inl hclosing)
  have hnotlive : jr.journal.state ≠ .live := fun hl => h.live_iff.mp hl htorn
  have hnotdead : jr.journal.state ≠ .dead := by
    intro hd
    obtain ⟨h0, h1⟩ := h.dead_done hd
    have hstate := hx.state
    rcases hx.known with rfl | rfl
    · exact nomatch hstate.symm.trans h0
    · exact nomatch hstate.symm.trans h1
  have hidle := h.idle_of_torn htorn
  have hnone : jr.runtime.broker.requestPresent = false := by
    rw [Bool.eq_false_iff]
    intro hp
    rcases h.sup.toSupCore.open_of_present hp with ho | ho
    · exact hidle.1 ho
    · exact hidle.2 ho
  obtain ⟨finished, current, hist⟩ := h.history
  obtain ⟨hself, hpeer⟩ := hc.tables hx.known
  have htorn' : rt'.Torn := by
    rcases hx.known with rfl | rfl
    · exact .inl (.inr (congrArg CapabilityTable.state hself))
    · exact .inr (.inr (congrArg CapabilityTable.state hself))
  have hentries : (JournaledRuntime.journalEntries rt'.task0.capabilities).length ≤ 1 ∧
      (JournaledRuntime.journalEntries rt'.task1.capabilities).length = 0 ∧
      ∀ entry ∈ JournaledRuntime.journalEntries rt'.task0.capabilities,
        JournaledRuntime.EntryFixed entry := by
    rcases hx.known with rfl | rfl
    · have hself : rt'.task0.capabilities = CapabilityTable.dead := hself
      have hpeer : rt'.task1.capabilities = jr.runtime.task1.capabilities := hpeer
      rw [hself, hpeer, journalEntries_dead]
      exact ⟨Nat.zero_le _, h.workload_entries, fun _ hbad => absurd hbad List.not_mem_nil⟩
    · have hself : rt'.task1.capabilities = CapabilityTable.dead := hself
      have hpeer : rt'.task0.capabilities = jr.runtime.task0.capabilities := hpeer
      rw [hself, hpeer, journalEntries_dead]
      exact ⟨h.supervisor_entries, rfl, h.entries_fixed⟩
  have hbroker := hc.broker hx.known
  exact
    { sup := h.sup.toSupCore.completed hx hclosing hc
      journal := h.journal
      supervisor_entries := hentries.1
      workload_entries := hentries.2.1
      entries_fixed := hentries.2.2
      live_iff := ⟨fun hl => absurd hl hnotlive, fun ht => absurd htorn' ht⟩
      dead_done := fun hd => absurd hd hnotdead
      reserved := by
        rw [show ({ jr with runtime := rt' } : JournaledRuntime).journal.reservedRecordCount = _
          from h.reserved, reservation_of_idle hidle]
        rcases hbroker with hb | hb
        · rw [hb, reservation_of_idle hidle]
        · rw [hb]
          rfl
      history := by
        rcases hbroker with hb | hb
        · rw [hb]
          exact ⟨finished, current, hist⟩
        · rw [hb]
          refine ⟨finished, current, hist.rebind hidle ?_ (fun hd => absurd rfl hd) rfl⟩
          exact ⟨nofun, nofun⟩
      kernel_last := h.kernel_last }

/-- Reclamation clears the journal of a runtime that has nothing left to run. -/
theorem reclaimed (h : JInv jr) (h0 : jr.runtime.task0.state = .dead)
    (h1 : jr.runtime.task1.state = .dead) : JInv { jr with journal := EffectJournal.dead } := by
  have hdead : jr.runtime.broker = ApprovalBroker.dead :=
    (h.sup.toSupCore.sup.all_dead h0 h1).2.1
  have htorn : jr.runtime.Torn := .inl (.inr (h.sup.valid.slot0.table_dead h0))
  exact
    { h with
      journal := .inl rfl
      live_iff := ⟨nofun, fun ht => absurd htorn ht⟩
      dead_done := fun _ => ⟨h0, h1⟩
      reserved := by
        rw [show ({ jr with journal := EffectJournal.dead } : JournaledRuntime).runtime.broker = _
          from hdead]
        rfl
      history := by
        rw [show ({ jr with journal := EffectJournal.dead } : JournaledRuntime).runtime.broker = _
          from hdead]
        refine ⟨[], [], ?_⟩
        exact
          { records_eq := rfl
            finished_ok := fun k hk => absurd hk (Nat.not_lt_zero k)
            current_ok := rfl
            position := fun i hi => absurd hi (Nat.not_lt_zero i)
            epoch := fun hd => absurd rfl hd
            unexhausted := fun _ => rfl
            sequence := fun hd => absurd rfl hd
            request := nofun }
      kernel_last := fun i hi => absurd hi (Nat.not_lt_zero i) }

end JInv

namespace JournaledRuntime

variable {jr jr' : JournaledRuntime} {task : UInt64}

theorem completeTeardown_eq_ok {next : Option UInt64}
    (hrun : (completeTeardown task).run jr = (.ok next, jr')) :
    ∃ rt', (Runtime.completeTeardown task).run jr.runtime = (.ok next, rt') ∧
      jr' = { jr with runtime := rt' } := by
  unfold completeTeardown at hrun
  rw [run_self_bind] at hrun
  rw [run_bind_eq_ok] at hrun
  obtain ⟨next', jr₁, hinner, hrest⟩ := hrun
  rw [run_undoing] at hinner
  rcases hcall : (Runtime.completeTeardown task).run jr.runtime with ⟨_ | found, rt'⟩
  · rw [run_onRuntime jr hcall] at hinner
    cases hinner
  · rw [run_onRuntime jr hcall, Prod.mk.injEq] at hinner
    obtain ⟨hfound, rfl⟩ := hinner
    obtain rfl := Except.ok.inj hfound
    rw [run_bind_eq_ok] at hrest
    obtain ⟨u, jr₂, hv, hpure⟩ := hrest
    rcases run_validateOrRestore_cases jr { jr with runtime := rt' } with ⟨-, hrun⟩ | hrun
    · rw [hrun, Prod.mk.injEq] at hv
      obtain ⟨-, rfl⟩ := hv
      rw [run_pure, Prod.mk.injEq] at hpure
      obtain ⟨hnext, rfl⟩ := hpure
      obtain rfl := Except.ok.inj hnext
      exact ⟨rt', rfl, rfl⟩
    · rw [hrun] at hv
      cases hv

theorem run_completeTeardown {next : Option UInt64} {rt' : Runtime}
    (hinner : (Runtime.completeTeardown task).run jr.runtime = (.ok next, rt'))
    (hv : ({ jr with runtime := rt' } : JournaledRuntime).validate = .ok ()) :
    (completeTeardown task).run jr = (.ok next, { jr with runtime := rt' }) := by
  have hcall : (Method.undoing (fun _ => jr) (onRuntime (Runtime.completeTeardown task))).run jr =
      (.ok next, { jr with runtime := rt' }) := by
    rw [run_undoing, run_onRuntime jr hinner]
  unfold completeTeardown
  rw [run_self_bind]
  rw [run_bind_ok hcall, run_bind_ok (run_validateOrRestore jr hv)]
  rfl

theorem run_completeTeardown_error {e : RuntimeError} {rt' : Runtime}
    (hinner : (Runtime.completeTeardown task).run jr.runtime = (.error e, rt')) :
    (completeTeardown task).run jr = (.error e, jr) := by
  have hcall : (Method.undoing (fun _ => jr) (onRuntime (Runtime.completeTeardown task))).run jr =
      (.error e, jr) := by
    rw [run_undoing, run_onRuntime jr hinner]
  unfold completeTeardown
  rw [run_self_bind]
  rw [run_bind_error hcall]

/-- Reclamation succeeds only once both tasks are dead, and clears the journal. -/
theorem finishReclamation_ok (hrun : finishReclamation.run jr = (.ok (), jr')) :
    jr.runtime.task0.state = .dead ∧ jr.runtime.task1.state = .dead ∧
      jr' = { jr with journal := EffectJournal.dead } := by
  unfold finishReclamation at hrun
  rw [run_self_bind] at hrun
  split at hrun
  · cases hrun
  · rename_i hguard
    simp only [not_or, Runtime.tasks, List.any_cons, List.any_nil, Bool.or_false, Bool.or_eq_true,
      decide_eq_true_eq, not_not, ne_eq] at hguard
    rw [run_update_bind] at hrun
    rcases run_validateOrRestore_cases jr { jr with journal := EffectJournal.dead }
      with ⟨-, hv⟩ | hv
    · rw [hv, Prod.mk.injEq] at hrun
      exact ⟨hguard.1.1, hguard.1.2, hrun.2.symm⟩
    · rw [hv] at hrun
      cases hrun

end JournaledRuntime

end MakopaVerified.TaskRuntime
