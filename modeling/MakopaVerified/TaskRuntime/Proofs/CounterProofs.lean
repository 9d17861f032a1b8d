import MakopaVerified.TaskRuntime.Counters
import MakopaVerified.TaskRuntime.Proofs.AuthorityProofs

/-!
# Sequences and epochs do not repeat

The epoch is one more than the number of moves that the broker has accepted, and the number of the next
request is never above it. So the epochs run out before the numbers do, and once they have run out the
broker accepts nothing more.
-/

namespace MakopaVerified.TaskRuntime

open Foundation TaskRuntime.Runtime

/-! ## One step of the broker -/

namespace ApprovalBroker

/-- The broker accepts nothing more. -/
def Spent (b : ApprovalBroker) : Prop :=
  b.state = .closing ∨ b.state = .dead ∨ b.decisionEpoch = u64Max

/-- There are epochs for all numbers that have been given out. -/
structure Ordered (b : ApprovalBroker) : Prop where
  unexhausted : b.sequenceExhausted = false
  next_le : b.state ≠ .dead → b.nextSequence.toNat ≤ b.decisionEpoch.toNat

/-- What a call does to the counters. -/
structure Ticks (accepted : Bool) (b b' : ApprovalBroker) : Prop where
  epoch : b'.state ≠ .dead → b.state ≠ .dead ∧
    b'.decisionEpoch.toNat = b.decisionEpoch.toNat + if accepted then 1 else 0
  ordered : b.Ordered → b'.Ordered
  spent : b.Spent → accepted = false ∧ b'.Spent
  stores : accepted = false → b'.requestPresent = true →
    b.requestPresent = true ∧ b'.request = b.request

variable {b b' : ApprovalBroker}

theorem Spent.not_open (h : b.Spent) (hepoch : b.decisionEpoch ≠ u64Max)
    (hopen : b.state = .empty ∨ b.state = .pending ∨ b.state = .approved) : False := by
  rcases h with hs | hs | hs
  · rw [hs] at hopen
    rcases hopen with ho | ho | ho <;> cases ho
  · rw [hs] at hopen
    rcases hopen with ho | ho | ho <;> cases ho
  · exact hepoch hs

namespace Ticks

theorem refl (b : ApprovalBroker) : Ticks false b b where
  epoch hd := ⟨hd, rfl⟩
  ordered h := h
  spent h := ⟨rfl, h⟩
  stores _ hp := ⟨hp, rfl⟩

theorem died (b : ApprovalBroker) : Ticks false b dead where
  epoch hd := absurd rfl hd
  ordered _ := ⟨rfl, fun hd => absurd rfl hd⟩
  spent _ := ⟨rfl, .inr (.inl rfl)⟩
  stores := nofun

/-- The request goes away, and the counters stay. -/
theorem cleared (halive : b'.state ≠ .dead → b.state ≠ .dead)
    (hepoch : b'.decisionEpoch = b.decisionEpoch) (hnext : b'.nextSequence = b.nextSequence)
    (hexhausted : b'.sequenceExhausted = b.sequenceExhausted)
    (hnone : b'.requestPresent = false)
    (hclosing : b.state = .closing → b'.state = .closing ∨ b'.state = .dead) : Ticks false b b' where
  epoch hd := ⟨halive hd, by rw [hepoch]; rfl⟩
  ordered h := ⟨hexhausted.trans h.unexhausted, fun hd => by
    rw [hnext, hepoch]
    exact h.next_le (halive hd)⟩
  spent h := by
    refine ⟨rfl, ?_⟩
    rcases h with hs | hs | hs
    · exact (hclosing hs).imp_right .inl
    · by_cases hd : b'.state = .dead
      · exact .inr (.inl hd)
      · exact absurd hs (halive hd)
    · exact .inr (.inr (hepoch.trans hs))
  stores _ hp := by
    rw [hnone] at hp
    cases hp

theorem submit (hidle : b.state = .empty) (hepoch : b.decisionEpoch ≠ u64Max)
    (kind argument : UInt64) : Ticks true b (b.submit kind argument (b.decisionEpoch + 1)) where
  epoch _ := ⟨by rw [hidle]; decide, toNat_add_one hepoch⟩
  ordered h := by
    have hle := h.next_le (by rw [hidle]; decide)
    -- the next number is not above the epoch, and the epoch is not the last one
    have hmax : b.nextSequence ≠ u64Max := by
      intro hmax
      refine hepoch (UInt64.toNat_inj.mp (Nat.le_antisymm ?_ (hmax ▸ hle)))
      exact Nat.le_of_lt_succ b.decisionEpoch.toNat_lt
    refine ⟨(if_neg hmax).trans h.unexhausted, fun _ => ?_⟩
    show (if b.nextSequence = u64Max then _ else _ : UInt64).toNat ≤ (b.decisionEpoch + 1).toNat
    rw [if_neg hmax, toNat_add_one hmax, toNat_add_one hepoch]
    exact Nat.succ_le_succ hle
  spent h := (h.not_open hepoch (.inl hidle)).elim
  stores := nofun

/-- An open request is approved, or it ends. -/
theorem decided (hopen : b.state = .pending ∨ b.state = .approved)
    (hepoch : b.decisionEpoch ≠ u64Max) (hepoch' : b'.decisionEpoch = b.decisionEpoch + 1)
    (hnext : b'.nextSequence = b.nextSequence)
    (hexhausted : b'.sequenceExhausted = b.sequenceExhausted) : Ticks true b b' := by
  have halive : b.state ≠ .dead := by
    rcases hopen with ho | ho
    · rw [ho]
      decide
    · rw [ho]
      decide
  refine ⟨fun _ => ⟨halive, ?_⟩, fun h => ⟨hexhausted.trans h.unexhausted, fun _ => ?_⟩,
    fun h => (h.not_open hepoch (.inr hopen)).elim, nofun⟩
  · rw [hepoch', toNat_add_one hepoch]
    rfl
  · rw [hnext, hepoch', toNat_add_one hepoch]
    exact Nat.le_succ_of_le (h.next_le halive)

end Ticks

end ApprovalBroker

theorem TrapMove.ticks {rt rt' : Runtime} {e : ApprovalEvent UInt64} (h : TrapMove rt rt' e) :
    ApprovalBroker.Ticks e.accepted rt.broker rt'.broker := by
  cases h with
  | other broker effect =>
    rw [broker]
    exact .refl _
  | submit idle unexhausted epoch broker effect =>
    rw [broker]
    exact .submit idle epoch _ _
  | approve pending epoch expiry broker effect =>
    rw [broker]
    exact .decided (.inl pending) epoch rfl rfl rfl
  | reject is_open epoch broker effect =>
    rw [broker]
    exact .decided is_open epoch rfl rfl rfl
  | exhausted is_open broker effect =>
    rw [broker]
    refine .cleared (fun _ => ?_) rfl rfl rfl rfl fun _ => .inl rfl
    rcases is_open with ho | ho
    · rw [ho]
      decide
    · rw [ho]
      decide
  | commit approval vacant epoch broker effect =>
    rw [broker]
    exact .decided (.inr approval) epoch rfl rfl rfl

theorem TeardownBegun.ticks {rt rt' : Runtime} {task : UInt64} (hb : TeardownBegun rt task rt')
    (h : SupCore rt) (hx : Exited rt task) :
    ApprovalBroker.Ticks false rt.broker rt'.broker := by
  obtain ⟨-, hnone, halive, hepoch, hnext, hexhausted⟩ := hb.broker h hx
  refine .cleared halive hepoch hnext hexhausted hnone fun hclosing => .inl ?_
  cases hb with
  | sender cooperative | senderWakes cooperative | receiver cooperative =>
    exact absurd (h.profile.symm.trans cooperative) (by decide)
  | supervisor | supervisorWakes => rfl
  | workload =>
    show (if ¬ (rt.broker.state = .closing ∨ rt.broker.state = .dead) then _ else _) = _
    rw [if_neg (not_not.mpr (.inl hclosing)), hclosing]

/-! ## One call of the kernel -/

/-- A call in the supervised profile, and what it does to the broker. -/
theorem SupInv.step_ticks {rt : Runtime} {k' : KernelRuntime} {e : KernelEvent} (h : SupInv rt)
    (he : KernelEffect (.base rt) e k') :
    ApprovalBroker.Ticks e.authority.accepted rt.broker k'.runtime.broker ∧
      ∀ before after, e.Between before after → before.broker = rt.broker ∧ after = k'.runtime := by
  cases he with
  | @trap _ rt' task root frame outcome running root_ne effect =>
    have hsame : (rt.captured task root frame).broker = rt.broker := mapSlot_broker _ _ _
    have hmove := (h.captured running root_ne).trap_move running.captured
      (.captured running.known) effect
    refine ⟨hsame ▸ hmove.ticks, ?_⟩
    rintro _ _ ⟨rfl, rfl⟩
    exact ⟨hsame, rfl⟩
  | @begun _ rt' task exited live effect =>
    have hrefused : (KernelEvent.beginTeardown task rt rt').authority.accepted = false := by
      dsimp only [KernelEvent.authority]
      split <;> rfl
    refine ⟨hrefused ▸ effect.ticks h.toSupCore exited, ?_⟩
    rintro _ _ ⟨rfl, rfl⟩
    exact ⟨rfl, rfl⟩
  | @completed _ rt' _ _ exited closing effect =>
    refine ⟨?_, ?_⟩
    · show ApprovalBroker.Ticks false rt.broker rt'.broker
      rcases effect.broker exited.known with hb | hb
      · rw [hb]
        exact .refl _
      · rw [hb]
        exact .died _
    · rintro _ _ ⟨rfl, rfl⟩
      exact ⟨rfl, rfl⟩

/-- Such a decision closes the broker. -/
theorem Runtime.run_handleTrap_pastLast {rt : Runtime} {task : UInt64} (h : SupInv rt)
    (hr : rt.Running task) (op : rt.operation task = some .decideApproval)
    (hstatus : rt.decideStatus task (rt.input task).rdi (rt.input task).rsi (rt.input task).rdx = none)
    (hpast : u64Max.toNat < rt.broker.decisionEpoch.toNat +
      if (rt.input task).rdx = decisionApprove then 2 else 1) :
    task = senderTaskId ∧ rt.task1.state = .blockedApproval ∧
      (handleTrap task).run rt = (.ok (.resume senderTaskId), { rt with
        task0 := rt.task0.answered .brokerUnavailable 0
        task1 := rt.task1.woken .brokerUnavailable 0
        broker := { rt.broker.clearRequest with state := .closing }
        queue := RunQueue.ofList [receiverTaskId] }) := by
  obtain ⟨hpresent, -, -⟩ := decideStatus_none hstatus
  have hopen := h.open_of_present hpresent
  have hb := h.blocked_of_open hopen
  obtain ⟨rfl, -, hq⟩ := h.supervisor_runs hr hb
  have hlast : rt.broker.decisionEpoch = u64Max ∨
      (rt.input senderTaskId).rdx = decisionApprove ∧ rt.broker.decisionEpoch + 1 = u64Max := by
    by_cases hmax : rt.broker.decisionEpoch = u64Max
    · exact .inl hmax
    · have hlt : rt.broker.decisionEpoch.toNat < u64Max.toNat := by
        have hle : rt.broker.decisionEpoch.toNat ≤ u64Max.toNat :=
          Nat.le_of_lt_succ rt.broker.decisionEpoch.toNat_lt
        exact lt_of_le_of_ne hle fun heq => hmax (UInt64.toNat_inj.mp heq)
      split at hpast
      · rename_i happrove
        refine .inr ⟨happrove, UInt64.toNat_inj.mp ?_⟩
        rw [toNat_add_one hmax]
        omega
      · omega
  have heffect := TrapEffect.exhausted op rfl h.profile hopen (hlast.imp_right And.right)
  have hvalid := (h.effect hr heffect).validate
  refine ⟨rfl, hb, Method.run_restoring_ok.mpr ?_⟩
  rw [run_handleTrapInner (h.inService hr), op]
  show (decideApproval senderTaskId _ _ _).run rt = _
  unfold decideApproval
  simp only [Method.run_self_bind, hstatus]
  by_cases hmax : rt.broker.decisionEpoch = u64Max
  · simp only [checkedAdd_one_none.mpr hmax]
    exact (run_exhaustBroker hb hq).trans (run_answerChecked (.inl rfl) hvalid)
  · simp only [checkedAdd_one hmax]
    rw [if_pos (hlast.resolve_left hmax)]
    exact (run_exhaustBroker hb hq).trans (run_answerChecked (.inl rfl) hvalid)

/-! ## Events at the end of the counter -/

section Events

variable {k k' : KernelRuntime} {e : KernelEvent}

theorem KernelStep.closesBroker (h : KernelInv .supervised k) (hs : KernelStep k e k')
    (hpast : e.DecidesPastLast) : e.ClosesBroker := by
  cases e with
  | trap task frame outcome before after =>
    obtain ⟨op, hstatus, hpast⟩ := hpast
    obtain ⟨hr, root, hroot, rfl, rfl, hhandled⟩ := h.trap_step hs
    cases h with
    | @supervised rt inv =>
      obtain ⟨rt', hrun, rfl⟩ := KernelRuntime.call_base_eq hhandled
      have hk := hr.known
      have hinput : ((rt.captured task root frame).input task).rdi = frame.rdi ∧
          ((rt.captured task root frame).input task).rsi = frame.rsi ∧
          ((rt.captured task root frame).input task).rdx = frame.rdx := by
        rcases hk with rfl | rfl <;> exact ⟨rfl, rfl, rfl⟩
      obtain ⟨rfl, hb, hrun'⟩ := run_handleTrap_pastLast (inv.captured hr hroot) hr.captured
        ((captured_operation hk).trans op)
        (by rw [hinput.1, hinput.2.1, hinput.2.2]; exact hstatus)
        (by rw [hinput.2.2]; exact hpast)
      have hafter := congrArg Prod.snd (hrun'.symm.trans hrun)
      subst hafter
      exact ⟨rfl, rfl, hb, rfl, rfl, rfl⟩
  | beginTeardown | completeTeardown | finishReclamation => exact hpast.elim

theorem KernelEffect.refusedAtLast {rt : Runtime} (he : KernelEffect (.base rt) e k')
    (hlast : e.SubmitsAtLast) : e.Refused := by
  cases he with
  | @trap _ rt' task root frame outcome running root_ne effect =>
    obtain ⟨op, hlast⟩ := hlast
    have hk := running.known
    have hop : (rt.captured task root frame).operation task = frame.operation :=
      captured_operation hk
    rw [← hop] at op
    cases effect with
    | refused ne_ok unexpired receiving =>
      refine ⟨rfl, fun htold => ne_ok ?_, mapSlot_broker _ _ _, mapSlot_effect _ _ _⟩
      rcases hk with rfl | rfl <;> exact TrapStatus.code_injective htold
    | submitted op' workload supervised idle kind unexhausted epoch => exact absurd hlast epoch
    | kept op' | yielded op' | stored op' | delivered op' | took op' | blocked op' | exited op'
    | duplicated op' | closed op' | launched op' | inspected op' | approved op' | concluded op'
    | exhausted op' | committed op' =>
      rw [op] at op'
      cases op'
  | begun | completed => exact hlast.elim

/-- Either kind of event leaves a broker that accepts nothing more. -/
theorem KernelStep.spent (h : KernelInv .supervised k) (hs : KernelStep k e k')
    (hend : e.DecidesPastLast ∨ e.SubmitsAtLast) : k'.runtime.broker.Spent := by
  have he := h.step hs
  cases h with
  | @supervised rt inv =>
    obtain ⟨-, hbetween⟩ := inv.step_ticks he
    cases e with
    | trap task frame outcome before after =>
      obtain ⟨-, rfl⟩ := hbetween before after ⟨rfl, rfl⟩
      rcases hend with hpast | hlast
      · exact .inl (KernelStep.closesBroker (.supervised inv) hs hpast).1
      · refine .inr (.inr ?_)
        rw [(he.refusedAtLast hlast).2.2.1]
        exact hlast.2
    | beginTeardown | completeTeardown | finishReclamation => exact (hend.elim id id).elim

/-- A broker that accepts nothing more stays so. -/
theorem KernelStep.idle (hreach : Reachable (kernelSystem .supervised) k)
    (hspent : k.runtime.broker.Spent) (hs : KernelStep k e k') :
    k'.runtime.broker.Spent ∧ e.Idle := by
  have hoccupies := occupies_eq_commits KernelRuntimeKind.noConfusion hreach hs
  obtain ⟨history, hrun⟩ := hreach
  have h := KernelInv.run hrun
  have he := h.step hs
  cases h with
  | @supervised rt inv =>
    obtain ⟨hticks, hbetween⟩ := inv.step_ticks he
    obtain ⟨hrefused, hspent'⟩ := hticks.spent hspent
    refine ⟨hspent', hrefused, ?_, ?_⟩
    · intro before after hba hp
      obtain ⟨hbroker, rfl⟩ := hbetween before after hba
      rw [hbroker]
      exact hticks.stores hrefused hp
    · rw [hoccupies]
      cases hauthority : e.authority with
      | commit s argument =>
        rw [hauthority] at hrefused
        cases hrefused
      | submit | approve | reject | waste | withdraw | shut | other => rfl

end Events

/-! ## Whole runs -/

/-- The epoch counts what has been accepted. -/
structure EpochCounts (history : List KernelEvent) (b : ApprovalBroker) : Prop where
  ordered : b.Ordered
  epoch : b.state ≠ .dead → b.decisionEpoch.toNat = acceptances history + 1

theorem acceptances_snoc (history : List KernelEvent) (e : KernelEvent) :
    acceptances (history ++ [e]) =
      acceptances history + if e.authority.accepted then 1 else 0 := by
  rw [acceptances, List.map_append, List.countP_append, List.map_singleton, List.countP_singleton]
  rfl

theorem EpochCounts.of_run {history : List KernelEvent} {k : KernelRuntime}
    (h : Run (kernelSystem .supervised) history k) : EpochCounts history k.runtime.broker := by
  have hboth : KernelInv .supervised k ∧ EpochCounts history k.runtime.broker := by
    refine h.invariant (P := fun history k =>
      KernelInv .supervised k ∧ EpochCounts history k.runtime.broker) ?_ ?_
    · intro k hbooted
      refine ⟨KernelInv.booted hbooted, ?_⟩
      obtain ⟨k₀, next, hpublished, hdispatch⟩ := hbooted
      cases hpublished with
      | supervised hnew =>
        obtain ⟨rt', hrt, rfl⟩ := KernelRuntime.call_base_eq hdispatch
        obtain ⟨-, t, hstarted, -⟩ := SupInv.booted hnew hrt
        rw [hstarted]
        exact ⟨⟨rfl, fun _ => Nat.le_refl 1⟩, fun _ => rfl⟩
    · rintro history k e k' ⟨hinv, hcounts⟩ hs
      have he := hinv.step hs
      refine ⟨hinv.effect he, ?_⟩
      cases hinv with
      | @supervised rt inv =>
        obtain ⟨hticks, -⟩ := inv.step_ticks he
        refine ⟨hticks.ordered hcounts.ordered, fun hd => ?_⟩
        obtain ⟨hd', hepoch⟩ := hticks.epoch hd
        have hcount : rt.broker.decisionEpoch.toNat = acceptances history + 1 := hcounts.epoch hd'
        rw [hepoch, acceptances_snoc, hcount, Nat.add_right_comm]
  exact hboth.2

/-- The number of an accepted request is the number of requests accepted so far. -/
theorem sequence_of_submit {earlier : List KernelEvent} {k k' : KernelRuntime} {e : KernelEvent}
    (h : Run (kernelSystem .supervised) earlier k) (hs : KernelStep k e k') {argument : UInt64}
    (hsubmit : e.authority = .submit argument) :
    k'.runtime.broker.request.sequence.toNat = submits earlier + 1 := by
  obtain ⟨a, hrun, ha⟩ := supervised_refines_approvals KernelRuntimeKind.noConfusion h
  have hinv := KernelInv.run h
  obtain ⟨a', hmove, ha'⟩ := hinv.authority KernelRuntimeKind.noConfusion ha (hinv.step hs)
  rw [hsubmit] at hmove
  cases hmove with
  | submit idle =>
    have hrequest := ha'.request
    unfold ApprovalBroker.openRequest at hrequest
    split at hrequest
    · rw [Option.some.injEq, OpenRequest.mk.injEq] at hrequest
      rw [← hrequest.1, submits, (Explained.of_run hrun).submitted]
    · cases hrequest

/-- In every run of the supervised profile the accepted requests are numbered from one on, and the
epoch is one more than the number of moves accepted so far. A decision that needs an epoch past the
last one closes the broker, a request in the last one is refused, and nothing is accepted after
either. A live approval is of the current epoch and expires in the next one, and the numbers are
never exhausted. -/
theorem counters_never_wrap {history : List KernelEvent} {k : KernelRuntime}
    (h : Run (kernelSystem .supervised) history k) :
    (∀ earlier e later, history = earlier ++ e :: later → CountersKept earlier e later) ∧
      (k.runtime.broker.state ≠ .dead →
        k.runtime.broker.decisionEpoch.toNat = acceptances history + 1) ∧
      (k.runtime.broker.state = .approved →
        k.runtime.broker.approvalEpoch = k.runtime.broker.decisionEpoch ∧
        k.runtime.broker.expiryEpoch.toNat = k.runtime.broker.decisionEpoch.toNat + 1) ∧
      k.runtime.broker.sequenceExhausted = false := by
  have hcounts := EpochCounts.of_run h
  refine ⟨?_, hcounts.epoch, ?_, hcounts.ordered.unexhausted⟩
  · intro earlier e later hsplit
    have hlater (hend : e.DecidesPastLast ∨ e.SubmitsAtLast) : ∀ e' ∈ later, e'.Idle :=
      (h.after (S := kernelSystem .supervised) (Q := fun k => k.runtime.broker.Spent)
        (A := fun e => e.DecidesPastLast ∨ e.SubmitsAtLast)
        (fun ⟨_, hr⟩ hs hend => KernelStep.spent (KernelInv.run hr) hs hend)
        (fun hreach hspent hs => KernelStep.idle hreach hspent hs) hsplit hend).2
    obtain ⟨k₂, h₂⟩ : ∃ k₂, Run (kernelSystem .supervised) (earlier ++ [e]) k₂ := by
      rw [hsplit, List.append_cons] at h
      exact h.of_append
    obtain ⟨k₁, h₁, hs⟩ := h₂.of_append_singleton
    have hinv := KernelInv.run h₁
    have he := hinv.step hs
    cases hinv with
    | @supervised rt inv =>
      obtain ⟨hticks, hbetween⟩ := inv.step_ticks he
      refine ⟨?_, ?_, fun hpast => ⟨?_, hlater (.inl hpast)⟩, fun hlast => ⟨?_, hlater (.inr hlast)⟩⟩
      · intro argument hsubmit before after hba
        obtain ⟨-, rfl⟩ := hbetween before after hba
        exact sequence_of_submit h₁ hs hsubmit
      · intro before after hba hd
        obtain ⟨hbroker, rfl⟩ := hbetween before after hba
        rw [hbroker]
        exact (hticks.epoch hd).2
      · exact KernelStep.closesBroker (.supervised inv) hs hpast
      · exact he.refusedAtLast hlast
  · intro happroved
    cases KernelInv.run h with
    | supervised inv =>
      obtain ⟨hepoch, hmax⟩ := inv.approved_epoch happroved
      have hexpiry := congrArg UInt64.toNat (Runtime.SupInv.expiry inv happroved).1
      exact ⟨hepoch, hexpiry.trans (toNat_add_one hmax)⟩

/-- A request is made and approved: two moves, so the epoch is 3, and the approval expires in 4. -/
theorem approval_in_third_epoch :
    ∃ history k, Run (kernelSystem .supervised) history k ∧ acceptances history = 2 ∧
      k.runtime.broker.state = .approved ∧ k.runtime.broker.decisionEpoch.toNat = 3 ∧
      k.runtime.broker.expiryEpoch.toNat = 4 ∧ k.runtime.broker.sequenceExhausted = false ∧
      ∀ earlier e later, history = earlier ++ e :: later → CountersKept earlier e later := by
  have hexec : ∃ r ∈ KernelRuntime.execute .supervised (.start senderTaskId supervisorGeneration)
      (.start receiverTaskId workloadGeneration)
      [.request 6 16 1 0, .request 0 0 0 0, .request 7 16 1 99, .request 9 17 1 decisionApprove],
      acceptances r.1 = 2 ∧ r.2.runtime.broker.state = .approved := by
    decide +kernel
  obtain ⟨⟨history, k⟩, hmem, htwo, happroved⟩ := hexec
  have hrun := KernelRuntime.execute_run hmem
  obtain ⟨hkept, hepoch, hexpiry, hsequence⟩ := counters_never_wrap hrun
  have hthree : k.runtime.broker.decisionEpoch.toNat = 3 := by
    rw [hepoch (by rw [happroved]; decide), htwo]
  exact ⟨history, k, hrun, htwo, happroved, hthree, by rw [(hexpiry happroved).2, hthree],
    hsequence, hkept⟩

end MakopaVerified.TaskRuntime
