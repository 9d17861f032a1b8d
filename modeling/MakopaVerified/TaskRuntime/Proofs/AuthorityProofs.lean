import MakopaVerified.TaskRuntime.Authority
import MakopaVerified.TaskRuntime.Proofs.KernelProofs

/-!
# The effect is filled by approval only

The supervised profiles refine the protocol of single-use approvals: every call of the kernel is a
move of the protocol. What holds of all histories of the protocol then holds of the kernel's.
-/

namespace MakopaVerified.TaskRuntime

open Foundation TaskRuntime.Runtime KernelEvent

variable {k : KernelRuntime}

/-! ## Reading an event -/

namespace KernelEvent

variable {task : UInt64} {frame : TrapFrame} {outcome : TrapOutcome} {before after : Runtime}

/-- Whoever is not made to wait and not told `Ok` has changed nothing, if the request is there as
before. -/
theorem authority_other (hsubmit : frame.operation = some .submitApproval →
      task = receiverTaskId → after.task1.state ≠ .blockedApproval)
    (hrefused : frame.operation = some .decideApproval ∨ frame.operation = some .commitEffect →
      task = senderTaskId → ¬ after.Told senderTaskId .ok)
    (hsame : after.broker.requestPresent = before.broker.requestPresent) :
    (trap task frame outcome before after).authority = .other := by
  dsimp only [authority]
  rw [if_neg fun hs => hsubmit hs.2.1 hs.1 hs.2.2,
    if_neg fun hs => hrefused (.inl hs.2.1) hs.1 hs.2.2,
    if_neg fun hs => hrefused (.inr hs.2.1) hs.1 hs.2.2, if_neg]
  rintro ⟨hp, ha⟩
  rw [hsame, hp] at ha
  cases ha

/-- Other operations change nothing. -/
theorem authority_of_operation {o : TrapOperation} (hop : frame.operation = some o)
    (hne : o ≠ .submitApproval ∧ o ≠ .decideApproval ∧ o ≠ .commitEffect)
    (hsame : after.broker.requestPresent = before.broker.requestPresent) :
    (trap task frame outcome before after).authority = .other := by
  refine authority_other (fun hs => ?_) (fun hs => ?_) hsame
  · rw [hop, Option.some.injEq] at hs
    exact absurd hs hne.1
  · rw [hop, Option.some.injEq, Option.some.injEq] at hs
    rcases hs with hs | hs
    · exact absurd hs hne.2.1
    · exact absurd hs hne.2.2

theorem authority_submit (hop : frame.operation = some .submitApproval)
    (hwaits : after.task1.state = .blockedApproval) :
    (trap receiverTaskId frame outcome before after).authority = .submit frame.rdx :=
  if_pos ⟨rfl, hop, hwaits⟩

theorem authority_decide (hop : frame.operation = some .decideApproval)
    (hok : after.Told senderTaskId .ok) :
    (trap senderTaskId frame outcome before after).authority =
      if frame.rdx = decisionApprove ∧ before.broker.state = .pending then
        .approve frame.rsi.toNat
      else .reject frame.rsi.toNat := by
  dsimp only [authority]
  rw [if_neg fun hs => absurd hs.1 (by decide), if_pos ⟨rfl, hop, hok⟩]

theorem authority_commit (hop : frame.operation = some .commitEffect)
    (hok : after.Told senderTaskId .ok) :
    (trap senderTaskId frame outcome before after).authority =
      .commit frame.rsi.toNat frame.rdx := by
  dsimp only [authority]
  rw [if_neg fun hs => absurd hs.1 (by decide), if_neg, if_pos ⟨rfl, hop, hok⟩]
  rintro ⟨-, hd, -⟩
  rw [hop] at hd
  cases hd

/-- A request that is gone although its decision or commit was not answered `Ok`. -/
theorem authority_lost (hrefused : ¬ after.Told senderTaskId .ok)
    (hp : before.broker.requestPresent = true) (ha : after.broker.requestPresent = false) :
    (trap senderTaskId frame outcome before after).authority =
      if frame.operation = some .commitEffect then .waste before.broker.request.sequence.toNat
      else .withdraw := by
  dsimp only [authority]
  rw [if_neg fun hs => absurd hs.1 (by decide), if_neg fun hs => hrefused hs.2.2,
    if_neg fun hs => hrefused hs.2.2, if_pos ⟨hp, ha⟩]

end KernelEvent

/-! ## The state of the protocol -/

namespace ApprovalBroker

variable {b : ApprovalBroker}

theorem openRequest_none (h : b.requestPresent = false) : b.openRequest = none := by
  rw [openRequest, h]
  rfl

theorem openRequest_some (h : b.requestPresent = true) :
    b.openRequest = some ⟨b.request.sequence.toNat, b.request.argument, b.state = .approved⟩ := by
  rw [openRequest, h]
  rfl

end ApprovalBroker

namespace Represents

variable {rt rt' : Runtime} {a : Approvals UInt64}

/-- Nothing that the protocol sees has changed. -/
theorem of_same (h : Represents rt a) (hbroker : rt'.broker = rt.broker)
    (heffect : rt'.effect = rt.effect)
    (htable : rt'.task0.capabilities.state = rt.task0.capabilities.state) : Represents rt' a where
  request := by rw [hbroker]; exact h.request
  cell := by rw [heffect]; exact h.cell
  shut := by rw [htable]; exact h.shut
  shut_empty := h.shut_empty
  counts := by rw [hbroker]; exact h.counts

/-- A request is accepted under the next number. -/
theorem submit (h : Represents rt a) (hstate : rt.broker.state = .empty)
    (hexhausted : rt.broker.sequenceExhausted = false) {kind argument epoch : UInt64}
    (hbroker : rt'.broker = rt.broker.submit kind argument epoch)
    (heffect : rt'.effect = rt.effect)
    (htable : rt'.task0.capabilities.state = rt.task0.capabilities.state) :
    Represents rt'
      { a with
        submitted := a.submitted + 1
        request := some ⟨a.submitted + 1, argument, false⟩ } := by
  have hnext := h.counts (by rw [hstate]; decide)
  rw [hexhausted] at hnext
  have hnext : rt.broker.nextSequence.toNat = a.submitted + 1 := hnext
  refine ⟨?_, heffect ▸ h.cell, htable ▸ h.shut, h.shut_empty, fun _ => ?_⟩
  · rw [hbroker, ← hnext]
    rfl
  · by_cases hmax : rt.broker.nextSequence = u64Max
    · have hx : rt'.broker.sequenceExhausted = true := by rw [hbroker]; exact if_pos hmax
      rw [hmax] at hnext
      rw [if_pos hx]
      exact hnext.symm
    · have hx : rt'.broker.sequenceExhausted = false := by
        rw [hbroker]
        exact (if_neg hmax).trans hexhausted
      have hn : rt'.broker.nextSequence = rt.broker.nextSequence + 1 := by
        rw [hbroker]
        exact if_neg hmax
      rw [hx, hn, toNat_add_one hmax, hnext]
      rfl

theorem counts_of (h : Represents rt a) (halive : rt'.broker.state ≠ .dead → rt.broker.state ≠ .dead)
    (hexhausted : rt'.broker.sequenceExhausted = rt.broker.sequenceExhausted)
    (hnext : rt'.broker.nextSequence = rt.broker.nextSequence) :
    rt'.broker.Counts a.submitted := by
  intro hd
  rw [hexhausted, hnext]
  exact h.counts (halive hd)

/-- The pending request is approved. -/
theorem approve (h : Represents rt a) (hpresent : rt.broker.requestPresent = true)
    (hpending : rt.broker.state = .pending) {epoch : UInt64}
    (hbroker : rt'.broker = rt.broker.approve epoch) (heffect : rt'.effect = rt.effect)
    (htable : rt'.task0.capabilities.state = rt.task0.capabilities.state) :
    Represents rt'
      { a with
        request := some ⟨rt.broker.request.sequence.toNat, rt.broker.request.argument, true⟩ } := by
  refine ⟨?_, heffect ▸ h.cell, htable ▸ h.shut, h.shut_empty, h.counts_of ?_ ?_ ?_⟩
  · rw [ApprovalBroker.openRequest_some (by rw [hbroker]; exact hpresent), hbroker]
    rfl
  · intro _
    rw [hpending]
    decide
  · rw [hbroker]
    rfl
  · rw [hbroker]
    rfl

/-- The request is over. -/
theorem close (h : Represents rt a) (hnone : rt'.broker.requestPresent = false)
    (halive : rt'.broker.state ≠ .dead → rt.broker.state ≠ .dead)
    (hexhausted : rt'.broker.sequenceExhausted = rt.broker.sequenceExhausted)
    (hnext : rt'.broker.nextSequence = rt.broker.nextSequence) (heffect : rt'.effect = rt.effect)
    (htable : rt'.task0.capabilities.state = rt.task0.capabilities.state) :
    Represents rt' { a with request := none } where
  request := (ApprovalBroker.openRequest_none hnone).symm
  cell := by rw [heffect]; exact h.cell
  shut := by rw [htable]; exact h.shut
  shut_empty := h.shut_empty
  counts := h.counts_of halive hexhausted hnext

/-- The registers of a trap are none of the protocol's business. -/
theorem captured (h : Represents rt a) {task root : UInt64} {frame : TrapFrame}
    (hk : KnownTask task) : Represents (rt.captured task root frame) a := by
  rcases hk with rfl | rfl <;> exact h.of_same rfl rfl rfl

/-- A supervisor that runs is not gone. -/
theorem present (h : Represents rt a) (hlive : rt.task0.capabilities.state = .live) :
    a.shut = false := by
  rw [Bool.eq_false_iff, ne_eq, h.shut]
  exact fun hn => hn hlive

end Represents

/-! ## Traps -/

/-- The frame holds the registers that the caller's slot holds. -/
structure Frames (rt : Runtime) (task : UInt64) (frame : TrapFrame) : Prop where
  operation : rt.operation task = frame.operation
  rsi : (rt.input task).rsi = frame.rsi
  rdx : (rt.input task).rdx = frame.rdx

theorem Frames.captured {rt : Runtime} {task root : UInt64} {frame : TrapFrame}
    (hk : KnownTask task) : Frames (rt.captured task root frame) task frame := by
  rcases hk with rfl | rfl <;> exact ⟨rfl, rfl, rfl⟩

/-- What a trap is for the protocol, with all that it does to the broker and to the effect. -/
inductive TrapMove (rt rt' : Runtime) : ApprovalEvent UInt64 → Prop where
  | other (broker : rt'.broker = rt.broker) (effect : rt'.effect = rt.effect) : TrapMove rt rt' .other
  | submit {kind argument : UInt64} (idle : rt.broker.state = .empty)
      (unexhausted : rt.broker.sequenceExhausted = false) (epoch : rt.broker.decisionEpoch ≠ u64Max)
      (broker : rt'.broker = rt.broker.submit kind argument (rt.broker.decisionEpoch + 1))
      (effect : rt'.effect = rt.effect) : TrapMove rt rt' (.submit argument)
  | approve (pending : rt.broker.state = .pending) (epoch : rt.broker.decisionEpoch ≠ u64Max)
      (expiry : rt.broker.decisionEpoch + 1 ≠ u64Max)
      (broker : rt'.broker = rt.broker.approve (rt.broker.decisionEpoch + 1))
      (effect : rt'.effect = rt.effect) : TrapMove rt rt' (.approve rt.broker.request.sequence.toNat)
  | reject (is_open : rt.broker.state = .pending ∨ rt.broker.state = .approved)
      (epoch : rt.broker.decisionEpoch ≠ u64Max)
      (broker : rt'.broker = rt.broker.conclude (rt.broker.decisionEpoch + 1))
      (effect : rt'.effect = rt.effect) : TrapMove rt rt' (.reject rt.broker.request.sequence.toNat)
  | exhausted (is_open : rt.broker.state = .pending ∨ rt.broker.state = .approved)
      (broker : rt'.broker = { rt.broker.clearRequest with state := .closing })
      (effect : rt'.effect = rt.effect) : TrapMove rt rt' .withdraw
  | commit (approval : rt.broker.state = .approved) (vacant : rt.effect.occupied = false)
      (epoch : rt.broker.decisionEpoch ≠ u64Max)
      (broker : rt'.broker = rt.broker.conclude (rt.broker.decisionEpoch + 1))
      (effect : rt'.effect = { rt.effect with occupied := true, value := rt.broker.request.argument }) :
      TrapMove rt rt' (.commit rt.broker.request.sequence.toNat rt.broker.request.argument)

/-- A move of the protocol that answers the event. -/
def Answered (a : Approvals UInt64) (e : KernelEvent) (rt' : Runtime) : Prop :=
  ∃ a', Approvals.Step a e.authority a' ∧ Represents rt' a'

theorem answered_other {rt rt' : Runtime} {a : Approvals UInt64} (ha : Represents rt a) {e : KernelEvent} (he : e.authority = .other)
    (hbroker : rt'.broker = rt.broker) (heffect : rt'.effect = rt.effect)
    (htable : rt'.task0.capabilities.state = rt.task0.capabilities.state) : Answered a e rt' := by
  refine ⟨a, ?_, ha.of_same hbroker heffect htable⟩
  rw [he]
  exact .other

namespace SupInv

variable {rt rt' : Runtime} {task : UInt64} {outcome : TrapOutcome} {frame : TrapFrame}
  {a : Approvals UInt64}

/-- The supervisor's handles are live while it runs. -/
theorem supervisor_live (h : SupInv rt) (hr : rt.Running senderTaskId) :
    rt.task0.capabilities.state = .live :=
  h.valid.slot0.table_live (by rw [show rt.task0.state = .running from hr.state]; rfl)

/-- What a trap does to the broker and to the effect follows from what it is for the protocol. -/
theorem trap_move (h : SupInv rt) (hr : rt.Running task) (hf : Frames rt task frame)
    (he : TrapEffect rt task outcome rt') :
    TrapMove rt rt' (KernelEvent.trap task frame outcome rt rt').authority := by
  have hop := hf.operation
  -- the operations that the protocol does not see
  have hunseen : ∀ {o : TrapOperation}, rt.operation task = some o →
      o ≠ .submitApproval ∧ o ≠ .decideApproval ∧ o ≠ .commitEffect →
      rt'.broker = rt.broker → rt'.effect = rt.effect →
      TrapMove rt rt' (KernelEvent.trap task frame outcome rt rt').authority := by
    intro o ho hne hbroker heffect
    rw [authority_of_operation (hop ▸ ho) hne (by rw [hbroker])]
    exact .other hbroker heffect
  cases he with
  | @refused status ne_ok unexpired receiving =>
    rw [authority_other]
    · exact .other (mapSlot_broker _ _ _) (mapSlot_effect _ _ _)
    · rintro - rfl
      show rt.task1.state ≠ .blockedApproval
      rw [show rt.task1.state = .running from hr.state]
      decide
    · rintro - rfl htold
      exact ne_ok (TrapStatus.code_injective htold)
    · rw [mapSlot_broker]
  | kept op | exited op | inspected op | duplicated op | closed op =>
    exact hunseen op (by decide) (mapSlot_broker _ _ _) (mapSlot_effect _ _ _)
  | yielded op =>
    exact hunseen op (by decide) (by rw [mapSlot_broker, mapSlot_broker])
      (by rw [mapSlot_effect, mapSlot_effect])
  | stored op | delivered op | took op | blocked op | launched op =>
    exact hunseen op (by decide) rfl rfl
  | submitted op workload supervised idle kind unexhausted epoch waiting =>
    subst workload
    rw [authority_submit (hop ▸ op) rfl]
    exact .submit idle unexhausted epoch (by rw [← hf.rdx]) rfl
  | approved op supervisor supervised pending names decision epoch expiry =>
    subst supervisor
    rw [authority_decide (hop ▸ op), if_pos ⟨hf.rdx ▸ decision, pending⟩, ← hf.rsi,
      ← names]
    · exact .approve pending epoch expiry rfl rfl
    · rfl
  | concluded op supervisor supervised open_request names decision epoch =>
    subst supervisor
    have hne : ¬ (frame.rdx = decisionApprove ∧ rt.broker.state = .pending) := by
      rintro ⟨hd, -⟩
      rw [← hf.rdx] at hd
      rcases decision with ⟨hdeny, -⟩ | ⟨hexpire, -⟩
      · rw [hdeny] at hd
        cases hd
      · rw [hexpire] at hd
        cases hd
    rw [authority_decide (hop ▸ op), if_neg hne, ← hf.rsi, ← names]
    · exact .reject open_request epoch rfl rfl
    · rfl
  | exhausted op supervisor supervised open_request epoch =>
    subst supervisor
    have htold : ¬ Runtime.Told { rt with
        task0 := rt.task0.answered .brokerUnavailable 0
        task1 := rt.task1.woken .brokerUnavailable 0
        broker := { rt.broker.clearRequest with state := .closing }
        queue := RunQueue.ofList [receiverTaskId] } senderTaskId .ok :=
      fun htold => absurd (show TrapStatus.brokerUnavailable.code = _ from htold) (by decide)
    have hdecides : ¬ frame.operation = some .commitEffect := by
      rw [← hop, op]
      decide
    rw [authority_lost htold (h.present_of_open open_request) rfl, if_neg hdecides]
    exact .exhausted open_request rfl rfl
  | committed op supervisor supervised approval names argument vacant bound epoch =>
    subst supervisor
    rw [authority_commit (hop ▸ op), ← hf.rsi, ← names, ← hf.rdx, ← argument]
    · exact .commit approval vacant epoch rfl (by rw [argument])
    · rfl

theorem trap_authority (h : SupInv rt) (hr : rt.Running task) (hf : Frames rt task frame)
    (ha : Represents rt a) (he : TrapEffect rt task outcome rt') :
    Answered a (.trap task frame outcome rt rt') rt' := by
  have htable := (he.tablesKept hr.known).state0
  have hmove := h.trap_move hr hf he
  -- an open request is one of the protocol's, and it may end
  have hrequest (ho : rt.broker.state = .pending ∨ rt.broker.state = .approved) :=
    ha.request.trans (ApprovalBroker.openRequest_some (h.present_of_open ho))
  have halive (ho : rt.broker.state = .pending ∨ rt.broker.state = .approved) :
      rt.broker.state ≠ .dead := by
    rcases ho with ho | ho
    · rw [ho]
      decide
    · rw [ho]
      decide
  unfold Answered
  generalize KernelEvent.authority _ = e at hmove ⊢
  cases hmove with
  | other broker effect => exact ⟨a, .other, ha.of_same broker effect htable⟩
  | submit idle unexhausted epoch broker effect =>
    have hnone : rt.broker.requestPresent = false := by
      rw [Bool.eq_false_iff]
      intro hp
      rcases h.open_of_present hp with ho | ho
      · exact nomatch idle.symm.trans ho
      · exact nomatch idle.symm.trans ho
    exact ⟨_, .submit (ha.request.trans (ApprovalBroker.openRequest_none hnone)),
      ha.submit idle unexhausted broker effect htable⟩
  | approve pending epoch expiry broker effect =>
    exact ⟨_, .approve (hrequest (.inl pending)) (by rw [pending]; rfl),
      ha.approve (h.present_of_open (.inl pending)) pending broker effect htable⟩
  | reject is_open epoch broker effect =>
    refine ⟨_, .reject (hrequest is_open), ha.close ?_ (fun _ => halive is_open) ?_ ?_ effect htable⟩
    · rw [broker]
      rfl
    · rw [broker]
      rfl
    · rw [broker]
      rfl
  | exhausted is_open broker effect =>
    refine ⟨_, .withdraw, ha.close ?_ (fun _ => halive is_open) ?_ ?_ effect htable⟩
    · rw [broker]
      rfl
    · rw [broker]
      rfl
    · rw [broker]
      rfl
  | commit approval vacant epoch broker effect =>
    obtain rfl := h.supervisor_runs hr (h.blocked_of_open (.inr approval)) |>.1
    have hopen := ha.present (h.supervisor_live hr)
    have hcell : a.cell = none := by
      rw [ha.cell, SyntheticEffect.cell, vacant]
      rfl
    refine ⟨_, .commit (hrequest (.inr approval)) (by rw [approval]; rfl) hcell hopen, ?_, ?_, ?_,
      fun hs => absurd (hopen.symm.trans hs) Bool.noConfusion,
      ha.counts_of (fun _ => halive (.inr approval)) ?_ ?_⟩
    · rw [ApprovalBroker.openRequest_none (by rw [broker]; rfl)]
    · rw [effect]
      rfl
    · rw [htable]
      exact ha.shut
    · rw [broker]
      rfl
    · rw [broker]
      rfl

end SupInv

namespace JInv

variable {jr jr' : JournaledRuntime} {task : UInt64} {outcome : TrapOutcome} {frame : TrapFrame}
  {a : Approvals UInt64}

theorem trap_authority (h : JInv jr) (hr : jr.runtime.Running task)
    (hf : Frames jr.runtime task frame) (ha : Represents jr.runtime a)
    (he : JournaledEffect jr task outcome jr') :
    Answered a (.trap task frame outcome jr.runtime jr'.runtime) jr'.runtime := by
  cases he with
  | unrecorded inner | requested inner | approved inner | concluded inner | committed inner =>
    exact h.sup.trap_authority hr hf ha inner
  | @read context op fixed =>
    have htable : (mapSlot task (TaskSlot.withContext context) jr.runtime).task0.capabilities =
        jr.runtime.task0.capabilities := by
      rcases hr.known with rfl | rfl <;> rfl
    refine answered_other ha ?_ (mapSlot_broker _ _ _) (mapSlot_effect _ _ _)
      (congrArg CapabilityTable.state htable)
    rw [hf.operation] at op
    rcases op with op | op
    · exact authority_of_operation op (by decide) (by rw [mapSlot_broker])
    · exact authority_of_operation op (by decide) (by rw [mapSlot_broker])
  | failed live supervisor op approval =>
    subst supervisor
    have hpresent := h.sup.present_of_open (.inr approval)
    have hrequest := ha.request.trans (ApprovalBroker.openRequest_some hpresent)
    refine ⟨_, ?_, ha.close rfl (fun _ => by rw [approval]; decide) rfl rfl rfl rfl⟩
    rw [authority_lost _ hpresent rfl, if_pos (hf.operation ▸ op)]
    · exact .waste hrequest
    · exact fun htold => absurd (show TrapStatus.effectUnavailable.code = _ from htold) (by decide)

end JInv

/-! ## Teardown -/

section Teardown

variable {rt rt' : Runtime} {task : UInt64} {a : Approvals UInt64}

theorem Represents.bumped (h : Represents rt a) : Represents rt.bumped a :=
  ⟨h.request, h.cell, h.shut, h.shut_empty, h.counts⟩

namespace SupCore

/-- The request goes away with the task that is torn down, and the effect with the supervisor. -/
theorem begun_authority (h : SupCore rt) (hx : Exited rt task) (ha : Represents rt a)
    (hb : TeardownBegun rt task rt') {before : Runtime} :
    Answered a (.beginTeardown task before rt') rt' := by
  obtain ⟨-, hnone, halive, -, hnext, hexhausted⟩ := hb.broker h hx
  have hcounts := ha.counts_of halive hexhausted hnext
  cases hb with
  | sender cooperative | senderWakes cooperative | receiver cooperative =>
    exact absurd (h.profile.symm.trans cooperative) (by decide)
  | supervisor | supervisorWakes =>
    exact ⟨{ a with request := none, cell := none, shut := true }, .shut, rfl, rfl,
      iff_of_true rfl nofun, fun _ => rfl, hcounts⟩
  | workload => exact ⟨_, .withdraw, ha.close hnone halive hexhausted hnext rfl rfl⟩

/-- Nothing is open when a teardown is completed. -/
theorem none_of_closing (h : SupCore rt) (hx : Exited rt task)
    (hclosing : (rt.slotOf task).capabilities.state = .closing) :
    rt.broker.requestPresent = false := by
  rw [Bool.eq_false_iff]
  intro hp
  have ho := h.open_of_present hp
  have hstate := hx.state
  rcases hx.known with rfl | rfl
  · have hnot := h.broker_open (by rcases ho with ho | ho <;> rw [ho] <;> decide)
      (by rcases ho with ho | ho <;> rw [ho] <;> decide)
    exact hnot.2 hclosing
  · exact nomatch (h.blocked_of_open ho).symm.trans hstate

end SupCore

/-- The second phase clears an effect only with the supervisor. -/
theorem TeardownCompleted.effect {next : Option UInt64} (hk : KnownTask task)
    (hc : TeardownCompleted rt task next rt') :
    rt'.effect = rt.effect ∨
      rt'.effect = SyntheticEffect.empty ∧ (task = senderTaskId ∨ rt.task0.state = .dead) := by
  have hburied : (rt.buried task).effect = rt.effect ∨
      (rt.buried task).effect = SyntheticEffect.empty ∧
        (task = senderTaskId ∨ rt.task0.state = .dead) := by
    by_cases hpeer : (rt.slotOf (peerOf task)).state = .dead
    · rw [buried_of_peer_dead hk hpeer]
      refine .inr ⟨rfl, ?_⟩
      rcases hk with rfl | rfl
      · exact .inl rfl
      · exact .inr hpeer
    · rw [buried_of_peer_alive hk hpeer]
      split
      · rename_i hs
        exact .inr ⟨rfl, .inl hs.2⟩
      · exact .inl (mapSlot_effect ..)
  cases hc with
  | finished => exact hburied
  | handedOver =>
    rw [mapSlot_effect]
    exact hburied

namespace SupCore

theorem completed_authority (h : SupCore rt) (hx : Exited rt task)
    (hclosing : (rt.slotOf task).capabilities.state = .closing) (ha : Represents rt a)
    {next : Option UInt64} (hc : TeardownCompleted rt task next rt') :
    Answered a (.completeTeardown task next rt rt') rt' := by
  have hnone := h.none_of_closing hx hclosing
  have hrequest := ha.request.trans (ApprovalBroker.openRequest_none hnone)
  obtain ⟨hself, hpeer⟩ := hc.tables hx.known
  refine ⟨a, .other, ?_, ?_, ?_, ha.shut_empty, ?_⟩
  · rcases hc.broker hx.known with hb | hb
    · rw [hb]
      exact ha.request
    · rw [hb]
      exact hrequest
  · rcases hc.effect hx.known with he | ⟨he, hgone⟩
    · rw [he]
      exact ha.cell
    · have hshut : a.shut = true := by
        rw [ha.shut]
        intro hlive
        rcases hgone with rfl | hdead
        · exact nomatch hclosing.symm.trans hlive
        · exact absurd ((h.valid.slot0.table_dead hdead).symm.trans hlive)
            nofun
      rw [he]
      exact ha.shut_empty hshut
  · rcases hx.known with rfl | rfl
    · have hself : rt'.task0.capabilities = CapabilityTable.dead := hself
      have hclosing : rt.task0.capabilities.state = .closing := hclosing
      rw [ha.shut, hself, hclosing]
      decide
    · have hpeer : rt'.task0.capabilities = rt.task0.capabilities := hpeer
      rw [hpeer]
      exact ha.shut
  · rcases hc.broker hx.known with hb | hb
    · rw [hb]
      exact ha.counts
    · rw [hb]
      exact fun hd => absurd rfl hd

end SupCore

end Teardown

/-! ## Whole runs -/

theorem Represents.started {supervisor workload : TaskContext} {t : CapabilityTable} {rt : Runtime}
    (hrt : rt = Runtime.startedSupervised supervisor workload t) (h : SupInv rt) :
    Represents rt ⟨0, none, none, false⟩ := by
  have hlive : rt.task0.capabilities.state = .live :=
    h.valid.slot0.table_live (by rw [hrt]; rfl)
  subst hrt
  refine ⟨rfl, rfl, ?_, fun _ => rfl, fun _ => rfl⟩
  exact iff_of_false nofun fun hn => hn hlive

/-- Every call is answered by a move of the protocol. -/
theorem KernelInv.authority {kind : KernelRuntimeKind} (hkind : kind ≠ .cooperative)
    {k' : KernelRuntime} {e : KernelEvent} {a : Approvals UInt64} (h : KernelInv kind k)
    (ha : Represents k.runtime a) (he : KernelEffect k e k') : Answered a e k'.runtime := by
  cases h with
  | cooperative => exact absurd rfl hkind
  | supervised inv =>
    cases he with
    | trap running root_ne effect =>
      exact (inv.captured running root_ne).trap_authority running.captured
        (.captured running.known) (ha.captured running.known) effect
    | begun exited live effect => exact inv.toSupCore.begun_authority exited ha effect
    | completed exited closing effect =>
      exact inv.toSupCore.completed_authority exited closing ha effect
  | @journaled jr inv =>
    cases he with
    | journaledTrap running root_ne effect =>
      exact (inv.captured running root_ne).trap_authority running.captured
        (.captured running.known) (ha.captured running.known) effect
    | journaledBegun exited live effect =>
      cases effect with
      | quiet inner => exact inv.sup.toSupCore.begun_authority exited ha inner
      | terminal inner live decision =>
        have halive : jr.runtime.broker.state ≠ .dead := by
          rcases decision with ⟨hs, -⟩ | ⟨hs, -⟩
          · rw [hs]
            decide
          · rw [hs]
            decide
        exact (inv.bumped_core halive).begun_authority ⟨exited.known, exited.state⟩ ha.bumped inner
    | journaledCompleted exited closing effect =>
      exact inv.sup.toSupCore.completed_authority exited closing ha effect
    | reclaimed dead0 dead1 => exact ⟨a, .other, ha⟩

/-- The kernel's runs of the supervised profiles are runs of the protocol. -/
theorem supervised_refines_approvals {kind : KernelRuntimeKind} (hkind : kind ≠ .cooperative)
    {history : List KernelEvent} (h : Run (kernelSystem kind) history k) :
    ∃ a, Run (approvalSystem UInt64) (history.map KernelEvent.authority) a ∧
      Represents k.runtime a := by
  have hsim := h.simulate (approvalSystem UInt64)
    (fun k a => KernelInv kind k ∧ Represents k.runtime a) KernelEvent.authority ?_ ?_
  · obtain ⟨a, hrun, -, ha⟩ := hsim
    exact ⟨a, hrun, ha⟩
  · intro k hbooted
    refine ⟨_, rfl, KernelInv.booted hbooted, ?_⟩
    obtain ⟨k₀, next, hpublished, hdispatch⟩ := hbooted
    cases hpublished with
    | cooperative hnew => exact absurd rfl hkind
    | supervised hnew =>
      obtain ⟨rt', hrt, rfl⟩ := KernelRuntime.call_base_eq hdispatch
      obtain ⟨hinv, t, hstarted, -⟩ := SupInv.booted hnew hrt
      exact .started hstarted hinv
    | journaled hnew =>
      obtain ⟨jr', hjr, rfl⟩ := KernelRuntime.call_journaled_eq hdispatch
      obtain ⟨hinv, t, hstarted, -⟩ := JInv.booted hnew hjr
      exact .started hstarted hinv.sup
  · rintro k a e k' ⟨hinv, ha⟩ hstep
    have he := hinv.step hstep
    obtain ⟨a', hs, ha'⟩ := hinv.authority hkind ha he
    exact ⟨a', hs, hinv.effect he, ha'⟩

/-! ## What single events show -/

theorem SyntheticEffect.occupies_eq {e e' : SyntheticEffect} :
    (if e.occupied = false ∧ e'.occupied = true then some e'.value else none) =
      if e.cell.isNone then e'.cell else none := by
  unfold cell
  cases e.occupied with
  | false => cases e'.occupied <;> rfl
  | true => cases e'.occupied <;> rfl

/-- The effect is filled when the protocol's cell is. -/
theorem KernelEffect.occupies_eq {k' : KernelRuntime} {e : KernelEvent} (he : KernelEffect k e k') :
    e.occupies = if k.runtime.effect.cell.isNone then k'.runtime.effect.cell else none := by
  cases he with
  | trap | journaledTrap =>
    refine SyntheticEffect.occupies_eq.trans ?_
    rw [Runtime.captured, mapSlot_effect]
    rfl
  | begun | completed | journaledBegun | journaledCompleted => exact SyntheticEffect.occupies_eq
  | @reclaimed jr =>
    show none = if jr.runtime.effect.cell.isNone then jr.runtime.effect.cell else none
    cases jr.runtime.effect.cell with
    | none => rfl
    | some value => rfl

/-- Each event of a run fills the effect just when it is a commit of the protocol. -/
theorem occupies_eq_commits {kind : KernelRuntimeKind} (hkind : kind ≠ .cooperative)
    {k' : KernelRuntime} {e : KernelEvent} (hreach : Reachable (kernelSystem kind) k)
    (hstep : KernelStep k e k') : e.occupies = e.authority.commits := by
  obtain ⟨history, hrun⟩ := hreach
  obtain ⟨a₁, -, ha₁⟩ := supervised_refines_approvals hkind hrun
  have hinv := KernelInv.run hrun
  have he := hinv.step hstep
  obtain ⟨a₂, hs, ha₂⟩ := hinv.authority hkind ha₁ he
  rw [he.occupies_eq, hs.commits_eq, ha₁.cell, ha₂.cell]

section Commit

variable {task : UInt64} {outcome : TrapOutcome}

end Commit

end MakopaVerified.TaskRuntime
