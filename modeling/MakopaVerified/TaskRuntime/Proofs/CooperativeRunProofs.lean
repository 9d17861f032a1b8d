import MakopaVerified.Foundation.Channel
import MakopaVerified.TaskRuntime.Proofs.ProgressProofs

/-!
# Runs of the cooperative profile

`Traffic` says what one call of the kernel does to the endpoint and to a receiver that waits. Over
its cases the endpoint is a one-place channel: what the sender was told it had sent arrives, once
and in order. The same cases show that no wake-up is missed, so that one of the two tasks can
always go on.
-/

namespace MakopaVerified.TaskRuntime

open Foundation TaskRuntime.Runtime KernelRuntime KernelEvent

variable {e : KernelEvent}

namespace Runtime

variable {rt : Runtime} {task root : UInt64} {frame : TrapFrame}

/-- Only the registers of the caller differ. -/
theorem captured_same (hk : KnownTask task) :
    (rt.captured task root frame).task0.state = rt.task0.state ∧
      (rt.captured task root frame).task1.state = rt.task1.state ∧
      (rt.captured task root frame).task1.capabilities = rt.task1.capabilities ∧
      (rt.captured task root frame).endpoint = rt.endpoint ∧
      (rt.captured task root frame).queue = rt.queue := by
  rcases hk with rfl | rfl <;> exact ⟨rfl, rfl, rfl, rfl, rfl⟩

end Runtime

/-! ## Reading an event -/

namespace KernelEvent

variable {task : UInt64} {frame : TrapFrame} {outcome : TrapOutcome} {before after : Runtime}

theorem sent_of_operation (h : frame.operation ≠ some .send) :
    (trap task frame outcome before after).sent = none :=
  if_neg fun hs => h hs.2.1

theorem sent_of_refused (h : task = senderTaskId → ¬ after.Told senderTaskId .ok) :
    (trap task frame outcome before after).sent = none :=
  if_neg fun hs => h hs.1 hs.2.2

theorem sent_eq (hop : frame.operation = some .send) (hok : after.Told senderTaskId .ok) :
    (trap senderTaskId frame outcome before after).sent = some frame.rsi :=
  if_pos ⟨rfl, hop, hok⟩

theorem hears_of_not_receiving (hb : before.task1.state ≠ .blockedReceive)
    (h : task = receiverTaskId → frame.operation ≠ some .receive) :
    (trap task frame outcome before after).hears = none :=
  if_neg fun hs => hs.1.elim hb fun hr => h hr.1 hr.2

theorem hears_of_blocked (h : after.task1.state = .blockedReceive) :
    (trap task frame outcome before after).hears = none :=
  if_neg fun hs => hs.2 h

theorem hears_eq (hb : before.task1.state = .blockedReceive ∨
      task = receiverTaskId ∧ frame.operation = some .receive)
    (ha : after.task1.state ≠ .blockedReceive) :
    (trap task frame outcome before after).hears =
      some (after.task1.context.rax, after.task1.context.rdx) :=
  if_pos ⟨hb, ha⟩

end KernelEvent

/-! ## What one call does to the endpoint -/

/-- The cases of one call. -/
inductive Traffic (rt : Runtime) (e : KernelEvent) (rt' : Runtime) : Prop where
  /-- Nothing is sent, and no receive ends. -/
  | silent (sent : e.sent = none) (hears : e.hears = none)
      (stays : e.tearsDown ≠ some receiverTaskId) (message : rt'.message = rt.message)
      (table : rt'.task1.capabilities.state = .live ↔ rt.task1.capabilities.state = .live)
      (blocked : rt.task1.state = .blockedReceive →
        rt'.task1.state = .blockedReceive ∧ e.tearsDown ≠ some senderTaskId)
  /-- A message is left in the endpoint. -/
  | stored {value : UInt64} (sent : e.sent = some value) (hears : e.hears = none)
      (vacant : rt.message = none) (message : rt'.message = some value)
      (table : rt.task1.capabilities.state = .live ∧ rt'.task1.capabilities.state = .live)
      (awake : rt.task1.state ≠ .blockedReceive)
  /-- A message goes to the receiver that waits. -/
  | delivered {value : UInt64} (sent : e.sent = some value)
      (hears : e.hears = some (TrapStatus.ok.code, value))
      (vacant : rt.message = none) (message : rt'.message = none)
      (table : rt.task1.capabilities.state = .live ∧ rt'.task1.capabilities.state = .live)
      (ready : rt'.task1.state = .ready)
  /-- The receiver takes the message. -/
  | took {value : UInt64} (sent : e.sent = none)
      (hears : e.hears = some (TrapStatus.ok.code, value))
      (occupied : rt.message = some value) (message : rt'.message = none)
      (table : rt.task1.capabilities.state = .live ∧ rt'.task1.capabilities.state = .live)
      (awake : rt.task1.state ≠ .blockedReceive)
  /-- A receive is refused. -/
  | refused {status : TrapStatus} {value : UInt64} (sent : e.sent = none)
      (hears : e.hears = some (status.code, value)) (ne_ok : status ≠ .ok)
      (stays : e.tearsDown = none) (message : rt'.message = rt.message)
      (vacant : status = .peerExited → rt.message = none)
      (table : rt.task1.capabilities.state = .live ∧ rt'.task1.capabilities.state = .live)
      (awake : rt.task1.state ≠ .blockedReceive)
  /-- The sender goes, and the receiver that waits is told so. -/
  | gone {value : UInt64} (sent : e.sent = none)
      (hears : e.hears = some (TrapStatus.peerExited.code, value))
      (tearsDown : e.tearsDown = some senderTaskId) (vacant : rt.message = none)
      (message : rt'.message = none)
      (table : rt.task1.capabilities.state = .live ∧ rt'.task1.capabilities.state = .live)
      (ready : rt'.task1.state = .ready)
  /-- The receiver goes, and the message with it. -/
  | dropped (sent : e.sent = none) (hears : e.hears = none)
      (tearsDown : e.tearsDown = some receiverTaskId) (message : rt'.message = none)
      (table : rt'.task1.capabilities.state ≠ .live) (awake : rt.task1.state ≠ .blockedReceive)

namespace Runtime

variable {rt rt' : Runtime}

theorem message_of_vacant (h : rt.endpoint.occupied = false) : rt.message = none := by
  rw [message, h]
  rfl

theorem message_of_occupied (h : rt.endpoint.occupied = true) :
    rt.message = some rt.endpoint.payload := by
  rw [message, h]
  rfl

theorem message_congr (h : rt'.endpoint = rt.endpoint) : rt'.message = rt.message := by
  rw [message, message, h]

end Runtime

namespace CoopInv

variable {rt : Runtime} {task : UInt64} {e : KernelEvent} {k' : KernelRuntime}

theorem receiver_built (h : CoopInv rt) : rt.task1.capabilities.state ≠ .building := by
  intro ht
  have hstate := h.valid.slot1.table_state
  rw [ht] at hstate
  cases hs : rt.task1.state with
  | staged => exact absurd hs h.coop.receiver_state.1
  | ready | running | blockedReceive | blockedApproval | dead =>
    rw [hs] at hstate
    cases hstate
  | exited =>
    rw [hs] at hstate
    rcases hstate with hbad | hbad <;> cases hbad

theorem receiver_live (h : CoopInv rt) (hbound : rt.endpoint.receiverGeneration ≠ 0) :
    rt.task1.capabilities.state = .live := by
  have hgone := mt h.coop.receiver_gone fun hg => hbound hg.2
  rw [not_or] at hgone
  cases ht : rt.task1.capabilities.state with
  | live => rfl
  | closing => exact absurd ht hgone.1
  | dead => exact absurd ht hgone.2
  | building => exact absurd ht h.receiver_built

/-- A trap of the running task has one of the cases. -/
theorem trap_traffic (h : CoopInv rt) (hr : rt.Running task) {root : UInt64} {frame : TrapFrame}
    {outcome : TrapOutcome} {rt' : Runtime}
    (effect : TrapEffect (rt.captured task root frame) task outcome rt') :
    Traffic rt (.trap task frame outcome (rt.captured task root frame) rt') rt' := by
  have hk := hr.known
  have hunsupervised : (rt.captured task root frame).profile ≠ .supervised := by
    rw [Runtime.captured, mapSlot_profile, h.profile]
    decide
  have hop : (rt.captured task root frame).operation task = frame.operation :=
    captured_operation hk
  obtain ⟨-, hstate, htable, hendpoint, hqueue⟩ := @Runtime.captured_same rt task root frame hk
  have htables : rt'.task1.capabilities.state = rt.task1.capabilities.state := by
    rw [← htable]
    exact (effect.tablesKept hk).state1.resolve_right fun hbuilt =>
      h.receiver_built (htable ▸ hbuilt.1)
  -- an operation that is neither a send nor a receive
  have hquiet : ∀ {o : TrapOperation}, (rt.captured task root frame).operation task = some o →
      o ≠ .send → o ≠ .receive → rt'.message = rt.message →
      (rt.task1.state = .blockedReceive → rt'.task1.state = .blockedReceive) →
      Traffic rt (.trap task frame outcome (rt.captured task root frame) rt') rt' := by
    intro o ho hsend hreceive hmessage hblocked
    rw [hop] at ho
    refine .silent (sent_of_operation ?_) ?_ (Option.some_ne_none _).symm hmessage
      (by rw [htables]) fun hb => ⟨hblocked hb, (Option.some_ne_none _).symm⟩
    · rw [ho]
      exact fun heq => hsend (Option.some.inj heq)
    · by_cases hb : rt.task1.state = .blockedReceive
      · exact hears_of_blocked (hblocked hb)
      · refine hears_of_not_receiving (hstate ▸ hb) fun _ => ?_
        rw [ho]
        exact fun heq => hreceive (Option.some.inj heq)
  cases effect with
  | @refused status ne_ok unexpired receiving =>
    have hsent : ∀ {before : Runtime}, KernelEvent.sent (.trap task frame (.resume task) before
        (mapSlot task (TaskSlot.answered status 0) (rt.captured task root frame))) =
          none := by
      intro before
      refine sent_of_refused ?_
      rintro rfl htold
      exact ne_ok (TrapStatus.code_injective htold)
    have hmessage : (mapSlot task (TaskSlot.answered status 0)
        (rt.captured task root frame)).message = rt.message := by
      refine message_congr ?_
      rw [mapSlot_endpoint, hendpoint]
    by_cases hreceive : task = receiverTaskId ∧ frame.operation = some .receive
    · obtain ⟨rfl, hrec⟩ := hreceive
      have hrunning : rt.task1.state = .running := hr.state
      have hlive := h.valid.slot1.table_live (by rw [hrunning]; rfl)
      refine .refused hsent (hears_eq (.inr ⟨rfl, hrec⟩) ?_) ne_ok rfl hmessage ?_
        ⟨hlive, hlive⟩ (by rw [hrunning]; decide)
      · show rt.task1.state ≠ .blockedReceive
        rw [hrunning]
        decide
      · rintro rfl
        rcases receiving (hop.trans hrec) with hstatus | ⟨-, hvacant, -⟩
        · exact absurd rfl (receiveStatus_some hk _ hstatus).2
        · exact message_of_vacant hvacant
    · have hsame : (mapSlot task (TaskSlot.answered status 0)
          (rt.captured task root frame)).task1.state = rt.task1.state := by
        rcases hk with rfl | rfl <;> rfl
      refine .silent hsent ?_ (Option.some_ne_none _).symm hmessage (by rw [htables]) fun hb =>
        ⟨hsame.trans hb, (Option.some_ne_none _).symm⟩
      by_cases hb : rt.task1.state = .blockedReceive
      · exact hears_of_blocked (hsame.trans hb)
      · exact hears_of_not_receiving (hstate ▸ hb) fun ht ho => hreceive ⟨ht, ho⟩
  | kept op | duplicated op | closed op =>
    rcases hk with rfl | rfl <;> exact hquiet op (by decide) (by decide) rfl id
  | @yielded peer op other known waiting =>
    rcases hk with rfl | rfl
    · obtain rfl : peer = receiverTaskId := known.resolve_left other
      have hready := h.valid.ready1 h.id1 (hqueue.symm.trans waiting)
      exact hquiet op (by decide) (by decide) rfl fun hb =>
        absurd (hready.symm.trans hb) (by decide)
    · obtain rfl : peer = senderTaskId := known.resolve_right other
      exact hquiet op (by decide) (by decide) rfl fun hb =>
        absurd ((show rt.task1.state = .running from hr.state).symm.trans hb) (by decide)
  | stored op sender bound vacant awake =>
    subst sender
    have hlive := h.receiver_live bound
    exact .stored (sent_eq (hop ▸ op) rfl)
      (hears_of_not_receiving awake fun ht => absurd ht (by decide))
      (message_of_vacant vacant) rfl ⟨hlive, hlive⟩ awake
  | delivered op sender vacant blocked =>
    subst sender
    have hlive := h.valid.slot1.table_live (by rw [show rt.task1.state = _ from blocked]; rfl)
    exact .delivered (sent_eq (hop ▸ op) rfl)
      (hears_eq (.inl blocked) (show TaskState.ready ≠ .blockedReceive by decide))
      (message_of_vacant vacant) rfl ⟨hlive, hlive⟩ rfl
  | took op receiver occupied =>
    subst receiver
    have hrunning : rt.task1.state = .running := hr.state
    have hlive := h.valid.slot1.table_live (by rw [hrunning]; rfl)
    have hawake : rt.task1.state ≠ .blockedReceive := by rw [hrunning]; decide
    exact .took (sent_of_refused fun ht => absurd ht (by decide))
      (hears_eq (.inr ⟨rfl, hop ▸ op⟩) hawake)
      (message_of_occupied occupied) rfl ⟨hlive, hlive⟩ hawake
  | blocked op receiver vacant bound waiting =>
    subst receiver
    have hrunning : rt.task1.state = .running := hr.state
    exact .silent (sent_of_refused fun ht => absurd ht (by decide))
      (hears_of_blocked rfl) (Option.some_ne_none _).symm rfl Iff.rfl
      fun hb => absurd (hrunning.symm.trans hb) (by decide)
  | exited op =>
    rcases hk with rfl | rfl
    · exact hquiet op (by decide) (by decide) rfl id
    · exact hquiet op (by decide) (by decide) rfl fun hb =>
        absurd ((show rt.task1.state = .running from hr.state).symm.trans hb) (by decide)
  | launched op supervisor supervised | submitted op workload supervised
  | inspected op supervised | approved op supervisor supervised
  | concluded op supervisor supervised | exhausted op supervisor supervised
  | committed op supervisor supervised => exact absurd supervised hunsupervised

theorem begun_traffic (h : CoopInv rt) (hx : Exited rt task)
    (hlive : (rt.slotOf task).capabilities.state = .live) {rt' : Runtime}
    (effect : TeardownBegun rt task rt') : Traffic rt (.beginTeardown task rt rt') rt' := by
  have hunsupervised : rt.profile ≠ .supervised := by rw [h.profile]; decide
  cases effect with
  | sender cooperative quiet =>
    have hawake : rt.task1.state ≠ .blockedReceive := fun hb =>
      quiet ⟨(h.coop.blocked hb).1, hb⟩
    exact .silent rfl (if_neg fun hs => hawake hs.1)
      (show some senderTaskId ≠ some receiverTaskId by decide) rfl Iff.rfl
      fun hb => absurd hb hawake
  | senderWakes cooperative vacant blocked =>
    have hlive1 := h.valid.slot1.table_live (by rw [blocked]; rfl)
    exact .gone rfl (if_pos ⟨blocked, nofun⟩) rfl (message_of_vacant vacant)
      (message_of_vacant vacant) ⟨hlive1, hlive1⟩ rfl
  | receiver cooperative =>
    have hexited : rt.task1.state = .exited := hx.state
    have hawake : rt.task1.state ≠ .blockedReceive := by rw [hexited]; decide
    exact .dropped rfl (if_neg fun hs => hawake hs.1) rfl rfl nofun
      hawake
  | supervisor supervised | supervisorWakes supervised | workload supervised =>
    exact absurd supervised hunsupervised

/-- The message survives the teardown of the sender; a receiver that is gone has none. -/
theorem buried_message (h : CoopInv rt) (hx : Exited rt task)
    (hclosing : (rt.slotOf task).capabilities.state = .closing) :
    (rt.buried task).message = rt.message := by
  by_cases hpeer : (rt.slotOf (peerOf task)).state = .dead
  · have hgone : rt.task1.capabilities.state = .closing ∨ rt.task1.capabilities.state = .dead := by
      rcases hx.known with rfl | rfl
      · exact .inr (h.valid.slot1.table_dead hpeer)
      · exact .inl hclosing
    have hvacant := h.coop.unreceived (h.coop.receiver_gone hgone).2
    rw [message_of_vacant hvacant, buried_of_peer_dead hx.known hpeer]
    rfl
  · refine message_congr ?_
    rw [buried_of_peer_alive hx.known hpeer, if_neg (by rw [h.profile]; rintro ⟨hp, -⟩; cases hp),
      mapSlot_endpoint]

theorem completed_traffic (h : CoopInv rt) (hx : Exited rt task)
    (hclosing : (rt.slotOf task).capabilities.state = .closing) {next : Option UInt64}
    {rt' : Runtime} (effect : TeardownCompleted rt task next rt') :
    Traffic rt (.completeTeardown task next rt rt') rt' := by
  have hawake : rt.task1.state ≠ .blockedReceive := by
    rcases hx.known with rfl | rfl
    · have hpeer : rt.task1.state = .ready ∨ rt.task1.state = .dead :=
        (h.peer_ready_or_dead hx hclosing).imp And.left And.left
      rcases hpeer with hs | hs
      · rw [hs]
        decide
      · rw [hs]
        decide
    · rw [show rt.task1.state = .exited from hx.state]
      decide
  have htable : rt'.task1.capabilities.state = .live ↔ rt.task1.capabilities.state = .live := by
    obtain ⟨hself, hpeer⟩ := effect.tables hx.known
    rcases hx.known with rfl | rfl
    · rw [show rt'.task1.capabilities = rt.task1.capabilities from hpeer]
    · rw [show rt'.task1.capabilities = _ from hself, show rt.task1.capabilities.state = _ from hclosing]
      decide
  have hmessage : rt'.message = rt.message := by
    rw [← h.buried_message hx hclosing]
    cases effect with
    | finished => rfl
    | handedOver =>
      refine message_congr ?_
      rw [mapSlot_endpoint]
  exact .silent rfl (if_neg fun hs => hawake hs.1) nofun hmessage htable fun hb => absurd hb hawake

/-- Every call has one of the cases. -/
theorem traffic (h : CoopInv rt) (he : KernelEffect (.base rt) e k') :
    Traffic rt e k'.runtime := by
  cases he with
  | trap running root_ne effect => exact h.trap_traffic running effect
  | begun exited live effect => exact h.begun_traffic exited live effect
  | completed exited closing effect => exact h.completed_traffic exited closing effect

end CoopInv

/-! ## The endpoint is a channel -/

/-- What an event is for the channel between the two tasks. -/
def KernelEvent.channelEvent (e : KernelEvent) : ChannelEvent UInt64 :=
  match e.sent, e.received with
  | some a, some b => .pass a b
  | some a, none => .put a
  | none, some b => .take b
  | none, none => if e.tearsDown = some receiverTaskId then .drop else .silent

/-- The channel that an endpoint stands for. -/
def Runtime.channel (rt : Runtime) : Channel UInt64 where
  slot := rt.message
  dropped := rt.task1.capabilities.state ≠ .live

theorem KernelEvent.sent_channelEvent (e : KernelEvent) : e.channelEvent.sent = e.sent := by
  unfold channelEvent
  cases e.sent <;> cases e.received
  · dsimp only
    split <;> rfl
  all_goals rfl

theorem KernelEvent.received_channelEvent (e : KernelEvent) :
    e.channelEvent.received = e.received := by
  unfold channelEvent
  cases e.sent <;> cases e.received
  · dsimp only
    split <;> rfl
  all_goals rfl

theorem KernelEvent.received_of_hears_ok {value : UInt64}
    (h : e.hears = some (TrapStatus.ok.code, value)) : e.received = some value := by
  rw [received, h]
  exact if_pos rfl

theorem KernelEvent.received_of_hears_refused {status : TrapStatus} {value : UInt64}
    (h : e.hears = some (status.code, value)) (hne : status ≠ .ok) :
    e.received = none := by
  rw [received, h]
  exact if_neg fun heq => hne (TrapStatus.code_injective heq)

theorem KernelEvent.received_of_hears_none (h : e.hears = none) :
    e.received = none := by
  rw [received, h]

theorem Runtime.channel_live {rt : Runtime} {m : Option UInt64} (hm : rt.message = m)
    (hl : rt.task1.capabilities.state = .live) : rt.channel = ⟨m, false⟩ := by
  rw [Runtime.channel, hm]
  simp [hl]

/-- Each case is a move of the channel. -/
theorem Traffic.channel_step {rt rt' : Runtime} (h : Traffic rt e rt') :
    Channel.Step rt.channel e.channelEvent rt'.channel := by
  unfold KernelEvent.channelEvent
  cases h with
  | silent sent hears stays message table blocked =>
    rw [sent, received_of_hears_none hears]
    simp only [if_neg stays]
    have hsame : rt'.channel = rt.channel := by
      rw [Runtime.channel, Runtime.channel, message]
      simp only [ne_eq, table]
    rw [hsame]
    exact .silent
  | stored sent hears vacant message table awake =>
    rw [sent, received_of_hears_none hears, channel_live vacant table.1,
      channel_live message table.2]
    exact .put
  | delivered sent hears vacant message table ready =>
    rw [sent, received_of_hears_ok hears, channel_live vacant table.1,
      channel_live message table.2]
    exact .pass
  | took sent hears occupied message table awake =>
    rw [sent, received_of_hears_ok hears, channel_live occupied table.1,
      channel_live message table.2]
    exact .take
  | refused sent hears ne_ok stays message vacant table awake =>
    rw [sent, received_of_hears_refused hears ne_ok, channel_live rfl table.1,
      channel_live message table.2, stays]
    exact .silent
  | gone sent hears tearsDown vacant message table ready =>
    rw [sent, received_of_hears_refused hears nofun,
      channel_live vacant table.1, channel_live message table.2, tearsDown]
    exact .silent
  | dropped sent hears tearsDown message table awake =>
    have hchannel : rt'.channel = ⟨none, true⟩ := by
      rw [Runtime.channel, message]
      simp [table]
    rw [sent, received_of_hears_none hears, tearsDown, hchannel]
    exact .drop

/-- The kernel's runs of the cooperative profile are runs of the channel. -/
theorem cooperative_refines_channel {history : List KernelEvent} {k : KernelRuntime}
    (h : Run (kernelSystem .cooperative) history k) :
    Run (channelSystem UInt64) (history.map KernelEvent.channelEvent) k.runtime.channel := by
  have hsim := h.simulate (channelSystem UInt64)
    (fun k c => KernelInv .cooperative k ∧ c = k.runtime.channel) KernelEvent.channelEvent ?_ ?_
  · obtain ⟨c, hrun, -, rfl⟩ := hsim
    exact hrun
  · intro k hbooted
    refine ⟨k.runtime.channel, ?_, KernelInv.booted hbooted, rfl⟩
    obtain ⟨k₀, next, hpublished, hdispatch⟩ := hbooted
    cases hpublished with
    | cooperative hnew =>
      obtain ⟨rt', hrt, rfl⟩ := call_base_eq hdispatch
      obtain ⟨hinv, hrunning, hvacant, -⟩ := CoopInv.booted hnew hrt
      exact channel_live (message_of_vacant hvacant)
        (hinv.valid.slot1.table_live (by rw [hrunning]; rfl))
  · rintro k c e k' ⟨hinv, rfl⟩ hstep
    have he := hinv.step hstep
    refine ⟨k'.runtime.channel, ?_, hinv.effect he, rfl⟩
    cases hinv with
    | cooperative inv => exact (inv.traffic he).channel_step

/-! ## Delivery -/

section Delivery

variable {history : List KernelEvent} {k : KernelRuntime}

/-- The channel's log, read in the kernel's history. -/
theorem cooperative_log (h : Run (kernelSystem .cooperative) history k) :
    history.filterMap KernelEvent.received <+: history.filterMap KernelEvent.sent ∧
      (k.runtime.channel.dropped = false →
        history.filterMap KernelEvent.sent =
          history.filterMap KernelEvent.received ++ k.runtime.message.toList) ∧
      (receiverTaskId ∉ history.filterMap KernelEvent.tearsDown →
        k.runtime.channel.dropped = false) := by
  have hlog := Channel.log_of_run (cooperative_refines_channel h)
  have hsent : (history.map KernelEvent.channelEvent).filterMap ChannelEvent.sent =
      history.filterMap KernelEvent.sent := by
    rw [List.filterMap_map]
    exact List.filterMap_congr fun e _ => e.sent_channelEvent
  have hreceived : (history.map KernelEvent.channelEvent).filterMap ChannelEvent.received =
      history.filterMap KernelEvent.received := by
    rw [List.filterMap_map]
    exact List.filterMap_congr fun e _ => e.received_channelEvent
  refine ⟨?_, fun hd => ?_, fun hstays => ?_⟩
  · rw [← hsent, ← hreceived]
    exact hlog.in_order
  · rw [← hsent, ← hreceived]
    exact hlog.balance hd
  · rw [Bool.eq_false_iff, ne_eq, hlog.dropped_iff, List.mem_map]
    rintro ⟨e, hmem, hdrop⟩
    refine hstays (List.mem_filterMap.mpr ⟨e, hmem, ?_⟩)
    unfold KernelEvent.channelEvent at hdrop
    split at hdrop
    · cases hdrop
    · cases hdrop
    · cases hdrop
    · split at hdrop
      · assumption
      · cases hdrop

/-- A message leaves the endpoint by being received or with its receiver. -/
theorem Traffic.message_kept {rt rt' : Runtime} (h : Traffic rt e rt') {value : UInt64}
    (hv : rt.message = some value) :
    rt'.message = some value ∨ e.received = some value ∨ e.tearsDown = some receiverTaskId := by
  cases h with
  | silent sent hears stays message => exact .inl (message.trans hv)
  | refused sent hears ne_ok stays message => exact .inl (message.trans hv)
  | stored sent hears vacant | delivered sent hears vacant =>
    rw [vacant] at hv
    cases hv
  | gone sent hears tearsDown vacant =>
    rw [vacant] at hv
    cases hv
  | took sent hears occupied =>
    refine .inr (.inl ?_)
    rw [received_of_hears_ok hears, ← occupied, hv]
  | dropped sent hears tearsDown => exact .inr (.inr tearsDown)

/-- Who is told that the peer is gone has nothing left to receive. -/
theorem Traffic.vacant_of_peerExited {rt rt' : Runtime} (h : Traffic rt e rt')
    (ht : e.TellsPeerExited) :
    rt.message = none ∧ rt.task1.capabilities.state = .live ∧ e.sent = none ∧
      e.received = none := by
  obtain ⟨value, ht⟩ := ht
  cases h with
  | silent sent hears | stored sent hears | dropped sent hears =>
    rw [hears] at ht
    cases ht
  | delivered sent hears | took sent hears =>
    rw [hears, Option.some.injEq, Prod.mk.injEq] at ht
    exact absurd ht.1 (by decide)
  | refused sent hears ne_ok stays message vacant table =>
    have hcode := hears
    rw [ht, Option.some.injEq, Prod.mk.injEq] at hcode
    obtain rfl := TrapStatus.code_injective hcode.1
    exact ⟨vacant rfl, table.1, sent, received_of_hears_refused hears ne_ok⟩
  | gone sent hears tearsDown vacant message table =>
    exact ⟨vacant, table.1, sent,
      received_of_hears_refused hears nofun⟩

/-- A receive with a good handle takes the message that is there. -/
theorem TrapEffect.receives {rt rt' : Runtime} {root value : UInt64} {frame : TrapFrame}
    {outcome : TrapOutcome} (hr : rt.Running receiverTaskId)
    (effect : TrapEffect (rt.captured receiverTaskId root frame) receiverTaskId outcome rt')
    (hv : rt.message = some value) (hop : frame.operation = some .receive)
    (hstatus : (rt.captured receiverTaskId root frame).receiveStatus receiverTaskId frame.rdi
      frame.rsi frame.rdx = none) :
    (KernelEvent.trap receiverTaskId frame outcome (rt.captured receiverTaskId root frame)
      rt').received = some value := by
  have hreceive : (rt.captured receiverTaskId root frame).operation receiverTaskId =
      some .receive := hop
  have hawake : rt.task1.state ≠ .blockedReceive := by
    rw [show rt.task1.state = .running from hr.state]
    decide
  have hmismatch : ∀ {o : TrapOperation} {P : Prop},
      (rt.captured receiverTaskId root frame).operation receiverTaskId = some o →
      o ≠ .receive → P := by
    intro o P ho hne
    rw [hreceive, Option.some.injEq] at ho
    exact absurd ho.symm hne
  have hoccupied : rt.endpoint.occupied ≠ false := fun hvacant => by
    rw [message_of_vacant hvacant] at hv
    cases hv
  cases effect with
  | refused ne_ok unexpired receiving =>
    rcases receiving hreceive with hrefused | ⟨-, hvacant, -⟩
    · have hnone := hstatus.symm.trans hrefused
      cases hnone
    · exact absurd hvacant hoccupied
  | took op receiver occupied =>
    have hpayload := (@Runtime.message_of_occupied rt occupied).symm.trans hv
    obtain rfl := Option.some.inj hpayload
    exact received_of_hears_ok (hears_eq (.inr ⟨rfl, hop⟩) hawake)
  | blocked op receiver vacant => exact absurd vacant hoccupied
  | kept op | yielded op | stored op | delivered op | exited op | duplicated op | closed op
  | launched op | submitted op | inspected op | approved op | concluded op | exhausted op
  | committed op => exact hmismatch op (by decide)

/-- What the receiver gets is, in order, what the sender was told it had sent; all of it until the
receiver is torn down, but for the message that the endpoint still holds. That message stays
whatever the sender does, a receive with a good handle takes it, and the receiver hears that the
sender is gone only when nothing is left to receive. -/
theorem messages_arrive_in_order (h : Run (kernelSystem .cooperative) history k) :
    history.filterMap KernelEvent.received <+: history.filterMap KernelEvent.sent ∧
    (receiverTaskId ∉ history.filterMap KernelEvent.tearsDown →
      history.filterMap KernelEvent.sent =
        history.filterMap KernelEvent.received ++ k.runtime.message.toList) ∧
    (∀ e k' value, KernelStep k e k' → k.runtime.message = some value →
      k'.runtime.message = some value ∨ e.received = some value ∨
        e.tearsDown = some receiverTaskId) ∧
    (∀ frame outcome before after k' value,
      KernelStep k (.trap receiverTaskId frame outcome before after) k' →
      k.runtime.message = some value → frame.operation = some .receive → frame.rsi = 0 →
      frame.rdx = 0 →
      before.resolveEndpoint receiverTaskId frame.rdi capabilityRightReceive = .ok () →
      (KernelEvent.trap receiverTaskId frame outcome before after).received = some value) ∧
    (∀ earlier e later, history = earlier ++ e :: later → e.TellsPeerExited →
      (earlier ++ [e]).filterMap KernelEvent.received =
        (earlier ++ [e]).filterMap KernelEvent.sent) := by
  obtain ⟨horder, hbalance, hstays⟩ := cooperative_log h
  have hinv := KernelInv.run h
  refine ⟨horder, fun hs => hbalance (hstays hs), ?_, ?_, ?_⟩
  · intro e k' value hstep hv
    have he := hinv.step hstep
    cases hinv with
    | cooperative inv => exact (inv.traffic he).message_kept hv
  · intro frame outcome before after k' value hstep hv hop hrsi hrdx hresolve
    have he := hinv.step hstep
    cases hinv with
    | cooperative inv =>
      cases he with
      | trap running root_ne effect =>
        refine effect.receives running hv hop ?_
        rw [Runtime.receiveStatus, if_neg (by simp [hrsi, hrdx]), hresolve]
  · rintro earlier e later rfl ht
    have hsplit : Run (kernelSystem .cooperative) ((earlier ++ [e]) ++ later) k := by simpa using h
    obtain ⟨k₁, hrun₁⟩ := hsplit.of_append
    obtain ⟨k₀, hrun₀, hstep⟩ := hrun₁.of_append_singleton
    have hinv₀ := KernelInv.run hrun₀
    have he := hinv₀.step hstep
    cases hinv₀ with
    | @cooperative rt inv =>
      obtain ⟨hvacant, hlive, hsent, hreceived⟩ := (inv.traffic he).vacant_of_peerExited ht
      have hopen : rt.channel.dropped = false := by rw [channel_live hvacant hlive]
      have hlog : earlier.filterMap KernelEvent.sent =
          earlier.filterMap KernelEvent.received ++ rt.message.toList :=
        (cooperative_log hrun₀).2.1 hopen
      rw [filterMap_snoc, filterMap_snoc, hsent, hreceived, hlog, hvacant]
      simp

/-- The sender sends 42 and exits; the receiver still gets it, and hears of the exit after that. -/
theorem message_outlives_sender :
    ∃ history k, Run (kernelSystem .cooperative) history k ∧
      history.filterMap KernelEvent.sent = [42] ∧
      history.filterMap KernelEvent.tearsDown = [senderTaskId] ∧
      history.filterMap KernelEvent.received = [42] ∧ k.runtime.message = none := by
  have hexec : ∃ r ∈ KernelRuntime.execute .cooperative (.start senderTaskId 1)
      (.start receiverTaskId 2)
      [.request 0 0 0 0, .request 1 16 42 0, .request 3 0 0 0, .beginTeardown senderTaskId,
        .completeTeardown senderTaskId, .request 2 16 0 0, .request 2 16 0 0],
      r.1.filterMap KernelEvent.sent = [42] ∧
        r.1.filterMap KernelEvent.tearsDown = [senderTaskId] ∧ r.2.runtime.message = none := by
    decide +kernel
  obtain ⟨⟨history, k⟩, hmem, hsent, htorn, hmessage⟩ := hexec
  have hrun := execute_run hmem
  have hbalance := (messages_arrive_in_order hrun).2.1 (by rw [htorn]; decide)
  rw [hsent, hmessage, Option.toList_none, List.append_nil] at hbalance
  exact ⟨history, k, hrun, hsent, htorn, hbalance.symm, hmessage⟩

end Delivery

/-! ## Progress -/

namespace Runtime

variable {rt : Runtime} {task : UInt64}

end Runtime

namespace CoopInv

variable {rt : Runtime} {task : UInt64} {e : KernelEvent} {k' : KernelRuntime}

theorem queued_of_ready (h : CoopInv rt) (hk : KnownTask task)
    (hready : (rt.slotOf task).state = .ready) : rt.queue.contains task = true := by
  rcases hk with rfl | rfl
  · rw [← h.id0]
    exact h.valid.slot0.ready_iff.mp hready
  · rw [← h.id1]
    exact h.valid.slot1.ready_iff.mp hready

/-- When the caller of a trap gives the processor up, its ready peer gets it. -/
theorem trap_dispatches (h : CoopInv rt) (hk : KnownTask task)
    (hready : (rt.slotOf task).state = .ready) {root : UInt64} {frame : TrapFrame}
    {outcome : TrapOutcome} {rt' : Runtime} (hr : rt.Running (peerOf task))
    (effect : TrapEffect (rt.captured (peerOf task) root frame) (peerOf task) outcome rt')
    (hrel : (frame.operation = some .yield ∧ rt'.Told (peerOf task) .ok) ∨
      (frame.operation = some .receive ∧ (rt'.slotOf (peerOf task)).state = .blockedReceive)) :
    outcome = .switch task ∧ rt'.Running task := by
  have hkp : KnownTask (peerOf task) := hr.known
  have hop : (rt.captured (peerOf task) root frame).operation (peerOf task) = frame.operation :=
    captured_operation hkp
  have hmismatch : ∀ {o : TrapOperation} {P : Prop},
      (rt.captured (peerOf task) root frame).operation (peerOf task) = some o →
      o ≠ .yield → o ≠ .receive → P := by
    intro o P ho hyield hreceive
    rw [hop] at ho
    rcases hrel with ⟨hf, -⟩ | ⟨hf, -⟩
    · rw [hf, Option.some.injEq] at ho
      exact absurd ho.symm hyield
    · rw [hf, Option.some.injEq] at ho
      exact absurd ho.symm hreceive
  have hpeer : (rt.slotOf (peerOf task)).state = .running := hr.state
  cases effect with
  | @refused status ne_ok unexpired receiving =>
    rcases hrel with ⟨-, htold⟩ | ⟨-, hblocked⟩
    · refine absurd (TrapStatus.code_injective ?_) ne_ok
      rw [← htold]
      rcases hk with rfl | rfl <;> rfl
    · have hstate : (rt.slotOf (peerOf task)).state = .blockedReceive := by
        rw [← hblocked]
        rcases hk with rfl | rfl <;> rfl
      exact nomatch hpeer.symm.trans hstate
  | kept op alone =>
    have hq := h.queued_of_ready hk hready
    have halone : rt.queue = RunQueue.ofList [] := by
      rw [← alone, Runtime.captured, mapSlot_queue]
    rw [halone, RunQueue.contains_nil] at hq
    cases hq
  | @yielded peer op other known waiting =>
    obtain rfl : peer = task := by
      rcases hk with rfl | rfl
      · exact known.resolve_right other
      · exact known.resolve_left other
    refine ⟨rfl, ?_⟩
    rcases hk with rfl | rfl
    · exact .inl ⟨rfl, rfl⟩
    · exact .inr ⟨rfl, rfl⟩
  | took op receiver occupied =>
    rcases hrel with ⟨hf, -⟩ | ⟨-, hblocked⟩
    · rw [hop, hf] at op
      cases op
    · rcases hk with rfl | rfl
      · exact nomatch hpeer.symm.trans hblocked
      · exact absurd receiver (by decide)
  | blocked op receiver vacant bound waiting =>
    rcases hk with rfl | rfl
    · exact ⟨rfl, .inl ⟨rfl, rfl⟩⟩
    · exact absurd receiver (by decide)
  | stored op | delivered op | exited op | duplicated op | closed op | launched op | submitted op
  | inspected op | approved op | concluded op | exhausted op | committed op =>
    exact hmismatch op (by decide) (by decide)

/-- A ready task is dispatched as soon as its peer gives the processor up. -/
theorem dispatches (h : CoopInv rt) (hk : KnownTask task) (hready : (rt.slotOf task).state = .ready)
    (he : KernelEffect (.base rt) e k') (hrel : e.Releases (peerOf task)) :
    e.dispatches = some task ∧ k'.runtime.Running task := by
  cases he with
  | trap running root_ne effect =>
    obtain ⟨rfl, hrel⟩ := hrel
    obtain ⟨rfl, hr⟩ := h.trap_dispatches hk hready running effect hrel
    exact ⟨rfl, hr⟩
  | begun => exact hrel.elim
  | completed exited closing effect =>
    obtain rfl : _ = peerOf task := hrel
    have hself : peerOf (peerOf task) = task := by
      rcases hk with rfl | rfl <;> rfl
    obtain ⟨halive, -⟩ := effect.outcome exited.known
    rw [hself] at halive
    exact halive (by rw [hready]; decide)

end CoopInv

end MakopaVerified.TaskRuntime
