import MakopaVerified.Foundation.Relational
import MakopaVerified.TaskRuntime.Redaction
import MakopaVerified.TaskRuntime.Proofs.ReadProofs

/-!
# The journal does not depend on the arguments of requests

Two runtimes are alike when they differ at most in the argument of the open request, in the value
of the effect and in the `rdx` registers. Each call keeps two runtimes alike: an argument is copied
and compared, and never decides anything else. That no call fails is known for both runs, so the
rules for two calls that return suffice.
-/

namespace MakopaVerified.TaskRuntime

open Foundation Method TaskRuntime.Runtime JournaledRuntime

/-! ## Runtimes that are alike -/

/-- What may differ. -/
structure Secret where
  rdx0 : UInt64
  rdx1 : UInt64
  argument : UInt64
  value : UInt64

namespace Runtime

/-- The runtime with another secret. -/
def vary (p : Secret) (rt : Runtime) : Runtime :=
  { rt with
    task0 := { rt.task0 with context := { rt.task0.context with rdx := p.rdx0 } }
    task1 := { rt.task1 with context := { rt.task1.context with rdx := p.rdx1 } }
    broker := { rt.broker with request := { rt.broker.request with argument := p.argument } }
    effect := { rt.effect with value := p.value } }

/-- The secret of a runtime. -/
def secret (rt : Runtime) : Secret where
  rdx0 := rt.task0.context.rdx
  rdx1 := rt.task1.context.rdx
  argument := rt.broker.request.argument
  value := rt.effect.value

/-- The two runtimes differ in their secrets only. -/
def Alike (rt₁ rt₂ : Runtime) : Prop := rt₂ = rt₁.vary rt₂.secret

variable {rt rt₁ rt₂ : Runtime} {task : UInt64}

theorem Alike.refl (rt : Runtime) : rt.Alike rt := rfl

theorem Alike.exists (h : rt₁.Alike rt₂) : ∃ p, rt₂ = rt₁.vary p := ⟨_, h⟩

/-- The parts that are the same. -/
theorem Alike.public (h : rt₁.Alike rt₂) :
    rt₂.profile = rt₁.profile ∧ rt₂.endpoint = rt₁.endpoint ∧
      rt₂.runningTask = rt₁.runningTask ∧ rt₂.broker.state = rt₁.broker.state ∧
      rt₂.broker.requestPresent = rt₁.broker.requestPresent ∧
      rt₂.broker.decisionEpoch = rt₁.broker.decisionEpoch := by
  obtain ⟨p, rfl⟩ := h.exists
  exact ⟨rfl, rfl, rfl, rfl, rfl, rfl⟩

theorem Alike.statuses (h : rt₁.Alike rt₂) : rt₁.SameStatuses rt₂ := by
  obtain ⟨p, rfl⟩ := h.exists
  exact ⟨rfl, rfl⟩

/-! ## What is read of a runtime -/

section Vary

variable {p : Secret}

theorem resolveEndpoint_vary (hk : KnownTask task) (handle right : UInt64) :
    (rt.vary p).resolveEndpoint task handle right = rt.resolveEndpoint task handle right := by
  rcases hk with rfl | rfl <;> rfl

theorem resolveObject_vary (hk : KnownTask task) (handle right objectId objectGeneration : UInt64)
    (objectType : UInt32) :
    (rt.vary p).resolveObject task handle objectType right objectId objectGeneration =
      rt.resolveObject task handle objectType right objectId objectGeneration := by
  rcases hk with rfl | rfl <;> rfl

theorem sendStatus_vary (hk : KnownTask task) (handle reserved : UInt64) :
    (rt.vary p).sendStatus task handle reserved = rt.sendStatus task handle reserved := by
  unfold sendStatus
  rw [resolveEndpoint_vary hk]
  rfl

theorem receiveStatus_vary (hk : KnownTask task) (handle message reserved : UInt64) :
    (rt.vary p).receiveStatus task handle message reserved =
      rt.receiveStatus task handle message reserved := by
  unfold receiveStatus
  rw [resolveEndpoint_vary hk]

theorem startStatus_vary (hk : KnownTask task) (handle manifest reserved : UInt64) :
    (rt.vary p).startStatus task handle manifest reserved =
      rt.startStatus task handle manifest reserved := by
  unfold startStatus
  rw [resolveObject_vary hk]
  rfl

theorem submitStatus_vary (hk : KnownTask task) (handle kind : UInt64) :
    (rt.vary p).submitStatus task handle kind = rt.submitStatus task handle kind := by
  unfold submitStatus
  rw [resolveObject_vary hk]
  rfl

theorem inspectStatus_vary (hk : KnownTask task) (handle kind argument : UInt64) :
    (rt.vary p).inspectStatus task handle kind argument =
      rt.inspectStatus task handle kind argument := by
  unfold inspectStatus
  rw [resolveObject_vary hk]
  rfl

theorem decideStatus_vary (hk : KnownTask task) (handle sequence decision : UInt64) :
    (rt.vary p).decideStatus task handle sequence decision =
      rt.decideStatus task handle sequence decision := by
  unfold decideStatus
  rw [resolveObject_vary hk]
  rfl

theorem vary_epoch : (rt.vary p).broker.decisionEpoch = rt.broker.decisionEpoch := rfl

/-- A commit compares its argument with that of the request, if there is one. -/
theorem commitStatus_vary (hk : KnownTask task) {handle sequence argument argument' : UInt64}
    (hsame : rt.broker.requestPresent = true →
      (argument = rt.broker.request.argument ↔ argument' = p.argument)) :
    (rt.vary p).commitStatus task handle sequence argument' =
      rt.commitStatus task handle sequence argument := by
  have hargument : ∀ rest : Prop,
      (rt.broker.requestPresent = false ∨ rt.broker.request.sequence ≠ sequence ∨
        p.argument ≠ argument' ∨ rest) ↔
      (rt.broker.requestPresent = false ∨ rt.broker.request.sequence ≠ sequence ∨
        rt.broker.request.argument ≠ argument ∨ rest) := by
    intro rest
    cases hpresent : rt.broker.requestPresent with
    | false => simp
    | true =>
      have hiff := hsame hpresent
      rw [eq_comm, @eq_comm _ argument'] at hiff
      simp only [ne_eq, hiff]
  unfold commitStatus
  rw [resolveObject_vary hk]
  simp only [vary, hargument]
  -- the two sides decide one condition in two ways
  split
  · rfl
  · split
    · rfl
    · exact if_congr Iff.rfl rfl rfl

end Vary

/-! ## Small calls -/

/-- Both calls return the same and leave the runtimes alike. -/
abbrev Keeps {α : Type} (m₁ m₂ : Method Runtime RuntimeError α) (rt₁ rt₂ : Runtime) : Prop :=
  Method.Relates m₁ m₂ rt₁ rt₂ fun a₁ rt₁' a₂ rt₂' => a₁ = a₂ ∧ rt₁'.Alike rt₂'

/-- The same call on both. -/
abbrev KeepsCall {α : Type} (m : Method Runtime RuntimeError α) : Runtime → Runtime → Prop :=
  Keeps m m

variable {α : Type}

/-- An assignment that treats all secrets alike. -/
theorem keeps_assign {f : Runtime → Runtime} (h : rt₁.Alike rt₂)
    (hf : ∀ p rt, (f rt).Alike (f (rt.vary p))) :
    KeepsCall (update f) rt₁ rt₂ := by
  obtain ⟨p, rfl⟩ := h.exists
  exact .update ⟨rfl, hf p rt₁⟩

theorem keeps_pure {a : α} (h : rt₁.Alike rt₂) : KeepsCall (pure a) rt₁ rt₂ := .pure ⟨rfl, h⟩

theorem keeps_validate (h : rt₁.Alike rt₂) :
    KeepsCall (query validate) rt₁ rt₂ := .query fun _ _ _ _ => ⟨rfl, h⟩

/-- A slot that is read is that of a known task. -/
theorem keeps_slot {f₁ f₂ : TaskSlot → Method Runtime RuntimeError α}
    (hrest : KnownTask task → Keeps (f₁ (rt₁.slotOf task)) (f₂ (rt₂.slotOf task)) rt₁ rt₂) :
    Keeps (query (·.slot task) >>= f₁) (query (·.slot task) >>= f₂) rt₁ rt₂ := by
  refine .bind (.query fun s₁ s₂ hs₁ hs₂ => ?_)
  have hk := known_of_slot hs₁
  rw [slot_of_known hk] at hs₁ hs₂
  cases hs₁
  cases hs₂
  exact hrest hk

theorem Alike.state (h : rt₁.Alike rt₂) (hk : KnownTask task) :
    (rt₂.slotOf task).state = (rt₁.slotOf task).state := by
  obtain ⟨p, rfl⟩ := h.exists
  rcases hk with rfl | rfl <;> rfl

theorem keeps_setResult (h : rt₁.Alike rt₂) (hk : KnownTask task) (status : TrapStatus)
    (value value' : UInt64) :
    Keeps (setResult task status value) (setResult task status value') rt₁ rt₂ := by
  obtain ⟨p, rfl⟩ := h.exists
  rcases hk with rfl | rfl <;> exact .update ⟨rfl, rfl⟩

theorem keeps_setState (h : rt₁.Alike rt₂) (hk : KnownTask task) (state : TaskState) :
    KeepsCall (setState task state) rt₁ rt₂ := by
  obtain ⟨p, rfl⟩ := h.exists
  rcases hk with rfl | rfl <;> exact .update ⟨rfl, rfl⟩

theorem keeps_onQueue (h : rt₁.Alike rt₂) (m : Method RunQueue RuntimeError α) :
    KeepsCall (onQueue m) rt₁ rt₂ := by
  obtain ⟨p, rfl⟩ := h.exists
  exact .onPart_same rfl fun _ _ => ⟨rfl, rfl⟩

theorem keeps_onTable {ε : Type} (h : rt₁.Alike rt₂) (hk : KnownTask task)
    (err : ε → RuntimeError) (m : Method CapabilityTable ε α) :
    KeepsCall (onTable task err m) rt₁ rt₂ := by
  obtain ⟨p, rfl⟩ := h.exists
  rcases hk with rfl | rfl <;> exact .onPart_same rfl fun _ _ => ⟨rfl, rfl⟩

/-- The rest of a method goes on from runtimes that are alike. -/
theorem Keeps.bind {β : Type} {m₁ m₂ : Method Runtime RuntimeError α}
    {f₁ f₂ : α → Method Runtime RuntimeError β} (h : Keeps m₁ m₂ rt₁ rt₂)
    (hrest : ∀ a rt₁' rt₂', rt₁'.Alike rt₂' → Keeps (f₁ a) (f₂ a) rt₁' rt₂') :
    Keeps (m₁ >>= f₁) (m₂ >>= f₂) rt₁ rt₂ := by
  refine Method.Relates.bind (h.mono ?_)
  rintro a rt₁' _ rt₂' ⟨rfl, halike⟩
  exact hrest a rt₁' rt₂' halike

theorem keeps_answer (h : rt₁.Alike rt₂) (hk : KnownTask task) (status : TrapStatus)
    (value value' : UInt64) : Keeps (answer task status value) (answer task status value') rt₁ rt₂ :=
  (keeps_setResult h hk status value value').bind fun _ _ _ h => keeps_pure h

theorem keeps_answerChecked (h : rt₁.Alike rt₂) (hk : KnownTask task) (status : TrapStatus)
    (value value' : UInt64) :
    Keeps (answerChecked task status value) (answerChecked task status value') rt₁ rt₂ :=
  (keeps_setResult h hk status value value').bind fun _ _ _ h =>
    (keeps_validate h).bind fun _ _ _ h => keeps_pure h

theorem keeps_dispatchNext (h : rt₁.Alike rt₂) : KeepsCall dispatchNext rt₁ rt₂ := by
  obtain ⟨p, rfl⟩ := h.exists
  refine Method.Relates.bind (.self ?_)
  refine .ite Iff.rfl (fun _ => .fail) fun _ => ?_
  rw [show (vary p rt₁).queue.pop = rt₁.queue.pop from rfl]
  rcases rt₁.queue.pop with ⟨_ | task, q⟩ <;> show Keeps _ _ _ _
  · refine Keeps.bind (keeps_assign h fun _ _ => by rfl) fun _ _ _ h => ?_
    exact .ite Iff.rfl (fun _ => keeps_pure h) fun _ => .fail
  · refine Keeps.bind (keeps_assign h fun _ _ => by rfl) fun _ rt₁' rt₂' h => keeps_slot fun hk => ?_
    refine .ite (by rw [h.state hk]) (fun _ => .fail) fun _ => ?_
    exact (keeps_setState h hk _).bind fun _ _ _ h =>
      (keeps_validate h).bind fun _ _ _ h => keeps_pure h

theorem keeps_dispatchSome (h : rt₁.Alike rt₂) : KeepsCall dispatchSome rt₁ rt₂ := by
  refine (keeps_dispatchNext h).bind fun next _ _ h => ?_
  cases next with
  | none => exact .fail
  | some next => exact keeps_pure h

theorem keeps_callTable (h : rt₁.Alike rt₂) (m : UInt64 → Method CapabilityTable TrapStatus α) :
    KeepsCall (callTable task m) rt₁ rt₂ := by
  refine keeps_slot fun hk => ?_
  have hgen : (rt₂.slotOf task).generation = (rt₁.slotOf task).generation := by
    obtain ⟨p, rfl⟩ := h.exists
    rcases hk with rfl | rfl <;> rfl
  rw [hgen]
  exact keeps_onTable h hk _ _

theorem keeps_wakeWorkload (h : rt₁.Alike rt₂) (status : TrapStatus) (value value' : UInt64) :
    Keeps (wakeWorkload status value) (wakeWorkload status value') rt₁ rt₂ := by
  refine keeps_slot fun hk => ?_
  refine .ite (by rw [h.state hk]) (fun _ => .fail) fun _ => ?_
  exact (keeps_setResult h hk status value value').bind fun _ _ _ h =>
    (keeps_setState h hk .ready).bind fun _ _ _ h => keeps_onQueue h _

/-! ## Operations -/

section Operations

variable (h : rt₁.Alike rt₂) (hk : KnownTask task)

include h hk

theorem keeps_yieldTask (first second third : UInt64) :
    KeepsCall (yieldTask task first second third) rt₁ rt₂ := by
  refine .ite Iff.rfl (fun _ => keeps_answer h hk _ _ _) fun _ => ?_
  refine (keeps_setResult h hk .ok 0 0).bind fun _ _ _ h => ?_
  refine (keeps_setState h hk .ready).bind fun _ _ _ h => ?_
  refine (keeps_onQueue h _).bind fun _ _ _ h => ?_
  exact (keeps_dispatchSome h).bind fun _ _ _ h => keeps_pure h

theorem keeps_exit (first second third : UInt64) :
    KeepsCall (exit task first second third) rt₁ rt₂ := by
  refine .ite Iff.rfl (fun _ => keeps_answer h hk _ _ _) fun _ => ?_
  refine (keeps_setState h hk .exited).bind fun _ _ _ h => ?_
  exact (keeps_validate h).bind fun _ _ _ h => keeps_pure h

theorem keeps_send (handle message reserved : UInt64) :
    KeepsCall (send task handle message reserved) rt₁ rt₂ := by
  obtain ⟨p, rfl⟩ := h.exists
  refine Method.Relates.bind (.self ?_)
  rw [sendStatus_vary hk]
  cases rt₁.sendStatus task handle reserved with
  | some status => exact keeps_answerChecked h hk _ _ _
  | none =>
    refine Keeps.bind (keeps_assign h fun _ _ => by rfl) fun _ rt₁' rt₂' h => keeps_slot fun hr => ?_
    refine .ite (by rw [h.state hr]) (fun _ => ?_) fun _ => keeps_answerChecked h hk _ _ _
    obtain ⟨p', rfl⟩ := h.exists
    refine Method.Relates.bind (.self ?_)
    refine Keeps.bind (keeps_assign h fun _ _ => by rfl) fun _ _ _ h => ?_
    refine (keeps_setResult h hr .ok _ _).bind fun _ _ _ h => ?_
    refine (keeps_setState h hr .ready).bind fun _ _ _ h => ?_
    exact (keeps_onQueue h _).bind fun _ _ _ h => keeps_answerChecked h hk _ _ _

theorem keeps_receive (handle message reserved : UInt64) :
    KeepsCall (receive task handle message reserved) rt₁ rt₂ := by
  obtain ⟨p, rfl⟩ := h.exists
  refine Method.Relates.bind (.self ?_)
  rw [receiveStatus_vary hk]
  cases rt₁.receiveStatus task handle message reserved with
  | some status => exact keeps_answer h hk _ _ _
  | none =>
    refine .ite Iff.rfl (fun _ => ?_) fun _ => .ite Iff.rfl (fun _ => ?_) fun _ => ?_
    · exact Keeps.bind (keeps_assign h fun _ _ => by rfl) fun _ _ _ h => keeps_answerChecked h hk _ _ _
    · exact keeps_answer h hk _ _ _
    · refine (keeps_setState h hk .blockedReceive).bind fun _ _ _ h => ?_
      refine (keeps_dispatchSome h).bind fun _ _ _ h => ?_
      exact (keeps_validate h).bind fun _ _ _ h => keeps_pure h

theorem keeps_duplicate (source rights reserved : UInt64) :
    KeepsCall (duplicate task source rights reserved) rt₁ rt₂ := by
  refine .ite Iff.rfl (fun _ => keeps_answer h hk _ _ _) fun _ => ?_
  refine (keeps_callTable h _).bind fun result _ _ h => ?_
  cases result with
  | ok handle => exact keeps_answerChecked h hk _ _ _
  | error status => exact keeps_answerChecked h hk _ _ _

theorem keeps_close (handle rights reserved : UInt64) :
    KeepsCall (close task handle rights reserved) rt₁ rt₂ := by
  refine .ite Iff.rfl (fun _ => keeps_answer h hk _ _ _) fun _ => ?_
  refine (keeps_callTable h _).bind fun result _ _ h => ?_
  cases result with
  | ok => exact keeps_answerChecked h hk _ _ _
  | error status => exact keeps_answerChecked h hk _ _ _

theorem keeps_startWorkload (handle manifest reserved : UInt64) :
    KeepsCall (startWorkload task handle manifest reserved) rt₁ rt₂ := by
  have hreceiver : KnownTask receiverTaskId := .inr rfl
  have hbefore := h
  have habandon : ∀ rt₁' rt₂' : Runtime, Keeps (abandonLaunch rt₁ task) (abandonLaunch rt₂ task)
      rt₁' rt₂' := fun _ _ =>
    Method.Relates.bind (.update (keeps_answer hbefore hk _ _ _))
  obtain ⟨p, rfl⟩ := h.exists
  refine Method.Relates.bind (.self ?_)
  rw [startStatus_vary hk]
  cases rt₁.startStatus task handle manifest reserved with
  | some status => exact keeps_answer h hk _ _ _
  | none =>
    refine .ite Iff.rfl (fun _ => habandon _ _) fun _ => ?_
    refine (keeps_onTable h hreceiver _ _).bind fun result _ _ h => ?_
    cases result with
    | error e => exact habandon _ _
    | ok =>
      refine .ite Iff.rfl (fun _ => habandon _ _) fun _ => ?_
      refine (keeps_onTable h hreceiver _ _).bind fun result _ _ h => ?_
      cases result with
      | error e => exact habandon _ _
      | ok =>
        refine .ite Iff.rfl (fun _ => habandon _ _) fun _ => ?_
        obtain ⟨p', rfl⟩ := h.exists
        refine Keeps.bind (keeps_assign h fun _ _ => by rfl) fun _ _ _ h => ?_
        refine .ite Iff.rfl (fun _ => habandon _ _) fun _ => ?_
        exact (keeps_onQueue h _).bind fun _ _ _ h => keeps_answerChecked h hk _ _ _

/-- The argument goes into the request and nowhere else. -/
theorem keeps_submitApproval (handle kind argument argument' : UInt64) :
    Keeps (submitApproval task handle kind argument) (submitApproval task handle kind argument')
      rt₁ rt₂ := by
  obtain ⟨p, rfl⟩ := h.exists
  refine Method.Relates.bind (.self ?_)
  rw [submitStatus_vary hk]
  cases rt₁.submitStatus task handle kind with
  | some status => exact keeps_answerChecked h hk _ _ _
  | none =>
    rw [vary_epoch]
    cases checkedAdd rt₁.broker.decisionEpoch 1 with
    | none => exact .fail
    | some nextEpoch =>
      refine Method.Relates.bind (.update ?_)
      refine Keeps.bind (keeps_setState (by rfl) hk .blockedApproval) fun _ _ _ h => ?_
      refine (keeps_dispatchSome h).bind fun _ _ _ h => ?_
      exact (keeps_validate h).bind fun _ _ _ h => keeps_pure h

/-- The argument of the request is copied into `rdx`. -/
theorem keeps_inspectApproval (handle kind argument : UInt64) :
    KeepsCall (inspectApproval task handle kind argument) rt₁ rt₂ := by
  obtain ⟨p, rfl⟩ := h.exists
  refine Method.Relates.bind (.self ?_)
  rw [inspectStatus_vary hk]
  cases rt₁.inspectStatus task handle kind argument with
  | some status => exact keeps_answerChecked h hk _ _ _
  | none =>
    refine Method.Relates.bind ?_
    rcases hk with rfl | rfl <;>
      exact .update (Keeps.bind (keeps_validate (by rfl)) fun _ _ _ h => keeps_pure h)

theorem keeps_exhaustBroker : KeepsCall (exhaustBroker task) rt₁ rt₂ := by
  have hfail : KeepsCall failBrokerEpochExhaustion rt₁ rt₂ := by
    refine keeps_slot fun hr => ?_
    refine .ite (by rw [h.state hr]) (fun _ => ?_) fun _ => ?_
    · exact (keeps_wakeWorkload h _ _ _).bind fun _ _ _ h => keeps_assign h fun _ _ => rfl
    · exact keeps_assign h fun _ _ => rfl
  exact hfail.bind fun _ _ _ h => keeps_answerChecked h hk _ _ _

omit hk in
theorem keeps_applyDecision (decision epoch : UInt64) :
    KeepsCall (applyDecision decision epoch) rt₁ rt₂ := by
  obtain ⟨p, rfl⟩ := h.exists
  refine .ite Iff.rfl (fun _ => keeps_assign h fun _ _ => rfl) fun _ => ?_
  refine .ite Iff.rfl (fun _ => ?_) fun _ => .ite Iff.rfl (fun _ => ?_) fun _ => ?_
  · exact Keeps.bind (keeps_assign h fun _ _ => by rfl) fun _ _ _ h => keeps_wakeWorkload h _ _ _
  · exact Keeps.bind (keeps_assign h fun _ _ => by rfl) fun _ _ _ h => keeps_wakeWorkload h _ _ _
  · exact Keeps.bind (keeps_assign h fun _ _ => by rfl) fun _ _ _ _ => .fail

theorem keeps_decideApproval (handle sequence decision : UInt64) :
    KeepsCall (decideApproval task handle sequence decision) rt₁ rt₂ := by
  obtain ⟨p, rfl⟩ := h.exists
  refine Method.Relates.bind (.self ?_)
  rw [decideStatus_vary hk]
  cases rt₁.decideStatus task handle sequence decision with
  | some status => exact keeps_answerChecked h hk _ _ _
  | none =>
    rw [vary_epoch]
    cases checkedAdd rt₁.broker.decisionEpoch 1 with
    | none => exact keeps_exhaustBroker h hk
    | some nextEpoch =>
      refine .ite Iff.rfl (fun _ => keeps_exhaustBroker h hk) fun _ => ?_
      exact (keeps_applyDecision h _ _).bind fun _ _ _ h => keeps_answerChecked h hk _ _ _

/-- The argument is compared with that of the request, and then it is the value of the effect. -/
theorem keeps_commitEffect {handle sequence argument argument' : UInt64}
    (hsame : rt₁.broker.requestPresent = true →
      (argument = rt₁.broker.request.argument ↔ argument' = rt₂.broker.request.argument)) :
    Keeps (commitEffect task handle sequence argument) (commitEffect task handle sequence argument')
      rt₁ rt₂ := by
  obtain ⟨p, rfl⟩ := h.exists
  refine Method.Relates.bind (.self ?_)
  rw [commitStatus_vary hk hsame]
  cases rt₁.commitStatus task handle sequence argument with
  | some status => exact keeps_answerChecked h hk _ _ _
  | none =>
    rw [vary_epoch]
    cases checkedAdd rt₁.broker.decisionEpoch 1 with
    | none => exact .fail
    | some nextEpoch =>
      refine .ite Iff.rfl (fun _ => keeps_answer h hk _ _ _) fun _ => ?_
      refine Method.Relates.bind (.update ?_)
      refine Keeps.bind (keeps_wakeWorkload (by rfl) _ _ _) fun _ _ _ h => ?_
      exact keeps_answerChecked h hk _ _ _

end Operations

/-! ## Traps -/

/-- The two runtimes are alike, and `task` traps with the same registers in both, but for the
argument of a request. -/
structure SameInput (task : UInt64) (rt₁ rt₂ : Runtime) : Prop where
  known : KnownTask task
  alike : rt₁.Alike rt₂
  argument : rt₁.operation task ≠ some .submitApproval → rt₁.operation task ≠ some .commitEffect →
    (rt₂.input task).rdx = (rt₁.input task).rdx
  commit : rt₁.operation task = some .commitEffect → rt₁.broker.requestPresent = true →
    ((rt₁.input task).rdx = rt₁.broker.request.argument ↔
      (rt₂.input task).rdx = rt₂.broker.request.argument)

/-- The other registers are the same. -/
theorem Alike.registers (h : rt₁.Alike rt₂) (hk : KnownTask task) :
    rt₂.input task = { rt₁.input task with rdx := (rt₂.input task).rdx } := by
  obtain ⟨p, rfl⟩ := h.exists
  rcases hk with rfl | rfl <;> rfl

theorem Alike.rax (h : rt₁.Alike rt₂) (hk : KnownTask task) :
    (rt₂.input task).rax = (rt₁.input task).rax := by
  rw [h.registers hk]

theorem keeps_perform (h : SameInput task rt₁ rt₂) {operation : TrapOperation}
    (hop : rt₁.operation task = some operation) :
    Keeps (perform task (rt₁.input task) operation) (perform task (rt₂.input task) operation)
      rt₁ rt₂ := by
  have halike := h.alike
  have hk := h.known
  rw [halike.registers hk]
  -- but for two operations the third argument is the same as well
  have hrdx : operation ≠ .submitApproval → operation ≠ .commitEffect →
      (rt₂.input task).rdx = (rt₁.input task).rdx := by
    intro hsubmit hcommit
    refine h.argument ?_ ?_
    · rw [hop]
      exact fun hbad => hsubmit (Option.some.inj hbad)
    · rw [hop]
      exact fun hbad => hcommit (Option.some.inj hbad)
  cases operation with
  | submitApproval => exact keeps_submitApproval halike hk _ _ _ _
  | commitEffect => exact keeps_commitEffect halike hk (h.commit hop)
  | yield => exact hrdx (by decide) (by decide) ▸ keeps_yieldTask halike hk _ _ _
  | send => exact hrdx (by decide) (by decide) ▸ keeps_send halike hk _ _ _
  | receive => exact hrdx (by decide) (by decide) ▸ keeps_receive halike hk _ _ _
  | exit => exact hrdx (by decide) (by decide) ▸ keeps_exit halike hk _ _ _
  | duplicate => exact hrdx (by decide) (by decide) ▸ keeps_duplicate halike hk _ _ _
  | close => exact hrdx (by decide) (by decide) ▸ keeps_close halike hk _ _ _
  | startWorkload => exact hrdx (by decide) (by decide) ▸ keeps_startWorkload halike hk _ _ _
  | inspectApproval => exact hrdx (by decide) (by decide) ▸ keeps_inspectApproval halike hk _ _ _
  | decideApproval => exact hrdx (by decide) (by decide) ▸ keeps_decideApproval halike hk _ _ _
  | inspectEffectJournal | readEffectRecord => exact keeps_answerChecked halike hk _ _ _

theorem keeps_handleTrap (h : SameInput task rt₁ rt₂) :
    KeepsCall (handleTrap task) rt₁ rt₂ := by
  have hrax := h.alike.rax h.known
  refine .restoring (Method.Relates.bind (.query fun t₁ t₂ ht₁ ht₂ => ?_))
  rw [h.alike.public.2.2.1, ht₁] at ht₂
  cases ht₂
  refine .ite Iff.rfl (fun _ => .fail) fun _ => ?_
  refine Method.Relates.bind (.query fun c₁ c₂ hc₁ hc₂ => ?_)
  rw [context_of_known h.known] at hc₁ hc₂
  cases hc₁
  cases hc₂
  rw [show TrapOperation.parse (rt₂.slotOf task).context.rax = rt₁.operation task from
      congrArg TrapOperation.parse hrax,
    show TrapOperation.parse (rt₁.slotOf task).context.rax = rt₁.operation task from rfl]
  cases hop : rt₁.operation task with
  | none => exact keeps_answer h.alike h.known _ _ _
  | some operation => exact keeps_perform h hop

/-! ## Teardown -/

theorem keeps_releaseSupervisor (h : rt₁.Alike rt₂) :
    KeepsCall releaseSupervisor rt₁ rt₂ := by
  refine keeps_slot fun hr => ?_
  refine .ite (by rw [h.state hr]) (fun _ => ?_) fun _ => ?_
  · refine Method.Relates.bind (.self ?_)
    rw [h.public.2.2.2.1]
    exact (keeps_wakeWorkload h _ _ _).bind fun _ _ _ h => keeps_assign h fun _ _ => rfl
  · exact keeps_assign h fun _ _ => rfl

theorem keeps_releaseSender (h : rt₁.Alike rt₂) : KeepsCall releaseSender rt₁ rt₂ := by
  refine Keeps.bind (keeps_assign h fun _ _ => by rfl) fun _ rt₁' rt₂' h => ?_
  refine Method.Relates.bind (.self (keeps_slot fun hr => ?_))
  refine .ite (by rw [h.state hr, h.public.2.1]) (fun _ => ?_) fun _ => keeps_pure h
  refine (keeps_setResult h hr .peerExited 0 0).bind fun _ _ _ h => ?_
  exact (keeps_setState h hr .ready).bind fun _ _ _ h => keeps_onQueue h _

theorem keeps_beginTeardown (h : rt₁.Alike rt₂) (task : UInt64) :
    KeepsCall (beginTeardown task) rt₁ rt₂ := by
  refine .restoring (keeps_slot fun hk => ?_)
  refine .ite (by rw [h.state hk]) (fun _ => .fail) fun _ => ?_
  refine Method.Relates.bind (.self (.ite (by rw [h.public.1]) (fun _ => ?_) fun _ => ?_))
  · have hend : ∀ {rt₁ rt₂ : Runtime}, rt₁.Alike rt₂ → Keeps (do
        onTable task id CapabilityTable.closeAll
        query validate) (do
        onTable task id CapabilityTable.closeAll
        query validate) rt₁ rt₂ := fun h =>
      (keeps_onTable h hk _ _).bind fun _ _ _ h => keeps_validate h
    refine (keeps_onTable h hk _ _).bind fun _ _ _ h => ?_
    refine .ite Iff.rfl (fun _ => ?_) fun _ => .ite Iff.rfl (fun _ => ?_) fun _ => .fail
    · exact (keeps_releaseSupervisor h).bind fun _ _ _ h => hend h
    · exact Keeps.bind (keeps_assign h fun _ _ => by rfl) fun _ _ _ h => hend h
  · refine (keeps_onTable h hk _ _).bind fun _ _ _ h => ?_
    refine .ite Iff.rfl (fun _ => ?_) fun _ => .ite Iff.rfl (fun _ => ?_) fun _ => .fail
    · exact (keeps_releaseSender h).bind fun _ _ _ h => keeps_validate h
    · exact Keeps.bind (keeps_assign h fun _ _ => by rfl) fun _ _ _ h => keeps_validate h

theorem keeps_completeTeardown (h : rt₁.Alike rt₂) (task : UInt64) :
    KeepsCall (completeTeardown task) rt₁ rt₂ := by
  refine .restoring (keeps_slot fun hk => ?_)
  have htable : (rt₂.slotOf task).capabilities = (rt₁.slotOf task).capabilities := by
    obtain ⟨p, rfl⟩ := h.exists
    rcases hk with rfl | rfl <;> rfl
  refine .ite (by rw [h.state hk, htable]) (fun _ => .fail) fun _ => ?_
  refine (keeps_onTable h hk _ _).bind fun _ _ _ h => ?_
  have hbury : ∀ {rt₁ rt₂ : Runtime}, rt₁.Alike rt₂ →
      Keeps (modifySlot task fun s =>
        { s with state := .dead, generation := 0, context := TaskContext.clearDead })
        (modifySlot task fun s =>
        { s with state := .dead, generation := 0, context := TaskContext.clearDead }) rt₁ rt₂ := by
    intro rt₁ rt₂ h
    obtain ⟨p, rfl⟩ := h.exists
    rcases hk with rfl | rfl <;> exact .update ⟨rfl, rfl⟩
  refine (hbury h).bind fun _ _ _ h => ?_
  refine Keeps.bind (keeps_assign h fun p rt => ?_) fun _ _ _ h => ?_
  · show Alike _ (if rt.profile = .supervised ∧ task = senderTaskId then _ else _)
    split <;> rfl
  refine Keeps.bind (keeps_assign h fun p rt => ?_) fun _ _ _ h => ?_
  · show Alike _ (if rt.tasks.all fun s => s.state = .dead then _ else _)
    split <;> rfl
  exact (keeps_validate h).bind fun _ _ _ h => keeps_dispatchNext h

end Runtime

/-! ## The journaled runtime -/

namespace JournaledRuntime

/-- The two runtimes differ in their secrets only, and the journals are the same. -/
structure Alike (jr₁ jr₂ : JournaledRuntime) : Prop where
  runtime : jr₁.runtime.Alike jr₂.runtime
  journal : jr₂.journal = jr₁.journal

/-- Both calls return the same and leave the runtimes alike. -/
abbrev Keeps {α : Type} (m₁ m₂ : Method JournaledRuntime RuntimeError α)
    (jr₁ jr₂ : JournaledRuntime) : Prop :=
  Method.Relates m₁ m₂ jr₁ jr₂ fun a₁ jr₁' a₂ jr₂' => a₁ = a₂ ∧ jr₁'.Alike jr₂'

/-- The same call on both. -/
abbrev KeepsCall {α : Type} (m : Method JournaledRuntime RuntimeError α) :
    JournaledRuntime → JournaledRuntime → Prop :=
  Keeps m m

variable {α : Type} {jr₁ jr₂ before₁ before₂ : JournaledRuntime} {task : UInt64}

theorem Keeps.bind {β : Type} {m₁ m₂ : Method JournaledRuntime RuntimeError α}
    {f₁ f₂ : α → Method JournaledRuntime RuntimeError β} (h : Keeps m₁ m₂ jr₁ jr₂)
    (hrest : ∀ a jr₁' jr₂', jr₁'.Alike jr₂' → Keeps (f₁ a) (f₂ a) jr₁' jr₂') :
    Keeps (m₁ >>= f₁) (m₂ >>= f₂) jr₁ jr₂ := by
  refine Method.Relates.bind (h.mono ?_)
  rintro a jr₁' _ jr₂' ⟨rfl, halike⟩
  exact hrest a jr₁' jr₂' halike

theorem keeps_pure {a : α} (h : jr₁.Alike jr₂) : KeepsCall (pure a) jr₁ jr₂ := .pure ⟨rfl, h⟩

theorem keeps_onRuntime {m₁ m₂ : Method Runtime RuntimeError α} (h : jr₁.Alike jr₂)
    (hm : Runtime.Keeps m₁ m₂ jr₁.runtime jr₂.runtime) :
    Keeps (onRuntime m₁) (onRuntime m₂) jr₁ jr₂ :=
  .onPart (hm.mono fun _ _ _ _ hkept => ⟨hkept.1, hkept.2, h.journal⟩)

theorem keeps_onJournal (h : jr₁.Alike jr₂) (m : Method EffectJournal EffectJournalError α) :
    KeepsCall (onJournal m) jr₁ jr₂ :=
  .onPart_same h.journal fun _ _ => ⟨rfl, h.runtime, rfl⟩

theorem keeps_validate (h : jr₁.Alike jr₂) :
    KeepsCall (query validate) jr₁ jr₂ := .query fun _ _ _ _ => ⟨rfl, h⟩

theorem keeps_validateOrRestore (h : jr₁.Alike jr₂) :
    Keeps (validateOrRestore before₁) (validateOrRestore before₂) jr₁ jr₂ := by
  have hunchanged : ∀ {before jr jr' : JournaledRuntime},
      (validateOrRestore before).run jr = (.ok (), jr') → jr' = jr := by
    intro before jr jr' hrun
    rcases run_validateOrRestore_cases before jr with ⟨-, hok⟩ | herror
    · rw [hok] at hrun
      exact (Prod.mk.inj hrun).2.symm
    · rw [herror] at hrun
      cases hrun
  intro _ jr₁' _ jr₂' hrun₁ hrun₂
  rw [hunchanged hrun₁, hunchanged hrun₂]
  exact ⟨rfl, h⟩

theorem keeps_finishTrap (h : jr₁.Alike jr₂) (outcome : TrapOutcome) :
    Keeps (finishTrap before₁ outcome) (finishTrap before₂ outcome) jr₁ jr₂ :=
  (keeps_validateOrRestore h).bind fun _ _ _ h => keeps_pure h

theorem keeps_appendOrRestore (h : jr₁.Alike jr₂) (record : EffectRecord) (release : Bool) :
    Keeps (appendOrRestore before₁ record release) (appendOrRestore before₂ record release)
      jr₁ jr₂ := by
  refine (keeps_onJournal h _).bind fun result _ _ h => ?_
  cases result with
  | ok => exact keeps_pure h
  | error e => exact Method.Relates.bind (.update .fail)

/-! ## The journal's part of a trap -/

/-- No record holds the argument of a request. -/
theorem event_argument (kind : EffectEventKind) (status : TrapStatus)
    (epoch actor generation argument : UInt64) (request : ApprovalRequest) (objectType : UInt32)
    (rights : UInt64) :
    EffectRecord.event kind status epoch actor generation { request with argument := argument }
      objectType rights =
      EffectRecord.event kind status epoch actor generation request objectType rights := rfl

theorem Alike.request (h : jr₁.Alike jr₂) :
    jr₂.runtime.broker.request = { jr₁.runtime.broker.request with
      argument := jr₂.runtime.broker.request.argument } := by
  obtain ⟨p, hp⟩ := h.runtime.exists
  rw [hp]
  rfl

theorem Alike.broker (h : jr₁.Alike jr₂) :
    jr₂.runtime.broker.state = jr₁.runtime.broker.state ∧
      jr₂.runtime.broker.requestPresent = jr₁.runtime.broker.requestPresent ∧
      jr₂.runtime.broker.decisionEpoch = jr₁.runtime.broker.decisionEpoch :=
  h.runtime.public.2.2.2

section Recording

variable (hbefore : before₁.Alike before₂) (h : jr₁.Alike jr₂)

include hbefore h

theorem keeps_journalSubmit (hk : KnownTask task) (outcome : TrapOutcome) :
    Keeps (journalSubmit before₁ task outcome) (journalSubmit before₂ task outcome) jr₁ jr₂ := by
  -- a request that cannot be recorded is answered on the runtime before the trap
  have hanswer : ∀ (status : TrapStatus) {jr₁ jr₂ : JournaledRuntime}, Keeps (do
      update fun _ => before₁
      onRuntime (Runtime.setResult task status 0)
      query validate
      pure (.resume task) : Method JournaledRuntime RuntimeError TrapOutcome) (do
      update fun _ => before₂
      onRuntime (Runtime.setResult task status 0)
      query validate
      pure (.resume task)) jr₁ jr₂ := by
    intro status jr₁ jr₂
    refine Method.Relates.bind (.update ?_)
    refine (keeps_onRuntime hbefore
      (keeps_setResult hbefore.runtime hk status 0 0)).bind fun _ _ _ h => ?_
    exact (keeps_validate h).bind fun _ _ _ h => keeps_pure h
  unfold journalSubmit
  rw [hbefore.broker.2.2]
  refine .ite Iff.rfl (fun _ => hanswer _) fun _ => Method.Relates.bind (.self ?_)
  rw [h.broker.2.2, h.request, event_argument]
  refine (keeps_onJournal h _).bind fun result _ _ h => ?_
  cases result with
  | ok => exact keeps_finishTrap h _
  | error e =>
    cases e with
    | full => exact hanswer _
    | unavailable => exact hanswer _
    | invalidRecord | invariant => exact Method.Relates.bind (.update .fail)

theorem keeps_journalDecide (decision : UInt64) (outcome : TrapOutcome) :
    Keeps (journalDecide before₁ decision outcome) (journalDecide before₂ decision outcome)
      jr₁ jr₂ := by
  have hrecord : decisionRecord before₂ jr₂ decision = decisionRecord before₁ jr₁ decision := by
    unfold decisionRecord
    rw [hbefore.broker.1, h.broker.1]
  refine Method.Relates.bind (.self ?_)
  rw [hrecord, hbefore.request, h.broker.2.2]
  cases decisionRecord before₁ jr₁ decision with
  | none => exact .fail
  | some record =>
    obtain ⟨kind, status, release⟩ := record
    exact (keeps_appendOrRestore h _ _).bind fun _ _ _ h => keeps_finishTrap h _

theorem keeps_journalCommit (outcome : TrapOutcome) :
    Keeps (journalCommit before₁ outcome) (journalCommit before₂ outcome) jr₁ jr₂ := by
  refine Method.Relates.bind (.self ?_)
  rw [hbefore.request, h.broker.2.2]
  exact (keeps_appendOrRestore h _ _).bind fun _ _ _ h => keeps_finishTrap h _

theorem keeps_journalFailedCommit (hk : KnownTask task) (outcome : TrapOutcome) :
    Keeps (journalFailedCommit before₁ task outcome) (journalFailedCommit before₂ task outcome)
      jr₁ jr₂ := by
  refine Method.Relates.bind (.self ?_)
  rw [hbefore.request, h.broker.2.2]
  cases checkedAdd jr₁.runtime.broker.decisionEpoch 1 with
  | none => exact .fail
  | some nextEpoch =>
    refine Keeps.bind (keeps_onRuntime h (keeps_assign h.runtime fun _ _ => by rfl))
      fun _ _ _ h => ?_
    refine (keeps_onRuntime h (keeps_wakeWorkload h.runtime _ _ _)).bind fun _ _ _ h => ?_
    refine (keeps_onRuntime h (keeps_setResult h.runtime hk _ _ _)).bind fun _ _ _ h => ?_
    exact (keeps_appendOrRestore h _ _).bind fun _ _ _ h => keeps_finishTrap h _

/-- The status that the inner runtime gave decides what is recorded. -/
theorem keeps_recordTrap (hk : KnownTask task) {input₁ input₂ : TaskContext}
    (hrax : input₂.rax = input₁.rax)
    (hrdx : TrapOperation.parse input₁.rax = some .decideApproval → input₂.rdx = input₁.rdx)
    (outcome : TrapOutcome) :
    Keeps (recordTrap before₁ task input₁ outcome) (recordTrap before₂ task input₂ outcome)
      jr₁ jr₂ := by
  refine Method.Relates.bind (.self (Method.Relates.bind (.query fun c₁ c₂ hc₁ hc₂ => ?_)))
  rw [context_of_known hk] at hc₁ hc₂
  cases hc₁
  cases hc₂
  have hstatus : (jr₂.runtime.slotOf task).context.rax = (jr₁.runtime.slotOf task).context.rax :=
    h.runtime.rax hk
  have hb := hbefore.broker
  have hj := h.broker
  rw [hrax]
  split
  · exact .ite (by rw [hb.1, hj.1, hj.2.1]) (fun _ => keeps_journalSubmit hbefore h hk _)
      fun _ => keeps_finishTrap h _
  · rename_i hop
    rw [hrdx hop]
    exact .ite (by rw [hb.2.1, hstatus]) (fun _ => keeps_journalDecide hbefore h _ _)
      fun _ => keeps_finishTrap h _
  · refine .ite (by rw [hb.1, hj.1, hstatus]) (fun _ => keeps_journalCommit hbefore h _)
      fun _ => ?_
    exact .ite (by rw [hb.1, hj.1, hstatus]) (fun _ => keeps_journalFailedCommit hbefore h hk _)
      fun _ => keeps_finishTrap h _
  · exact keeps_finishTrap h _

end Recording

/-- A trap that is not a read of the journal. -/
theorem keeps_handleTrap (h : jr₁.Alike jr₂)
    (hinput : Runtime.SameInput task jr₁.runtime jr₂.runtime)
    (hread : jr₁.runtime.operation task ≠ some .inspectEffectJournal ∧
      jr₁.runtime.operation task ≠ some .readEffectRecord) :
    KeepsCall (handleTrap task) jr₁ jr₂ := by
  have hk := hinput.known
  have hrax := h.runtime.rax hk
  have hinner : Keeps (do
      let before ← self
      let outcome ← undoing (fun _ => before) (onRuntime (Runtime.handleTrap task))
      recordTrap before task (jr₁.runtime.input task) outcome) (do
      let before ← self
      let outcome ← undoing (fun _ => before) (onRuntime (Runtime.handleTrap task))
      recordTrap before task (jr₂.runtime.input task) outcome) jr₁ jr₂ := by
    refine Method.Relates.bind (.self ?_)
    refine Keeps.bind (.undoing (keeps_onRuntime h (Runtime.keeps_handleTrap hinput)))
      fun outcome _ _ h' => ?_
    refine keeps_recordTrap h h' hk hrax (fun hop => hinput.argument ?_ ?_) outcome
    · rw [Runtime.operation, hop]
      decide
    · rw [Runtime.operation, hop]
      decide
  refine Method.Relates.bind (.query fun t₁ t₂ ht₁ ht₂ => ?_)
  rw [h.runtime.public.2.2.1, ht₁] at ht₂
  cases ht₂
  refine .ite Iff.rfl (fun _ => .fail) fun _ => ?_
  refine Method.Relates.bind (.query fun c₁ c₂ hc₁ hc₂ => ?_)
  rw [context_of_known hk] at hc₁ hc₂
  cases hc₁
  cases hc₂
  rw [show TrapOperation.parse (jr₂.runtime.slotOf task).context.rax = jr₁.runtime.operation task
      from congrArg TrapOperation.parse hrax,
    show TrapOperation.parse (jr₁.runtime.slotOf task).context.rax = jr₁.runtime.operation task
      from rfl]
  split
  · rename_i hop
    exact absurd hop hread.1
  · rename_i hop
    exact absurd hop hread.2
  · exact hinner

/-! ## Teardown -/

theorem keeps_sealJournal (h : jr₁.Alike jr₂) :
    Keeps (sealJournal jr₁) (sealJournal jr₂) jr₁ jr₂ := by
  have hrecord : Keeps (recordTeardown jr₁) (recordTeardown jr₂) jr₁ jr₂ := by
    have hterminal : terminalRecord jr₂.runtime.broker = terminalRecord jr₁.runtime.broker := by
      unfold terminalRecord
      rw [h.broker.1]
    unfold recordTeardown
    rw [h.broker.2.2, hterminal, h.request]
    cases checkedAdd jr₁.runtime.broker.decisionEpoch 1 with
    | none => exact .fail
    | some epoch =>
      refine Keeps.bind (keeps_onRuntime h (keeps_assign h.runtime fun _ _ => by rfl))
        fun _ _ _ h => ?_
      cases terminalRecord jr₁.runtime.broker with
      | none => exact .fail
      | some record => exact keeps_appendOrRestore h _ _
  refine .ite (by rw [h.broker.2.1]) (fun _ => hrecord.bind fun _ _ _ h => ?_) fun _ => ?_
  -- either way the journal is sealed next
  all_goals
    refine (keeps_onJournal h _).bind fun result _ _ h => ?_
    cases result with
    | ok => exact keeps_pure h
    | error e => exact Method.Relates.bind (.update .fail)

theorem keeps_beginTeardown (h : jr₁.Alike jr₂) (task : UInt64) :
    KeepsCall (beginTeardown task) jr₁ jr₂ := by
  have hend : ∀ {jr₁' jr₂' : JournaledRuntime}, jr₁'.Alike jr₂' → Keeps (do
      undoing (fun _ => jr₁) (onRuntime (Runtime.beginTeardown task))
      validateOrRestore jr₁) (do
      undoing (fun _ => jr₂) (onRuntime (Runtime.beginTeardown task))
      validateOrRestore jr₂) jr₁' jr₂' := fun h =>
    Keeps.bind (.undoing (keeps_onRuntime h (Runtime.keeps_beginTeardown h.runtime task)))
      fun _ _ _ h => keeps_validateOrRestore h
  refine Method.Relates.bind (.self (Method.Relates.bind (.query fun s₁ s₂ hs₁ hs₂ => ?_)))
  have hk := known_of_slot hs₁
  rw [slot_of_known hk] at hs₁ hs₂
  cases hs₁
  cases hs₂
  refine .ite (by rw [h.runtime.state hk]) (fun _ => .fail) fun _ => ?_
  refine .ite (by rw [h.journal]) (fun _ => ?_) fun _ => hend h
  exact (keeps_sealJournal h).bind fun _ _ _ h => hend h

theorem keeps_completeTeardown (h : jr₁.Alike jr₂) (task : UInt64) :
    KeepsCall (completeTeardown task) jr₁ jr₂ := by
  refine Method.Relates.bind (.self ?_)
  refine Keeps.bind
    (.undoing (keeps_onRuntime h (Runtime.keeps_completeTeardown h.runtime task))) fun _ _ _ h => ?_
  exact (keeps_validateOrRestore h).bind fun _ _ _ h => keeps_pure h

theorem keeps_finishReclamation (h : jr₁.Alike jr₂) :
    KeepsCall finishReclamation jr₁ jr₂ := by
  have htasks : (jr₂.runtime.tasks.any fun s => s.state ≠ .dead) =
      jr₁.runtime.tasks.any fun s => s.state ≠ .dead := by
    obtain ⟨p, hp⟩ := h.runtime.exists
    rw [hp]
    rfl
  refine Method.Relates.bind (.self ?_)
  rw [htasks, h.journal]
  refine .ite Iff.rfl (fun _ => .fail) fun _ => ?_
  exact Method.Relates.bind (.update (keeps_validateOrRestore ⟨h.runtime, rfl⟩))

end JournaledRuntime

/-! ## Reads of the journal -/

namespace JournaledRuntime

variable {jr₁ jr₂ : JournaledRuntime} {task : UInt64}

theorem Alike.readAnswer (h : jr₁.Alike jr₂) (hk : KnownTask task)
    (hrdx : (jr₂.runtime.input task).rdx = (jr₁.runtime.input task).rdx)
    (operation : TrapOperation) :
    jr₂.readAnswer task operation = jr₁.readAnswer task operation := by
  have hinput : jr₂.runtime.input task = jr₁.runtime.input task := by
    rw [h.runtime.registers hk, hrdx]
  have hstatus : jr₂.journalReadStatus task operation (jr₁.runtime.input task) =
      jr₁.journalReadStatus task operation (jr₁.runtime.input task) := by
    unfold journalReadStatus
    obtain ⟨p, hp⟩ := h.runtime.exists
    rw [h.journal, hp, resolveObject_vary hk]
  unfold JournaledRuntime.readAnswer
  rw [hinput, hstatus, h.journal]

/-- A read shows the same registers. -/
theorem Alike.afterRead (h : jr₁.Alike jr₂) (hk : KnownTask task)
    (hrdx : (jr₂.runtime.input task).rdx = (jr₁.runtime.input task).rdx)
    (operation : TrapOperation) :
    (jr₁.afterRead task (jr₁.readAnswer task operation)).Alike
        (jr₂.afterRead task (jr₂.readAnswer task operation)) ∧
      (jr₁.afterRead task (jr₁.readAnswer task operation)).runtime.input task =
        (jr₂.afterRead task (jr₂.readAnswer task operation)).runtime.input task := by
  rw [h.readAnswer hk hrdx operation]
  generalize jr₁.readAnswer task operation = answer
  obtain ⟨rt₁, j₁⟩ := jr₁
  obtain ⟨rt₂, j₂⟩ := jr₂
  obtain ⟨p, rfl⟩ : ∃ p, rt₂ = rt₁.vary p := h.runtime.exists
  rcases hk with rfl | rfl <;> exact ⟨⟨rfl, h.journal⟩, rfl⟩

end JournaledRuntime

/-! ## Steps of the kernel -/

/-- Two journaled runtimes of the kernel that are alike. -/
inductive KernelRuntime.Alike : KernelRuntime → KernelRuntime → Prop where
  | journaled {jr₁ jr₂ : JournaledRuntime} (alike : jr₁.Alike jr₂) :
      Alike (.journaled jr₁) (.journaled jr₂)

/-- The captured registers are those of the two frames. -/
theorem SameTrap.captured {rt₁ rt₂ : Runtime} {task root₁ root₂ : UInt64}
    {frame₁ frame₂ : TrapFrame} (hk : KnownTask task) (h : rt₁.Alike rt₂)
    (hsame : SameTrap task frame₁ frame₂ (rt₁.captured task root₁ frame₁)
      (rt₂.captured task root₂ frame₂)) :
    Runtime.SameInput task (rt₁.captured task root₁ frame₁) (rt₂.captured task root₂ frame₂) := by
  have halike : (rt₁.captured task root₁ frame₁).Alike (rt₂.captured task root₂ frame₂) := by
    obtain ⟨v, rfl⟩ : ∃ v, frame₂ = { frame₁ with rdx := v } := ⟨_, hsame.registers⟩
    obtain ⟨p, rfl⟩ := h.exists
    have hroot := hsame.root
    rcases hk with rfl | rfl
    · obtain rfl : root₂ = root₁ := hroot
      rfl
    · obtain rfl : root₂ = root₁ := hroot
      rfl
  constructor
  case known => exact hk
  case alike => exact halike
  case argument =>
    rw [captured_operation hk, captured_rdx hk, captured_rdx hk]
    exact hsame.argument
  case commit =>
    rw [captured_operation hk, captured_rdx hk, captured_rdx hk]
    intro hop hp
    exact hsame.commit hop hp (halike.public.2.2.2.2.1.trans hp)

namespace KernelRuntime

variable {jr₁ jr₂ : JournaledRuntime} {k₁ k₂ : KernelRuntime}

/-- Traps of the two runs. -/
theorem Alike.trap (inv₁ : JInv jr₁) (inv₂ : JInv jr₂) (h : jr₁.Alike jr₂) {task : UInt64}
    {frame₁ frame₂ : TrapFrame} {outcome₁ outcome₂ : TrapOutcome}
    {before₁ before₂ after₁ after₂ : Runtime}
    (hs₁ : KernelStep (.journaled jr₁) (.trap task frame₁ outcome₁ before₁ after₁) k₁)
    (hs₂ : KernelStep (.journaled jr₂) (.trap task frame₂ outcome₂ before₂ after₂) k₂)
    (hsame : SameTrap task frame₁ frame₂ before₁ before₂) :
    Alike k₁ k₂ ∧ outcome₁ = outcome₂ ∧ after₁.SameStatuses after₂ ∧
      (frame₁.ReadsJournal → after₁.input task = after₂.input task) := by
  obtain ⟨hr, root₁, -, rfl, rfl, hhandle₁⟩ := (KernelInv.journaled inv₁).trap_step hs₁
  obtain ⟨-, root₂, -, rfl, rfl, hhandle₂⟩ := (KernelInv.journaled inv₂).trap_step hs₂
  have hk := hr.known
  have hinput := hsame.captured hk h.runtime
  have hop : frame₂.operation = frame₁.operation := by
    rw [hsame.registers]
    rfl
  have hbefore : JournaledRuntime.Alike
      { jr₁ with runtime := jr₁.runtime.captured task root₁ frame₁ }
      { jr₂ with runtime := jr₂.runtime.captured task root₂ frame₂ } :=
    ⟨hinput.alike, h.journal⟩
  by_cases hread : frame₁.ReadsJournal
  · obtain ⟨operation, hoperation, hreads⟩ := hread.exists_operation
    obtain ⟨-, houtcome₁, -, -, -, rfl, -⟩ := inv₁.read_step hs₁ hoperation hreads
    obtain ⟨-, houtcome₂, -, -, -, rfl, -⟩ := inv₂.read_step hs₂ (hop.trans hoperation) hreads
    have hrdx : ((jr₂.runtime.captured task root₂ frame₂).input task).rdx =
        ((jr₁.runtime.captured task root₁ frame₁).input task).rdx := by
      refine hinput.argument ?_ ?_
      · rw [captured_operation hk, hoperation]
        rcases hreads with rfl | rfl <;> decide
      · rw [captured_operation hk, hoperation]
        rcases hreads with rfl | rfl <;> decide
    obtain ⟨hafter, hregisters⟩ := hbefore.afterRead hk hrdx operation
    exact ⟨.journaled hafter, houtcome₁.trans houtcome₂.symm, hafter.runtime.statuses,
      fun _ => hregisters⟩
  · obtain ⟨jr₁', hrun₁, rfl⟩ := call_journaled_eq hhandle₁
    obtain ⟨jr₂', hrun₂, rfl⟩ := call_journaled_eq hhandle₂
    have hnot := hread
    unfold TrapFrame.ReadsJournal at hnot
    rw [not_or, ← @Runtime.captured_operation jr₁.runtime task root₁ frame₁ hk] at hnot
    obtain ⟨houtcome, hafter⟩ :=
      keeps_handleTrap hbefore hinput hnot _ _ _ _ hrun₁ hrun₂
    exact ⟨.journaled hafter, houtcome, hafter.runtime.statuses, fun hbad => absurd hbad hread⟩

/-- Steps that are the same keep the two runs alike and show the same. -/
theorem Alike.step {k₁' k₂' : KernelRuntime} {e₁ e₂ : KernelEvent}
    (inv₁ : KernelInv .journaled k₁) (inv₂ : KernelInv .journaled k₂) (h : Alike k₁ k₂)
    (hs₁ : KernelStep k₁ e₁ k₁') (hs₂ : KernelStep k₂ e₂ k₂') (hsame : e₁.Same e₂) :
    Alike k₁' k₂' ∧ e₁.SameShown e₂ := by
  cases h with
  | @journaled jr₁ jr₂ halike =>
    cases inv₁ with
    | journaled inv₁ =>
    cases inv₂ with
    | journaled inv₂ =>
    cases e₁ with
    | trap task₁ frame₁ outcome₁ before₁ after₁ =>
      cases e₂ with
      | trap task₂ frame₂ outcome₂ before₂ after₂ =>
        obtain ⟨rfl, htrap⟩ := hsame
        exact Alike.trap inv₁ inv₂ halike hs₁ hs₂ htrap
      | beginTeardown | completeTeardown | finishReclamation => exact absurd hsame id
    | beginTeardown task₁ before₁ after₁ =>
      cases e₂ with
      | beginTeardown task₂ before₂ after₂ =>
        obtain rfl : task₁ = task₂ := hsame
        cases hs₁ with
        | beginTeardown begun₁ =>
        cases hs₂ with
        | beginTeardown begun₂ =>
        obtain ⟨jr₁', hrun₁, rfl⟩ := call_journaled_eq begun₁
        obtain ⟨jr₂', hrun₂, rfl⟩ := call_journaled_eq begun₂
        obtain ⟨-, hafter⟩ := keeps_beginTeardown halike task₁ _ _ _ _ hrun₁ hrun₂
        exact ⟨.journaled hafter, hafter.runtime.statuses⟩
      | trap | completeTeardown | finishReclamation => exact absurd hsame id
    | completeTeardown task₁ next₁ before₁ after₁ =>
      cases e₂ with
      | completeTeardown task₂ next₂ before₂ after₂ =>
        obtain rfl : task₁ = task₂ := hsame
        cases hs₁ with
        | completeTeardown completed₁ =>
        cases hs₂ with
        | completeTeardown completed₂ =>
        obtain ⟨jr₁', hrun₁, rfl⟩ := call_journaled_eq completed₁
        obtain ⟨jr₂', hrun₂, rfl⟩ := call_journaled_eq completed₂
        obtain ⟨hnext, hafter⟩ :=
          keeps_completeTeardown halike task₁ _ _ _ _ hrun₁ hrun₂
        exact ⟨.journaled hafter, hnext, hafter.runtime.statuses⟩
      | trap | beginTeardown | finishReclamation => exact absurd hsame id
    | finishReclamation =>
      cases e₂ with
      | finishReclamation =>
        cases hs₁ with
        | finishReclamation finished₁ =>
        cases hs₂ with
        | finishReclamation finished₂ =>
        obtain ⟨-, hafter⟩ :=
          keeps_finishReclamation halike _ _ _ _ finished₁ finished₂
        exact ⟨.journaled hafter, trivial⟩
      | trap | beginTeardown | completeTeardown => exact absurd hsame id

/-- Calls that make the same steps are two runs in lockstep. -/
theorem replayBoth_lockstep {kind : KernelRuntimeKind} {calls : List (KernelCall × KernelCall)} :
    ∀ {k₁ k₂ k₁' k₂' : KernelRuntime} {h₁ h₂ events₁ events₂ : List KernelEvent},
      Lockstep (kernelSystem kind) KernelEvent.Same h₁ k₁ h₂ k₂ →
      replayBoth k₁ k₂ calls = some ((events₁, k₁'), events₂, k₂') →
      Lockstep (kernelSystem kind) KernelEvent.Same (h₁ ++ events₁) k₁' (h₂ ++ events₂) k₂' := by
  induction calls with
  | nil =>
    intro k₁ k₂ k₁' k₂' h₁ h₂ events₁ events₂ hruns h
    simp only [replayBoth, Option.some.injEq, Prod.mk.injEq] at h
    obtain ⟨⟨rfl, rfl⟩, rfl, rfl⟩ := h
    rw [List.append_nil, List.append_nil]
    exact hruns
  | cons pair calls ih =>
    intro k₁ k₂ k₁' k₂' h₁ h₂ events₁ events₂ hruns h
    obtain ⟨call₁, call₂⟩ := pair
    unfold replayBoth at h
    split at h
    · rename_i e₁ t₁ e₂ t₂ hp₁ hp₂
      split at h
      · rename_i hsame
        obtain ⟨⟨⟨rest₁, u₁⟩, rest₂, u₂⟩, hrest, heq⟩ := Option.map_eq_some_iff.mp h
        simp only [Prod.mk.injEq] at heq
        obtain ⟨⟨rfl, rfl⟩, rfl, rfl⟩ := heq
        have hnext := ih (hruns.step (perform_step hp₁) (perform_step hp₂) hsame) hrest
        rwa [List.append_assoc, List.append_assoc] at hnext
      · cases h
    · cases h

theorem executeBoth_lockstep {kind : KernelRuntimeKind} {first second : TaskContext}
    {calls : List (KernelCall × KernelCall)} {events₁ events₂ : List KernelEvent}
    (h : ((events₁, k₁), events₂, k₂) ∈ executeBoth kind first second calls) :
    Lockstep (kernelSystem kind) KernelEvent.Same events₁ k₁ events₂ k₂ := by
  unfold executeBoth at h
  split at h
  · rename_i k hboot
    exact replayBoth_lockstep (.start (boot_booted hboot)) h
  · cases h

end KernelRuntime

/-- Two runs of the journaled profile that make the same steps with the same registers, but for the
arguments of requests, have the same journal after every step, and their steps show the same
outcomes and statuses. -/
theorem journal_redacts_arguments {history₁ history₂ : List KernelEvent} {k₁ k₂ : KernelRuntime}
    (hruns : Lockstep (kernelSystem .journaled) KernelEvent.Same history₁ k₁ history₂ k₂) :
    k₁.journal? = k₂.journal? ∧ List.Forall₂ KernelEvent.SameShown history₁ history₂ := by
  have hrelated : KernelRuntime.Alike k₁ k₂ ∧ List.Forall₂ KernelEvent.SameShown history₁ history₂ := by
    refine hruns.related ?_ ?_
    · intro k hboot
      cases KernelInv.run (.start hboot) with
      | journaled inv => exact .journaled ⟨.refl _, rfl⟩
    · rintro k₁ k₂ k₁' k₂' e₁ e₂ ⟨earlier₁, hrun₁⟩ ⟨earlier₂, hrun₂⟩ halike hs₁ hs₂ hsame
      exact halike.step (KernelInv.run hrun₁) (KernelInv.run hrun₂) hs₁ hs₂ hsame
  obtain ⟨halike, hshown⟩ := hrelated
  cases halike with
  | journaled alike => exact ⟨congrArg some alike.journal.symm, hshown⟩

/-- A request for 99 and a request for 7 are approved, inspected and committed, and the records of
both runs are the same. -/
theorem journal_redacts_committed_value :
    ∃ history₁ k₁ history₂ k₂,
      Lockstep (kernelSystem .journaled) KernelEvent.Same history₁ k₁ history₂ k₂ ∧
      k₁.runtime.effect.value = 99 ∧ k₂.runtime.effect.value = 7 ∧
      k₁.journal? = k₂.journal? ∧ List.Forall₂ KernelEvent.SameShown history₁ history₂ := by
  have hexec : ∃ r ∈ KernelRuntime.executeBoth .journaled
      (.start senderTaskId supervisorGeneration) (.start receiverTaskId workloadGeneration)
      [(.request 6 16 1 0, .request 6 16 1 0), (.request 0 0 0 0, .request 0 0 0 0),
        (.request 7 16 1 99, .request 7 16 1 7), (.request 8 17 0 0, .request 8 17 0 0),
        (.request 9 17 1 1, .request 9 17 1 1), (.request 10 18 1 98, .request 10 18 1 8),
        (.request 10 18 1 99, .request 10 18 1 7), (.request 12 19 3 0, .request 12 19 3 0)],
      r.1.2.runtime.effect.value = 99 ∧ r.2.2.runtime.effect.value = 7 := by
    decide +kernel
  obtain ⟨⟨⟨history₁, k₁⟩, history₂, k₂⟩, hmem, hvalue₁, hvalue₂⟩ := hexec
  have hruns := KernelRuntime.executeBoth_lockstep hmem
  exact ⟨history₁, k₁, history₂, k₂, hruns, hvalue₁, hvalue₂, journal_redacts_arguments hruns⟩

end MakopaVerified.TaskRuntime
