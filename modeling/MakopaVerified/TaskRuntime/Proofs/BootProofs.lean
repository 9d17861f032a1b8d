import MakopaVerified.TaskRuntime.Proofs.CooperativeStepProofs
import MakopaVerified.TaskRuntime.Proofs.JournaledTeardownProofs
import MakopaVerified.TaskRuntime.Proofs.PublicationProofs

/-!
# Publication and the first dispatch

A constructor that returns a runtime has published it; the first dispatch then gives the processor to
the head of the queue. From there on each profile keeps its invariant.
-/

namespace MakopaVerified.TaskRuntime

open Foundation Method TaskRuntime.Runtime JournaledRuntime

variable {next : Option UInt64} {supervisor workload : TaskContext}

/-- A dispatch that finds a task has made it the running one, and the check has passed. -/
theorem Runtime.dispatchNext_ends {rt : Runtime} {head : UInt64} {q : RunQueue}
    (hknown : KnownTask head) (hpop : rt.queue.pop = (some head, q)) :
    dispatchNext.Ends rt (fun _ rt' =>
      rt' = mapSlot head (TaskSlot.withState .running) { rt with queue := q } ∧
        rt'.validate = .ok ()) fun _ _ => True := by
  refine .bind (.self (.ite (fun _ => .fail trivial) fun _ => ?_))
  rw [hpop]
  refine .bind (.update (.bind (.query (fun _ _ => ?_) fun _ _ => trivial)))
  refine .ite (fun _ => .fail trivial) fun _ => .bind (.of_ok (run_setState hknown .running) ?_)
  exact .bind (.query (fun _ hv => .pure ⟨rfl, hv⟩) fun _ _ => trivial)

/-- The cooperative profile starts in its invariant: the receiver runs, and nothing is sent. -/
theorem CoopInv.booted {sender receiver : TaskContext} {rt rt' : Runtime}
    (hnew : Runtime.new sender receiver = .ok rt)
    (hdispatch : Runtime.dispatchNext.run rt = (.ok next, rt')) :
    CoopInv rt' ∧ rt'.task1.state = .running ∧ rt'.endpoint.occupied = false ∧
      rt'.task0.capabilities.grants = [Grant.send] ∧
      rt'.task1.capabilities.grants = [Grant.receive] := by
  simp only [Runtime.new, construct, check_ite_eq_ok] at hnew
  rcases hrun : (publishInitial none).run (unpublished sender receiver) with ⟨_ | _, _⟩ <;>
    rw [hrun] at hnew <;> cases hnew.2.2.2
  obtain ⟨-, t0, t1, rfl, hinstalled0, hinstalled1⟩ :=
    (publishInitial_ends none sender receiver).ok hrun
  obtain ⟨rfl, hv⟩ := (dispatchNext_ends (.inr rfl)
    (RunQueue.pop_pair receiverTaskId senderTaskId)).ok hdispatch
  have hlacks0 : t0.Lacks capabilityRightReceive :=
    hinstalled0.entries (CapabilityTable.Entries.building _ _) fun g hg _ => by
      obtain rfl := List.mem_singleton.mp hg
      exact (by decide : Grant.send.rights &&& capabilityRightReceive = 0)
  have hlacks1 : t1.Lacks capabilityRightSend :=
    hinstalled1.entries (CapabilityTable.Entries.building _ _) fun g hg _ => by
      obtain rfl := List.mem_singleton.mp hg
      exact (by decide : Grant.receive.rights &&& capabilityRightSend = 0)
  refine ⟨?_, rfl, rfl, hinstalled0.grants_published, hinstalled1.grants_published⟩
  exact
    { profile := rfl
      id0 := rfl
      id1 := rfl
      valid := validate_eq_ok.mp hv
      phase := .inr (.inl ⟨rfl, rfl⟩)
      sender_awake := nofun
      sender_rights := hlacks0
      receiver_rights := hlacks1 }

/-! ## Supervised profile -/

/-- The supervised runtime after its first dispatch. -/
def Runtime.startedSupervised (supervisor workload : TaskContext) (t : CapabilityTable) : Runtime :=
  mapSlot senderTaskId (TaskSlot.withState .running)
    { publishedSupervised supervisor workload t with queue := RunQueue.ofList [] }

/-- The first dispatch gives the processor to the supervisor; the workload is still staged. -/
theorem SupInv.dispatched {t : CapabilityTable} {rt' : Runtime}
    (hdispatch : Runtime.dispatchNext.run (Runtime.publishedSupervised supervisor workload t) =
      (.ok next, rt')) :
    SupInv rt' ∧ rt' = Runtime.startedSupervised supervisor workload t := by
  obtain ⟨rfl, hv⟩ := (dispatchNext_ends (.inl rfl) (RunQueue.pop_singleton senderTaskId)).ok
    hdispatch
  have hvalid := validate_eq_ok.mp hv
  have hlive : t.state = .live := hvalid.slot0.table_live rfl
  refine ⟨?_, rfl⟩
  exact
    { profile := rfl
      id0 := rfl
      id1 := rfl
      valid := hvalid
      phase := .inl ⟨rfl, rfl⟩
      supervisor_state := ⟨nofun, nofun⟩
      waiting := nofun
      broker_open := fun _ _ => by
        refine ⟨nofun, ?_⟩
        show t.state ≠ .closing
        rw [hlive]
        decide
      broker_alive := fun _ => nofun
      released := nofun
      approved_epoch := nofun }

/-- The supervised profile starts in its invariant. -/
theorem SupInv.booted {rt rt' : Runtime}
    (hnew : Runtime.newSupervised supervisor workload = .ok rt)
    (hdispatch : Runtime.dispatchNext.run rt = (.ok next, rt')) :
    SupInv rt' ∧ ∃ t, rt' = Runtime.startedSupervised supervisor workload t ∧
      t.grants.Perm Grant.supervisor := by
  simp only [Runtime.newSupervised, constructSupervised, check_ite_eq_ok] at hnew
  rcases hrun : (Runtime.publishSupervisor none).run (unpublishedSupervised supervisor workload)
    with ⟨_ | _, _⟩ <;> rw [hrun] at hnew <;> cases hnew.2.2
  obtain ⟨-, t, rfl, hgrants⟩ :=
    (Runtime.publishSupervisor_ends none supervisor workload).ok hrun
  obtain ⟨hinv, heq⟩ := SupInv.dispatched hdispatch
  exact ⟨hinv, t, heq, hgrants⟩

/-! ## Journaled profile -/

namespace JournaledRuntime

theorem onRuntime_eq_ok {α : Type} {jr jr' : JournaledRuntime} {m : Method Runtime RuntimeError α} {a : α}
    (h : (onRuntime m).run jr = (.ok a, jr')) :
    ∃ rt', m.run jr.runtime = (.ok a, rt') ∧ jr' = { jr with runtime := rt' } := by
  rcases hm : m.run jr.runtime with ⟨r, rt'⟩
  rw [run_onRuntime jr hm, Prod.mk.injEq] at h
  obtain ⟨rfl, rfl⟩ := h
  exact ⟨rt', rfl, rfl⟩

end JournaledRuntime

theorem History.fresh {b : ApprovalBroker} (hempty : b.state = .empty)
    (hepoch : b.decisionEpoch = 1) (hsequence : b.nextSequence = 1)
    (hexhausted : b.sequenceExhausted = false) (hrequest : b.requestPresent = false) :
    History b [] [] [] where
  records_eq := rfl
  finished_ok := fun k h => absurd h (Nat.not_lt_zero k)
  current_ok := by rw [hempty]; rfl
  position := fun i h => absurd h (Nat.not_lt_zero i)
  epoch := fun _ => by rw [hepoch]; rfl
  unexhausted := fun _ => hexhausted
  sequence := fun _ => by rw [hsequence]; rfl
  request := fun hp => by rw [hrequest] at hp; cases hp

theorem JInv.dispatched {t : CapabilityTable} {jr' : JournaledRuntime}
    (hv : ({ runtime := Runtime.publishedSupervised supervisor workload t
             journal := { EffectJournal.building with state := .live } } :
      JournaledRuntime).validate = .ok ())
    (hdispatch : JournaledRuntime.dispatchNext.run
      { runtime := Runtime.publishedSupervised supervisor workload t
        journal := { EffectJournal.building with state := .live } } = (.ok next, jr')) :
    JInv jr' ∧ jr'.runtime = Runtime.startedSupervised supervisor workload t := by
  have hjv := JournaledRuntime.validate_eq_ok.mp hv
  obtain ⟨rt', hrt, rfl⟩ := JournaledRuntime.onRuntime_eq_ok hdispatch
  obtain ⟨hsup, rfl⟩ := SupInv.dispatched hrt
  have hlive : t.state = .live := hsup.valid.slot0.table_live rfl
  refine ⟨?_, rfl⟩
  exact
    { sup := hsup
      journal := hjv.journal
      supervisor_entries := hjv.supervisor_entries
      workload_entries := hjv.workload_entries
      entries_fixed := hjv.entries_fixed
      live_iff := by
        refine iff_of_true rfl ?_
        rintro ((hc | hc) | hc | hc)
        · exact nomatch hlive.symm.trans hc
        · exact nomatch hlive.symm.trans hc
        · exact nomatch hc
        · exact nomatch hc
      dead_done := nofun
      reserved := rfl
      history := ⟨[], [], History.fresh rfl rfl rfl rfl rfl⟩
      kernel_last := fun i h => absurd h (Nat.not_lt_zero i) }

/-- The journaled profile starts in its invariant, with an empty live journal. -/
theorem JInv.booted {jr jr' : JournaledRuntime}
    (hnew : JournaledRuntime.newSupervised supervisor workload = .ok jr)
    (hdispatch : JournaledRuntime.dispatchNext.run jr = (.ok next, jr')) :
    JInv jr' ∧ ∃ t, jr'.runtime = Runtime.startedSupervised supervisor workload t ∧
      t.grants.Perm (Grant.supervisor ++ [Grant.journal]) := by
  simp only [JournaledRuntime.newSupervised, check_ite_eq_ok] at hnew
  rcases hrun : (JournaledRuntime.publishSupervisor none).run
    ⟨unpublishedSupervised supervisor workload, EffectJournal.building⟩ with ⟨_ | _, _⟩ <;>
    rw [hrun] at hnew <;> cases hnew.2.2
  obtain ⟨-, hv, t, rfl, hgrants⟩ :=
    (JournaledRuntime.publishSupervisor_ends none supervisor workload).ok hrun
  obtain ⟨hinv, heq⟩ := JInv.dispatched hv hdispatch
  exact ⟨hinv, t, heq, hgrants⟩

end MakopaVerified.TaskRuntime
