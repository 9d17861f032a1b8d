import MakopaVerified.TaskRuntime.Proofs.KernelProofs

/-!
# Authority is confined to the initial grants

Every call of the kernel changes the two tables in one of the ways of `TableChanges`. None of them
adds a right, but for the launch, which gives the workload the route of its manifest; so the grants
of every reachable state lie within those of the publication.
-/

namespace MakopaVerified.TaskRuntime

open Foundation KernelRuntime CapabilityTable

variable {rt : Runtime} {task : UInt64}

/-! ## Changes of a call -/

namespace TableChanges

variable {rt rt' : Runtime} {task : UInt64}

theorem of_eq (h0 : rt'.task0.capabilities = rt.task0.capabilities)
    (h1 : rt'.task1.capabilities = rt.task1.capabilities) : TableChanges rt rt' where
  first := by rw [h0]; exact .kept
  second := .inl (by rw [h1]; exact .kept)

/-- The slot of one task changes. -/
theorem mapSlot (hk : KnownTask task) {f : TaskSlot → TaskSlot}
    (hf : (rt.slotOf task).capabilities.Change (f (rt.slotOf task)).capabilities) :
    TableChanges rt (Runtime.mapSlot task f rt) := by
  rcases hk with rfl | rfl
  · exact ⟨hf, .inl .kept⟩
  · exact ⟨.kept, .inl hf⟩

end TableChanges

/-- A trap changes at most the table of its caller, or launches the workload. -/
theorem TrapEffect.tableChanges {rt' : Runtime} {outcome : TrapOutcome} (hk : KnownTask task)
    (he : TrapEffect rt task outcome rt') : TableChanges rt rt' := by
  cases he with
  | refused | kept | exited | inspected => exact .mapSlot hk .kept
  | yielded op other known waiting =>
    rcases hk with rfl | rfl
    · obtain rfl : _ = receiverTaskId := known.resolve_left other
      exact .of_eq rfl rfl
    · obtain rfl : _ = senderTaskId := known.resolve_right other
      exact .of_eq rfl rfl
  | stored | delivered | took | blocked | submitted | approved | concluded | exhausted
  | committed => exact .of_eq rfl rfl
  | duplicated op change => exact .mapSlot hk (.duplicated change)
  | closed op change => exact .mapSlot hk (.closed change)
  | launched op supervisor supervised staged change =>
    exact ⟨.kept, .inr ⟨supervised, staged, change⟩⟩

theorem TeardownBegun.tableChanges {rt' : Runtime} (hb : TeardownBegun rt task rt') :
    TableChanges rt rt' := by
  cases hb with
  | sender | senderWakes | supervisor | supervisorWakes => exact ⟨.released, .inl .kept⟩
  | receiver =>
    unfold Runtime.releaseReceiver
    exact ⟨.kept, .inl .released⟩
  | workload =>
    unfold Runtime.releaseWorkload
    split <;> exact ⟨.kept, .inl .released⟩

theorem TeardownCompleted.tableChanges {rt' : Runtime} {next : Option UInt64}
    (hk : KnownTask task) (hc : TeardownCompleted rt task next rt') : TableChanges rt rt' := by
  obtain ⟨hself, hpeer⟩ := hc.tables hk
  rcases hk with rfl | rfl
  · have hself : rt'.task0.capabilities = CapabilityTable.dead := hself
    have hpeer : rt'.task1.capabilities = rt.task1.capabilities := hpeer
    exact ⟨by rw [hself]; exact .buried, .inl (by rw [hpeer]; exact .kept)⟩
  · have hself : rt'.task1.capabilities = CapabilityTable.dead := hself
    have hpeer : rt'.task0.capabilities = rt.task0.capabilities := hpeer
    exact ⟨by rw [hpeer]; exact .kept, .inl (by rw [hself]; exact .buried)⟩

theorem JournaledEffect.tableChanges {jr jr' : JournaledRuntime} {outcome : TrapOutcome}
    (hk : KnownTask task) (he : JournaledEffect jr task outcome jr') :
    TableChanges jr.runtime jr'.runtime := by
  cases he with
  | unrecorded inner | requested inner | approved inner | concluded inner | committed inner =>
    exact inner.tableChanges hk
  | read => exact .mapSlot hk .kept
  | failed => exact .of_eq rfl rfl

theorem JournaledBegun.tableChanges {jr jr' : JournaledRuntime} (hb : JournaledBegun jr task jr') :
    TableChanges jr.runtime jr'.runtime := by
  cases hb with
  | quiet inner => exact inner.tableChanges
  | terminal inner =>
    have hchanges := inner.tableChanges
    exact ⟨hchanges.first, hchanges.second.imp_right fun h => ⟨h.supervised, h.staged, h.table⟩⟩

/-- Captured registers do not touch the tables. -/
theorem TableChanges.of_captured {rt' : Runtime} {root : UInt64} {frame : TrapFrame}
    (hk : KnownTask task) (h : TableChanges (rt.captured task root frame) rt') :
    TableChanges rt rt' := by
  rcases hk with rfl | rfl
  · exact ⟨h.first, h.second.imp_right fun h => ⟨h.supervised, h.staged, h.table⟩⟩
  · exact ⟨h.first, h.second.imp_right fun h => ⟨h.supervised, h.staged, h.table⟩⟩

theorem KernelEffect.tableChanges {k k' : KernelRuntime} {e : KernelEvent}
    (he : KernelEffect k e k') : TableChanges k.runtime k'.runtime := by
  cases he with
  | trap running root_ne effect =>
    exact .of_captured running.known (effect.tableChanges running.known)
  | begun exited live effect => exact effect.tableChanges
  | completed exited closing effect => exact effect.tableChanges exited.known
  | journaledTrap running root_ne effect =>
    exact .of_captured running.known (effect.tableChanges running.known)
  | journaledBegun exited live effect => exact effect.tableChanges
  | journaledCompleted exited closing effect => exact effect.tableChanges exited.known
  | reclaimed => exact .of_eq rfl rfl

/-! ## Tables that are not live -/

namespace CapabilityTable

theorem grants_of_liveSlots {t : CapabilityTable} (h : t.liveSlots = 0) : t.grants = [] := by
  rw [grants_eq_nil]
  intro slot hslot
  have hnone := Vector.countP_eq_zero.mp h slot hslot
  simpa using hnone

/-- Only a live table resolves handles. -/
theorem resolveTyped_of_not_live {t : CapabilityTable} (h : t.state ≠ .live)
    (task gen raw : UInt64) (objectType : UInt32) (right : UInt64) :
    t.resolveTyped task gen raw objectType right = .error .invalidHandle := by
  unfold resolveTyped
  rw [if_pos (.inl h)]

end CapabilityTable

/-- A table that is not live is that of a staged task, or one that a teardown has emptied. -/
theorem SlotOk.inert {q : RunQueue} {s : TaskSlot} (h : SlotOk q s)
    (hstaged : s.state = .staged → s.capabilities.liveSlots = 0)
    (hlive : s.capabilities.state ≠ .live) : s.capabilities.Inert := by
  refine ⟨?_, fun task gen raw objectType right =>
    ⟨_, resolveTyped_of_not_live hlive task gen raw objectType right⟩⟩
  cases hstate : s.capabilities.state with
  | live => exact absurd hstate hlive
  | dead =>
    rw [eq_dead_of_validate hstate h.table_valid]
    exact grants_dead
  | closing =>
    rw [grants_eq_nil]
    exact (h.tableOk (by rw [hstate]; decide)).closing_empty hstate
  | building =>
    refine grants_of_liveSlots (hstaged ?_)
    have hok := h.table_state
    rw [hstate] at hok
    cases htask : s.state with
    | staged => rfl
    | ready | running | blockedReceive | blockedApproval | dead =>
      rw [htask] at hok
      cases hok
    | exited =>
      rw [htask] at hok
      rcases hok with hok | hok <;> cases hok

theorem SupCore.inert (h : SupCore rt) (hk : KnownTask task)
    (hlive : (rt.slotOf task).capabilities.state ≠ .live) :
    (rt.slotOf task).capabilities.Inert := by
  rcases hk with rfl | rfl
  · exact h.valid.slot0.inert (fun hs => absurd hs h.supervisor_state.1) hlive
  · exact h.valid.slot1.inert (fun hs => (h.sup.staged hs).2.2) hlive

theorem KernelInv.inert {kind : KernelRuntimeKind} {k : KernelRuntime} (h : KernelInv kind k)
    (hk : KnownTask task) (hlive : (k.runtime.slotOf task).capabilities.state ≠ .live) :
    (k.runtime.slotOf task).capabilities.Inert := by
  cases h with
  | cooperative inv =>
    rcases hk with rfl | rfl
    · exact inv.valid.slot0.inert (fun hs => absurd hs inv.coop.sender_state.1) hlive
    · exact inv.valid.slot1.inert (fun hs => absurd hs inv.coop.receiver_state.1) hlive
  | supervised inv => exact inv.toSupCore.inert hk hlive
  | journaled inv => exact inv.sup.toSupCore.inert hk hlive

theorem SupCore.staged_grants (h : SupCore rt) (hs : rt.task1.state = .staged) :
    rt.task1.capabilities.grants = [] :=
  grants_of_liveSlots (h.sup.staged hs).2.2

theorem KernelInv.staged_grants {kind : KernelRuntimeKind} {k : KernelRuntime}
    (h : KernelInv kind k) (hs : k.runtime.task1.state = .staged) :
    k.runtime.task1.capabilities.grants = [] := by
  cases h with
  | cooperative inv => exact absurd hs inv.coop.receiver_state.1
  | supervised inv => exact inv.toSupCore.staged_grants hs
  | journaled inv => exact inv.sup.toSupCore.staged_grants hs

/-! ## Confinement -/

namespace Confined

variable {kind : KernelRuntimeKind} {k k' : KernelRuntime} {e : KernelEvent}

/-- A right to receive cannot be split. -/
theorem eq_receive {g : Grant} (h : g.Within Grant.receive) (hne : g.rights ≠ 0) :
    g = Grant.receive := by
  have hrights : g.rights = capabilityRightReceive := eq_of_subset_two h.rights hne
  obtain ⟨objectType, object, rights⟩ := g
  obtain ⟨rfl, rfl, -⟩ := h
  obtain rfl := hrights
  rfl

theorem supervisor_no_endpoint {g : Grant} (h : g ∈ kind.supervisorGrants) :
    g.objectType ≠ objectTypeEndpoint := by
  revert g
  cases kind <;> decide

theorem not_launch (h : KernelInv .cooperative k) : ¬ Launch k.runtime k'.runtime := by
  intro hl
  cases h with
  | cooperative inv => exact absurd (inv.profile.symm.trans hl.supervised) (by decide)

theorem booted (h : Booted kind k) : Confined kind k.runtime := by
  have hinv := KernelInv.booted h
  obtain ⟨k₀, next, hpublished, hdispatch⟩ := h
  cases hpublished with
  | cooperative hnew =>
    obtain ⟨rt', hrt, rfl⟩ := call_base_eq hdispatch
    obtain ⟨-, -, -, hsend, hreceive⟩ := CoopInv.booted hnew hrt
    refine ⟨fun _ g hg => ?_, fun _ g hg => ?_, fun hne => absurd rfl hne,
      fun hne => absurd rfl hne, fun hne => absurd rfl hne, fun _ hk => hinv.inert hk⟩
    · have hg : g ∈ rt'.task0.capabilities.grants := hg
      rw [hsend] at hg
      obtain rfl := List.mem_singleton.mp hg
      exact ⟨.refl _, by decide⟩
    · have hg : g ∈ rt'.task1.capabilities.grants := hg
      rw [hreceive] at hg
      exact List.mem_singleton.mp hg
  | supervised hnew =>
    obtain ⟨rt', hrt, rfl⟩ := call_base_eq hdispatch
    obtain ⟨-, t, rfl, hgrants⟩ := SupInv.booted hnew hrt
    exact ⟨nofun, nofun, fun _ => ⟨hgrants.subset, hgrants.nodup_iff.mpr (by decide)⟩,
      fun _ => hinv.staged_grants, fun _ => .inl (hinv.staged_grants rfl), fun _ hk => hinv.inert hk⟩
  | journaled hnew =>
    obtain ⟨jr', hjr, rfl⟩ := call_journaled_eq hdispatch
    obtain ⟨-, t, hstarted, hgrants⟩ := JInv.booted hnew hjr
    have htable : jr'.runtime.task0.capabilities = t := by rw [hstarted]; rfl
    have hs : jr'.runtime.task1.state = .staged := by rw [hstarted]; rfl
    refine ⟨nofun, nofun, fun _ => ?_, fun _ => hinv.staged_grants,
      fun _ => .inl (hinv.staged_grants hs), fun _ hk => hinv.inert hk⟩
    show jr'.runtime.task0.capabilities.grants ⊆ _ ∧ jr'.runtime.task0.capabilities.grants.Nodup
    rw [htable]
    exact ⟨hgrants.subset, hgrants.nodup_iff.mpr (by decide)⟩

/-- Every change of the tables keeps them within the initial grants. -/
theorem step (h : Confined kind k.runtime) (hinv : KernelInv kind k) (hinv' : KernelInv kind k')
    (hc : TableChanges k.runtime k'.runtime) : Confined kind k'.runtime where
  sender hkind := hc.first.forall_grants (h.sender hkind)
    fun g g₀ hg₀ hwithin hne => ⟨hwithin.trans hg₀.1, hne⟩
  receiver hkind := by
    rcases hc.second with hchange | hl
    · refine hchange.forall_grants (h.receiver hkind) fun g g₀ hg₀ hwithin hne => ?_
      subst hg₀
      exact eq_receive hwithin hne
    · subst hkind
      exact absurd hl (not_launch hinv)
  supervisor hkind := by
    obtain ⟨hsub, hnodup⟩ := h.supervisor hkind
    have hsublist := hc.first.grants_sublist fun g hg => supervisor_no_endpoint (hsub hg)
    exact ⟨List.Subset.trans hsublist.subset hsub, hnodup.sublist hsublist⟩
  staged _ := hinv'.staged_grants
  workload hkind := by
    rcases hc.second with hchange | hl
    · have hold : k.runtime.task1.capabilities.grants.Sublist [Grant.submit] := by
        rcases h.workload hkind with hnil | hone
        · rw [hnil]
          exact List.nil_sublist _
        · rw [hone]
      have hsublist := hchange.grants_sublist fun g hg => by
        obtain rfl := List.mem_singleton.mp (hold.subset hg)
        decide
      exact List.sublist_singleton.mp (hsublist.trans hold)
    · have hperm := hl.table.grants_perm
      rw [h.staged hkind hl.staged] at hperm
      exact .inr (List.perm_singleton.mp hperm)
  inert _ hk := hinv'.inert hk

theorem run {history : List KernelEvent} (h : Run (kernelSystem kind) history k) :
    Confined kind k.runtime := by
  refine (h.state_invariant (P := fun k => KernelInv kind k ∧ Confined kind k.runtime)
    (fun k hb => ⟨.booted hb, .booted hb⟩) ?_).2
  rintro k e k' ⟨hinv, hconf⟩ hs
  have he := hinv.step hs
  exact ⟨hinv.effect he, hconf.step hinv (hinv.effect he) he.tableChanges⟩

end Confined

/-- In every reachable state of every profile the tables stay within what the tasks were started
with; a table that is not live holds and resolves nothing. No call adds an object or a right to a
table, but for the launch, which gives the staged workload the one route of its manifest. -/
theorem authority_confined {kind : KernelRuntimeKind} {history : List KernelEvent}
    {k : KernelRuntime} (h : Run (kernelSystem kind) history k) :
    Confined kind k.runtime ∧
      ∀ e k', KernelStep k e k' → ∀ task, KnownTask task →
        (k.runtime.slotOf task).capabilities.Attenuates (k'.runtime.slotOf task).capabilities ∨
          kind ≠ .cooperative ∧ task = receiverTaskId ∧ k.runtime.task1.state = .staged ∧
            k'.runtime.task1.capabilities.grants = [Grant.submit] := by
  have hconf := Confined.run h
  have hinv := KernelInv.run h
  refine ⟨hconf, fun e k' hstep task hk => ?_⟩
  have hc := (hinv.step hstep).tableChanges
  rcases hk with rfl | rfl
  · exact .inl hc.first.attenuates
  · rcases hc.second with hchange | hl
    · exact .inl hchange.attenuates
    · have hkind : kind ≠ .cooperative := by
        rintro rfl
        exact Confined.not_launch hinv hl
      have hperm := hl.table.grants_perm
      rw [hconf.staged hkind hl.staged] at hperm
      exact .inr ⟨hkind, rfl, hl.staged, List.perm_singleton.mp hperm⟩

/-- A sender that has duplicated its handle without the right to duplicate still holds no more than
it started with. -/
theorem duplicated_sender_confined :
    ∃ history k, Run (kernelSystem .cooperative) history k ∧
      k.runtime.task0.capabilities.grants =
        [Grant.send, { Grant.send with rights := capabilityRightSend }] ∧
      Confined .cooperative k.runtime := by
  have hexec : ∃ r ∈ KernelRuntime.execute .cooperative (.start senderTaskId 1)
      (.start receiverTaskId 2) [.request 0 0 0 0, .request 4 16 capabilityRightSend 0],
      r.2.runtime.task0.capabilities.grants =
        [Grant.send, { Grant.send with rights := capabilityRightSend }] := by
    decide +kernel
  obtain ⟨⟨history, k⟩, hmem, hgrants⟩ := hexec
  have hrun := execute_run hmem
  exact ⟨history, k, hrun, hgrants, (authority_confined hrun).1⟩

end MakopaVerified.TaskRuntime
