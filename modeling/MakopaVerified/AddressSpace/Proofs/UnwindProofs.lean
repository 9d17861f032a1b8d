import MakopaVerified.AddressSpace.Spaces

/-!
# Rollback and teardown

Both make the calls of `unwinding`, up to the first that fails, and the ledger loses exactly the
frames that the backend took back.
-/

namespace MakopaVerified.AddressSpace

open Foundation Method List

variable {σ ε : Type} {B : AddressSpaceBackend σ ε}

/-! ## Calls that leave the owner alone -/

/-- `m` makes the calls of the plan and does not change the owner. -/
def Performs (m : Method (AddressSpaceOwner × (σ × List (Call ε))) (Stop ε) Unit)
    (owner : AddressSpaceOwner) (plan : List (Except ε Unit → Call ε)) : Prop :=
  ∀ s log, m.Ends (owner, (s, log))
    (fun _ st => ∃ s' calls, st = (owner, (s', log ++ calls)) ∧ Follows plan calls (.ok ()))
    fun e st => ∃ b s' calls, e = .failed b ∧ st = (owner, (s', log ++ calls)) ∧
      Follows plan calls (.error b)

theorem performs_pure :
    Performs (pure () : Method (AddressSpaceOwner × (σ × List (Call ε))) (Stop ε) Unit) owner [] :=
  fun s _ => .pure ⟨s, [], by rw [append_nil], .done⟩

theorem performs_call {m : Method σ ε Unit} (entry : Except ε Unit → Call ε) :
    Performs (onBackend (m.logged entry)) owner [entry] := by
  intro s log
  refine .onPart ?_
  cases hresult : (m.run s).1 with
  | ok u =>
    refine .of_ok (by rw [run_logged, hresult]) ⟨_, _, rfl, .single entry⟩
  | error b =>
    refine .of_error (by rw [run_logged, hresult]) ⟨b, _, _, rfl, rfl, .single entry⟩

/-- One plan after the other. -/
theorem Performs.then {m m' : Method (AddressSpaceOwner × (σ × List (Call ε))) (Stop ε) Unit}
    {plan plan' : List (Except ε Unit → Call ε)} (h : Performs m owner plan)
    (h' : Performs m' owner plan') :
    Performs (m >>= fun _ => m') owner (plan ++ plan') := by
  intro s log
  refine .bind ((h s log).mono ?_ ?_)
  · rintro _ _ ⟨s₁, calls₁, rfl, hfollows₁⟩
    refine (h' s₁ (log ++ calls₁)).mono ?_ ?_
    · rintro _ _ ⟨s₂, calls₂, rfl, hfollows₂⟩
      exact ⟨s₂, calls₁ ++ calls₂, by rw [append_assoc], hfollows₁.append hfollows₂⟩
    · rintro _ _ ⟨b, s₂, calls₂, rfl, rfl, hfollows₂⟩
      exact ⟨b, s₂, calls₁ ++ calls₂, rfl, by rw [append_assoc], hfollows₁.append hfollows₂⟩
  · rintro _ _ ⟨b, s₁, calls₁, rfl, rfl, hfollows₁⟩
    exact ⟨b, s₁, calls₁, rfl, rfl, hfollows₁.append_failed⟩

/-- A link with the frames that the ledger has for its ends. -/
def withFrames (ledger : FrameLedger) (link : LinkSpec) : InstalledLink :=
  ⟨link, (ledger.frameFor link.parent).getD 0, (ledger.frameFor link.child).getD 0⟩

/-- The ledger has frames for both ends of the link. -/
def HasEnds (ledger : FrameLedger) (link : LinkSpec) : Prop :=
  (∃ parent, ledger.frameFor link.parent = some parent) ∧
    ∃ child, ledger.frameFor link.child = some child

/-- A lookup that finds its frame does not panic. -/
theorem run_expectFrame {τ : Type} {role : FrameRole} {frame : UInt64}
    (hframe : owner.ledger.frameFor role = some frame) (s : τ) :
    (expectFrame role : Method _ (Stop ε) UInt64).run (owner, s) = (.ok frame, (owner, s)) := by
  unfold expectFrame
  rw [run_query]
  dsimp only
  rw [hframe]

theorem performs_expectFrame {role : FrameRole} {frame : UInt64}
    (hframe : owner.ledger.frameFor role = some frame)
    {f : UInt64 → Method (AddressSpaceOwner × (σ × List (Call ε))) (Stop ε) Unit}
    {plan : List (Except ε Unit → Call ε)} (h : Performs (f frame) owner plan) :
    Performs (expectFrame role >>= f) owner plan :=
  fun s log => .bind (.of_ok (run_expectFrame hframe (s, log)) (h s log))

theorem performs_removeLinks {links : List LinkSpec}
    (hlinks : ∀ link ∈ links, HasEnds owner.ledger link) :
    Performs (removeLinks B.logged links) owner
      ((links.map (withFrames owner.ledger)).map fun l =>
        Call.removeLink l.link l.parent l.child) := by
  induction links with
  | nil => exact performs_pure
  | cons link links ih =>
    obtain ⟨⟨parent, hparent⟩, child, hchild⟩ := hlinks link mem_cons_self
    have hentry : withFrames owner.ledger link = ⟨link, parent, child⟩ := by
      unfold withFrames
      rw [hparent, hchild, Option.getD_some, Option.getD_some]
    rw [map_cons, map_cons, hentry]
    refine performs_expectFrame hparent (performs_expectFrame hchild ?_)
    exact (performs_call (Call.removeLink link parent child)).then
      (ih fun link' hlink' => hlinks link' (mem_cons_of_mem _ hlink'))

/-! ## Returning the frames -/

/-- The calls followed the plan, and the ledger, which had `frames`, lost those taken back. -/
def Released (frames : List OwnedFrame) (log : List (Call ε))
    (plan : List (Except ε Unit → Call ε)) (r : Except ε Unit)
    (st : AddressSpaceOwner × (σ × List (Call ε))) : Prop :=
  ∃ calls, st.2.2 = log ++ calls ∧ Follows plan calls r ∧
    frames = st.1.ledger.frames ++ (returnedFrames calls).reverse

theorem FrameLedger.eq_new {ledger : FrameLedger} (h : ledger.frames = []) : ledger = .new := by
  cases ledger
  exact congrArg FrameLedger.mk h

/-- Nothing to return. -/
theorem released_nil {s : σ} {log : List (Call ε)} (h : owner.ledger.frames = []) :
    Released owner.ledger.frames log [] (.ok ()) (owner, (s, log)) :=
  ⟨[], (append_nil _).symm, .done, by rw [h]; rfl⟩

/-- The last frame was taken back, and the others follow. -/
theorem Released.cons {rest : List OwnedFrame} {frame : OwnedFrame} {log : List (Call ε)}
    {plan : List (Except ε Unit → Call ε)} {r : Except ε Unit}
    {st : AddressSpaceOwner × (σ × List (Call ε))}
    (h : Released rest (log ++ [.returnFrame frame (.ok ())]) plan r st) :
    Released (rest ++ [frame]) log (Call.returnFrame frame :: plan) r st := by
  obtain ⟨calls, hlog, hfollows, hkept⟩ := h
  refine ⟨.returnFrame frame (.ok ()) :: calls, ?_, .next hfollows, ?_⟩
  · rw [hlog, append_assoc]
    rfl
  · rw [hkept, append_assoc, show returnedFrames (_ :: calls) =
      frame :: returnedFrames calls from rfl, reverse_cons]

theorem returnFrames_ends {passes : Nat} (owner : AddressSpaceOwner) (s : σ)
    (log : List (Call ε)) (hpasses : owner.ledger.frames.length ≤ passes) :
    (returnFrames B.logged passes).Ends (owner, (s, log))
      (fun _ st => st.1 = { owner with ledger := .new } ∧
        Released owner.ledger.frames log (owner.ledger.frames.reverse.map Call.returnFrame)
          (.ok ()) st)
      fun e st => ∃ b, e = .failed b ∧ st.1 = { owner with ledger := st.1.ledger } ∧
        Released owner.ledger.frames log (owner.ledger.frames.reverse.map Call.returnFrame)
          (.error b) st := by
  induction passes generalizing owner s log with
  | zero =>
    have hnil := length_eq_zero_iff.mp (Nat.le_zero.mp hpasses)
    have hreleased : Released _ log _ _ (owner, (s, log)) := released_nil hnil
    refine .pure ⟨by rw [← FrameLedger.eq_new hnil], ?_⟩
    rw [hnil] at hreleased ⊢
    exact hreleased
  | succ passes ih =>
    refine .bind (.self ?_)
    dsimp only
    rcases eq_nil_or_concat owner.ledger.frames with hnil | ⟨rest, frame, hframes⟩
    · have hreleased : Released _ log _ _ (owner, (s, log)) := released_nil hnil
      rw [hnil] at hreleased ⊢
      exact .pure ⟨by rw [← FrameLedger.eq_new hnil], hreleased⟩
    · rw [concat_eq_append] at hframes
      have hpop : owner.ledger.pop = ⟨rest⟩ := by
        unfold FrameLedger.pop
        rw [hframes, dropLast_concat]
      have hlen : rest.length ≤ passes := by
        rw [hframes, length_append, length_singleton] at hpasses
        omega
      rw [hframes, List.getLast?_concat, reverse_append, reverse_singleton,
        singleton_append, map_cons]
      dsimp only
      refine .bind (.onPart ?_)
      cases hresult : ((B.returnFrame frame).run s).1 with
      | error b =>
        refine .of_error (by rw [AddressSpaceBackend.logged, run_logged, hresult]) ?_
        refine ⟨b, rfl, rfl, _, rfl, .failed, ?_⟩
        rw [hframes]
        exact (append_nil _).symm
      | ok u =>
        refine .of_ok (by rw [AddressSpaceBackend.logged, run_logged, hresult]) ?_
        refine .bind (.update ?_)
        dsimp only
        rw [hpop]
        -- the rest of the loop runs on the shorter ledger and the longer log
        refine (ih { owner with ledger := ⟨rest⟩ } ((B.returnFrame frame).run s).2
          (log ++ [.returnFrame frame (.ok ())]) hlen).mono ?_ ?_
        · rintro _ st ⟨howner, hreleased⟩
          exact ⟨howner, hreleased.cons⟩
        · rintro _ st ⟨b, rfl, howner, hreleased⟩
          exact ⟨b, rfl, howner, hreleased.cons⟩

/-! ## The whole unwinding -/

/-- `m` makes the calls of the plan, and the ledger loses the frames taken back. After the last call
the owner is changed by `finish`. -/
def Unwinds (m : Method (AddressSpaceOwner × (σ × List (Call ε))) (Stop ε) Unit)
    (owner : AddressSpaceOwner) (plan : List (Except ε Unit → Call ε))
    (finish : AddressSpaceOwner → AddressSpaceOwner) : Prop :=
  ∀ s log, m.Ends (owner, (s, log))
    (fun _ st => st.1 = finish { owner with ledger := .new } ∧
      Released owner.ledger.frames log plan (.ok ()) st)
    fun e st => ∃ b, e = .failed b ∧ st.1 = { owner with ledger := st.1.ledger } ∧
      Released owner.ledger.frames log plan (.error b) st

theorem returnedFrames_append (calls calls' : List (Call ε)) :
    returnedFrames (calls ++ calls') = returnedFrames calls ++ returnedFrames calls' :=
  filterMap_append

/-- A plan without `return_frame`. -/
def KeepsFrames (plan : List (Except ε Unit → Call ε)) : Prop :=
  ∀ call ∈ plan, ∀ r, (call r).returned = none

theorem returnedFrames_of_keeps {plan : List (Except ε Unit → Call ε)} {calls : List (Call ε)}
    {r : Except ε Unit} (hkeeps : KeepsFrames plan) (h : Follows plan calls r) :
    returnedFrames calls = [] :=
  filterMap_eq_nil_iff.mpr (h.forall_mem hkeeps)

variable {m m' : Method (AddressSpaceOwner × (σ × List (Call ε))) (Stop ε) Unit}
  {owner : AddressSpaceOwner} {plan plan' : List (Except ε Unit → Call ε)}
  {finish : AddressSpaceOwner → AddressSpaceOwner}

/-- Calls that leave the owner alone can come first. -/
theorem Performs.unwinds (h : Performs m owner plan) (hkeeps : KeepsFrames plan)
    (h' : Unwinds m' owner plan' finish) :
    Unwinds (m >>= fun _ => m') owner (plan ++ plan') finish := by
  intro s log
  refine .bind ((h s log).mono ?_ ?_)
  · rintro _ _ ⟨s₁, calls₁, rfl, hfollows₁⟩
    have hnone := returnedFrames_of_keeps hkeeps hfollows₁
    refine (h' s₁ (log ++ calls₁)).mono ?_ ?_
    · rintro _ st ⟨howner, calls₂, hlog, hfollows₂, hkept⟩
      refine ⟨howner, calls₁ ++ calls₂, by rw [hlog, append_assoc],
        hfollows₁.append hfollows₂, ?_⟩
      rw [returnedFrames_append, hnone, nil_append]
      exact hkept
    · rintro _ st ⟨b, rfl, howner, calls₂, hlog, hfollows₂, hkept⟩
      refine ⟨b, rfl, howner, calls₁ ++ calls₂, by rw [hlog, append_assoc],
        hfollows₁.append hfollows₂, ?_⟩
      rw [returnedFrames_append, hnone, nil_append]
      exact hkept
  · rintro _ _ ⟨b, s₁, calls₁, rfl, rfl, hfollows₁⟩
    have hnone := returnedFrames_of_keeps hkeeps hfollows₁
    refine ⟨b, rfl, rfl, calls₁, rfl, hfollows₁.append_failed, ?_⟩
    rw [hnone]
    exact (append_nil _).symm

theorem unwinds_releaseFrames :
    Unwinds (releaseFrames B.logged) owner
      (Call.clearTemporaryWindow :: Call.verifyUnreachable owner.ledger.frames ::
        owner.ledger.frames.reverse.map Call.returnFrame) id := by
  have hreturn : Unwinds (returnFrames B.logged owner.ledger.frames.length) owner
      (owner.ledger.frames.reverse.map Call.returnFrame) id :=
    fun s log => returnFrames_ends owner s log le_rfl
  have hverify := (performs_call (m := B.verifyUnreachable owner.ledger.frames)
    (Call.verifyUnreachable owner.ledger.frames)).unwinds
      (show KeepsFrames [Call.verifyUnreachable owner.ledger.frames] by simp [KeepsFrames, Call.returned])
      hreturn
  have hread : Unwinds (self >>= fun s => onBackend (B.logged.verifyUnreachable
      s.1.ledger.frames) >>= fun _ => returnFrames B.logged s.1.ledger.frames.length) owner
      (Call.verifyUnreachable owner.ledger.frames ::
        owner.ledger.frames.reverse.map Call.returnFrame) id :=
    fun s log => .bind (.self (hverify s log))
  exact (performs_call (m := B.clearTemporaryWindow) Call.clearTemporaryWindow).unwinds
    (by simp [KeepsFrames, Call.returned]) hread

/-- The owner is changed at the end, but not its ledger. -/
theorem Unwinds.finished (h : Unwinds m owner plan id)
    (hledger : ∀ o, (finish o).ledger = o.ledger) :
    Unwinds (m >>= fun _ => update fun s => (finish s.1, s.2)) owner plan finish := by
  intro s log
  refine .bind ((h s log).mono ?_ fun _ _ he => he)
  rintro _ st ⟨howner, calls, hlog, hfollows, hkept⟩
  refine .update ⟨?_, calls, hlog, hfollows, ?_⟩
  · show finish st.1 = _
    rw [howner]
    rfl
  · show _ = (finish st.1).ledger.frames ++ _
    rw [hledger]
    exact hkept

theorem keepsFrames_removals (links : List InstalledLink) :
    KeepsFrames (ε := ε) (links.map fun l => Call.removeLink l.link l.parent l.child) := by
  intro call hcall r
  obtain ⟨l, _, rfl⟩ := mem_map.mp hcall
  rfl

/-- The calls from the shared entries of the root on. -/
theorem Unwinds.clearRoot (h : Unwinds m owner plan finish) (root : UInt64) :
    Unwinds (onBackend (B.logged.clearSharedEntries root) >>= fun _ => m) owner
      (Call.clearSharedEntries root :: plan) finish :=
  (performs_call (Call.clearSharedEntries root)).unwinds
    (by simp [KeepsFrames, Call.returned]) h

/-- What a completed rollback makes of the owner. -/
def retire (o : AddressSpaceOwner) : AddressSpaceOwner :=
  { o with generationLive := false, root := none, state := .dead }

/-- `rollback_owned_frames`, after `installed` links. -/
theorem unwinds_rollback {installed : Nat}
    (hlinks : ∀ link ∈ buildLinks.take installed, HasEnds owner.ledger link) :
    Unwinds (rollbackOwnedFrames B.logged installed) owner
      (unwinding owner.ledger.frames
        ((buildLinks.take installed).map (withFrames owner.ledger))) retire := by
  have hremove := performs_removeLinks (B := B) fun link hlink =>
    hlinks link (mem_reverse.mp hlink)
  have hrelease : Unwinds _ owner _ retire :=
    (unwinds_releaseFrames (B := B)).finished fun o => rfl
  unfold unwinding
  rw [← map_reverse]
  refine hremove.unwinds (keepsFrames_removals _) fun s log => .bind (.self ?_)
  cases hroot : owner.ledger.frameFor .root with
  | some root => exact hrelease.clearRoot root s log
  | none => exact hrelease s log

/-- `teardown_inactive`, of an address space with a root and all its links. -/
theorem unwinds_teardown {root : UInt64} (hroot : owner.ledger.frameFor .root = some root)
    (hlinks : ∀ link ∈ buildLinks, HasEnds owner.ledger link) :
    Unwinds (teardownInactive B.logged) owner
      (unwinding owner.ledger.frames (buildLinks.map (withFrames owner.ledger))) id := by
  have hremove := performs_removeLinks (B := B) fun link hlink =>
    hlinks link (mem_reverse.mp hlink)
  unfold unwinding
  rw [← map_reverse,
    show FrameLedger.frameFor ⟨owner.ledger.frames⟩ .root = some root from hroot]
  refine hremove.unwinds (keepsFrames_removals _) fun s log => ?_
  exact .bind (.of_ok (run_expectFrame hroot (s, log))
    ((unwinds_releaseFrames (B := B)).clearRoot root s log))

end MakopaVerified.AddressSpace
