import MakopaVerified.Admission.Binding

/-!
# The checks of a bundle and what they establish

Each part of `verify_bundle` that compares members with the records succeeds just when its members are
bound, and fails only with an error about format, key, signature, length or digest.
-/

namespace MakopaVerified.Admission

open Foundation

variable {P : Primitives} {inputs : BundleInputs} {admission : ComponentAdmission}
  {execution : ExecutionProfile} {build : BuildEvidence} {bytes digest : List UInt8}

/-! ## What the checks establish -/

theorem verifyDigest_eq_ok :
    verifyDigest P bytes digest = .ok () ↔ P.sha256 bytes = digest := by
  unfold verifyDigest
  rw [rejectIf_eq_ok, not_not]

theorem verifyBoundBytes_eq_ok {length : UInt64} :
    verifyBoundBytes P bytes length digest = .ok () ↔ Bound P bytes length.toNat digest := by
  unfold verifyBoundBytes
  rw [rejectIf_bind_eq_ok, not_not, verifyDigest_eq_ok]
  exact ⟨fun ⟨h₁, h₂⟩ => ⟨h₁, h₂⟩, fun ⟨h₁, h₂⟩ => ⟨h₁, h₂⟩⟩

theorem verifyLengthDigest_eq_ok {length : UInt32} :
    verifyLengthDigest P bytes length digest = .ok () ↔ Bound P bytes length.toNat digest := by
  unfold verifyLengthDigest
  rw [rejectIf_bind_eq_ok, not_not, verifyDigest_eq_ok]
  exact ⟨fun ⟨h₁, h₂⟩ => ⟨h₁, h₂⟩, fun ⟨h₁, h₂⟩ => ⟨h₁, h₂⟩⟩

theorem requireSize_eq_ok {expected : Nat} :
    requireSize bytes expected = .ok () ↔ bytes.length = expected := by
  unfold requireSize
  rw [rejectIf_eq_ok, not_not]

theorem length_of_parse (h : ComponentAdmission.parse inputs.admissionRecord = .ok admission) :
    inputs.admissionRecord.length = admissionBytes := by
  unfold ComponentAdmission.parse at h
  obtain ⟨h, -⟩ := unit_bind_eq_ok.mp h
  exact requireSize_eq_ok.mp h

theorem verifySignature_eq_ok (size : inputs.admissionRecord.length = admissionBytes) :
    verifySignature P inputs.admissionRecord inputs.detachedSignature inputs.publicKey
      admission.signingKeyId = .ok () ↔ Signed P inputs admission := by
  have message : signatureMessage inputs.admissionRecord =
      .ok (signatureDomain ++ inputs.admissionRecord) := by
    unfold signatureMessage
    rw [bind_of_ok (requireSize_eq_ok.mpr size)]
    rfl
  unfold verifySignature
  simp only [unit_bind_eq_ok, requireSize_eq_ok, rejectIf_eq_ok, bind_of_ok message, not_not,
    Bool.not_eq_true, Bool.not_eq_false]
  constructor
  · rintro ⟨h₁, h₂, h₃, h₄, h₅, h₆, h₇⟩
    exact ⟨h₁, h₂, h₃, h₄, h₅, h₆, h₇⟩
  · rintro ⟨h₁, h₂, h₃, h₄, h₅, h₆, h₇⟩
    exact ⟨h₁, h₂, h₃, h₄, h₅, h₆, h₇⟩

theorem verifyExecutable_eq_ok {executable : Option (List UInt8)} :
    verifyExecutable P admission executable = .ok () ↔ ExecutableBound P admission executable := by
  cases executable with
  | none =>
    unfold verifyExecutable
    rw [rejectIf_eq_ok, not_not]
    rfl
  | some bytes =>
    unfold verifyExecutable
    by_cases h : admission.targetExecutableLength ≠ 0
    · simp only [if_pos h, verifyBoundBytes_eq_ok]
      exact ⟨fun bound => ⟨h, bound⟩, fun bound => bound.2⟩
    · simp only [if_neg h]
      exact ⟨nofun, fun bound => absurd bound.1 h⟩

/-- The first part of `verify_bundle` returns the admission record just when its members are bound. -/
theorem verifyAdmission_eq_ok :
    verifyAdmission P inputs = .ok admission ↔ AdmissionBound P inputs admission := by
  unfold verifyAdmission
  rw [bind_eq_ok]
  constructor
  · rintro ⟨value, parsed, h⟩
    simp only [unit_bind_eq_ok, verifySignature_eq_ok (length_of_parse parsed),
      verifyBoundBytes_eq_ok, verifyExecutable_eq_ok, verifyDigest_eq_ok] at h
    obtain ⟨signed, component, executable, wit, profile, evidence, ⟨⟩⟩ := h
    exact ⟨parsed, signed, component, executable, wit, profile, evidence⟩
  · rintro ⟨parsed, signed, component, executable, wit, profile, evidence⟩
    refine ⟨admission, parsed, ?_⟩
    simp only [unit_bind_eq_ok, verifySignature_eq_ok (length_of_parse parsed),
      verifyBoundBytes_eq_ok, verifyExecutable_eq_ok, verifyDigest_eq_ok]
    exact ⟨signed, component, executable, wit, profile, evidence, rfl⟩

/-- The part on the execution profile returns it just when its members are bound and it is of the
profile that the admission record has. -/
theorem verifyExecution_eq_ok :
    verifyExecution P inputs admission = .ok execution ↔
      ExecutionBound P inputs execution ∧ execution.componentProfile = admission.componentProfile := by
  unfold verifyExecution
  rw [bind_eq_ok]
  simp only [unit_bind_eq_ok, rejectIf_eq_ok, verifyLengthDigest_eq_ok, not_not]
  constructor
  · rintro ⟨value, parsed, profile, triple, runtime, compiler, ⟨⟩⟩
    exact ⟨⟨parsed, triple, runtime, compiler⟩, profile⟩
  · rintro ⟨⟨parsed, triple, runtime, compiler⟩, profile⟩
    exact ⟨execution, parsed, profile, triple, runtime, compiler, rfl⟩

/-- The part on the build evidence returns it just when its members are bound. -/
theorem verifyBuild_eq_ok :
    verifyBuild P inputs = .ok build ↔ BuildBound P inputs build := by
  unfold verifyBuild
  rw [bind_eq_ok]
  simp only [unit_bind_eq_ok, verifyLengthDigest_eq_ok]
  constructor
  · rintro ⟨value, parsed, manifest, builder, transcript, lock, tools, ⟨⟩⟩
    exact ⟨parsed, manifest, builder, transcript, lock, tools⟩
  · rintro ⟨parsed, manifest, builder, transcript, lock, tools⟩
    exact ⟨build, parsed, manifest, builder, transcript, lock, tools, rfl⟩

/-- The records that an accepted bundle was checked with. -/
theorem verifyBundle_eq_ok {report : AdmissionReport} :
    verifyBundle P inputs = .ok report ↔ ∃ admission execution build,
      AdmissionBound P inputs admission ∧
      ExecutionBound P inputs execution ∧
      execution.componentProfile = admission.componentProfile ∧
      validateExecutionDocuments inputs = .ok () ∧
      BuildBound P inputs build ∧
      interpretBundle P inputs admission build = .ok report := by
  unfold verifyBundle
  simp only [bind_eq_ok, verifyAdmission_eq_ok, verifyExecution_eq_ok, verifyBuild_eq_ok]
  constructor
  · rintro ⟨admission, bound, execution, ⟨executionBound, profile⟩, ⟨⟩, documents, build, buildBound, h⟩
    exact ⟨admission, execution, build, bound, executionBound, profile, documents, buildBound, h⟩
  · rintro ⟨admission, execution, build, bound, executionBound, profile, documents, buildBound, h⟩
    exact ⟨admission, bound, execution, ⟨executionBound, profile⟩, (), documents, build, buildBound, h⟩

/-! ## How the checks fail -/

/-- An error that does not come from interpreting content. -/
abbrev OfFormat (e : AdmissionError) : Prop := ¬ e.FromContent

theorem arrayAt_fails {width offset : Nat} :
    FailsWith (arrayAt width bytes offset) OfFormat :=
  .okOr (by decide)

theorem u32At_fails {offset : Nat} :
    FailsWith (u32At bytes offset) OfFormat :=
  arrayAt_fails.map

theorem u64At_fails {offset : Nat} :
    FailsWith (u64At bytes offset) OfFormat :=
  arrayAt_fails.map

theorem requireSize_fails {expected : Nat} :
    FailsWith (requireSize bytes expected) OfFormat :=
  .rejectIf (by decide)

theorem parse_fails :
    FailsWith (ComponentAdmission.parse bytes) OfFormat ∧
      FailsWith (ExecutionProfile.parse bytes) OfFormat ∧
      FailsWith (BuildEvidence.parse bytes) OfFormat := by
  unfold ComponentAdmission.parse ComponentAdmission.validate ExecutionProfile.parse
    ExecutionProfile.validate BuildEvidence.parse BuildEvidence.validate
  refine ⟨requireSize_fails.bind fun _ _ => ?_, requireSize_fails.bind fun _ _ => ?_,
    requireSize_fails.bind fun _ _ => ?_⟩
  all_goals repeat' first
    | exact FailsWith.ok
    | exact u32At_fails
    | exact u64At_fails
    | exact arrayAt_fails
    | exact FailsWith.rejectIf (by decide)
    | refine FailsWith.bind ?_ fun _ _ => ?_

theorem verifyDigest_fails :
    FailsWith (verifyDigest P bytes digest) OfFormat :=
  .rejectIf (by decide)

theorem verifyBoundBytes_fails {length : UInt64} :
    FailsWith (verifyBoundBytes P bytes length digest) OfFormat :=
  .bind (.rejectIf (by decide)) fun _ _ => verifyDigest_fails

theorem verifyLengthDigest_fails {length : UInt32} :
    FailsWith (verifyLengthDigest P bytes length digest) OfFormat :=
  .bind (.rejectIf (by decide)) fun _ _ => verifyDigest_fails

theorem verifySignature_fails {record signature key keyId : List UInt8} :
    FailsWith (verifySignature P record signature key keyId) OfFormat := by
  unfold verifySignature signatureMessage
  refine requireSize_fails.bind fun _ _ => requireSize_fails.bind fun _ _ => ?_
  repeat' first
    | exact FailsWith.ok
    | exact requireSize_fails
    | exact FailsWith.rejectIf (by decide)
    | refine FailsWith.bind ?_ fun _ _ => ?_

theorem verifyExecutable_fails {executable : Option (List UInt8)} :
    FailsWith (verifyExecutable P admission executable) OfFormat := by
  cases executable with
  | none => exact .rejectIf (by decide)
  | some bytes =>
    unfold verifyExecutable
    dsimp only
    split
    · exact verifyBoundBytes_fails
    · exact .error (by decide)

theorem verifyAdmission_fails : FailsWith (verifyAdmission P inputs) OfFormat :=
  parse_fails.1.bind fun _ _ =>
    verifySignature_fails.bind fun _ _ =>
    verifyBoundBytes_fails.bind fun _ _ =>
    verifyExecutable_fails.bind fun _ _ =>
    verifyDigest_fails.bind fun _ _ =>
    verifyDigest_fails.bind fun _ _ =>
    verifyDigest_fails.bind fun _ _ => .ok

theorem verifyExecution_fails : FailsWith (verifyExecution P inputs admission) OfFormat :=
  parse_fails.2.1.bind fun _ _ =>
    FailsWith.bind (.rejectIf (by decide)) fun _ _ =>
    verifyLengthDigest_fails.bind fun _ _ =>
    verifyLengthDigest_fails.bind fun _ _ =>
    verifyLengthDigest_fails.bind fun _ _ => .ok

theorem verifyBuild_fails : FailsWith (verifyBuild P inputs) OfFormat :=
  parse_fails.2.2.bind fun _ _ =>
    verifyLengthDigest_fails.bind fun _ _ =>
    verifyLengthDigest_fails.bind fun _ _ =>
    verifyLengthDigest_fails.bind fun _ _ =>
    verifyLengthDigest_fails.bind fun _ _ =>
    verifyLengthDigest_fails.bind fun _ _ => .ok

end MakopaVerified.Admission
