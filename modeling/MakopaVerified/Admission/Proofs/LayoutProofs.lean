import MakopaVerified.Admission.Layout

/-!
# The fixed records have no slack bytes

Each read of a parser says that the field of the layout with that offset stands in the record. The fields
of a layout follow each other without a gap, so what a parser accepts is the serialisation of what it
returns, and it returns what it accepts a serialisation of.
-/

namespace MakopaVerified.Admission

open Foundation List

variable {bytes : List UInt8} {offset : Nat}

/-! ## What the reads say -/

theorem arrayAt_eq_ok {width : Nat} {part : List UInt8} (positive : 0 < width) :
    arrayAt width bytes offset = .ok part ↔
      part.length = width ∧ Field.StandsIn bytes ⟨offset, part⟩ := by
  unfold arrayAt
  rw [okOr_eq_ok, getRange_eq_some_iff positive]

/-- A number that is read is the one whose bytes stand there. -/
theorem map_arrayAt_eq_ok {α : Type} {width : Nat} {ofNat : Nat → α} {toNat : α → Nat} {value : α}
    (positive : 0 < width) (small : toNat value < 256 ^ width) (back : ofNat (toNat value) = value)
    (forth : ∀ n < 256 ^ width, toNat (ofNat n) = n) :
    ((arrayAt width bytes offset).map fun part => ofNat (fromLe part)) = .ok value ↔
      Field.StandsIn bytes ⟨offset, toLe width (toNat value)⟩ := by
  simp only [map_eq_ok, arrayAt_eq_ok positive]
  constructor
  · rintro ⟨part, ⟨rfl, stands⟩, rfl⟩
    rw [forth _ (fromLe_lt part), toLe_fromLe]
    exact stands
  · intro stands
    refine ⟨_, ⟨length_toLe _ _, stands⟩, ?_⟩
    rw [fromLe_toLe small, back]

theorem u32At_eq_ok {value : UInt32} :
    u32At bytes offset = .ok value ↔ Field.StandsIn bytes (u32Field offset value) :=
  map_arrayAt_eq_ok (by decide) value.toNat_lt UInt32.ofNat_toNat
    fun _ => UInt32.toNat_ofNat_of_lt'

theorem u64At_eq_ok {value : UInt64} :
    u64At bytes offset = .ok value ↔ Field.StandsIn bytes (u64Field offset value) :=
  map_arrayAt_eq_ok (by decide) value.toNat_lt UInt64.ofNat_toNat
    fun _ => UInt64.toNat_ofNat_of_lt'

theorem eq_replicate_of_isZero (h : isZero bytes = true) :
    bytes = List.replicate bytes.length 0 := by
  rw [eq_replicate_iff]
  refine ⟨rfl, fun byte mem => ?_⟩
  exact of_decide_eq_true (all_eq_true.mp h byte mem)

/-- The slice of reserved bytes is zero just when the zeros stand there. -/
theorem isZero_slice_iff {width : Nat} (inside : offset + width ≤ bytes.length) :
    isZero ((bytes.drop offset).take width) = true ↔
      Field.StandsIn bytes (zeroField offset width) := by
  have length : ((bytes.drop offset).take width).length = width := by
    rw [length_take, length_drop]
    omega
  unfold Field.StandsIn zeroField
  rw [length_replicate]
  constructor
  · intro zero
    have := eq_replicate_of_isZero zero
    rwa [length] at this
  · intro stands
    rw [stands, isZero, all_eq_true]
    intro byte mem
    exact decide_eq_true (eq_of_mem_replicate mem)

/-- A field with a fixed value is read as that value. -/
theorem u32At_of_rejectIf {value expected : UInt32} {e : AdmissionError} {u : Unit}
    (read : u32At bytes offset = .ok value) (checked : rejectIf (value ≠ expected) e = .ok u) :
    u32At bytes offset = .ok expected := by
  rw [read, not_not.mp (rejectIf_eq_ok.mp checked)]

/-! ## The admission record -/

namespace ComponentAdmission

variable {a : ComponentAdmission}

theorem gapless_layout (sized : a.Sized) : Gapless 0 a.layout := by
  simp [layout, Gapless, u32Field, u64Field, zeroField, keyIdBytes, sized.portableArtifactSha256,
    sized.targetExecutableSha256, sized.witPackageSha256, sized.executionProfileSha256,
    sized.buildEvidenceSha256, sized.signingKeyId]

theorem length_serialise (sized : a.Sized) : a.serialise.length = admissionBytes := by
  simp [serialise, layout, joinFields, u32Field, u64Field, zeroField, admissionBytes, keyIdBytes,
    sized.portableArtifactSha256, sized.targetExecutableSha256, sized.witPackageSha256,
    sized.executionProfileSha256, sized.buildEvidenceSha256, sized.signingKeyId]

/-- What is read are the fields of the layout. -/
theorem parse_returns : Returns (ComponentAdmission.parse bytes) fun a =>
    a.Sized ∧ a.validate = .ok () ∧
      bytes.length = admissionBytes ∧ ∀ field ∈ a.layout, field.StandsIn bytes := by
  unfold ComponentAdmission.parse requireSize
  refine .bind fun _ size => .bind fun _ f0 => .bind fun _ schema => .bind fun _ f4 =>
    .bind fun _ byteSize => .bind fun _ reserved => ?_
  refine .bind fun _ f8 => .bind fun _ f16 => .bind fun _ f20 => .bind fun _ f24 => .bind fun _ f28 =>
    .bind fun _ f32 => .bind fun _ f40 => .bind fun _ f48 => .bind fun _ f80 => .bind fun _ f112 =>
    .bind fun _ f144 => .bind fun _ f176 => .bind fun _ f208 => .bind fun _ f216 =>
    .bind fun _ f224 => .bind fun _ f232 => .bind fun _ f236 => .bind fun _ f240 =>
    .bind fun _ f244 => .bind fun _ f248 => .bind fun _ f252 => .bind fun _ f264 => ?_
  refine .bind fun _ f256 => .bind fun _ scheme => .bind fun _ f260 => .bind fun _ signature =>
    .bind fun _ valid => .ok ?_
  replace size := not_not.mp (rejectIf_eq_ok.mp size)
  have inside : 280 + 8 ≤ bytes.length := size.ge
  have zero := Bool.eq_true_of_not_eq_false (rejectIf_eq_ok.mp reserved)
  rw [arrayAt_eq_ok (by decide)] at f48 f80 f112 f144 f176 f264
  refine ⟨⟨f48.1, f80.1, f112.1, f144.1, f176.1, f264.1⟩, valid, size, ?_⟩
  simp only [layout, forall_mem_cons, ← u32At_eq_ok, ← u64At_eq_ok]
  exact ⟨u32At_of_rejectIf f0 schema, u32At_of_rejectIf f4 byteSize, f8, f16, f20, f24, f28, f32, f40,
    f48.2, f80.2, f112.2, f144.2, f176.2, f208, f216, f224, f232, f236, f240, f244, f248, f252,
    u32At_of_rejectIf f256 scheme, u32At_of_rejectIf f260 signature, f264.2,
    (isZero_slice_iff inside).mp zero, nofun⟩

/-- A record with these fields is accepted. -/
theorem parse_of_layout (sized : a.Sized) (valid : a.validate = .ok ())
    (size : bytes.length = admissionBytes) (fields : ∀ field ∈ a.layout, field.StandsIn bytes) :
    ComponentAdmission.parse bytes = .ok a := by
  unfold ComponentAdmission.parse requireSize
  simp only [bind_eq_ok, rejectIf_eq_ok, not_not, Bool.not_eq_false, u32At_eq_ok, u64At_eq_ok,
    arrayAt_eq_ok (show 0 < 32 by decide), arrayAt_eq_ok (show 0 < 16 by decide)]
  simp only [layout, forall_mem_cons] at fields
  obtain ⟨f0, f4, f8, f16, f20, f24, f28, f32, f40, f48, f80, f112, f144, f176, f208, f216, f224,
    f232, f236, f240, f244, f248, f252, f256, f260, f264, f280, -⟩ := fields
  have inside : 280 + 8 ≤ bytes.length := size.ge
  exact ⟨(), size, 1, f0, (), rfl, _, f4, (), rfl, (), (isZero_slice_iff inside).mpr f280, _, f8,
    _, f16, _, f20, _, f24, _, f28, _, f32, _, f40,
    _, ⟨sized.portableArtifactSha256, f48⟩, _, ⟨sized.targetExecutableSha256, f80⟩,
    _, ⟨sized.witPackageSha256, f112⟩, _, ⟨sized.executionProfileSha256, f144⟩,
    _, ⟨sized.buildEvidenceSha256, f176⟩, _, f208, _, f216, _, f224, _, f232, _, f236, _, f240,
    _, f244, _, f248, _, f252, _, ⟨sized.signingKeyId, f264⟩, _, f256, (), rfl, _, f260, (), rfl,
    (), valid, rfl⟩

end ComponentAdmission

/-! ## The execution profile -/

namespace ExecutionProfile

variable {e : ExecutionProfile}

theorem gapless_layout (sized : e.Sized) : Gapless 0 e.layout := by
  simp [layout, Gapless, u32Field, u64Field, zeroField, sized.targetTripleSha256,
    sized.runtimeConfigurationSha256, sized.compilerConfigurationSha256]

theorem length_serialise (sized : e.Sized) : e.serialise.length = executionProfileBytes := by
  simp [serialise, layout, joinFields, u32Field, u64Field, zeroField, executionProfileBytes,
    sized.targetTripleSha256, sized.runtimeConfigurationSha256, sized.compilerConfigurationSha256]

/-- What is read are the fields of the layout. -/
theorem parse_returns : Returns (ExecutionProfile.parse bytes) fun e =>
    e.Sized ∧ e.validate = .ok () ∧
      bytes.length = executionProfileBytes ∧ ∀ field ∈ e.layout, field.StandsIn bytes := by
  unfold ExecutionProfile.parse requireSize
  refine .bind fun _ size => .bind fun _ f0 => .bind fun _ schema => .bind fun _ f4 =>
    .bind fun _ byteSize => .bind fun _ f100 => .bind fun _ reserved => ?_
  refine .bind fun _ f8 => .bind fun _ f12 => .bind fun _ f16 => .bind fun _ f20 => .bind fun _ f24 =>
    .bind fun _ f28 => .bind fun _ f32 => .bind fun _ f36 => .bind fun _ f40 => .bind fun _ f44 =>
    .bind fun _ f48 => .bind fun _ f52 => .bind fun _ f56 => .bind fun _ f60 => .bind fun _ f64 =>
    .bind fun _ f72 => .bind fun _ f80 => .bind fun _ f88 => .bind fun _ f92 => .bind fun _ f96 =>
    .bind fun _ f104 => .bind fun _ f136 => .bind fun _ f168 => .bind fun _ valid => .ok ?_
  replace size := not_not.mp (rejectIf_eq_ok.mp size)
  have inside : 200 + 24 ≤ bytes.length := size.ge
  obtain ⟨zero100, zero⟩ := not_or.mp (rejectIf_eq_ok.mp reserved)
  rw [not_not.mp zero100] at f100
  rw [arrayAt_eq_ok (by decide)] at f104 f136 f168
  refine ⟨⟨f104.1, f136.1, f168.1⟩, valid, size, ?_⟩
  simp only [layout, forall_mem_cons, ← u32At_eq_ok, ← u64At_eq_ok]
  exact ⟨u32At_of_rejectIf f0 schema, u32At_of_rejectIf f4 byteSize, f8, f12, f16, f20, f24, f28, f32,
    f36, f40, f44, f48, f52, f56, f60, f64, f72, f80, f88, f92, f96, f100, f104.2, f136.2, f168.2,
    (isZero_slice_iff inside).mp (Bool.eq_true_of_not_eq_false zero), nofun⟩

/-- A record with these fields is accepted. -/
theorem parse_of_layout (sized : e.Sized) (valid : e.validate = .ok ())
    (size : bytes.length = executionProfileBytes) (fields : ∀ field ∈ e.layout, field.StandsIn bytes) :
    ExecutionProfile.parse bytes = .ok e := by
  unfold ExecutionProfile.parse requireSize
  simp only [bind_eq_ok, rejectIf_eq_ok, not_or, not_not, Bool.not_eq_false, u32At_eq_ok, u64At_eq_ok,
    arrayAt_eq_ok (show 0 < 32 by decide)]
  simp only [layout, forall_mem_cons] at fields
  obtain ⟨f0, f4, f8, f12, f16, f20, f24, f28, f32, f36, f40, f44, f48, f52, f56, f60, f64, f72, f80,
    f88, f92, f96, f100, f104, f136, f168, f200, -⟩ := fields
  have inside : 200 + 24 ≤ bytes.length := size.ge
  exact ⟨(), size, 1, f0, (), rfl, _, f4, (), rfl, 0, f100,
    (), ⟨rfl, (isZero_slice_iff inside).mpr f200⟩, _, f8, _, f12, _, f16, _, f20, _, f24, _, f28,
    _, f32, _, f36, _, f40, _, f44, _, f48, _, f52, _, f56, _, f60, _, f64, _, f72, _, f80, _, f88,
    _, f92, _, f96, _, ⟨sized.targetTripleSha256, f104⟩, _, ⟨sized.runtimeConfigurationSha256, f136⟩,
    _, ⟨sized.compilerConfigurationSha256, f168⟩, (), valid, rfl⟩

end ExecutionProfile

/-! ## The build evidence -/

namespace BuildEvidence

variable {b : BuildEvidence}

theorem gapless_layout (sized : b.Sized) : Gapless 0 b.layout := by
  simp [layout, Gapless, u32Field, zeroField, sized.sourceRevisionSha256, sized.builderIdentitySha256,
    sized.commandTranscriptSha256, sized.dependencyLockSha256, sized.toolVersionSha256]

theorem length_serialise (sized : b.Sized) : b.serialise.length = buildEvidenceBytes := by
  simp [serialise, layout, joinFields, u32Field, zeroField, buildEvidenceBytes,
    sized.sourceRevisionSha256, sized.builderIdentitySha256, sized.commandTranscriptSha256,
    sized.dependencyLockSha256, sized.toolVersionSha256]

/-- What is read are the fields of the layout. -/
theorem parse_returns : Returns (BuildEvidence.parse bytes) fun b =>
    b.Sized ∧ b.validate = .ok () ∧
      bytes.length = buildEvidenceBytes ∧ ∀ field ∈ b.layout, field.StandsIn bytes := by
  unfold BuildEvidence.parse requireSize
  refine .bind fun _ size => .bind fun _ f0 => .bind fun _ schema => .bind fun _ f4 =>
    .bind fun _ byteSize => .bind fun _ f44 => .bind fun _ reserved => ?_
  refine .bind fun _ f8 => .bind fun _ f12 => .bind fun _ f16 => .bind fun _ f20 => .bind fun _ f24 =>
    .bind fun _ f28 => .bind fun _ f32 => .bind fun _ f36 => .bind fun _ f40 => .bind fun _ f48 =>
    .bind fun _ f80 => .bind fun _ f112 => .bind fun _ f144 => .bind fun _ f176 =>
    .bind fun _ valid => .ok ?_
  replace size := not_not.mp (rejectIf_eq_ok.mp size)
  have inside : 208 + 48 ≤ bytes.length := size.ge
  obtain ⟨zero44, zero⟩ := not_or.mp (rejectIf_eq_ok.mp reserved)
  rw [not_not.mp zero44] at f44
  rw [arrayAt_eq_ok (by decide)] at f48 f80 f112 f144 f176
  refine ⟨⟨f48.1, f80.1, f112.1, f144.1, f176.1⟩, valid, size, ?_⟩
  simp only [layout, forall_mem_cons, ← u32At_eq_ok]
  exact ⟨u32At_of_rejectIf f0 schema, u32At_of_rejectIf f4 byteSize, f8, f12, f16, f20, f24, f28, f32,
    f36, f40, f44, f48.2, f80.2, f112.2, f144.2, f176.2,
    (isZero_slice_iff inside).mp (Bool.eq_true_of_not_eq_false zero), nofun⟩

/-- A record with these fields is accepted. -/
theorem parse_of_layout (sized : b.Sized) (valid : b.validate = .ok ())
    (size : bytes.length = buildEvidenceBytes) (fields : ∀ field ∈ b.layout, field.StandsIn bytes) :
    BuildEvidence.parse bytes = .ok b := by
  unfold BuildEvidence.parse requireSize
  simp only [bind_eq_ok, rejectIf_eq_ok, not_or, not_not, Bool.not_eq_false, u32At_eq_ok,
    arrayAt_eq_ok (show 0 < 32 by decide)]
  simp only [layout, forall_mem_cons] at fields
  obtain ⟨f0, f4, f8, f12, f16, f20, f24, f28, f32, f36, f40, f44, f48, f80, f112, f144, f176,
    f208, -⟩ := fields
  have inside : 208 + 48 ≤ bytes.length := size.ge
  exact ⟨(), size, 1, f0, (), rfl, _, f4, (), rfl, 0, f44,
    (), ⟨rfl, (isZero_slice_iff inside).mpr f208⟩, _, f8, _, f12, _, f16, _, f20, _, f24, _, f28,
    _, f32, _, f36, _, f40, _, ⟨sized.sourceRevisionSha256, f48⟩,
    _, ⟨sized.builderIdentitySha256, f80⟩, _, ⟨sized.commandTranscriptSha256, f112⟩,
    _, ⟨sized.dependencyLockSha256, f144⟩, _, ⟨sized.toolVersionSha256, f176⟩, (), valid, rfl⟩

end BuildEvidence

/-! ## No slack -/

/-- A parser has no slack if it reads the fields of a layout without gaps and accepts whatever has
them. -/
theorem NoSlack.of_fields {α : Type} {parse : List UInt8 → Except AdmissionError α}
    {validate : α → Except AdmissionError Unit} {Sized : α → Prop} {layout : α → List Field} {size : Nat}
    (gapless : ∀ value, Sized value → Gapless 0 (layout value))
    (length : ∀ value, Sized value → (joinFields (layout value)).length = size)
    (returns : ∀ bytes, Returns (parse bytes) fun value => Sized value ∧ validate value = .ok () ∧
      bytes.length = size ∧ ∀ field ∈ layout value, field.StandsIn bytes)
    (accepts : ∀ bytes value, Sized value → validate value = .ok () → bytes.length = size →
      (∀ field ∈ layout value, field.StandsIn bytes) → parse bytes = .ok value) :
    NoSlack parse validate Sized layout size := by
  have written : ∀ bytes value, parse bytes = .ok value → bytes = joinFields (layout value) := by
    intro bytes value parsed
    obtain ⟨sized, -, fits, fields⟩ := returns bytes value parsed
    rw [← length value sized] at fits
    exact (eq_joinFields_iff (gapless value sized)).mpr ⟨fits, fields⟩
  refine ⟨written, fun value sized valid => ?_, fun bytes bytes' value parsed parsed' => ?_,
    fun value sized => ⟨gapless value sized, length value sized⟩⟩
  · exact accepts _ value sized valid (length value sized)
      ((eq_joinFields_iff (gapless value sized)).mp rfl).2
  · rw [written bytes value parsed, written bytes' value parsed']

/-- The parsers of the three records accept exactly the serialisations of the values that pass their
rules, so that no byte of a record is without a meaning. -/
theorem records_without_slack :
    NoSlack ComponentAdmission.parse ComponentAdmission.validate ComponentAdmission.Sized
      ComponentAdmission.layout admissionBytes ∧
    NoSlack ExecutionProfile.parse ExecutionProfile.validate ExecutionProfile.Sized
      ExecutionProfile.layout executionProfileBytes ∧
    NoSlack BuildEvidence.parse BuildEvidence.validate BuildEvidence.Sized
      BuildEvidence.layout buildEvidenceBytes :=
  ⟨.of_fields (fun _ => ComponentAdmission.gapless_layout)
      (fun _ => ComponentAdmission.length_serialise) (fun _ => ComponentAdmission.parse_returns)
      fun _ _ => ComponentAdmission.parse_of_layout,
    .of_fields (fun _ => ExecutionProfile.gapless_layout)
      (fun _ => ExecutionProfile.length_serialise) (fun _ => ExecutionProfile.parse_returns)
      fun _ _ => ExecutionProfile.parse_of_layout,
    .of_fields (fun _ => BuildEvidence.gapless_layout) (fun _ => BuildEvidence.length_serialise)
      (fun _ => BuildEvidence.parse_returns) fun _ _ => BuildEvidence.parse_of_layout⟩

/-! One record of each kind, its fields in the order of the source. -/

def shortDigest (byte : UInt8) : List UInt8 := List.replicate 32 byte

def shortAdmission : ComponentAdmission :=
  ⟨7, 1, 0, 0, 0, 4096, 0, shortDigest 1, shortDigest 0, shortDigest 2, shortDigest 3,
    shortDigest 4, 65536, 4096, 1000, 1, 1, 0, 0, 1, 64, List.replicate 16 5⟩

def shortProfile : ExecutionProfile :=
  ⟨1, 2, 1, (48, 0, 1), 1, (48, 0, 1), 0, 0, 0, 0, 1, 1, 0, 19, 300, 20, shortDigest 1,
    shortDigest 2, shortDigest 3⟩

def shortEvidence : BuildEvidence :=
  ⟨1, 1, 600, 2, 12, 70000, 8, 1, 1, shortDigest 1, shortDigest 2, shortDigest 3, shortDigest 4,
    shortDigest 5⟩

/-- They are read back. -/
theorem short_records_read :
    ComponentAdmission.parse (joinFields shortAdmission.layout) = .ok shortAdmission ∧
      ExecutionProfile.parse (joinFields shortProfile.layout) = .ok shortProfile ∧
      BuildEvidence.parse (joinFields shortEvidence.layout) = .ok shortEvidence :=
  ⟨records_without_slack.1.read _ ⟨rfl, rfl, rfl, rfl, rfl, rfl⟩ (by decide +kernel),
    records_without_slack.2.1.read _ ⟨rfl, rfl, rfl⟩ (by decide +kernel),
    records_without_slack.2.2.read _ ⟨rfl, rfl, rfl, rfl, rfl⟩ (by decide +kernel)⟩

end MakopaVerified.Admission
