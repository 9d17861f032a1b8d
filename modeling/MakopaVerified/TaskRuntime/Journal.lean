import MakopaVerified.TaskRuntime.Broker

/-!
# The fixed effect journal

`EffectRecordV1` and `EffectJournalV1` of `crates/task-runtime`: sixteen fixed records, a count of
committed ones and a reservation for the records that an open request may still need.
-/

namespace MakopaVerified.TaskRuntime

open Foundation

abbrev effectRecordSchemaVersion : UInt32 := 1
abbrev effectRecordByteSize : UInt32 := 128
abbrev effectJournalRecordCount : Nat := 16
abbrev effectJournalObjectGeneration : UInt64 := 1

inductive EffectEventKind where
  | requested | approved | denied | expired | completed | failed
  deriving DecidableEq, Repr

/-- The discriminant of an event kind, `event_kind as u32`. -/
def EffectEventKind.code : EffectEventKind → UInt32
  | requested => 1 | approved => 2 | denied => 3 | expired => 4 | completed => 5 | failed => 6

/-- `EffectRecordV1`. -/
structure EffectRecord where
  schemaVersion : UInt32
  byteSize : UInt32
  eventKind : UInt32
  status : UInt32
  recordSequence : UInt64
  decisionEpoch : UInt64
  principalId : UInt64
  actorTaskId : UInt64
  actorTaskGeneration : UInt64
  subjectTaskId : UInt64
  subjectTaskGeneration : UInt64
  requestSequence : UInt64
  actionId : UInt64
  capabilityObjectType : UInt32
  reservedZero : UInt32
  capabilityObjectId : UInt64
  capabilityObjectGeneration : UInt64
  capabilityRights : UInt64
  trailingReservedZero : UInt64
  deriving DecidableEq, Repr

namespace EffectRecord

/-- `EffectRecordV1::default()`. -/
def zero : EffectRecord where
  schemaVersion := 0
  byteSize := 0
  eventKind := 0
  status := 0
  recordSequence := 0
  decisionEpoch := 0
  principalId := 0
  actorTaskId := 0
  actorTaskGeneration := 0
  subjectTaskId := 0
  subjectTaskGeneration := 0
  requestSequence := 0
  actionId := 0
  capabilityObjectType := 0
  reservedZero := 0
  capabilityObjectId := 0
  capabilityObjectGeneration := 0
  capabilityRights := 0
  trailingReservedZero := 0

/-- `EffectRecordV1::event`. -/
def event (eventKind : EffectEventKind) (status : TrapStatus)
    (decisionEpoch actorTaskId actorTaskGeneration : UInt64) (request : ApprovalRequest)
    (capabilityObjectType : UInt32) (capabilityRights : UInt64) : EffectRecord where
  schemaVersion := effectRecordSchemaVersion
  byteSize := effectRecordByteSize
  eventKind := eventKind.code
  status := status.code32
  recordSequence := 0
  decisionEpoch := decisionEpoch
  principalId := request.principalId
  actorTaskId := actorTaskId
  actorTaskGeneration := actorTaskGeneration
  subjectTaskId := request.workloadTaskId
  subjectTaskGeneration := request.workloadGeneration
  requestSequence := request.sequence
  actionId := request.actionId
  capabilityObjectType := capabilityObjectType
  reservedZero := 0
  capabilityObjectId :=
    if capabilityObjectType = objectTypeTestEffect then request.effectObjectId
    else approvalBrokerObjectId
  capabilityObjectGeneration :=
    if capabilityObjectType = objectTypeTestEffect then request.effectObjectGeneration
    else fixedObjectGeneration
  capabilityRights := capabilityRights
  trailingReservedZero := 0

/-- Two `u32` fields packed in one word, the first in the low half. -/
def packWord (low high : UInt32) : UInt64 := low.toUInt64 ||| (high.toUInt64 <<< 32)

/-- `EffectRecordV1::word`. -/
def word (r : EffectRecord) (index : Nat) : Option UInt64 :=
  match index with
  | 0 => some (packWord r.schemaVersion r.byteSize)
  | 1 => some (packWord r.eventKind r.status)
  | 2 => some r.recordSequence
  | 3 => some r.decisionEpoch
  | 4 => some r.principalId
  | 5 => some r.actorTaskId
  | 6 => some r.actorTaskGeneration
  | 7 => some r.subjectTaskId
  | 8 => some r.subjectTaskGeneration
  | 9 => some r.requestSequence
  | 10 => some r.actionId
  | 11 => some (packWord r.capabilityObjectType r.reservedZero)
  | 12 => some r.capabilityObjectId
  | 13 => some r.capabilityObjectGeneration
  | 14 => some r.capabilityRights
  | 15 => some r.trailingReservedZero
  | _ => none

/-- The header and padding checks that `append_unreserved` and `validate` share. -/
def wellFormed (r : EffectRecord) : Prop :=
  r.schemaVersion = effectRecordSchemaVersion ∧ r.byteSize = effectRecordByteSize
    ∧ r.reservedZero = 0 ∧ r.trailingReservedZero = 0

instance (r : EffectRecord) : Decidable r.wellFormed := by
  unfold wellFormed; exact inferInstance

end EffectRecord

inductive EffectJournalState where
  | building | live | sealed | dead
  deriving DecidableEq, Repr

inductive EffectJournalError where
  | full | unavailable | invalidRecord | invariant
  deriving DecidableEq, Repr

/-- `EffectJournalV1`. -/
structure EffectJournal where
  state : EffectJournalState
  committedRecordCount : Nat
  reservedRecordCount : Nat
  reservedZero : Vector UInt8 5
  objectGeneration : UInt64
  nextRecordSequence : UInt64
  records : Vector EffectRecord effectJournalRecordCount
  deriving DecidableEq, Repr

namespace EffectJournal

/-- `EffectJournalV1::DEAD`. -/
def dead : EffectJournal where
  state := .dead
  committedRecordCount := 0
  reservedRecordCount := 0
  reservedZero := Vector.replicate 5 0
  objectGeneration := 0
  nextRecordSequence := 0
  records := Vector.replicate effectJournalRecordCount EffectRecord.zero

/-- `EffectJournalV1::building`. -/
def building : EffectJournal where
  state := .building
  committedRecordCount := 0
  reservedRecordCount := 0
  reservedZero := Vector.replicate 5 0
  objectGeneration := effectJournalObjectGeneration
  nextRecordSequence := 1
  records := Vector.replicate effectJournalRecordCount EffectRecord.zero

/-- The committed records in order. -/
def committed (j : EffectJournal) : List EffectRecord := j.records.toList.take j.committedRecordCount

/-- `EffectJournalV1::publish`. -/
def publish : Method EffectJournal EffectJournalError Unit := do
  let j ← Method.self
  if j.state ≠ .building then Method.fail .invariant
  else Method.update ({ · with state := .live })

/-- `EffectJournalV1::seal`. -/
def sealLive : Method EffectJournal EffectJournalError Unit := do
  let j ← Method.self
  if j.state ≠ .live ∨ j.reservedRecordCount ≠ 0 then Method.fail .unavailable
  else Method.update ({ · with state := .sealed })

/-- `EffectJournalV1::append_unreserved`. -/
def appendUnreserved (record : EffectRecord) : Method EffectJournal EffectJournalError Unit := do
  let j ← Method.self
  if j.committedRecordCount ≥ effectJournalRecordCount ∨ j.nextRecordSequence = 0 then
    Method.fail .full
  else if ¬ record.wellFormed ∨ record.recordSequence ≠ 0 then Method.fail .invariant
  else
    Method.update fun j =>
      { j with
        records := j.records.setIfInBounds j.committedRecordCount
          { record with recordSequence := j.nextRecordSequence }
        committedRecordCount := j.committedRecordCount + 1
        nextRecordSequence := (checkedAdd j.nextRecordSequence 1).getD 0 }

/-- `EffectJournalV1::begin_lifecycle`. -/
def beginLifecycle (record : EffectRecord) : Method EffectJournal EffectJournalError Unit := do
  let j ← Method.self
  if j.state ≠ .live then Method.fail .unavailable
  else if effectJournalRecordCount - (j.committedRecordCount + j.reservedRecordCount) < 3
      ∨ j.nextRecordSequence = 0 ∨ checkedAdd j.nextRecordSequence 2 = none then
    Method.fail .full
  else do
    appendUnreserved record
    Method.update ({ · with reservedRecordCount := 2 })

/-- `EffectJournalV1::append_reserved`. -/
def appendReserved (record : EffectRecord) (releaseUnused : Bool) :
    Method EffectJournal EffectJournalError Unit := do
  let j ← Method.self
  if j.state ≠ .live ∨ j.reservedRecordCount = 0 then Method.fail .unavailable
  else do
    Method.update fun j => { j with reservedRecordCount := j.reservedRecordCount - 1 }
    appendUnreserved record
    Method.update fun j => if releaseUnused then { j with reservedRecordCount := 0 } else j

/-- `EffectJournalV1::record`. -/
def record (j : EffectJournal) (sequence : UInt64) : Except EffectJournalError EffectRecord :=
  if ¬ (j.state = .live ∨ j.state = .sealed) then .error .unavailable
  else
    match checkedSub sequence 1 with
    | none => .error .invalidRecord
    | some value =>
      if value.toNat < j.committedRecordCount then
        match j.records[value.toNat]? with
        | none => .error .invariant
        | some record =>
          if record.recordSequence ≠ sequence then .error .invariant else .ok record
      else .error .invalidRecord

/-- `EffectJournalV1::read_triplet`. -/
def readTriplet (j : EffectJournal) (sequence triplet : UInt64) :
    Except EffectJournalError (UInt64 × UInt64 × UInt64) :=
  if triplet.toNat ≤ 5 then
    match j.record sequence with
    | .error e => .error e
    | .ok r =>
      .ok ((r.word (triplet.toNat * 3)).getD 0, (r.word (triplet.toNat * 3 + 1)).getD 0,
        (r.word (triplet.toNat * 3 + 2)).getD 0)
  else .error .invalidRecord

/-- The record loop of `EffectJournalV1::validate`, from the record at `index` on. -/
def checkRecords (committedCount : Nat) : Nat → List EffectRecord → Except EffectJournalError Unit
  | _, [] => .ok ()
  | index, r :: rest =>
    if index < committedCount then
      if ¬ r.wellFormed ∨ r.recordSequence ≠ UInt64.ofNat index + 1 then .error .invariant
      else checkRecords committedCount (index + 1) rest
    else if r ≠ EffectRecord.zero then .error .invariant
    else checkRecords committedCount (index + 1) rest

/-- `EffectJournalV1::validate`. -/
def validate (j : EffectJournal) : Except EffectJournalError Unit :=
  if j.state = .dead then
    if j = dead then .ok () else .error .invariant
  else if j.state = .building ∨ j.reservedZero ≠ Vector.replicate 5 0
      ∨ j.objectGeneration ≠ effectJournalObjectGeneration
      ∨ j.committedRecordCount > effectJournalRecordCount
      ∨ j.committedRecordCount + j.reservedRecordCount > effectJournalRecordCount
      ∨ j.reservedRecordCount > 2
      ∨ (j.state = .sealed ∧ j.reservedRecordCount ≠ 0) then
    .error .invariant
  else do
    checkRecords j.committedRecordCount 0 j.records.toList
    if j.nextRecordSequence ≠ UInt64.ofNat j.committedRecordCount + 1 then .error .invariant
    else .ok ()

end EffectJournal

end MakopaVerified.TaskRuntime
