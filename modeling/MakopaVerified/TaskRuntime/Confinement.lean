import MakopaVerified.TaskRuntime.Kernel
import MakopaVerified.TaskRuntime.Effects

/-!
# What a task may ever do

A capability entry without its owner is a grant: an object of some type and rights to it. This file
lists the grants that each profile starts its tasks with, what one call of the kernel can do to a
table, and what it means that the tables of a runtime stay within those grants.
-/

namespace MakopaVerified.TaskRuntime

/-- Rights to an object. -/
structure Grant where
  objectType : UInt32
  object : ObjectReference
  rights : UInt64
  deriving DecidableEq, Repr

namespace Grant

/-- The same object with no further right. -/
structure Within (g g₀ : Grant) : Prop where
  objectType : g.objectType = g₀.objectType
  object : g.object = g₀.object
  rights : g.rights &&& ~~~g₀.rights = 0

/-- The entry of a table's owner for a grant. -/
def entry (g : Grant) (t : CapabilityTable) : CapabilityEntry where
  taskId := t.taskId
  taskGeneration := t.taskGeneration
  objectType := g.objectType
  rights := g.rights
  object := g.object

/-- The endpoint, to send and to duplicate. -/
def send : Grant where
  objectType := objectTypeEndpoint
  object := { id := endpointId, generation := endpointGeneration }
  rights := capabilityRightSend ||| capabilityRightDuplicate

/-- The endpoint, to receive. -/
def receive : Grant := { send with rights := capabilityRightReceive }

/-- An object of the supervised profiles. -/
def fixed (objectType : UInt32) (objectId rights : UInt64) : Grant where
  objectType := objectType
  object := { id := objectId, generation := fixedObjectGeneration }
  rights := rights

/-- The broker, to submit a request: the one route of the workload's manifest. -/
def submit : Grant :=
  fixed objectTypeApprovalBroker approvalBrokerObjectId capabilityRightSubmitApproval

/-- What the supervisor is started with. -/
def supervisor : List Grant :=
  [fixed objectTypeTaskControl taskControlObjectId capabilityRightStart,
    fixed objectTypeApprovalBroker approvalBrokerObjectId capabilityRightDecideApproval,
    fixed objectTypeTestEffect testEffectObjectId capabilityRightCommitEffect]

/-- The journal, to read it. -/
def journal : Grant where
  objectType := objectTypeEffectJournal
  object := { id := effectJournalObjectId, generation := effectJournalObjectGeneration }
  rights := capabilityRightReadEffectJournal

end Grant

/-- What the supervisor of a profile is started with. -/
def KernelRuntimeKind.supervisorGrants : KernelRuntimeKind → List Grant
  | .cooperative => []
  | .supervised => Grant.supervisor
  | .journaled => Grant.supervisor ++ [Grant.journal]

namespace CapabilityEntry

/-- The grant of an entry. -/
def grant (entry : CapabilityEntry) : Grant where
  objectType := entry.objectType
  object := entry.object
  rights := entry.rights

end CapabilityEntry

namespace CapabilityTable

/-- The grants of the entries in a table, in slot order. -/
def grants (t : CapabilityTable) : List Grant :=
  t.slots.toList.filterMap fun slot => slot.entry.map CapabilityEntry.grant

/-- The table holds nothing, and no word resolves in it for any claimed owner. -/
structure Inert (t : CapabilityTable) : Prop where
  grants : t.grants = []
  resolves : ∀ task gen raw objectType right,
    ∃ status, t.resolveTyped task gen raw objectType right = .error status

/-- Whatever `t'` holds is within something that `t` holds. -/
def Attenuates (t t' : CapabilityTable) : Prop := ∀ g ∈ t'.grants, ∃ g₀ ∈ t.grants, g.Within g₀

/-- What one call of the kernel can do to a table that is in use. -/
inductive Change (t : CapabilityTable) : CapabilityTable → Prop where
  | kept : Change t t
  | duplicated {requested : UInt64} {t' : CapabilityTable} (change : Duplicated requested t t') :
      Change t t'
  | closed {t' : CapabilityTable} (change : Closed t t') : Change t t'
  | released : Change t t.closed
  | buried : Change t dead

end CapabilityTable

/-- A launch: the staged workload gets its route. -/
structure Launch (rt rt' : Runtime) : Prop where
  supervised : rt.profile = .supervised
  staged : rt.task1.state = .staged
  table : CapabilityTable.Launched rt.task1.capabilities rt'.task1.capabilities

/-- What one call of the kernel can do to the tables of a runtime. -/
structure TableChanges (rt rt' : Runtime) : Prop where
  first : rt.task0.capabilities.Change rt'.task0.capabilities
  second : rt.task1.capabilities.Change rt'.task1.capabilities ∨ Launch rt rt'

/-- The tables stay within what the tasks of the profile are started with. -/
structure Confined (kind : KernelRuntimeKind) (rt : Runtime) : Prop where
  sender : kind = .cooperative → ∀ g ∈ rt.task0.capabilities.grants,
    g.Within Grant.send ∧ g.rights ≠ 0
  receiver : kind = .cooperative → ∀ g ∈ rt.task1.capabilities.grants, g = Grant.receive
  supervisor : kind ≠ .cooperative → rt.task0.capabilities.grants ⊆ kind.supervisorGrants ∧
    rt.task0.capabilities.grants.Nodup
  staged : kind ≠ .cooperative → rt.task1.state = .staged → rt.task1.capabilities.grants = []
  workload : kind ≠ .cooperative →
    rt.task1.capabilities.grants = [] ∨ rt.task1.capabilities.grants = [Grant.submit]
  inert : ∀ task, KnownTask task → (rt.slotOf task).capabilities.state ≠ .live →
    (rt.slotOf task).capabilities.Inert

end MakopaVerified.TaskRuntime
