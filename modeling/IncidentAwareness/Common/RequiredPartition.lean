import IncidentAwareness.Common.Python

/-!
# Required partitions

The contract that names the partitions a target host must deliver. The only
partition its model admits is the Sysmon channel, so a valid contract lists it
once.
-/

namespace IncidentAwareness.Common

/-- `R1RequiredPartition`: the one source and channel that its literals admit. -/
inductive R1RequiredPartition where
  | sysmonOperational
  deriving DecidableEq, Repr

namespace R1RequiredPartition

/-- `source`. -/
def source : R1RequiredPartition → String
  | .sysmonOperational => "sysmon"

/-- `source_channel`. -/
def sourceChannel : R1RequiredPartition → String
  | .sysmonOperational => "Microsoft-Windows-Sysmon/Operational"

end R1RequiredPartition

/-- `R1RequiredPartitionContract`. -/
structure R1RequiredPartitionContract where
  targetHost : Identifier
  requiredPartitions : List R1RequiredPartition
  requiredPartitions_ne_nil : requiredPartitions ≠ [] := by simp
  requiredPartitions_nodup : requiredPartitions.Nodup := by decide
  deriving Repr

instance : DecidableEq R1RequiredPartitionContract := fun a b =>
  decidable_of_iff (a.targetHost = b.targetHost ∧ a.requiredPartitions = b.requiredPartitions)
    (by cases a; cases b; simp)

namespace R1RequiredPartitionContract

/-- The `(source, source_channel)` pairs of the required partitions, in order. -/
def partitionIdentities (contract : R1RequiredPartitionContract) : List (String × String) :=
  contract.requiredPartitions.map fun p => (p.source, p.sourceChannel)

/-- A valid contract requires exactly the Sysmon channel. -/
theorem requiredPartitions_eq (contract : R1RequiredPartitionContract) :
    contract.requiredPartitions = [.sysmonOperational] := by
  have hnd := contract.requiredPartitions_nodup
  have hne := contract.requiredPartitions_ne_nil
  match h : contract.requiredPartitions with
  | [] => exact absurd h hne
  | [.sysmonOperational] => rfl
  | .sysmonOperational :: .sysmonOperational :: _ => simp [h] at hnd

end R1RequiredPartitionContract

end IncidentAwareness.Common
