import DeltaPartitions.Kernel.Native
import DeltaPartitions.Kernel.Types
import DeltaPartitions.Kernel.Predicate
import DeltaPartitions.Kernel.Evaluation
import DeltaPartitions.Partitions.Basic
import DeltaPartitions.Partitions.ScalarHelper
import DeltaPartitions.Partitions.Match
import DeltaPartitions.Partitions.Filter
import DeltaPartitions.Partitions.Diagnostics
import DeltaPartitions.Partitions.Hive
import DeltaPartitions.Partitions.KernelPredicate
import DeltaPartitions.Partitions.PushDown
