import ArenaThreads.Scenario.Logging
import ArenaThreads.Scenario.Run
import ArenaThreads.Scenario.Startup
import ArenaThreads.Proofs.Arena.Nesting
import ArenaThreads.Proofs.Arena.Accounting
import ArenaThreads.Proofs.Arena.Refusal
import ArenaThreads.Proofs.Allocator.Reallocation
import ArenaThreads.Proofs.Allocator.Interchange
import ArenaThreads.Proofs.Process.LiveMemory
import ArenaThreads.Proofs.Process.JoinHistory
import ArenaThreads.Proofs.Process.LifecycleTable
import ArenaThreads.Proofs.Process.FailedCreate
import ArenaThreads.Proofs.Process.RegistryHistory
import ArenaThreads.Proofs.Process.ContextIsolation
import ArenaThreads.Proofs.Process.MemoryOwnership
import ArenaThreads.Proofs.Process.WakeUps
import ArenaThreads.Proofs.Process.Reuse
import ArenaThreads.Proofs.Process.OwnStorage
import ArenaThreads.Proofs.Process.RegionLayout
import ArenaThreads.Proofs.Process.LaunchHistory
import ArenaThreads.Proofs.Process.ContextGuards
import ArenaThreads.Proofs.Process.StorageReuse
import ArenaThreads.Proofs.Log.Loudness
import ArenaThreads.Proofs.Size.Grammar
import ArenaThreads.Proofs.Size.Rounding
import ArenaThreads.Proofs.Size.Variables
import ArenaThreads.Proofs.Log.ConfiguredFile
import ArenaThreads.Proofs.Log.FirstStart
