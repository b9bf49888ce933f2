import Whitebox.Collection.Association
import Whitebox.Collection.PartialSort
import Whitebox.Collection.Selection
import Whitebox.Common.Waiters
import Whitebox.Compute.BlockDevices
import Whitebox.Compute.Collocation
import Whitebox.Compute.ConfigAllComputes
import Whitebox.Compute.CpuMask
import Whitebox.Compute.CpuState
import Whitebox.Compute.DomainDevices
import Whitebox.Compute.DomainShutdown
import Whitebox.Compute.EmulatorThreads
import Whitebox.Compute.Evacuation
import Whitebox.Compute.FixtureCleanups
import Whitebox.Compute.Fixtures
import Whitebox.Compute.GuestTuning
import Whitebox.Compute.HostCpuSets
import Whitebox.Compute.Hugepages
import Whitebox.Compute.HyperV
import Whitebox.Compute.LiveMigration
import Whitebox.Compute.MixedPolicy
import Whitebox.Compute.NumaAffinity
import Whitebox.Compute.NumaHelper
import Whitebox.Compute.NumaMigration
import Whitebox.Compute.NumaTopology
import Whitebox.Compute.PciDevices
import Whitebox.Compute.PortAttachment
import Whitebox.Compute.RealtimeCpu
import Whitebox.Compute.ScsiDisks
import Whitebox.Compute.ServerPinning
import Whitebox.Compute.Siblings
import Whitebox.Compute.SriovMigration
import Whitebox.Compute.ThreadPolicy
import Whitebox.Compute.VgpuGuest
import Whitebox.Compute.VgpuMigration
import Whitebox.Compute.VgpuProviders
import Whitebox.Effect.Bounded
import Whitebox.Effect.ContextManager
import Whitebox.Effect.Dialogue
import Whitebox.Effect.Fallible
import Whitebox.Effect.Family
import Whitebox.Effect.Loop
import Whitebox.Effect.Run
import Whitebox.Effect.Trace
import Whitebox.Effect.Triple
import Whitebox.Effect.Writes
import Whitebox.Hardware.CpuSpec
import Whitebox.Hardware.FormatCpuSpec
import Whitebox.Posix.Regex
import Whitebox.Posix.Shell
import Whitebox.Python.ElementTree
import Whitebox.Python.Float
import Whitebox.Python.Int
import Whitebox.Python.Text
import Whitebox.Services.CommandLine
import Whitebox.Services.ConfigOptions
import Whitebox.Services.DatabaseClient
import Whitebox.Services.Failures
import Whitebox.Services.Host
import Whitebox.Services.LogParser
import Whitebox.Services.NUMAClient
import Whitebox.Services.Numactl
import Whitebox.Services.ServiceManager
import Whitebox.Services.Session
import Whitebox.Services.SysFSClient
import Whitebox.Services.UnsetOptions
import Whitebox.Utils.Json
import Whitebox.Utils.JsonValue
import Whitebox.Utils.NormalizeJson
import Whitebox.Utils.StableJson
