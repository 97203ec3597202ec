import ReistOs.Fat12VolumeRecovery
import ReistOs.StorageServiceRuns
import ReistOs.StorageMaintenanceRuns
import ReistOs.FilesystemSafetyRuns
import ReistOs.PartitionIsolation
import ReistOs.VfsRepairRuns
import ReistOs.TerminalInputRuns
import ReistOs.NetSocketDelivery
import ReistOs.ConfigRoundTrip
import ReistOs.TextEditorClicks
import ReistOs.DesktopFileMoveSafety
import ReistOs.DesktopWmRuns
import ReistOs.FileObjectGuardGuarantees
import ReistOs.IpcGuarantees
import ReistOs.IpcSessions
import ReistOs.StorageBulkGuarantees
import ReistOs.TcpStream
import ReistOs.TcpPassive
import ReistOs.CriticalStops
import ReistOs.ResilientGuarantees
import ReistOs.HandoverRuns
import ReistOs.ArpBindingGuarantees
import ReistOs.Fat12RemapRuns
import ReistOs.PathDrives
import ReistOs.PieceWrapEdits
import ReistOs.LongNameGuarantees
import ReistOs.MemoryRegions
import ReistOs.KernelHeapGuarantees
import ReistOs.SchedulingCycle
import ReistOs.FrameDamage
import ReistOs.UtfExact
import ReistOs.KernelLog
import ReistOs.SchedulingInheritance
import ReistOs.Fat32Clusters
import ReistOs.MouseMotion
import ReistOs.SurfaceInput
