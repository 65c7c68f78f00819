import DeepShield.Lib.Bits
import DeepShield.Lib.BitArray
import DeepShield.Lib.Bytes
import DeepShield.Lib.Circular
import DeepShield.Lib.Exact
import DeepShield.Lib.Ledger
import DeepShield.Lib.Links
import DeepShield.Lib.Parties
import DeepShield.Lib.Records
import DeepShield.Lib.Runs
import DeepShield.Lib.Simulation
import DeepShield.Lib.Tiling
import DeepShield.Lib.X64
import DeepShield.Os.NtStatus
import DeepShield.Os.Irql
import DeepShield.Os.Interlocked
import DeepShield.Os.SpinLock
import DeepShield.Os.Smp
import DeepShield.Os.Rendezvous
import DeepShield.Os.Barrier
import DeepShield.Os.BarrierRuns
import DeepShield.Os.BarrierProgress
import DeepShield.Os.SemaphoreRuns
import DeepShield.Os.BarrierSemaphores
import DeepShield.Rtl.RingBuf
import DeepShield.Rtl.RingFifo
import DeepShield.Rtl.RingSafety
import DeepShield.Rtl.Mailbox
import DeepShield.Rtl.MailboxFraming
import DeepShield.Rtl.IdxUnbounded
import DeepShield.Rtl.IdxEntries
import DeepShield.Rtl.IdxRing
import DeepShield.Rtl.IdxList
import DeepShield.Rtl.IdxWords
import DeepShield.Rtl.IdxRuns
import DeepShield.Channel.LifeCycle
import DeepShield.Channel.Requests
import DeepShield.Channel.Senders
import DeepShield.Channel.Buckets
import DeepShield.Channel.Closing
import DeepShield.Channel.Rollback
import DeepShield.Pm.Exclusion
import DeepShield.Pm.ProcessTable
import DeepShield.Pm.Bookkeeping
import DeepShield.Pm.ExemptedList
import DeepShield.Pm.ImageName
import DeepShield.Pm.Creation
import DeepShield.Pm.ThreadReferences
import DeepShield.Pm.EntryUse
import DeepShield.Pm.PoolIrql
import DeepShield.Pm.PoolIrqlRuns
import DeepShield.Pm.Enumeration
import DeepShield.Pm.Teardown
import DeepShield.Mmu.Mapping
import DeepShield.Mmu.Walk
import DeepShield.Mmu.Reference
import DeepShield.Mmu.Setup
import DeepShield.Mmu.Initialize
import DeepShield.Mmu.SelfMap
import DeepShield.Mmu.SlotRuns
import DeepShield.Td.Tsc
import DeepShield.Td.Verdict
import DeepShield.Td.CopyCode
import DeepShield.Td.Scan
import DeepShield.Td.GuestCode
import DeepShield.Td.Siblings
import DeepShield.Td.Evidence
import DeepShield.Td.Hits
import DeepShield.Td.Eviction
import DeepShield.Td.Assessment
import DeepShield.Td.Duplicates
import DeepShield.Td.Completeness
import DeepShield.Td.Soundness
import DeepShield.Td.Notification
import DeepShield.Td.Reports
import DeepShield.Channel.Notifications
import DeepShield.Channel.Delivery
import DeepShield.Vmx.Launch
import DeepShield.Vmx.Capabilities
import DeepShield.Vmx.ControlFields
import DeepShield.Vmx.Cr4
import DeepShield.Vmx.Cr4Runs
import DeepShield.Vmx.Exits
import DeepShield.Vmx.UserExits
import DeepShield.Vmx.SlotsKept
import DeepShield.Vmx.Handlers
import DeepShield.Vmx.Completion
import DeepShield.Vmx.TimeStamp
import DeepShield.Vmx.Fetch
import DeepShield.Vmx.MsrAccess
import DeepShield.Vmx.MsrBitmap
import DeepShield.Vmx.Cpuid
import DeepShield.Vmx.Events
import DeepShield.Vmx.Xsetbv
import DeepShield.Vmx.Quantum
import DeepShield.Vmx.Devirtualise
import DeepShield.Vmx.GuestTsd
import DeepShield.Vmx.Monitoring
import DeepShield.Vmx.AsmExitHandler
import DeepShield.Vmx.RootMode
import DeepShield.Vmx.AsmStop
import DeepShield.Vmx.AsmLaunch
import DeepShield.Load.Create
import DeepShield.Load.Contexts
import DeepShield.Load.Runs
import DeepShield.Mem.Heap
import DeepShield.Mem.Headers
import DeepShield.Mem.Layout
import DeepShield.Mem.Allocate
import DeepShield.Mem.Release
import DeepShield.Mem.HeapRuns
import DeepShield.Mem.FirstFit
import DeepShield.Mem.DoubleFree
import DeepShield.Mem.SecureFree
import DeepShield.Mem.AlignedSearch
import DeepShield.Mem.ArrayAlloc
import DeepShield.Mem.Deletion
import DeepShield.Mem.Arena
import DeepShield.Shield.Control
import DeepShield.Load.Seen
import DeepShield.Shield.Driver
import DeepShield.Shield.Ioctl
