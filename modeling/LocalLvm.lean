import LocalLvm.L1Api.Objects
import LocalLvm.L1Api.Kube
import LocalLvm.L2Client.Retry
import LocalLvm.L3Capacity.FreeSpace
import LocalLvm.L3Capacity.Placement
import LocalLvm.L4Poller.Wait
import LocalLvm.L5Finalizer.Release
import LocalLvm.L5Finalizer.Concurrent
import LocalLvm.L5Finalizer.Interleaved
import LocalLvm.L5Finalizer.Contention
import LocalLvm.L5Finalizer.Removers
