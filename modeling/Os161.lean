import Os161.Vm.PageTable.Order
import Os161.Vm.Fault.Counters
import Os161.Process.Pids
import Os161.Process.ExitWait.Theorems
import Os161.Process.Membership.Theorems
import Os161.Spl.Theorems
import Os161.Synch.Semaphore
import Os161.Synch.Lock.Theorems
import Os161.Thread.Theorems
import Os161.Thread.Migration.Theorems
import Os161.File.Fork
import Os161.File.Io.Reports
import Os161.Kmalloc.Pagerefs
import Os161.Semfs.Theorems
import Os161.Kmalloc.Kpages.Theorems
import Os161.Sfs.Trunc.Theorems
import Os161.Sfs.Contents
import Os161.Malloc.Theorems
import Os161.Sfsck.Blocks
import Os161.Sfsck.Bmap
import Os161.Vfs.Devices
import Os161.Dumbvm
import Os161.Vm.Fault.Text
import Os161.Process.Program
import Os161.Semfs.Dir.Listing
import Os161.Sfs.Sync
import Os161.Semfs.Unlink.Theorems
import Os161.Console
import Os161.Lhd.Sectors
import Os161.Lhd.Exclusion
import Os161.Memmove
import Os161.Process.Create
import Os161.Vfs.Prefixes
import Os161.Tac
import Os161.Execvp
import Os161.Lamebus
import Os161.Bitmaps
import Os161.Sfsck.Freemap
