import Os161.Vm.Defs

namespace Os161.Vm

def initStats : Stats := {}

@[simps] def Stats.countTlbFaults (c : Stats) : Stats :=
  { c with tlbFaults := c.tlbFaults + 1#32 }

@[simps] def Stats.countTlbFaultsFree (c : Stats) : Stats :=
  { c with tlbFaultsFree := c.tlbFaultsFree + 1#32 }

@[simps] def Stats.countTlbFaultsReplace (c : Stats) : Stats :=
  { c with tlbFaultsReplace := c.tlbFaultsReplace + 1#32 }

@[simps] def Stats.countTlbInvalidations (c : Stats) : Stats :=
  { c with tlbInvalidations := c.tlbInvalidations + 1#32 }

@[simps] def Stats.countTlbReloads (c : Stats) : Stats :=
  { c with tlbReloads := c.tlbReloads + 1#32 }

@[simps] def Stats.countPageFaultsZeroed (c : Stats) : Stats :=
  { c with pageFaultsZeroed := c.pageFaultsZeroed + 1#32 }

@[simps] def Stats.countPageFaultsDisk (c : Stats) : Stats :=
  { c with pageFaultsDisk := c.pageFaultsDisk + 1#32 }

@[simps] def Stats.countPageFaultsElf (c : Stats) : Stats :=
  { c with pageFaultsElf := c.pageFaultsElf + 1#32 }

@[simps] def Stats.countPageFaultsSwapin (c : Stats) : Stats :=
  { c with pageFaultsSwapin := c.pageFaultsSwapin + 1#32 }

@[simps] def Stats.countPageFaultsSwapout (c : Stats) : Stats :=
  { c with pageFaultsSwapout := c.pageFaultsSwapout + 1#32 }

def increment (count : Stats → Stats) : Kern Unit :=
  modify fun s => s.setStats (count s.stats)

@[simp] lemma increment_run (count : Stats → Stats) (s : State) :
    (increment count).run s = .ok () (s.setStats (count s.stats)) := rfl

abbrev incrementTlbFaults : Kern Unit := increment Stats.countTlbFaults
abbrev incrementTlbReloads : Kern Unit := increment Stats.countTlbReloads
abbrev incrementPageFaultsDisk : Kern Unit := increment Stats.countPageFaultsDisk
abbrev incrementPageFaultsElf : Kern Unit := increment Stats.countPageFaultsElf
abbrev incrementPageFaultsSwapin : Kern Unit := increment Stats.countPageFaultsSwapin
abbrev incrementPageFaultsSwapout : Kern Unit := increment Stats.countPageFaultsSwapout

def counterText (name : String) (value : Word) : String := name ++ "=" ++ toString value.toInt

def statisticsText (c : Stats) : String :=
  "STATISTICS:\n" ++ ", ".intercalate
    [counterText "tlb_faults" c.tlbFaults,
      counterText "tlb_faults_free" c.tlbFaultsFree,
      counterText "tlb_faults_replace" c.tlbFaultsReplace,
      counterText "tlb_invalidations" c.tlbInvalidations,
      counterText "tlb_reloads" c.tlbReloads,
      counterText "page_faults_zeroed" c.pageFaultsZeroed,
      counterText "page_faults_disk" c.pageFaultsDisk,
      counterText "page_faults_elf" c.pageFaultsElf,
      counterText "page_faults_swapin" c.pageFaultsSwapin,
      counterText "page_faults_swapout" c.pageFaultsSwapout,
      counterText "swapfile_writes" c.swapfileWrites] ++ "\n"

def warnings (c : Stats) : List String :=
  (if c.tlbFaultsFree + c.tlbFaultsReplace ≠ c.tlbFaults then
    ["Warning: TLB FAULTS with Free + TLB Faults with Replace is NOT equal to TLB Faults\n"]
  else []) ++
  (if c.tlbReloads + c.pageFaultsDisk + c.pageFaultsZeroed ≠ c.tlbFaults then
    ["Warning: TLB reloads + PF Disk + PF Zeroed is NOT equal to TLB Faults\n"]
  else []) ++
  (if c.pageFaultsElf + c.pageFaultsSwapin + c.pageFaultsSwapout ≠ c.pageFaultsDisk then
    ["Warning: PF from ELF + PF from Swapfile is NOT equal to PF Disk\n"]
  else [])

def printAllStatistics (c : Stats) : List String := statisticsText c :: warnings c

lemma warnings_eq_nil : warnings c = [] ↔ c.tlbFaultsFree + c.tlbFaultsReplace = c.tlbFaults ∧
      c.tlbReloads + c.pageFaultsDisk + c.pageFaultsZeroed = c.tlbFaults ∧
      c.pageFaultsElf + c.pageFaultsSwapin + c.pageFaultsSwapout = c.pageFaultsDisk := by
  unfold warnings
  simp only [List.append_eq_nil_iff, ite_eq_right_iff, List.cons_ne_nil, imp_false, not_not,
    and_assoc, ne_eq]

end Os161.Vm
