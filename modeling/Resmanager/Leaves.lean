import Resmanager.NodeSLO

/-!
# Leaves of a NodeSLO spec

A NodeSLO spec seen as what it sets: a partial map from leaf paths to values. A nil block sets
none of its leaves and an empty string-typed enum counts as unset, as JSON with `omitempty`
reads them. The merge with the node defaults is stated on this view in `Resmanager.Overlay`.
-/

namespace Resmanager

inductive Leaf
  | int (v : Int)
  | bool (b : Bool)
  | str (s : String)
deriving DecidableEq, Repr

/-- A string-typed enum as a leaf: unset when empty. -/
def strLeaf (s : String) : Option Leaf := if s = "" then none else some (.str s)

inductive MemoryQoSLeaf
  | minLimitPercent
  | lowLimitPercent
  | throttlingPercent
  | wmarkRatio
  | wmarkScalePermill
  | wmarkMinAdj
  | priorityEnable
  | priority
  | oomKillGroup
deriving DecidableEq, Repr

def MemoryQoS.get (q : MemoryQoS) : MemoryQoSLeaf → Option Leaf
  | .minLimitPercent => q.minLimitPercent.map .int
  | .lowLimitPercent => q.lowLimitPercent.map .int
  | .throttlingPercent => q.throttlingPercent.map .int
  | .wmarkRatio => q.wmarkRatio.map .int
  | .wmarkScalePermill => q.wmarkScalePermill.map .int
  | .wmarkMinAdj => q.wmarkMinAdj.map .int
  | .priorityEnable => q.priorityEnable.map .int
  | .priority => q.priority.map .int
  | .oomKillGroup => q.oomKillGroup.map .int

inductive ResctrlQoSLeaf
  | catRangeStartPercent
  | catRangeEndPercent
  | mbaPercent
deriving DecidableEq, Repr

def ResctrlQoS.get (q : ResctrlQoS) : ResctrlQoSLeaf → Option Leaf
  | .catRangeStartPercent => q.catRangeStartPercent.map .int
  | .catRangeEndPercent => q.catRangeEndPercent.map .int
  | .mbaPercent => q.mbaPercent.map .int

/-- A leaf of one QoS class: the two switches and the knobs under them. -/
inductive ResourceQoSLeaf
  | memoryQoSEnable
  | memoryQoS (l : MemoryQoSLeaf)
  | resctrlQoSEnable
  | resctrlQoS (l : ResctrlQoSLeaf)
deriving DecidableEq, Repr

def ResourceQoS.get (q : ResourceQoS) : ResourceQoSLeaf → Option Leaf
  | .memoryQoSEnable => q.memoryQoS.bind fun c => c.enable.map .bool
  | .memoryQoS l => q.memoryQoS.bind fun c => c.memoryQoS.get l
  | .resctrlQoSEnable => q.resctrlQoS.bind fun c => c.enable.map .bool
  | .resctrlQoS l => q.resctrlQoS.bind fun c => c.resctrlQoS.get l

/-- The blocks of a `ResourceQoSStrategy`. -/
inductive QoSClass
  | lsr
  | ls
  | be
  | system
  | cgroupRoot
deriving DecidableEq, Repr

def ResourceQoSStrategy.byClass (s : ResourceQoSStrategy) : QoSClass → Option ResourceQoS
  | .lsr => s.lsr
  | .ls => s.ls
  | .be => s.be
  | .system => s.system
  | .cgroupRoot => s.cgroupRoot

def ResourceQoSStrategy.get (s : ResourceQoSStrategy) (c : QoSClass) (l : ResourceQoSLeaf) :
    Option Leaf :=
  (s.byClass c).bind fun q => q.get l

inductive ThresholdLeaf
  | enable
  | cpuSuppressThresholdPercent
  | cpuSuppressPolicy
  | memoryEvictThresholdPercent
  | memoryEvictLowerPercent
deriving DecidableEq, Repr

def ResourceThresholdStrategy.get (s : ResourceThresholdStrategy) : ThresholdLeaf → Option Leaf
  | .enable => s.enable.map .bool
  | .cpuSuppressThresholdPercent => s.cpuSuppressThresholdPercent.map .int
  | .cpuSuppressPolicy => strLeaf s.cpuSuppressPolicy
  | .memoryEvictThresholdPercent => s.memoryEvictThresholdPercent.map .int
  | .memoryEvictLowerPercent => s.memoryEvictLowerPercent.map .int

/-- A leaf of a `CPUBurstStrategy`, the inlined `CPUBurstConfig` included. -/
inductive CPUBurstLeaf
  | policy
  | cpuBurstPercent
  | cfsQuotaBurstPercent
  | cfsQuotaBurstPeriodSeconds
  | sharePoolThresholdPercent
deriving DecidableEq, Repr

def CPUBurstStrategy.get (s : CPUBurstStrategy) : CPUBurstLeaf → Option Leaf
  | .policy => strLeaf s.cpuBurstConfig.policy
  | .cpuBurstPercent => s.cpuBurstConfig.cpuBurstPercent.map .int
  | .cfsQuotaBurstPercent => s.cpuBurstConfig.cfsQuotaBurstPercent.map .int
  | .cfsQuotaBurstPeriodSeconds => s.cpuBurstConfig.cfsQuotaBurstPeriodSeconds.map .int
  | .sharePoolThresholdPercent => s.sharePoolThresholdPercent.map .int

/-- The path of a leaf of a NodeSLO spec. -/
inductive SpecLeaf
  | resourceUsedThresholdWithBE (l : ThresholdLeaf)
  | resourceQoSStrategy (c : QoSClass) (l : ResourceQoSLeaf)
  | cpuBurstStrategy (l : CPUBurstLeaf)
deriving DecidableEq, Repr

/-- The value a spec sets at a leaf; `none` when the leaf or a block above it is nil. -/
def NodeSLOSpec.get (s : NodeSLOSpec) : SpecLeaf → Option Leaf
  | .resourceUsedThresholdWithBE l => s.resourceUsedThresholdWithBE.bind fun b => b.get l
  | .resourceQoSStrategy c l => s.resourceQoSStrategy.bind fun b => b.get c l
  | .cpuBurstStrategy l => s.cpuBurstStrategy.bind fun b => b.get l

/-- The resctrl switch of a QoS class, the one leaf `mergeNoneResourceQoSIfDisabled` writes. -/
def SpecLeaf.isResctrlEnable : SpecLeaf → Bool
  | .resourceQoSStrategy _ .resctrlQoSEnable => true
  | _ => false

end Resmanager
