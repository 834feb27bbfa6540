import Mathlib.Data.Option.Basic

/-!
# NodeSLO objects

The NodeSLO resource of `apis/slo/v1alpha1/nodeslo_types.go`, as far as the resource manager
reads it: the three strategy blocks of the spec and the object metadata. A Go pointer is an
`Option`, a string-typed enum a `String` that is empty when unset (the JSON `omitempty` reading).
-/

namespace Resmanager

/-- `MemoryQoS`: the memcg knobs of one QoS class. -/
structure MemoryQoS where
  minLimitPercent : Option Int := none
  lowLimitPercent : Option Int := none
  throttlingPercent : Option Int := none
  wmarkRatio : Option Int := none
  wmarkScalePermill : Option Int := none
  wmarkMinAdj : Option Int := none
  priorityEnable : Option Int := none
  priority : Option Int := none
  oomKillGroup : Option Int := none
deriving DecidableEq, Repr

/-- `MemoryQoSCfg`: the node-level switch with the inlined `MemoryQoS`. -/
structure MemoryQoSCfg where
  enable : Option Bool := none
  memoryQoS : MemoryQoS := {}
deriving DecidableEq, Repr

structure ResctrlQoS where
  catRangeStartPercent : Option Int := none
  catRangeEndPercent : Option Int := none
  mbaPercent : Option Int := none
deriving DecidableEq, Repr

/-- `ResctrlQoSCfg`: the node-level switch with the inlined `ResctrlQoS`. -/
structure ResctrlQoSCfg where
  enable : Option Bool := none
  resctrlQoS : ResctrlQoS := {}
deriving DecidableEq, Repr

structure ResourceQoS where
  memoryQoS : Option MemoryQoSCfg := none
  resctrlQoS : Option ResctrlQoSCfg := none
deriving DecidableEq, Repr

structure ResourceQoSStrategy where
  lsr : Option ResourceQoS := none
  ls : Option ResourceQoS := none
  be : Option ResourceQoS := none
  system : Option ResourceQoS := none
  cgroupRoot : Option ResourceQoS := none
deriving DecidableEq, Repr

abbrev CPUSuppressPolicy := String

def cpuSetPolicy : CPUSuppressPolicy := "cpuset"

structure ResourceThresholdStrategy where
  enable : Option Bool := none
  cpuSuppressThresholdPercent : Option Int := none
  cpuSuppressPolicy : CPUSuppressPolicy := ""
  memoryEvictThresholdPercent : Option Int := none
  memoryEvictLowerPercent : Option Int := none
deriving DecidableEq, Repr

abbrev CPUBurstPolicy := String

structure CPUBurstConfig where
  policy : CPUBurstPolicy := ""
  cpuBurstPercent : Option Int := none
  cfsQuotaBurstPercent : Option Int := none
  cfsQuotaBurstPeriodSeconds : Option Int := none
deriving DecidableEq, Repr

/-- `CPUBurstStrategy`: the inlined `CPUBurstConfig` and the node overload threshold. -/
structure CPUBurstStrategy where
  cpuBurstConfig : CPUBurstConfig := {}
  sharePoolThresholdPercent : Option Int := none
deriving DecidableEq, Repr

structure NodeSLOSpec where
  resourceUsedThresholdWithBE : Option ResourceThresholdStrategy := none
  resourceQoSStrategy : Option ResourceQoSStrategy := none
  cpuBurstStrategy : Option CPUBurstStrategy := none
deriving DecidableEq, Repr

/-- The part of `metav1.ObjectMeta` that tells two versions of an object apart, and the labels a
lister's selector matches. -/
structure ObjectMeta where
  name : String := ""
  «namespace» : String := ""
  uid : String := ""
  resourceVersion : String := ""
  generation : Int := 0
  labels : List (String × String) := []
deriving DecidableEq, Repr

/-- A NodeSLO object; its status is an empty struct and is left out. -/
structure NodeSLO where
  objectMeta : ObjectMeta := {}
  spec : NodeSLOSpec := {}
deriving DecidableEq, Repr

end Resmanager
