import Resmanager.Leaves
import Resmanager.StoreRun

/-!
# Merging a pushed spec over the node defaults

The merge helpers `mergeNodeSLOSpec` calls are not in the sources; §4.2 of the spec describes
them. Each `mergeSLOSpec*` overlays the pushed block on the default block leaf by leaf: a pushed
leaf is kept, an unset one takes the default's. `mergeNoneResourceQoSIfDisabled` then turns the
resctrl QoS of every class off when the RdtResctrl feature is off. On the leaf view the merge is
pointwise `Option.or`, apart from the resctrl switches.
-/

namespace Resmanager

/-- Keeps the pushed string-typed enum when set. -/
def overlayString (d p : String) : String := if p = "" then d else p

/-- The overlay of a block that may be nil: with both present, the leaf-wise overlay `f`;
otherwise the one that is there. -/
def overlayBlock {α : Type} (f : α → α → α) : Option α → Option α → Option α
  | some d, some p => some (f d p)
  | d, p => p.or d

def MemoryQoS.overlay (d p : MemoryQoS) : MemoryQoS where
  minLimitPercent := p.minLimitPercent.or d.minLimitPercent
  lowLimitPercent := p.lowLimitPercent.or d.lowLimitPercent
  throttlingPercent := p.throttlingPercent.or d.throttlingPercent
  wmarkRatio := p.wmarkRatio.or d.wmarkRatio
  wmarkScalePermill := p.wmarkScalePermill.or d.wmarkScalePermill
  wmarkMinAdj := p.wmarkMinAdj.or d.wmarkMinAdj
  priorityEnable := p.priorityEnable.or d.priorityEnable
  priority := p.priority.or d.priority
  oomKillGroup := p.oomKillGroup.or d.oomKillGroup

def MemoryQoSCfg.overlay (d p : MemoryQoSCfg) : MemoryQoSCfg where
  enable := p.enable.or d.enable
  memoryQoS := d.memoryQoS.overlay p.memoryQoS

def ResctrlQoS.overlay (d p : ResctrlQoS) : ResctrlQoS where
  catRangeStartPercent := p.catRangeStartPercent.or d.catRangeStartPercent
  catRangeEndPercent := p.catRangeEndPercent.or d.catRangeEndPercent
  mbaPercent := p.mbaPercent.or d.mbaPercent

def ResctrlQoSCfg.overlay (d p : ResctrlQoSCfg) : ResctrlQoSCfg where
  enable := p.enable.or d.enable
  resctrlQoS := d.resctrlQoS.overlay p.resctrlQoS

def ResourceQoS.overlay (d p : ResourceQoS) : ResourceQoS where
  memoryQoS := overlayBlock MemoryQoSCfg.overlay d.memoryQoS p.memoryQoS
  resctrlQoS := overlayBlock ResctrlQoSCfg.overlay d.resctrlQoS p.resctrlQoS

def ResourceQoSStrategy.overlay (d p : ResourceQoSStrategy) : ResourceQoSStrategy where
  lsr := overlayBlock ResourceQoS.overlay d.lsr p.lsr
  ls := overlayBlock ResourceQoS.overlay d.ls p.ls
  be := overlayBlock ResourceQoS.overlay d.be p.be
  system := overlayBlock ResourceQoS.overlay d.system p.system
  cgroupRoot := overlayBlock ResourceQoS.overlay d.cgroupRoot p.cgroupRoot

def ResourceThresholdStrategy.overlay (d p : ResourceThresholdStrategy) :
    ResourceThresholdStrategy where
  enable := p.enable.or d.enable
  cpuSuppressThresholdPercent := p.cpuSuppressThresholdPercent.or d.cpuSuppressThresholdPercent
  cpuSuppressPolicy := overlayString d.cpuSuppressPolicy p.cpuSuppressPolicy
  memoryEvictThresholdPercent := p.memoryEvictThresholdPercent.or d.memoryEvictThresholdPercent
  memoryEvictLowerPercent := p.memoryEvictLowerPercent.or d.memoryEvictLowerPercent

def CPUBurstStrategy.overlay (d p : CPUBurstStrategy) : CPUBurstStrategy where
  cpuBurstConfig :=
    { policy := overlayString d.cpuBurstConfig.policy p.cpuBurstConfig.policy
      cpuBurstPercent := p.cpuBurstConfig.cpuBurstPercent.or d.cpuBurstConfig.cpuBurstPercent
      cfsQuotaBurstPercent :=
        p.cpuBurstConfig.cfsQuotaBurstPercent.or d.cpuBurstConfig.cfsQuotaBurstPercent
      cfsQuotaBurstPeriodSeconds :=
        p.cpuBurstConfig.cfsQuotaBurstPeriodSeconds.or d.cpuBurstConfig.cfsQuotaBurstPeriodSeconds }
  sharePoolThresholdPercent := p.sharePoolThresholdPercent.or d.sharePoolThresholdPercent

/-- Modelled from the spec: `mergeSLOSpecResourceUsedThresholdWithBE` is not in the sources;
§4.2 merges field by field, the pushed leaf over the default's. -/
def mergeSLOSpecResourceUsedThresholdWithBE :
    Option ResourceThresholdStrategy → Option ResourceThresholdStrategy →
      Option ResourceThresholdStrategy :=
  overlayBlock ResourceThresholdStrategy.overlay

/-- Modelled from the spec: `mergeSLOSpecResourceQoSStrategy` is not in the sources; §4.2 merges
per QoS class and per sub-policy, the pushed leaf over the default's. -/
def mergeSLOSpecResourceQoSStrategy :
    Option ResourceQoSStrategy → Option ResourceQoSStrategy → Option ResourceQoSStrategy :=
  overlayBlock ResourceQoSStrategy.overlay

/-- Modelled from the spec: `mergeSLOSpecCPUBurstStrategy` is not in the sources; §4.2 merges
field by field, the pushed leaf over the default's. -/
def mergeSLOSpecCPUBurstStrategy :
    Option CPUBurstStrategy → Option CPUBurstStrategy → Option CPUBurstStrategy :=
  overlayBlock CPUBurstStrategy.overlay

/-- The resctrl QoS of one class, switched off. -/
def ResourceQoS.disableResctrl (q : ResourceQoS) : ResourceQoS :=
  { q with resctrlQoS := q.resctrlQoS.map fun r => { r with enable := some false } }

/-- Modelled from the spec: `mergeNoneResourceQoSIfDisabled` is not in the sources. §4.2: "a
secondary pass disables the cache/bandwidth-partition sub-policy entirely if its feature is
globally turned off, overriding any merged enable value". -/
def mergeNoneResourceQoSIfDisabled (gate : Feature → Bool) (s : ResourceQoSStrategy) :
    ResourceQoSStrategy :=
  if gate .rdtResctrl then s else
    { lsr := s.lsr.map ResourceQoS.disableResctrl
      ls := s.ls.map ResourceQoS.disableResctrl
      be := s.be.map ResourceQoS.disableResctrl
      system := s.system.map ResourceQoS.disableResctrl
      cgroupRoot := s.cgroupRoot.map ResourceQoS.disableResctrl }

/-- The helpers of §4.2 over the defaults `dflt`, under the feature gate `gate`. -/
def overlayHelpers (gate : Feature → Bool) (dflt : NodeSLOSpec) : MergeHelpers where
  defaultNodeSLOSpecConfig := dflt
  mergeSLOSpecResourceUsedThresholdWithBE := mergeSLOSpecResourceUsedThresholdWithBE
  mergeSLOSpecResourceQoSStrategy := mergeSLOSpecResourceQoSStrategy
  mergeNoneResourceQoSIfDisabled := mergeNoneResourceQoSIfDisabled gate
  mergeSLOSpecCPUBurstStrategy := mergeSLOSpecCPUBurstStrategy

lemma strLeaf_overlayString (d p : String) :
    strLeaf (overlayString d p) = (strLeaf p).or (strLeaf d) := by
  by_cases hp : p = "" <;> simp [overlayString, strLeaf, hp]

lemma overlayBlock_bind {α : Type} (f : α → α → α) (g : α → Option Leaf)
    (hf : ∀ d p, g (f d p) = (g p).or (g d)) (d p : Option α) :
    (overlayBlock f d p).bind g = (p.bind g).or (d.bind g) := by
  cases d <;> cases p <;> simp [overlayBlock, hf]

@[simp] lemma MemoryQoS.get_overlay (d p : MemoryQoS) (l : MemoryQoSLeaf) :
    (d.overlay p).get l = (p.get l).or (d.get l) := by
  cases l <;> simp [MemoryQoS.overlay, MemoryQoS.get, Option.map_or']

@[simp] lemma ResctrlQoS.get_overlay (d p : ResctrlQoS) (l : ResctrlQoSLeaf) :
    (d.overlay p).get l = (p.get l).or (d.get l) := by
  cases l <;> simp [ResctrlQoS.overlay, ResctrlQoS.get, Option.map_or']

@[simp] lemma ResourceQoS.get_overlay (d p : ResourceQoS) (l : ResourceQoSLeaf) :
    (d.overlay p).get l = (p.get l).or (d.get l) := by
  cases l <;> simp only [ResourceQoS.overlay, ResourceQoS.get] <;> apply overlayBlock_bind <;>
    simp [MemoryQoSCfg.overlay, ResctrlQoSCfg.overlay, Option.map_or']

lemma ResourceQoSStrategy.byClass_overlay (d p : ResourceQoSStrategy) (c : QoSClass) :
    (d.overlay p).byClass c = overlayBlock ResourceQoS.overlay (d.byClass c) (p.byClass c) := by
  cases c <;> rfl

@[simp] lemma ResourceQoSStrategy.get_overlay (d p : ResourceQoSStrategy) (c : QoSClass)
    (l : ResourceQoSLeaf) : (d.overlay p).get c l = (p.get c l).or (d.get c l) := by
  simp only [ResourceQoSStrategy.get, byClass_overlay]
  exact overlayBlock_bind _ (fun q => q.get l) (fun d p => ResourceQoS.get_overlay d p l) _ _

@[simp] lemma ResourceThresholdStrategy.get_overlay (d p : ResourceThresholdStrategy)
    (l : ThresholdLeaf) : (d.overlay p).get l = (p.get l).or (d.get l) := by
  cases l <;> simp [ResourceThresholdStrategy.overlay, ResourceThresholdStrategy.get,
    Option.map_or', strLeaf_overlayString]

@[simp] lemma CPUBurstStrategy.get_overlay (d p : CPUBurstStrategy) (l : CPUBurstLeaf) :
    (d.overlay p).get l = (p.get l).or (d.get l) := by
  cases l <;> simp [CPUBurstStrategy.overlay, CPUBurstStrategy.get, Option.map_or',
    strLeaf_overlayString]


lemma overlayBlock_or {α : Type} (f : α → α → α) (d p : Option α) :
    (overlayBlock f d p).or p = overlayBlock f d p := by
  cases d <;> cases p <;> rfl

lemma ResourceQoSStrategy.byClass_mergeNone_off {gate : Feature → Bool}
    (hg : gate .rdtResctrl = false) (s : ResourceQoSStrategy) (c : QoSClass) :
    (mergeNoneResourceQoSIfDisabled gate s).byClass c =
      (s.byClass c).map ResourceQoS.disableResctrl := by
  cases c <;> simp [mergeNoneResourceQoSIfDisabled, hg, byClass]

lemma ResourceQoS.get_disableResctrl (q : ResourceQoS) {l : ResourceQoSLeaf}
    (hl : l ≠ .resctrlQoSEnable) : q.disableResctrl.get l = q.get l := by
  cases l <;> simp_all [disableResctrl, get, Option.bind_map]

lemma ResourceQoSStrategy.get_mergeNone (gate : Feature → Bool) (s : ResourceQoSStrategy)
    (c : QoSClass) {l : ResourceQoSLeaf} (h : l ≠ .resctrlQoSEnable ∨ gate .rdtResctrl = true) :
    (mergeNoneResourceQoSIfDisabled gate s).get c l = s.get c l := by
  cases hg : gate .rdtResctrl
  · have hl : l ≠ .resctrlQoSEnable := by simpa [hg] using h
    simp [get, byClass_mergeNone_off hg, Option.bind_map, Function.comp_def,
      ResourceQoS.get_disableResctrl _ hl]
  · simp [mergeNoneResourceQoSIfDisabled, hg]

lemma ResourceQoSStrategy.get_mergeNone_off {gate : Feature → Bool}
    (hg : gate .rdtResctrl = false) {s : ResourceQoSStrategy} {c : QoSClass}
    (hs : (s.get c .resctrlQoSEnable).isSome) :
    (mergeNoneResourceQoSIfDisabled gate s).get c .resctrlQoSEnable = some (.bool false) := by
  simp only [get, byClass_mergeNone_off hg] at hs ⊢
  cases hc : s.byClass c with
  | none => simp [hc] at hs
  | some q =>
    cases hr : q.resctrlQoS with
    | none => simp [hc, hr, ResourceQoS.get] at hs
    | some r => simp [hr, ResourceQoS.disableResctrl, ResourceQoS.get]

lemma overlayBlock_map_or {α : Type} (f : α → α → α) (g : α → α) (d p : Option α) :
    ((overlayBlock f d p).map g).or p = (overlayBlock f d p).map g := by
  cases d <;> cases p <;> rfl

/-- Apart from the resctrl switches under a disabled gate, the merged spec holds at each leaf the
pushed value when set and the default's otherwise. -/
theorem get_mergedSpec_overlay (gate : Feature → Bool) (dflt s : NodeSLOSpec) {l : SpecLeaf}
    (hl : (l.isResctrlEnable && !gate .rdtResctrl) = false) :
    (mergedSpec (overlayHelpers gate dflt) s).get l = (s.get l).or (dflt.get l) := by
  cases l with
  | resourceUsedThresholdWithBE l =>
    simp only [NodeSLOSpec.get, mergedSpec, overlayHelpers, mergeSLOSpecResourceUsedThresholdWithBE,
      overlayBlock_or]
    exact overlayBlock_bind _ (fun b => b.get l)
      (fun d p => ResourceThresholdStrategy.get_overlay d p l) _ _
  | resourceQoSStrategy c l =>
    have hp : l ≠ .resctrlQoSEnable ∨ gate .rdtResctrl = true := by
      cases l <;> simp_all [SpecLeaf.isResctrlEnable]
    simp only [NodeSLOSpec.get, mergedSpec, overlayHelpers, mergeSLOSpecResourceQoSStrategy]
    rw [overlayBlock_map_or, Option.bind_map]
    simp only [Function.comp_def, ResourceQoSStrategy.get_mergeNone gate _ c hp]
    exact overlayBlock_bind _ (fun b => b.get c l)
      (fun d p => ResourceQoSStrategy.get_overlay d p c l) _ _
  | cpuBurstStrategy l =>
    simp only [NodeSLOSpec.get, mergedSpec, overlayHelpers, mergeSLOSpecCPUBurstStrategy,
      overlayBlock_or]
    exact overlayBlock_bind _ (fun b => b.get l) (fun d p => CPUBurstStrategy.get_overlay d p l) _ _

/-- Under a disabled RdtResctrl gate the resctrl switch of a class the defaults configure is off. -/
theorem get_mergedSpec_overlay_resctrl {gate : Feature → Bool} (hg : gate .rdtResctrl = false)
    (dflt s : NodeSLOSpec) {c : QoSClass}
    (hd : (dflt.get (.resourceQoSStrategy c .resctrlQoSEnable)).isSome) :
    (mergedSpec (overlayHelpers gate dflt) s).get (.resourceQoSStrategy c .resctrlQoSEnable) =
      some (.bool false) := by
  simp only [NodeSLOSpec.get, mergedSpec, overlayHelpers, mergeSLOSpecResourceQoSStrategy,
    overlayBlock_map_or, Option.bind_map] at hd ⊢
  cases hD : dflt.resourceQoSStrategy with
  | none => simp [hD] at hd
  | some D =>
    simp only [hD, Option.some_bind] at hd
    cases s.resourceQoSStrategy with
    | none => exact ResourceQoSStrategy.get_mergeNone_off hg hd
    | some S =>
      refine ResourceQoSStrategy.get_mergeNone_off hg ?_
      rw [ResourceQoSStrategy.get_overlay]
      cases S.get c .resctrlQoSEnable <;> simp [hd]

/-- At a leaf the defaults set, the merged spec holds the pushed value when set and the default's
otherwise; a disabled RdtResctrl gate turns the resctrl switches off instead. -/
theorem get_mergedSpec_overlay_of_default (gate : Feature → Bool) (dflt s : NodeSLOSpec)
    {l : SpecLeaf} (hd : (dflt.get l).isSome) :
    (mergedSpec (overlayHelpers gate dflt) s).get l =
      if l.isResctrlEnable && !gate .rdtResctrl then some (.bool false)
      else (s.get l).or (dflt.get l) := by
  split
  next h =>
    rcases l with _ | ⟨c, _ | _ | _ | _⟩ | _ <;> simp [SpecLeaf.isResctrlEnable] at h
    exact get_mergedSpec_overlay_resctrl h dflt s hd
  next h => exact get_mergedSpec_overlay gate dflt s (by simpa using h)

end Resmanager
