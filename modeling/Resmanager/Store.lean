import Resmanager.NodeSLO

/-!
# The NodeSLO store

`resmanager.nodeSLO` and the functions of `resmanager.go` that write and read it: the add and
update handlers `NewResManager` registers, `createNodeSLO`, `updateNodeSLOSpec`,
`mergeNodeSLOSpec`, and the readers `getNodeSLOCopy`, `hasSynced` and `isFeatureDisabled`.
The merge helpers and the node defaults are defined outside resmanager.go; they are the fields
of `MergeHelpers`, so the results here hold whatever they compute.
-/

namespace Resmanager

/-- A `featuregate.Feature`: the features of `pkg/features` that resmanager.go names, and any
other feature name. -/
inductive Feature
  | beCgroupReconcile
  | cgroupReconcile
  | beCPUSuppress
  | cpuBurst
  | beMemoryEvict
  | rdtResctrl
  | other (name : String)
deriving DecidableEq, Repr

/-- What `mergeNodeSLOSpec` calls outside resmanager.go: `util.DefaultNodeSLOSpecConfig`, the
three `mergeSLOSpec*` helpers (default block first, pushed block second) and
`mergeNoneResourceQoSIfDisabled`, which edits the merged strategy in place. -/
structure MergeHelpers where
  defaultNodeSLOSpecConfig : NodeSLOSpec
  mergeSLOSpecResourceUsedThresholdWithBE : Option ResourceThresholdStrategy →
    Option ResourceThresholdStrategy → Option ResourceThresholdStrategy
  mergeSLOSpecResourceQoSStrategy : Option ResourceQoSStrategy → Option ResourceQoSStrategy →
    Option ResourceQoSStrategy
  mergeNoneResourceQoSIfDisabled : ResourceQoSStrategy → ResourceQoSStrategy
  mergeSLOSpecCPUBurstStrategy : Option CPUBurstStrategy → Option CPUBurstStrategy →
    Option CPUBurstStrategy

section Handlers

variable (m : MergeHelpers)

/-- `mergeNodeSLOSpec`: each block of the stored spec becomes the merge of the default block with
the block of `nodeSLO` when that merge is non-nil, written `merged.or current`. With nothing
stored it only logs. -/
def mergeNodeSLOSpec (r : Option NodeSLO) (nodeSLO : NodeSLO) : Option NodeSLO :=
  r.map fun cur =>
    let d := m.defaultNodeSLOSpecConfig
    let s := nodeSLO.spec
    { cur with spec :=
      { resourceUsedThresholdWithBE :=
          (m.mergeSLOSpecResourceUsedThresholdWithBE d.resourceUsedThresholdWithBE
            s.resourceUsedThresholdWithBE).or cur.spec.resourceUsedThresholdWithBE
        resourceQoSStrategy :=
          ((m.mergeSLOSpecResourceQoSStrategy d.resourceQoSStrategy s.resourceQoSStrategy).map
            m.mergeNoneResourceQoSIfDisabled).or cur.spec.resourceQoSStrategy
        cpuBurstStrategy :=
          (m.mergeSLOSpecCPUBurstStrategy d.cpuBurstStrategy s.cpuBurstStrategy).or
            cur.spec.cpuBurstStrategy } }

/-- `createNodeSLO`: stores a copy of the object, then merges its spec. -/
def createNodeSLO (nodeSLO : NodeSLO) : Option NodeSLO :=
  mergeNodeSLOSpec m (some nodeSLO) nodeSLO

/-- The message of the Go runtime panic on a nil-pointer dereference. -/
def nilPointerDereference : String :=
  "runtime error: invalid memory address or nil pointer dereference"

/-- `updateNodeSLOSpec`: replaces the spec of the stored object, keeping its metadata, then
merges. The assignment `r.nodeSLO.Spec = ...` panics when nothing is stored. -/
def updateNodeSLOSpec (r : Option NodeSLO) (nodeSLO : NodeSLO) :
    Except String (Option NodeSLO) :=
  match r with
  | none => .error nilPointerDereference
  | some cur => .ok (mergeNodeSLOSpec m (some { cur with spec := nodeSLO.spec }) nodeSLO)

/-- An object the informer hands over: a `*NodeSLO`, or anything the handlers' type assertion
rejects. -/
inductive Object
  | nodeSLO (n : NodeSLO)
  | other
deriving DecidableEq, Repr

inductive Notification
  | add (obj : Object)
  | update (oldObj newObj : Object)
deriving DecidableEq, Repr

/-- The `AddFunc` of `NewResManager`. -/
def addFunc (r : Option NodeSLO) : Object → Option NodeSLO
  | .nodeSLO n => createNodeSLO m n
  | .other => r

/-- The `UpdateFunc` of `NewResManager`: an update whose spec is deep-equal to the old one is
skipped. -/
def updateFunc (r : Option NodeSLO) : Object → Object → Except String (Option NodeSLO)
  | .nodeSLO o, .nodeSLO n => if o.spec = n.spec then .ok r else updateNodeSLOSpec m r n
  | _, _ => .ok r

def handle (r : Option NodeSLO) : Notification → Except String (Option NodeSLO)
  | .add obj => .ok (addFunc m r obj)
  | .update oldObj newObj => updateFunc m r oldObj newObj

/-- The store after the handlers ran on each notification in turn; a panic ends the run. -/
def handleAll (r : Option NodeSLO) (h : List Notification) : Except String (Option NodeSLO) :=
  h.foldlM (handle m) r

end Handlers

/-- `getNodeSLOCopy`: a deep copy of the stored object, which a value already is. -/
def getNodeSLOCopy (r : Option NodeSLO) : Option NodeSLO := r

def hasSynced (r : Option NodeSLO) : Bool :=
  match r with
  | some n => n.spec.resourceUsedThresholdWithBE.isSome
  | none => false

lemma isSome_of_hasSynced {r : Option NodeSLO} (h : hasSynced r = true) : r.isSome := by
  cases r <;> simp_all [hasSynced]

/-- The errors of `isFeatureDisabled`, after their format strings. -/
inductive FeatureConfigError
  /-- "cannot parse feature config for invalid nodeSLO %v" -/
  | invalidNodeSLO (nodeSLO : Option NodeSLO)
  /-- "cannot parse feature config for unsupported feature %s" -/
  | unsupportedFeature (feature : Feature)
deriving DecidableEq, Repr

/-- `isFeatureDisabled`: whether the NodeSLO turns `feature` off, with the error when it cannot
tell, in which case it answers disabled. `Spec == NodeSLOSpec{}` holds when all three pointers
are nil. -/
def isFeatureDisabled (nodeSLO : Option NodeSLO) (feature : Feature) :
    Bool × Option FeatureConfigError :=
  match nodeSLO with
  | none => (true, some (.invalidNodeSLO none))
  | some n =>
    if n.spec = {} then (true, some (.invalidNodeSLO (some n))) else
    match feature with
    | .beCPUSuppress | .beMemoryEvict =>
      match n.spec.resourceUsedThresholdWithBE.bind (·.enable) with
      | some enable => (!enable, none)
      | none => (true, some (.invalidNodeSLO (some n)))
    | f => (true, some (.unsupportedFeature f))

lemma isFeatureDisabled_threshold_ok {s : NodeSLO} {t : ResourceThresholdStrategy} {b : Bool}
    (ht : s.spec.resourceUsedThresholdWithBE = some t) (hb : t.enable = some b) (f : Feature)
    (hf : f = .beCPUSuppress ∨ f = .beMemoryEvict) :
    (isFeatureDisabled (some s) f).2 = none := by
  have hne : s.spec ≠ {} := fun e => by rw [e] at ht; cases ht
  rcases hf with rfl | rfl <;> simp [isFeatureDisabled, hne, ht, hb]

/-- `isFeatureDisabled` fails closed: whenever it returns an error it answers that the feature is
disabled. -/
theorem isFeatureDisabled_fails_closed (nodeSLO : Option NodeSLO) (feature : Feature)
    (h : (isFeatureDisabled nodeSLO feature).2.isSome) :
    (isFeatureDisabled nodeSLO feature).1 = true := by
  rcases nodeSLO with _ | n
  · rfl
  by_cases hs : n.spec = {}
  · simp [isFeatureDisabled, hs]
  cases feature <;> simp only [isFeatureDisabled, hs, if_false] at h ⊢
  all_goals cases e : n.spec.resourceUsedThresholdWithBE.bind (·.enable) <;> simp_all

end Resmanager
