import Resmanager.NodeSLO
import Resmanager.ExpireCache

/-!
# The eviction pipeline

`evictPod`, `evictPodIfNotEvicted` and `evictPodsIfNotEvicted` of `resmanager.go` over the
fields of `resmanager` they use, the dedup cache `podsEvicted` and the clients, with the clock
and the cluster. The cluster answers the eviction requests one after another, so its answers are
a tape the pipeline reads, one answer per request; every sequence of answers is a tape. What the
pipeline does outside, the audit record, the eviction request, the node event and the metric,
is appended to a list of effects.
-/

namespace Resmanager

structure Container where
  name : String
deriving DecidableEq, Repr

/-- A container state; only whether `State.Running` is non-nil is read. -/
structure ContainerState where
  running : Bool
deriving DecidableEq, Repr

structure ContainerStatus where
  name : String
  containerID : String
  state : ContainerState
deriving DecidableEq, Repr

structure PodSpec where
  containers : List Container := []
deriving DecidableEq, Repr

structure PodStatus where
  containerStatuses : List ContainerStatus := []
deriving DecidableEq, Repr

structure Pod where
  objectMeta : ObjectMeta := {}
  spec : PodSpec := {}
  status : PodStatus := {}
deriving DecidableEq, Repr

def Pod.uid (p : Pod) : String := p.objectMeta.uid

/-- The node an eviction event is recorded on. -/
structure Node where
  objectMeta : ObjectMeta := {}
deriving DecidableEq, Repr

/-- An error of the eviction call; `errors.IsNotFound` tells "already absent" apart. -/
inductive ApiError
  | notFound
  | other (message : String)
deriving DecidableEq, Repr

def ApiError.isNotFound : ApiError → Bool
  | .notFound => true
  | .other _ => false

/-- What the pipeline does outside the process. -/
inductive Effect
  /-- `audit.V(0).Pod(namespace, name).Reason(reason).Message(message).Do()` -/
  | audit (podNamespace name reason message : String)
  /-- `Pods(namespace).EvictV1` of the pod's eviction, sent at `time`, and the cluster's answer. -/
  | evictV1 (time : Nat) (pod : Pod) (result : Option ApiError)
  /-- `eventRecorder.Eventf(node, eventType, reason, message)`, with the message as it is passed,
  before `Eventf` formats it. -/
  | event (node : Node) (eventType reason message : String)
  /-- `metrics.RecordPodEviction(reason)` -/
  | recordPodEviction (reason : String)
deriving DecidableEq, Repr

def evictPodSuccess : String := "evictPodSuccess"

def evictPodFail : String := "evictPodFail"

/-- `corev1.EventTypeWarning`. -/
def eventTypeWarning : String := "Warning"

/-- The fields of `resmanager` the pipeline uses, with the clock, the cluster's answers to the
eviction requests still to come, and the effects so far. -/
structure ResManager where
  podsEvicted : Cache
  now : Nat
  kubeClient : Nat → Option ApiError
  effects : List Effect

/-- The message of both eviction events, `fmt.Sprintf("evict Pod:%s, reason: %s, message: %v")`. -/
def podEvictMessage (pod : Pod) (reason message : String) : String :=
  "evict Pod:" ++ pod.objectMeta.name ++ ", reason: " ++ reason ++ ", message: " ++ message

/-- `evictPod`: audits, sends the eviction request, and records the answer's event and metric.
A nil error and "not found" both report success. -/
def evictPod (r : ResManager) (pod : Pod) (node : Node) (reason message : String) :
    ResManager × Bool :=
  let result := r.kubeClient 0
  let sent : ResManager :=
    { r with
      kubeClient := fun n => r.kubeClient (n + 1)
      effects := r.effects ++
        [.audit pod.objectMeta.namespace pod.objectMeta.name reason message,
         .evictV1 r.now pod result] }
  match result with
  | none =>
    ({ sent with effects := sent.effects ++
        [.event node eventTypeWarning evictPodSuccess (podEvictMessage pod reason message),
         .recordPodEviction reason] }, true)
  | some err =>
    if !err.isNotFound then
      ({ sent with effects := sent.effects ++
          [.event node eventTypeWarning evictPodFail (podEvictMessage pod reason message)] }, false)
    else (sent, true)

/-- `evictPodIfNotEvicted`: nothing when the pod's UID is cached; otherwise evicts it and, on
success, caches the UID with the default expiration. A failed `SetDefault` is ignored. -/
def evictPodIfNotEvicted (r : ResManager) (pod : Pod) (node : Node) (reason message : String) :
    ResManager :=
  match r.podsEvicted.get pod.uid with
  | some _ => r
  | none =>
    let (r, success) := evictPod r pod node reason message
    if success then
      match r.podsEvicted.setDefault r.now pod.uid pod.uid with
      | .ok c => { r with podsEvicted := c }
      | .error _ => r
    else r

/-- `evictPodsIfNotEvicted`: `evictPodIfNotEvicted` on each pod in turn. -/
def evictPodsIfNotEvicted (r : ResManager) (pods : List Pod) (node : Node)
    (reason message : String) : ResManager :=
  pods.foldl (fun r pod => evictPodIfNotEvicted r pod node reason message) r

/-- Whether `evictPod` reports success on an answer of the cluster. -/
def succeeded : Option ApiError → Bool
  | none => true
  | some err => err.isNotFound

lemma succeeded_eq_true {res : Option ApiError} :
    succeeded res = true ↔ res = none ∨ res = some .notFound := by
  rcases res with _ | _ | msg <;> simp [succeeded, ApiError.isNotFound]

/-- An eviction request among the effects. -/
def Effect.isRequest : Effect → Bool
  | .evictV1 .. => true
  | _ => false

section Spec

variable (r : ResManager) (pod : Pod) (node : Node) (reason message : String)

lemma evictPod_spec :
    ∃ tail, tail.all (fun e => !e.isRequest) ∧
      evictPod r pod node reason message =
        ({ r with kubeClient := fun n => r.kubeClient (n + 1)
                  effects := r.effects ++
                    .audit pod.objectMeta.namespace pod.objectMeta.name reason message ::
                    .evictV1 r.now pod (r.kubeClient 0) :: tail },
         succeeded (r.kubeClient 0)) := by
  rcases h : r.kubeClient 0 with _ | _ | msg
  · exact ⟨[.event node eventTypeWarning evictPodSuccess (podEvictMessage pod reason message),
      .recordPodEviction reason], rfl, by simp [evictPod, h, succeeded]⟩
  · exact ⟨[], rfl, by simp [evictPod, h, succeeded, ApiError.isNotFound]⟩
  · exact ⟨[.event node eventTypeWarning evictPodFail (podEvictMessage pod reason message)], rfl,
      by simp [evictPod, h, succeeded, ApiError.isNotFound]⟩

lemma evictPodIfNotEvicted_cached (h : (r.podsEvicted.get pod.uid).isSome) :
    evictPodIfNotEvicted r pod node reason message = r := by
  obtain ⟨v, hv⟩ := Option.isSome_iff_exists.mp h
  simp [evictPodIfNotEvicted, hv]

lemma evictPodIfNotEvicted_spec (h : r.podsEvicted.get pod.uid = none) :
    ∃ tail, tail.all (fun e => !e.isRequest) ∧
      evictPodIfNotEvicted r pod node reason message =
        { podsEvicted :=
            if succeeded (r.kubeClient 0) && !r.podsEvicted.stopped then
              { r.podsEvicted with
                items := Function.update r.podsEvicted.items pod.uid
                  (some ⟨pod.uid, r.now + r.podsEvicted.defaultExpiration⟩) }
            else r.podsEvicted
          now := r.now
          kubeClient := fun n => r.kubeClient (n + 1)
          effects := r.effects ++
            .audit pod.objectMeta.namespace pod.objectMeta.name reason message ::
            .evictV1 r.now pod (r.kubeClient 0) :: tail } := by
  obtain ⟨tail, ht, he⟩ := evictPod_spec r pod node reason message
  refine ⟨tail, ht, ?_⟩
  simp only [evictPodIfNotEvicted, h, he]
  cases succeeded (r.kubeClient 0) <;> cases hs : r.podsEvicted.stopped <;>
    simp [Cache.setDefault, hs]

end Spec

end Resmanager
