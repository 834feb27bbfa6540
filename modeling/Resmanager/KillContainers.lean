import Resmanager.Evict
import Mathlib.Data.List.Basic

/-!
# Killing the containers of a pod

`killContainers` of `resmanager.go` as the list of `StopContainer` calls it makes. The status
lookup, the container-ID parser and the runtime handler registry are outside the sources and are
parameters. The loop stops at the first container whose status lookup fails or which is not
running, and skips a container without an ID or a handler.
-/

namespace Resmanager

/-- A container runtime handler of `pkg/runtime`. -/
structure RuntimeHandler where
  runtimeType : String
deriving DecidableEq, Repr

/-- What `killContainers` calls outside resmanager.go, none of it in the sources: util's status
lookup by container name and container-ID parser, and the runtime handler registry. -/
structure ContainerRuntime where
  findContainerIdAndStatusByName : PodStatus → String →
    Except String (String × Option ContainerStatus)
  parseContainerId : String → String
  getRuntimeHandler : String → Except String (Option RuntimeHandler)

/-- A `StopContainer(containerID, timeout)` call on a runtime handler. -/
structure StopContainer where
  handler : RuntimeHandler
  containerID : String
  timeout : Int
deriving DecidableEq, Repr

/-- `killContainers`: the stop calls it makes, in order. A failed status lookup or a container
that is not running ends the loop (`return`); a failed handler lookup skips the container
(`continue`); a failed stop is only logged. -/
def killContainers (rt : ContainerRuntime) (pod : Pod) (_message : String) : List StopContainer :=
  go pod.spec.containers
where
  go : List Container → List StopContainer
  | [] => []
  | container :: rest =>
    match rt.findContainerIdAndStatusByName pod.status container.name with
    | .error _ => []
    | .ok (_, none) => []
    | .ok (containerID, some containerStatus) =>
      if !containerStatus.state.running then []
      else if containerID != "" then
        match rt.getRuntimeHandler (rt.parseContainerId containerStatus.containerID) with
        | .ok (some runtimeHandler) => ⟨runtimeHandler, containerID, 0⟩ :: go rest
        | _ => go rest
      else go rest

/-- A runtime for the examples: a container's status is found by its name and holds an ID
`containerd://<id>`, and containerd has a handler. -/
def containerdRuntime : ContainerRuntime where
  findContainerIdAndStatusByName status name :=
    match status.containerStatuses.find? (·.name == name) with
    | some st => .ok (st.containerID.drop 13, some st)
    | none => .error ("no status for container " ++ name)
  parseContainerId id := if id.take 13 = "containerd://" then "containerd" else ""
  getRuntimeHandler runtimeType :=
    if runtimeType = "containerd" then .ok (some ⟨"containerd"⟩)
    else .error ("unsupported runtime type " ++ runtimeType)

section Spec

variable (rt : ContainerRuntime) (pod : Pod)

/-- Whether the loop of `killContainers` goes on past a container: its status was found and it
is running. -/
def ContainerRuntime.passes (c : Container) : Bool :=
  match rt.findContainerIdAndStatusByName pod.status c.name with
  | .ok (_, some st) => st.state.running
  | _ => false

/-- The stop call `killContainers` makes for a container it goes past, if any: none without a
container ID or a runtime handler. -/
def ContainerRuntime.stopCall (c : Container) : Option StopContainer :=
  match rt.findContainerIdAndStatusByName pod.status c.name with
  | .ok (containerID, some st) =>
    if containerID != "" then
      match rt.getRuntimeHandler (rt.parseContainerId st.containerID) with
      | .ok (some h) => some ⟨h, containerID, 0⟩
      | _ => none
    else none
  | _ => none

lemma ContainerRuntime.stopCall_eq_some {c : Container} {call : StopContainer}
    (h : rt.stopCall pod c = some call) :
    ∃ st, rt.findContainerIdAndStatusByName pod.status c.name = .ok (call.containerID, some st) ∧
      call.containerID ≠ "" ∧ call.timeout = 0 := by
  unfold ContainerRuntime.stopCall at h
  rcases hf : rt.findContainerIdAndStatusByName pod.status c.name with _ | ⟨id, _ | st⟩ <;>
    simp only [hf, reduceCtorEq] at h
  by_cases hid : id = ""
  · simp [hid] at h
  · rcases hh : rt.getRuntimeHandler (rt.parseContainerId st.containerID) with _ | _ | hd <;>
      simp [hid, hh] at h
    subst h
    exact ⟨st, rfl, hid, rfl⟩

lemma killContainers_go (cs : List Container) :
    killContainers.go rt pod cs = (cs.takeWhile (rt.passes pod)).filterMap (rt.stopCall pod) := by
  induction cs with
  | nil => rfl
  | cons c cs ih =>
    unfold killContainers.go
    rcases h : rt.findContainerIdAndStatusByName pod.status c.name with _ | ⟨id, _ | st⟩
    · simp [ContainerRuntime.passes, h]
    · simp [ContainerRuntime.passes, h]
    · cases hr : st.state.running
      · simp [ContainerRuntime.passes, h, hr]
      · by_cases hid : id = ""
        · simp [ContainerRuntime.passes, ContainerRuntime.stopCall, h, hr, hid, ih]
        · rcases hh : rt.getRuntimeHandler (rt.parseContainerId st.containerID) with _ | _ | hd <;>
            simp [ContainerRuntime.passes, ContainerRuntime.stopCall, h, hr, hid, hh, ih]

/-- `killContainers` stops, in order, the containers before the first one whose status lookup
fails or which is not running, skipping those without an ID or a runtime handler. -/
theorem killContainers_eq (message : String) :
    killContainers rt pod message =
      (pod.spec.containers.takeWhile (rt.passes pod)).filterMap (rt.stopCall pod) :=
  killContainers_go rt pod _

/-- Every stop call is for a running container of the pod, by its non-empty ID, with no grace
period. -/
theorem killContainers_stops_only_running (message : String) (call : StopContainer)
    (hc : call ∈ killContainers rt pod message) :
    ∃ c ∈ pod.spec.containers, ∃ st,
      rt.findContainerIdAndStatusByName pod.status c.name = .ok (call.containerID, some st) ∧
      st.state.running = true ∧ call.containerID ≠ "" ∧ call.timeout = 0 := by
  rw [killContainers, killContainers_go, List.mem_filterMap] at hc
  obtain ⟨c, hmem, hcall⟩ := hc
  obtain ⟨st, hf, hid, ht⟩ := rt.stopCall_eq_some pod hcall
  have hpass := List.mem_takeWhile_imp hmem
  simp only [ContainerRuntime.passes, hf] at hpass
  exact ⟨c, List.takeWhile_subset _ hmem, st, hf, hpass, hid, ht⟩

theorem killContainers_stops_only_running_example :
    let app : ContainerStatus := ⟨"app", "containerd://c2", ⟨true⟩⟩
    let pod : Pod :=
      { spec := { containers := [⟨"app"⟩] }, status := { containerStatuses := [app] } }
    let call : StopContainer := ⟨⟨"containerd"⟩, "c2", 0⟩
    call ∈ killContainers containerdRuntime pod "memory evict" ∧
      ∃ c ∈ pod.spec.containers, ∃ st, containerdRuntime.findContainerIdAndStatusByName pod.status
        c.name = .ok (call.containerID, some st) ∧
        st.state.running = true ∧ call.containerID ≠ "" ∧ call.timeout = 0 := by
  intro app pod call
  have e : killContainers containerdRuntime pod "memory evict" = [call] := by decide
  have hc : call ∈ killContainers containerdRuntime pod "memory evict" := by
    rw [e]; exact .head _
  exact ⟨hc, killContainers_stops_only_running containerdRuntime pod "memory evict" call hc⟩

end Spec

/-- A pod whose first container has no status yet and whose second runs under containerd: the
second container is running, has an ID and a handler, and still gets no stop call, since the
failed lookup of the first ends the loop. -/
theorem killContainers_stops_nothing_after_missing_status :
    let app : ContainerStatus := ⟨"app", "containerd://c2", ⟨true⟩⟩
    let pod : Pod :=
      { spec := { containers := [⟨"sidecar"⟩, ⟨"app"⟩] }
        status := { containerStatuses := [app] } }
    containerdRuntime.findContainerIdAndStatusByName pod.status "app" = .ok ("c2", some app) ∧
      containerdRuntime.getRuntimeHandler (containerdRuntime.parseContainerId app.containerID) =
        .ok (some ⟨"containerd"⟩) ∧
      killContainers containerdRuntime pod "memory evict" = [] :=
  ⟨rfl, rfl, rfl⟩

end Resmanager
