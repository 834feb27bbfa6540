import Resmanager.EvictRun
import Mathlib.Data.List.Basic

/-!
# Concurrent eviction calls

`Resmanager.EvictRun` runs the eviction calls one after another. The reconcilers that call
`evictPodIfNotEvicted` run on goroutines of their own, and a call is three steps on the shared
state: the lookup of the UID in the cache, the eviction, and the insertion of the UID. Each step
is atomic (the cache is safe for concurrent use, the eviction is one request), the call is not.
A concurrent run advances the calls in progress one step at a time, in any order, with the clock
moving on and sweep passes in between; run one call at a time, in any order of the calls, it does
what `evictPodIfNotEvicted` does on each in turn.
-/

namespace Resmanager

/-- Where a call of `evictPodIfNotEvicted` is. -/
inductive CallPhase
  /-- before `r.podsEvicted.Get` -/
  | lookup
  /-- the UID was not cached: before `r.evictPod` -/
  | evict
  /-- before `r.podsEvicted.SetDefault`, with what `evictPod` returned -/
  | record (success : Bool)
  | done
deriving DecidableEq, Repr

/-- A call of `evictPodIfNotEvicted` in progress. -/
structure Call where
  pod : Pod
  node : Node
  reason : String
  message : String
  phase : CallPhase
deriving DecidableEq, Repr

/-- One atomic step of a call on the shared state: the cache lookup, the eviction, or the
insertion of the UID. -/
def Call.step (r : ResManager) (c : Call) : ResManager × Call :=
  match c.phase with
  | .lookup =>
    match r.podsEvicted.get c.pod.uid with
    | some _ => (r, { c with phase := .done })
    | none => (r, { c with phase := .evict })
  | .evict =>
    let (r, success) := evictPod r c.pod c.node c.reason c.message
    (r, { c with phase := .record success })
  | .record success =>
    if success then
      match r.podsEvicted.setDefault r.now c.pod.uid c.pod.uid with
      | .ok cache => ({ r with podsEvicted := cache }, { c with phase := .done })
      | .error _ => (r, { c with phase := .done })
    else (r, { c with phase := .done })
  | .done => (r, c)

lemma Call.step_three (r : ResManager) (c : Call) (hc : c.phase = .lookup) :
    (c.step r).2.step (c.step r).1 |>.2.step ((c.step r).2.step (c.step r).1).1 =
      (evictPodIfNotEvicted r c.pod c.node c.reason c.message, { c with phase := .done }) := by
  obtain ⟨pod, node, reason, message, phase⟩ := c
  subst hc
  cases hg : r.podsEvicted.get pod.uid <;> simp [Call.step, hg, evictPodIfNotEvicted]
  split
  · cases (evictPod r pod node reason message).1.podsEvicted.setDefault
      (evictPod r pod node reason message).1.now pod.uid pod.uid <;> rfl
  · rfl

/-- What can happen while calls are in progress: a step of the call at an index, the clock moving
on, a sweep pass. -/
inductive ConcEvent
  | step (i : Nat)
  | advance (d : Nat)
  | sweep (reached : String → Bool)

/-- One event of a concurrent run; a step of an index past the last call does nothing. -/
def concStep (s : ResManager × List Call) : ConcEvent → ResManager × List Call
  | .step i =>
    match s.2[i]? with
    | none => s
    | some c => ((c.step s.1).1, s.2.set i (c.step s.1).2)
  | .advance d => (step s.1 (.advance d), s.2)
  | .sweep reached => (step s.1 (.sweep reached), s.2)

/-- A concurrent run: the events one after another. -/
def runConc (s : ResManager × List Call) (evs : List ConcEvent) : ResManager × List Call :=
  evs.foldl concStep s

lemma runConc_append (s : ResManager × List Call) (l₁ l₂ : List ConcEvent) :
    runConc s (l₁ ++ l₂) = runConc (runConc s l₁) l₂ :=
  List.foldl_append ..

lemma runConc_block (r : ResManager) {calls : List Call} {i : Nat} {c : Call}
    (hi : calls[i]? = some c) (hc : c.phase = .lookup) (rest : List ConcEvent) :
    runConc (r, calls) (.step i :: .step i :: .step i :: rest) =
      runConc (evictPodIfNotEvicted r c.pod c.node c.reason c.message,
        calls.set i { c with phase := .done }) rest := by
  obtain ⟨h₁, h₂⟩ := Prod.ext_iff.mp (Call.step_three r c hc)
  have hlt : i < calls.length := (List.getElem?_eq_some.mp hi).1
  simp only [runConc, List.foldl_cons, concStep, hi, List.getElem?_set_self, List.length_set, hlt,
    List.set_set]
  rw [h₁, h₂]

lemma runConc_step_none (s : ResManager × List Call) {i : Nat} (hi : s.2[i]? = none)
    (rest : List ConcEvent) : runConc s (.step i :: rest) = runConc s rest := by
  simp only [runConc, List.foldl_cons, concStep, hi]

lemma runConc_blocks (r : ResManager) (calls : List Call) (order : List Nat) (hn : order.Nodup)
    (hc : ∀ i ∈ order, ∀ c, calls[i]? = some c → c.phase = .lookup) :
    (runConc (r, calls) (order.flatMap fun i => [.step i, .step i, .step i])).1 =
      (order.filterMap fun i => calls[i]?).foldl
        (fun r c => evictPodIfNotEvicted r c.pod c.node c.reason c.message) r := by
  induction order generalizing r calls with
  | nil => rfl
  | cons i order ih =>
    obtain ⟨hi, hn⟩ := List.nodup_cons.mp hn
    rw [List.flatMap_cons, List.cons_append, List.cons_append, List.cons_append, List.nil_append,
      List.filterMap_cons]
    cases h : calls[i]? with
    | none =>
      simp only [runConc_step_none (r, calls) h]
      exact ih r calls hn fun j hj => hc j (List.mem_cons_of_mem i hj)
    | some c =>
      rw [runConc_block r h (hc i (List.mem_cons_self i order) c h), List.foldl_cons]
      have hkeep : ∀ j ∈ order, (calls.set i { c with phase := .done })[j]? = calls[j]? :=
        fun j hj => List.getElem?_set_ne fun (e : i = j) => hi (e ▸ hj)
      rw [ih _ _ hn fun j hj c' h' => hc j (List.mem_cons_of_mem i hj) c' ((hkeep j hj).symm.trans h'),
        List.filterMap_congr hkeep]

/-- **Calls run one at a time are the sequential calls.** In any order of the calls, each run
from its lookup to its end before the next starts, the concurrent run does what
`evictPodIfNotEvicted` does on each in turn. -/
theorem runConc_serial (r : ResManager) (calls : List Call) (order : List Nat) (hn : order.Nodup)
    (hc : ∀ c ∈ calls, c.phase = .lookup) :
    (runConc (r, calls) (order.flatMap fun i => [.step i, .step i, .step i])).1 =
      (order.filterMap fun i => calls[i]?).foldl
        (fun r c => evictPodIfNotEvicted r c.pod c.node c.reason c.message) r :=
  runConc_blocks r calls order hn fun _ _ c h => hc c (List.getElem?_mem h)

theorem runConc_serial_example :
    let r : ResManager :=
      ⟨newCacheDefault 10, 0, fun n => if n = 0 then some .notFound else none, []⟩
    let calls : List Call :=
      [⟨{ objectMeta := { name := "a", uid := "ua" } }, {}, "memoryEvict", "", .lookup⟩,
       ⟨{ objectMeta := { name := "b", uid := "ub" } }, {}, "memoryEvict", "", .lookup⟩]
    [1, 0].Nodup ∧ (∀ c ∈ calls, c.phase = .lookup) ∧
      (runConc (r, calls) ([1, 0].flatMap fun i => [.step i, .step i, .step i])).1 =
        ([1, 0].filterMap fun i => calls[i]?).foldl
          (fun r c => evictPodIfNotEvicted r c.pod c.node c.reason c.message) r := by
  intro r calls
  have hn : [1, 0].Nodup := by decide
  have hc : ∀ c ∈ calls, c.phase = .lookup := by decide
  exact ⟨hn, hc, runConc_serial r calls [1, 0] hn hc⟩

end Resmanager
