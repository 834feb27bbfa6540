import Resmanager.StoreTrace

/-!
# Starting the resmanager

`Run` of `resmanager.go` starts the dedup cache's sweep and the NodeSLO informer, waits in turn
for the NodeSLO informer, the states informer and the store (`hasSynced`), and then starts the six
reconcilers, each behind its feature gate; a wait that the stop signal ends makes `Run` return
that wait's error. `cache.WaitForCacheSync` is not in the sources; it is modelled from §4.5 of the
spec as polling its condition at each tick until it holds or the stop signal fires. Over a store
the handlers fill, every reconciler finds the store synced from the tick it starts on.
-/

namespace Resmanager

/-- Modelled from the spec: `cache.WaitForCacheSync` polls `cond` at `start`, `start + 1`, ... and
returns the first tick at which it holds, or `none` when the stop signal fires first, `ticks`
ticks after `start`. -/
def waitForCacheSync (cond : Nat → Bool) (start : Nat) : (ticks : Nat) → Option Nat
  | 0 => none
  | ticks + 1 => if cond start then some start else waitForCacheSync cond (start + 1) ticks

lemma waitForCacheSync_eq_some {cond : Nat → Bool} {start ticks t : Nat}
    (h : waitForCacheSync cond start ticks = some t) :
    start ≤ t ∧ t < start + ticks ∧ cond t = true ∧ ∀ s, start ≤ s → s < t → cond s = false := by
  induction ticks generalizing start with
  | zero => cases h
  | succ ticks ih =>
    simp only [waitForCacheSync] at h
    split at h
    next hc =>
      cases h
      exact ⟨le_rfl, by omega, hc, fun s h₁ h₂ => by omega⟩
    next hc =>
      obtain ⟨h₁, h₂, ht, hs⟩ := ih h
      refine ⟨by omega, by omega, ht, fun s hs₁ hs₂ => ?_⟩
      rcases Nat.eq_or_lt_of_le hs₁ with rfl | hlt
      · simpa using hc
      · exact hs s hlt hs₂

lemma waitForCacheSync_eq_none {cond : Nat → Bool} {start ticks : Nat}
    (h : waitForCacheSync cond start ticks = none) :
    ∀ s, start ≤ s → s < start + ticks → cond s = false := by
  induction ticks generalizing start with
  | zero => intro s h₁ h₂; omega
  | succ ticks ih =>
    simp only [waitForCacheSync] at h
    split at h
    next => cases h
    next hc =>
      intro s hs₁ hs₂
      rcases Nat.eq_or_lt_of_le hs₁ with rfl | hlt
      · simpa using hc
      · exact ih h s hlt (by omega)

lemma waitForCacheSync_le {cond : Nat → Bool} {start ticks t : Nat} (hc : cond t = true)
    (h₁ : start ≤ t) (h₂ : t < start + ticks) :
    ∃ t', t' ≤ t ∧ waitForCacheSync cond start ticks = some t' := by
  cases hw : waitForCacheSync cond start ticks with
  | none => simp [waitForCacheSync_eq_none hw t h₁ h₂] at hc
  | some t' =>
    obtain ⟨-, -, -, hs⟩ := waitForCacheSync_eq_some hw
    refine ⟨t', Nat.not_lt.mp fun hlt => ?_, rfl⟩
    simp [hs t h₁ hlt] at hc

/-- What `Run` waits for, in its order. -/
inductive SyncWait
  | nodeSLOInformer
  | statesInformer
  | nodeSLO
deriving DecidableEq, Repr

/-- The error `Run` returns when the stop signal ends a wait. -/
def SyncWait.timeoutError : SyncWait → String
  | .nodeSLOInformer => "time out waiting for node slo caches to sync"
  | .statesInformer => "time out waiting for kubelet meta service caches to sync"
  | .nodeSLO => "time out waiting for sync NodeSLO"

/-- The reconcilers `Run` starts, each by the name `Run` gives it or its periodic function. -/
inductive Reconciler
  | reconcileBECgroup
  | cgroupResourceReconcile
  | suppressBECPU
  | cpuBurst
  | memoryEvict
  | rdtResCtrl
deriving DecidableEq, Repr

/-- The intervals of the agent's `Config` that `Run` reads, in seconds. -/
structure Config where
  reconcileIntervalSeconds : Int
  cpuSuppressIntervalSeconds : Int
  memoryEvictIntervalSeconds : Int
deriving DecidableEq, Repr

/-- What `Run` starts in the background. -/
inductive Start
  /-- `r.podsEvicted.Run(stopCh)` -/
  | podsEvicted
  /-- `go r.nodeSLOInformer.Run(stopCh)` -/
  | nodeSLOInformer
  /-- `util.RunFeature(fn, features, interval, stopCh)` -/
  | runFeature (fn : Reconciler) (features : List Feature) (interval : Int)
  /-- `util.RunFeatureWithInit(init, fn, features, interval, stopCh)` -/
  | runFeatureWithInit (fn : Reconciler) (features : List Feature) (interval : Int)
deriving DecidableEq, Repr

/-- The reconcilers `Run` starts once everything has synced, in its order, each behind its
feature gate. -/
def reconcilers (cfg : Config) : List Start :=
  [.runFeature .reconcileBECgroup [.beCgroupReconcile] cfg.reconcileIntervalSeconds,
   .runFeatureWithInit .cgroupResourceReconcile [.cgroupReconcile] cfg.reconcileIntervalSeconds,
   .runFeature .suppressBECPU [.beCPUSuppress] cfg.cpuSuppressIntervalSeconds,
   .runFeatureWithInit .cpuBurst [.cpuBurst] cfg.reconcileIntervalSeconds,
   .runFeature .memoryEvict [.beMemoryEvict] cfg.memoryEvictIntervalSeconds,
   .runFeatureWithInit .rdtResCtrl [.rdtResctrl] cfg.reconcileIntervalSeconds]

/-- What `Run` observes: the tick the stop signal fires at, whether each informer has synced at
each tick, and the stored NodeSLO at each tick. -/
structure RunEnv where
  stop : Nat
  nodeSLOInformerSynced : Nat → Bool
  statesInformerSynced : Nat → Bool
  nodeSLO : Nat → Option NodeSLO

/-- The condition each wait polls: the informers' `HasSynced` and the store's `hasSynced`. -/
def RunEnv.synced (env : RunEnv) : SyncWait → Nat → Bool
  | .nodeSLOInformer => env.nodeSLOInformerSynced
  | .statesInformer => env.statesInformerSynced
  | .nodeSLO => fun t => hasSynced (env.nodeSLO t)

/-- `cache.WaitForCacheSync(stopCh, cond)` from tick `t`. -/
def RunEnv.wait (env : RunEnv) (w : SyncWait) (t : Nat) : Option Nat :=
  waitForCacheSync (env.synced w) t (env.stop - t)

/-- What `Run` starts first, at the tick it is called. -/
def backgroundStarts (start : Nat) : List (Nat × Start) :=
  [(start, .podsEvicted), (start, .nodeSLOInformer)]

/-- `Run` called at tick `start`: what it starts, each with its tick, and the error it returns.
Once it has started the reconcilers it blocks until the stop signal and returns nil. -/
def run (cfg : Config) (env : RunEnv) (start : Nat) : List (Nat × Start) × Option String :=
  match env.wait .nodeSLOInformer start with
  | none => (backgroundStarts start, some SyncWait.nodeSLOInformer.timeoutError)
  | some t₁ =>
    match env.wait .statesInformer t₁ with
    | none => (backgroundStarts start, some SyncWait.statesInformer.timeoutError)
    | some t₂ =>
      match env.wait .nodeSLO t₂ with
      | none => (backgroundStarts start, some SyncWait.nodeSLO.timeoutError)
      | some t₃ => (backgroundStarts start ++ (reconcilers cfg).map fun s => (t₃, s), none)

lemma RunEnv.wait_eq_some {env : RunEnv} {w : SyncWait} {t t' : Nat} (h : env.wait w t = some t') :
    t ≤ t' ∧ t' < env.stop ∧ env.synced w t' = true := by
  obtain ⟨h₁, h₂, hc, -⟩ := waitForCacheSync_eq_some h
  exact ⟨h₁, by omega, hc⟩

lemma RunEnv.wait_eq_none {env : RunEnv} {w : SyncWait} {t : Nat} (h : env.wait w t = none) :
    ∀ s, t ≤ s → s < env.stop → env.synced w s = false :=
  fun s h₁ h₂ => waitForCacheSync_eq_none h s h₁ (by omega)

/-- What `Run` does: either the stop signal cuts off a wait whose condition never held from the
tick it began, and `Run` returns that wait's error having started only the cache's sweep and the
informer; or the three waits end in turn and `Run` starts the reconcilers at the tick the last
one ends, before the stop signal, the informers synced at the ticks their waits ended and the
store synced. -/
lemma run_cases (cfg : Config) (env : RunEnv) (start : Nat) :
    (∃ w t, start ≤ t ∧ (∀ s, t ≤ s → s < env.stop → env.synced w s = false) ∧
      run cfg env start = (backgroundStarts start, some w.timeoutError)) ∨
    ∃ t₁ t₂ t₃, start ≤ t₁ ∧ t₁ ≤ t₂ ∧ t₂ ≤ t₃ ∧ t₃ < env.stop ∧
      env.nodeSLOInformerSynced t₁ = true ∧ env.statesInformerSynced t₂ = true ∧
      hasSynced (env.nodeSLO t₃) = true ∧ run cfg env start =
        (backgroundStarts start ++ (reconcilers cfg).map fun s => (t₃, s), none) := by
  rcases h₁ : env.wait .nodeSLOInformer start with _ | t₁
  · exact .inl ⟨.nodeSLOInformer, start, le_rfl, RunEnv.wait_eq_none h₁, by simp [run, h₁]⟩
  obtain ⟨le₁, -, hs₁⟩ := RunEnv.wait_eq_some h₁
  rcases h₂ : env.wait .statesInformer t₁ with _ | t₂
  · exact .inl ⟨.statesInformer, t₁, le₁, RunEnv.wait_eq_none h₂, by simp [run, h₁, h₂]⟩
  obtain ⟨le₂, -, hs₂⟩ := RunEnv.wait_eq_some h₂
  rcases h₃ : env.wait .nodeSLO t₂ with _ | t₃
  · exact .inl ⟨.nodeSLO, t₂, by omega, RunEnv.wait_eq_none h₃, by simp [run, h₁, h₂, h₃]⟩
  obtain ⟨le₃, lt₃, hs₃⟩ := RunEnv.wait_eq_some h₃
  exact .inr ⟨t₁, t₂, t₃, le₁, le₂, le₃, lt₃, hs₁, hs₂, hs₃, by simp [run, h₁, h₂, h₃]⟩

/-- **No reconciler sees an unsynced store.** Over a store the handlers fill, every reconciler
`Run` starts is started before the stop signal and after the NodeSLO informer and then the states
informer were seen synced; `Run` returns nil, and from then on every snapshot the reconciler takes
is synced and answers the CPU-suppress and memory-evict features without error. -/
theorem run_reconcilers_see_synced_store (gate : Feature → Bool)
    (tr : StoreTrace (overlayHelpers gate defaultNodeSLOSpecConfig)) (cfg : Config) (env : RunEnv)
    (start : Nat) (hstore : env.nodeSLO = tr.nodeSLO) (ts : Nat) (s : Start)
    (hs : (ts, s) ∈ (run cfg env start).1) (hrec : s ∈ reconcilers cfg) :
    (∃ t₁ t₂, start ≤ t₁ ∧ t₁ ≤ t₂ ∧ t₂ ≤ ts ∧ env.nodeSLOInformerSynced t₁ = true ∧
        env.statesInformerSynced t₂ = true) ∧ ts < env.stop ∧ (run cfg env start).2 = none ∧
      ∀ t, ts ≤ t → hasSynced (tr.nodeSLO t) = true ∧
        ∀ f, f = .beCPUSuppress ∨ f = .beMemoryEvict →
          (isFeatureDisabled (getNodeSLOCopy (tr.nodeSLO t)) f).2 = none := by
  have hbg : (ts, s) ∉ backgroundStarts start := by
    intro hm
    simp only [backgroundStarts, List.mem_cons, Prod.mk.injEq, List.not_mem_nil, or_false] at hm
    rcases hm with ⟨-, rfl⟩ | ⟨-, rfl⟩ <;> simp [reconcilers] at hrec
  rcases run_cases cfg env start with ⟨w, t, -, -, he⟩ |
    ⟨t₁, t₂, t₃, le₁, le₂, le₃, lt₃, hs₁, hs₂, hsync, he⟩
  · rw [he] at hs
    exact absurd hs hbg
  rw [he] at hs ⊢
  obtain rfl : ts = t₃ := by
    simp only [List.mem_append, List.mem_map, Prod.mk.injEq] at hs
    rcases hs with hs | ⟨_, -, rfl, -⟩
    · exact absurd hs hbg
    · rfl
  rw [hstore] at hsync
  exact ⟨⟨t₁, t₂, le₁, le₂, le₃, hs₁, hs₂⟩, lt₃, rfl, fun t ht =>
    tr.synced_of_isSome gate (isSome_of_hasSynced (tr.hasSynced_mono gate ht hsync))⟩

theorem run_reconcilers_see_synced_store_example :
    let gate : Feature → Bool := fun _ => true
    let tr := StoreTrace.ofHistory (overlayHelpers gate defaultNodeSLOSpecConfig)
      [.add (.nodeSLO { objectMeta := { name := "node" } })] id Nat.le_succ ⟨_, rfl⟩
    let cfg : Config := ⟨10, 1, 1⟩
    let env : RunEnv := ⟨5, fun _ => true, fun _ => true, tr.nodeSLO⟩
    (1, .runFeature .suppressBECPU [.beCPUSuppress] 1) ∈ (run cfg env 0).1 ∧
      ∀ t, 1 ≤ t → hasSynced (tr.nodeSLO t) = true := by
  intro gate tr cfg env
  have hrun : (run cfg env 0).1 = backgroundStarts 0 ++ (reconcilers cfg).map fun s => (1, s) :=
    rfl
  have hrec : Start.runFeature .suppressBECPU [.beCPUSuppress] 1 ∈ reconcilers cfg :=
    .tail _ (.tail _ (.head _))
  have hs : (1, .runFeature .suppressBECPU [.beCPUSuppress] 1) ∈ (run cfg env 0).1 :=
    hrun ▸ List.mem_append_right _ (List.mem_map_of_mem _ hrec)
  exact ⟨hs, fun t ht =>
    ((run_reconcilers_see_synced_store gate tr cfg env 0 rfl 1 _ hs hrec).2.2.2 t ht).1⟩

/-- **Run starts the reconcilers once everything has synced.** If the two informers stay synced
from ticks `a` and `b` on, the store the handlers fill holds a NodeSLO at tick `c`, and the stop
signal comes after all of these and after `start`, then `Run` returns nil and starts the
reconcilers by the latest of them. -/
theorem run_starts_reconcilers (gate : Feature → Bool)
    (tr : StoreTrace (overlayHelpers gate defaultNodeSLOSpecConfig)) (cfg : Config) (env : RunEnv)
    (start a b c : Nat) (hstore : env.nodeSLO = tr.nodeSLO)
    (ha : ∀ t, a ≤ t → env.nodeSLOInformerSynced t = true)
    (hb : ∀ t, b ≤ t → env.statesInformerSynced t = true) (hc : (tr.nodeSLO c).isSome)
    (hstop : max (max start a) (max b c) < env.stop) :
    ∃ t₃ ≤ max (max start a) (max b c),
      run cfg env start =
        (backgroundStarts start ++ (reconcilers cfg).map fun s => (t₃, s), none) := by
  set T := max (max start a) (max b c) with hT
  have hs₁ : env.synced .nodeSLOInformer T = true := ha T (by omega)
  have hs₂ : env.synced .statesInformer T = true := hb T (by omega)
  have hs₃ : env.synced .nodeSLO T = true := by
    simpa [RunEnv.synced, hstore] using
      tr.hasSynced_mono gate (by omega : c ≤ T) (tr.synced_of_isSome gate hc).1
  obtain ⟨t₁, le₁, h₁⟩ := waitForCacheSync_le hs₁ (by omega : start ≤ T)
    (by omega : T < start + (env.stop - start))
  obtain ⟨t₂, le₂, h₂⟩ := waitForCacheSync_le hs₂ le₁ (by omega : T < t₁ + (env.stop - t₁))
  obtain ⟨t₃, le₃, h₃⟩ := waitForCacheSync_le hs₃ le₂ (by omega : T < t₂ + (env.stop - t₂))
  exact ⟨t₃, le₃, by simp [run, RunEnv.wait, h₁, h₂, h₃]⟩

theorem run_starts_reconcilers_example :
    let gate : Feature → Bool := fun _ => true
    let tr := StoreTrace.ofHistory (overlayHelpers gate defaultNodeSLOSpecConfig)
      [.add (.nodeSLO { objectMeta := { name := "node" } })] id Nat.le_succ ⟨_, rfl⟩
    let cfg : Config := ⟨10, 1, 1⟩
    let env : RunEnv := ⟨5, fun _ => true, fun _ => true, tr.nodeSLO⟩
    (tr.nodeSLO 1).isSome ∧ ∃ t₃ ≤ max (max 0 0) (max 0 1),
      run cfg env 0 = (backgroundStarts 0 ++ (reconcilers cfg).map fun s => (t₃, s), none) := by
  intro gate tr cfg env
  exact ⟨by decide, run_starts_reconcilers gate tr cfg env 0 0 0 1 rfl (fun _ _ => rfl)
    (fun _ _ => rfl) (by decide) (by decide)⟩

end Resmanager
