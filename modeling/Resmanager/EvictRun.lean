import Resmanager.Evict

/-!
# Runs of the eviction pipeline

A run is a sequence of calls to `evictPodIfNotEvicted` and `evictPodsIfNotEvicted` on any pods,
with the clock moving on and sweep passes in between; the cluster's answers are the tape in the
state. Over every run from a running cache a pod is not evicted twice within a TTL, a batch
attempts each of its pods, only an accepted request caches its UID, and from an empty cache each
entry expires exactly a TTL after the latest accepted request for its UID, so that a sweep past
that time makes the pod eligible again.
-/

namespace Resmanager

/-- What can happen to the pipeline: a reconciler's call, the clock moving on, a sweep pass. -/
inductive Event
  | evictPodIfNotEvicted (pod : Pod) (node : Node) (reason message : String)
  | evictPodsIfNotEvicted (pods : List Pod) (node : Node) (reason message : String)
  | advance (d : Nat)
  | sweep (reached : String → Bool)

def step (r : ResManager) : Event → ResManager
  | .evictPodIfNotEvicted pod node reason message => evictPodIfNotEvicted r pod node reason message
  | .evictPodsIfNotEvicted pods node reason message =>
    evictPodsIfNotEvicted r pods node reason message
  | .advance d => { r with now := r.now + d }
  | .sweep reached => { r with podsEvicted := r.podsEvicted.sweep r.now reached }

/-- A sequential run: the events one after another. -/
def runEvents (r : ResManager) (evs : List Event) : ResManager := evs.foldl step r

/-- No request is sent for a UID within the TTL after a request for it that got a nil answer:
whenever a nil-answered request at `t` precedes a request at `t'` for the same UID, `t'` is past
`t + ttl`. -/
def Spaced (ttl : Nat) (effects : List Effect) : Prop :=
  ∀ t p t' p' res, List.Sublist [.evictV1 t p none, .evictV1 t' p' res] effects → p.uid = p'.uid →
    t + ttl < t'

/-- The invariant of the dedup cache over a run with a running cache of TTL `ttl`: each
nil-answered request is still cached, expiring no earlier than `ttl` after it, or `ttl` after it
has passed; and the requests so far are spaced. -/
structure DedupInv (ttl : Nat) (r : ResManager) : Prop where
  ttl_eq : r.podsEvicted.defaultExpiration = ttl
  running : r.podsEvicted.stopped = false
  covered : ∀ t p, .evictV1 t p none ∈ r.effects → t + ttl < r.now ∨
    ∃ it, r.podsEvicted.items p.uid = some it ∧ t + ttl ≤ it.expiration
  spaced : Spaced ttl r.effects

lemma pair_sublist_append {α : Type} {a b : α} {l l' : List α} (h : List.Sublist [a, b] (l ++ l')) :
    List.Sublist [a, b] l ∨ (a ∈ l ∧ b ∈ l') ∨ List.Sublist [a, b] l' := by
  obtain ⟨l₁, l₂, e, h₁, h₂⟩ := List.sublist_append_iff.mp h
  rcases l₁ with _ | ⟨x, _ | ⟨y, _ | ⟨z, l₁⟩⟩⟩
  · simp only [List.nil_append] at e
    subst e
    exact .inr (.inr h₂)
  · simp only [List.singleton_append, List.cons.injEq] at e
    obtain ⟨rfl, rfl⟩ := e
    exact .inr (.inl ⟨List.singleton_sublist.mp h₁, List.singleton_sublist.mp (by simpa using h₂)⟩)
  · simp only [List.cons_append, List.nil_append, List.cons.injEq] at e
    obtain ⟨rfl, rfl, rfl⟩ := e
    exact .inl h₁
  · simp at e

lemma not_pair_sublist_sent {a b : Effect} (ha : a.isRequest) (hb : b.isRequest) (e₁ e₂ : Effect)
    {tail : List Effect} (ht : tail.all (fun e => !e.isRequest)) (h₁ : e₁.isRequest = false) :
    ¬ List.Sublist [a, b] (e₁ :: e₂ :: tail) := by
  have hnot : ∀ x ∈ tail, x.isRequest = false := fun x hx => by
    simpa using List.all_eq_true.mp ht x hx
  intro h
  rcases List.sublist_cons_iff.mp h with h | ⟨r, hr, -⟩
  · rcases List.sublist_cons_iff.mp h with h | ⟨r, hr, h⟩
    · have := hnot a (h.subset (by simp)); simp_all
    · simp only [List.cons.injEq] at hr
      obtain ⟨rfl, rfl⟩ := hr
      have := hnot b (h.subset (by simp)); simp_all
  · simp only [List.cons.injEq] at hr
    simp_all

lemma eq_of_mem_sent {tail : List Effect} (ht : tail.all (fun e => !e.isRequest))
    {ns name reason message : String} {t t₀ : Nat} {p p₀ : Pod} {res res₀ : Option ApiError}
    (h : .evictV1 t p res ∈ .audit ns name reason message :: .evictV1 t₀ p₀ res₀ :: tail) :
    t = t₀ ∧ p = p₀ ∧ res = res₀ := by
  simp only [List.mem_cons, Effect.evictV1.injEq, reduceCtorEq, false_or] at h
  rcases h with h | h
  · exact h
  · simpa [Effect.isRequest] using List.all_eq_true.mp ht _ h

lemma DedupInv.evictPodIfNotEvicted {ttl : Nat} {r : ResManager} (hi : DedupInv ttl r)
    (pod : Pod) (node : Node) (reason message : String) :
    DedupInv ttl (evictPodIfNotEvicted r pod node reason message) := by
  cases hg : r.podsEvicted.get pod.uid with
  | some v => rwa [evictPodIfNotEvicted_cached r pod node reason message (by simp [hg])]
  | none =>
    obtain ⟨tail, ht, he⟩ := evictPodIfNotEvicted_spec r pod node reason message hg
    rw [he]
    have hnone : r.podsEvicted.items pod.uid = none := by simpa [Cache.get] using hg
    have hold : ∀ t p, .evictV1 t p none ∈ r.effects → p.uid = pod.uid → t + ttl < r.now := by
      intro t p hm hp
      rcases hi.covered t p hm with h | ⟨it, hit, _⟩
      · exact h
      · rw [hp, hnone] at hit; cases hit
    constructor
    · split <;> simp [hi.ttl_eq]
    · split <;> simp [hi.running]
    · intro t p hm
      rcases List.mem_append.mp hm with hm | hm
      · by_cases hp : p.uid = pod.uid
        · exact .inl (hold t p hm hp)
        · rcases hi.covered t p hm with h | ⟨it, hit, hle⟩
          · exact .inl h
          · exact .inr ⟨it, by split <;> simp [Function.update_noteq hp, hit], hle⟩
      · obtain ⟨rfl, rfl, hres⟩ := eq_of_mem_sent ht hm
        exact .inr ⟨⟨p.uid, r.now + r.podsEvicted.defaultExpiration⟩,
          by simp [← hres, succeeded, hi.running], by simp [hi.ttl_eq]⟩
    · intro t p t' p' res hsub hu
      rcases pair_sublist_append hsub with h | ⟨ha, hb⟩ | h
      · exact hi.spaced t p t' p' res h hu
      · obtain ⟨rfl, rfl, -⟩ := eq_of_mem_sent ht hb
        exact hold t p ha hu
      · exact absurd h (not_pair_sublist_sent (by rfl) (by rfl) _ _ ht (by rfl))

lemma DedupInv.evictPodsIfNotEvicted {ttl : Nat} {r : ResManager} (hi : DedupInv ttl r)
    (pods : List Pod) (node : Node) (reason message : String) :
    DedupInv ttl (evictPodsIfNotEvicted r pods node reason message) := by
  induction pods generalizing r with
  | nil => exact hi
  | cons pod pods ih => exact ih (hi.evictPodIfNotEvicted pod node reason message)

lemma DedupInv.advance {ttl : Nat} {r : ResManager} (hi : DedupInv ttl r) (d : Nat) :
    DedupInv ttl { r with now := r.now + d } :=
  { hi with covered := fun t p hm => (hi.covered t p hm).imp_left fun h => by dsimp only; omega }

lemma DedupInv.sweep {ttl : Nat} {r : ResManager} (hi : DedupInv ttl r) (reached : String → Bool) :
    DedupInv ttl { r with podsEvicted := r.podsEvicted.sweep r.now reached } where
  ttl_eq := by simp [hi.ttl_eq]
  running := by simp [hi.running]
  covered t p hm := by
    rcases hi.covered t p hm with h | ⟨it, hit, hle⟩
    · exact .inl h
    · rcases Cache.sweep_items r.podsEvicted r.now reached p.uid with e | ⟨it', hit', hexp, -⟩
      · exact .inr ⟨it, e ▸ hit, hle⟩
      · rw [hit] at hit'
        cases hit'
        simp only [Item.expired, decide_eq_true_eq] at hexp
        exact .inl (by dsimp only; omega)
  spaced := hi.spaced

lemma DedupInv.step {ttl : Nat} {r : ResManager} (hi : DedupInv ttl r) :
    ∀ e, DedupInv ttl (step r e)
  | .evictPodIfNotEvicted pod node reason message =>
    hi.evictPodIfNotEvicted pod node reason message
  | .evictPodsIfNotEvicted pods node reason message =>
    hi.evictPodsIfNotEvicted pods node reason message
  | .advance d => hi.advance d
  | .sweep reached => hi.sweep reached

lemma DedupInv.run {ttl : Nat} {r : ResManager} (hi : DedupInv ttl r) (evs : List Event) :
    DedupInv ttl (runEvents r evs) := by
  induction evs generalizing r with
  | nil => exact hi
  | cons e evs ih => exact ih (hi.step e)

/-- **At most one eviction per pod in a TTL window.** In every sequential run of eviction calls,
clock advances and sweeps, from a running dedup cache and with any answers of the cluster, a
request for a pod comes after a nil-answered request for a pod of the same UID only once the
entry that request cached has expired. -/
theorem evict_once_per_ttl (r : ResManager) (hs : r.podsEvicted.stopped = false)
    (he : r.effects = []) (evs : List Event) (t t' : Nat) (p p' : Pod) (res : Option ApiError)
    (hsub : List.Sublist [.evictV1 t p none, .evictV1 t' p' res] (runEvents r evs).effects)
    (hu : p.uid = p'.uid) : t + r.podsEvicted.defaultExpiration < t' :=
  (DedupInv.run ⟨rfl, hs, by simp [he], by simp [Spaced, he]⟩ evs).spaced t p t' p' res hsub hu

theorem evict_once_per_ttl_example :
    let pod : Pod := { objectMeta := { name := "be-pod", uid := "u" } }
    let r : ResManager := ⟨newCacheDefault 10, 0, fun _ => none, []⟩
    let evs := [.evictPodIfNotEvicted pod {} "memoryEvict" "", .advance 11, .sweep fun _ => true,
      .evictPodIfNotEvicted pod {} "memoryEvict" ""]
    List.Sublist [.evictV1 0 pod none, .evictV1 11 pod none] (runEvents r evs).effects ∧
      0 + r.podsEvicted.defaultExpiration < 11 := by
  intro pod r evs
  exact ⟨by decide, evict_once_per_ttl r rfl rfl evs 0 11 pod pod none (by decide) rfl⟩

lemma evictPodIfNotEvicted_items_ne (r : ResManager) (pod : Pod) (node : Node)
    (reason message : String) {k : String} (hk : pod.uid ≠ k) :
    (evictPodIfNotEvicted r pod node reason message).podsEvicted.items k =
      r.podsEvicted.items k := by
  cases hg : r.podsEvicted.get pod.uid with
  | some v => rw [evictPodIfNotEvicted_cached r pod node reason message (by simp [hg])]
  | none =>
    obtain ⟨tail, -, he⟩ := evictPodIfNotEvicted_spec r pod node reason message hg
    rw [he]
    split <;> simp [Function.update_noteq (Ne.symm hk)]

/-- The pods the eviction requests among `effects` are for, in order. -/
def requestedPods (effects : List Effect) : List Pod :=
  effects.filterMap fun
    | .evictV1 _ pod _ => some pod
    | _ => none

lemma requestedPods_eq_nil {tail : List Effect} (ht : tail.all (fun e => !e.isRequest)) :
    requestedPods tail = [] := by
  refine List.filterMap_eq_nil_iff.mpr fun e he => ?_
  have hr := List.all_eq_true.mp ht e he
  cases e with
  | evictV1 => simp [Effect.isRequest] at hr
  | _ => rfl

/-- **A batch attempts every pod.** On pods of pairwise distinct UIDs, none of them cached,
`evictPodsIfNotEvicted` sends one eviction request per pod, in the batch's order, whatever the
cluster answers: a failed eviction does not keep the later pods from being attempted. -/
theorem evictPodsIfNotEvicted_requests (r : ResManager) (pods : List Pod) (node : Node)
    (reason message : String) (hd : (pods.map Pod.uid).Nodup)
    (hn : ∀ pod ∈ pods, r.podsEvicted.get pod.uid = none) :
    ∃ new, (evictPodsIfNotEvicted r pods node reason message).effects = r.effects ++ new ∧
      requestedPods new = pods := by
  induction pods generalizing r with
  | nil => exact ⟨[], by simp [evictPodsIfNotEvicted], rfl⟩
  | cons pod pods ih =>
    simp only [List.map_cons, List.nodup_cons, List.mem_map, not_exists, not_and] at hd
    obtain ⟨tail, ht, he⟩ := evictPodIfNotEvicted_spec r pod node reason message (hn pod (by simp))
    have hn' : ∀ q ∈ pods,
        (evictPodIfNotEvicted r pod node reason message).podsEvicted.get q.uid = none := by
      intro q hq
      have hne : pod.uid ≠ q.uid := fun e => hd.1 q hq e.symm
      simpa [Cache.get, evictPodIfNotEvicted_items_ne r pod node reason message hne]
        using hn q (by simp [hq])
    obtain ⟨new, hnew, hreq⟩ := ih _ hd.2 hn'
    refine ⟨.audit pod.objectMeta.namespace pod.objectMeta.name reason message ::
      .evictV1 r.now pod (r.kubeClient 0) :: tail ++ new, ?_, ?_⟩
    · change (evictPodsIfNotEvicted (evictPodIfNotEvicted r pod node reason message) pods node
        reason message).effects = _
      rw [hnew, he]
      simp
    · have hnil := requestedPods_eq_nil ht
      simp only [requestedPods, List.filterMap_cons, List.filterMap_append] at hnil hreq ⊢
      rw [hnil, hreq]
      rfl

theorem evictPodsIfNotEvicted_requests_example :
    let a : Pod := { objectMeta := { name := "a", uid := "ua" } }
    let b : Pod := { objectMeta := { name := "b", uid := "ub" } }
    let r : ResManager :=
      ⟨newCacheDefault 10, 0, fun n => if n = 0 then some (.other "conflict") else none, []⟩
    ([a, b].map Pod.uid).Nodup ∧ (∀ pod ∈ [a, b], r.podsEvicted.get pod.uid = none) ∧
      ∃ new, (evictPodsIfNotEvicted r [a, b] {} "memoryEvict" "").effects = r.effects ++ new ∧
        requestedPods new = [a, b] := by
  intro a b r
  exact ⟨by decide, by decide,
    evictPodsIfNotEvicted_requests r [a, b] {} "memoryEvict" "" (by decide) (by decide)⟩

/-- The ticks of the requests among `effects` for a pod of UID `u` that the cluster accepted:
answered nil or "not found". -/
def acceptedAt (u : String) (effects : List Effect) : List Nat :=
  effects.filterMap fun
    | .evictV1 t p res => if p.uid = u ∧ succeeded res = true then some t else none
    | _ => none

lemma acceptedAt_append (u : String) (a b : List Effect) :
    acceptedAt u (a ++ b) = acceptedAt u a ++ acceptedAt u b :=
  List.filterMap_append ..

lemma acceptedAt_sent {tail : List Effect} (ht : tail.all (fun e => !e.isRequest))
    (u ns name reason message : String) (t : Nat) (pod : Pod) (res : Option ApiError) :
    acceptedAt u (.audit ns name reason message :: .evictV1 t pod res :: tail) =
      if pod.uid = u ∧ succeeded res = true then [t] else [] := by
  have hnil : acceptedAt u tail = [] := List.filterMap_eq_nil_iff.mpr fun e he => by
    have hr := List.all_eq_true.mp ht e he
    cases e with
    | evictV1 => simp [Effect.isRequest] at hr
    | _ => rfl
  unfold acceptedAt at hnil ⊢
  simp only [List.filterMap_cons, hnil]
  split_ifs <;> rfl

/-- Every cached UID maps to itself, and its entry expires exactly a TTL after the latest request
for it that the cluster accepted. -/
structure CacheExact (ttl : Nat) (r : ResManager) : Prop where
  ttl_eq : r.podsEvicted.defaultExpiration = ttl
  running : r.podsEvicted.stopped = false
  past : ∀ u, ∀ t ∈ acceptedAt u r.effects, t ≤ r.now
  exact : ∀ u it, r.podsEvicted.items u = some it → it.object = u ∧
    ∃ t ∈ acceptedAt u r.effects, it.expiration = t + ttl ∧ ∀ t' ∈ acceptedAt u r.effects, t' ≤ t

lemma CacheExact.evictPodIfNotEvicted {ttl : Nat} {r : ResManager} (hc : CacheExact ttl r)
    (pod : Pod) (node : Node) (reason message : String) :
    CacheExact ttl (evictPodIfNotEvicted r pod node reason message) := by
  cases hg : r.podsEvicted.get pod.uid with
  | some v => rwa [evictPodIfNotEvicted_cached r pod node reason message (by simp [hg])]
  | none =>
    obtain ⟨tail, ht, he⟩ := evictPodIfNotEvicted_spec r pod node reason message hg
    have hpast : ∀ u, ∀ t ∈ acceptedAt u r.effects ++
        (if pod.uid = u ∧ succeeded (r.kubeClient 0) = true then [r.now] else []), t ≤ r.now :=
      fun u t hm => by
        rcases List.mem_append.mp hm with hm | hm
        · exact hc.past u t hm
        · split at hm <;> simp_all
    rw [he]
    refine ⟨by split <;> simp [hc.ttl_eq], by split <;> simp [hc.running], fun u t hm => ?_,
      fun u it hu => ?_⟩
    · rw [acceptedAt_append, acceptedAt_sent ht] at hm
      exact hpast u t hm
    · rw [acceptedAt_append, acceptedAt_sent ht]
      by_cases hn : pod.uid = u ∧ succeeded (r.kubeClient 0) = true
      · obtain ⟨rfl, hs⟩ := hn
        simp only [hs, hc.running, Bool.not_false, Bool.and_self, if_true, Function.update_same,
          Option.some.injEq] at hu
        subst hu
        exact ⟨rfl, r.now, by simp [hs], by simp [hc.ttl_eq], hpast _⟩
      · rw [if_neg hn, List.append_nil]
        refine hc.exact u it ?_
        split at hu
        next hs =>
          simp only [Bool.and_eq_true] at hs
          simpa [Function.update_noteq fun e => hn ⟨e.symm, hs.1⟩] using hu
        next => exact hu

lemma CacheExact.evictPodsIfNotEvicted {ttl : Nat} {r : ResManager} (hc : CacheExact ttl r)
    (pods : List Pod) (node : Node) (reason message : String) :
    CacheExact ttl (evictPodsIfNotEvicted r pods node reason message) := by
  induction pods generalizing r with
  | nil => exact hc
  | cons pod pods ih => exact ih (hc.evictPodIfNotEvicted pod node reason message)

lemma CacheExact.step {ttl : Nat} {r : ResManager} (hc : CacheExact ttl r) :
    ∀ e, CacheExact ttl (step r e)
  | .evictPodIfNotEvicted pod node reason message =>
    hc.evictPodIfNotEvicted pod node reason message
  | .evictPodsIfNotEvicted pods node reason message =>
    hc.evictPodsIfNotEvicted pods node reason message
  | .advance _ => ⟨hc.ttl_eq, hc.running, fun u t hm => by
      have := hc.past u t hm
      simp only [Resmanager.step]; omega, hc.exact⟩
  | .sweep reached => ⟨by simp [Resmanager.step, hc.ttl_eq],
      by simp [Resmanager.step, hc.running], hc.past,
      fun u it hu => by
        rcases Cache.sweep_items r.podsEvicted r.now reached u with e | ⟨-, -, -, e⟩
        · exact hc.exact u it (e ▸ hu)
        · simp [Resmanager.step, e] at hu⟩

lemma CacheExact.run {ttl : Nat} {r : ResManager} (hc : CacheExact ttl r) (evs : List Event) :
    CacheExact ttl (runEvents r evs) := by
  induction evs generalizing r with
  | nil => exact hc
  | cons e evs ih => exact ih (hc.step e)

/-- **An entry lasts exactly a TTL.** In every sequential run from an empty running cache, each
cached UID maps to itself and expires exactly a TTL after the latest request for it that the
cluster accepted. So once every accepted request for a pod's UID is more than a TTL old, a sweep
that reaches the UID drops it, and the next call on the pod sends an eviction request. -/
theorem runEvents_evicts_after_ttl (r : ResManager) (hs : r.podsEvicted.stopped = false)
    (hi : ∀ u, r.podsEvicted.items u = none) (he : r.effects = []) (evs : List Event) :
    let s := runEvents r evs
    let ttl := r.podsEvicted.defaultExpiration
    (∀ u it, s.podsEvicted.items u = some it → it.object = u ∧
      ∃ t ∈ acceptedAt u s.effects, it.expiration = t + ttl ∧
        ∀ t' ∈ acceptedAt u s.effects, t' ≤ t) ∧
    ∀ (reached : String → Bool) (pod : Pod) (node : Node) (reason message : String),
      (∀ t ∈ acceptedAt pod.uid s.effects, t + ttl < s.now) → reached pod.uid = true →
      let s' := step s (.sweep reached)
      ∃ rest, (evictPodIfNotEvicted s' pod node reason message).effects = s'.effects ++
        .audit pod.objectMeta.namespace pod.objectMeta.name reason message ::
        .evictV1 s'.now pod (s'.kubeClient 0) :: rest := by
  intro s ttl
  have hc : CacheExact ttl s := CacheExact.run ⟨rfl, hs, by simp [he, acceptedAt], fun u it h => by simp [hi u] at h⟩ evs
  refine ⟨hc.exact, fun reached pod node reason message hold hr => ?_⟩
  have hg : (step s (.sweep reached)).podsEvicted.get pod.uid = none := by
    rcases Cache.sweep_items s.podsEvicted s.now reached pod.uid with e | ⟨-, -, -, e⟩
    · cases hit : s.podsEvicted.items pod.uid with
      | none => simp [Resmanager.step, Cache.get, e, hit]
      | some it =>
        obtain ⟨-, t, hm, hexp, -⟩ := hc.exact _ it hit
        have := hold t hm
        simp [Resmanager.step, Cache.get, Cache.sweep, hc.running, hr, hit, Item.expired, hexp]
        omega
    · simp [Resmanager.step, Cache.get, e]
  obtain ⟨rest, -, e⟩ := evictPodIfNotEvicted_spec _ pod node reason message hg
  exact ⟨rest, by rw [e]⟩

theorem runEvents_evicts_after_ttl_example :
    let pod : Pod := { objectMeta := { name := "be-pod", uid := "u" } }
    let r : ResManager := ⟨newCacheDefault 10, 0, fun _ => none, []⟩
    let evs := [.evictPodIfNotEvicted pod {} "memoryEvict" "", .advance 11]
    r.podsEvicted.stopped = false ∧ (∀ u, r.podsEvicted.items u = none) ∧ r.effects = [] ∧
      let s := step (runEvents r evs) (.sweep fun _ => true)
      ∃ rest, (evictPodIfNotEvicted s pod {} "memoryEvict" "").effects = s.effects ++
        .audit pod.objectMeta.namespace pod.objectMeta.name "memoryEvict" "" ::
        .evictV1 s.now pod (s.kubeClient 0) :: rest := by
  intro pod r evs
  have hold : ∀ t ∈ acceptedAt pod.uid (runEvents r evs).effects,
      t + r.podsEvicted.defaultExpiration < (runEvents r evs).now := by decide
  exact ⟨rfl, fun _ => rfl, rfl,
    (runEvents_evicts_after_ttl r rfl (fun _ => rfl) rfl evs).2 _ pod {} "memoryEvict" "" hold rfl⟩

end Resmanager
