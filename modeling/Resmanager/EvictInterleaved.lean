import Resmanager.EvictConcurrent
import Mathlib.Data.List.Pairwise

/-!
# Interleaved eviction calls over whole runs

Under any schedule of the steps of concurrent `evictPodIfNotEvicted` calls, with the clock moving
on and sweep passes in between, three invariants are carried over every run: the TTL stays, the
cache keeps running and no request is dated after the clock (`Live`); a cached UID was accepted
by the cluster at least a TTL before its entry expires (`Sound`); and, for the schedules in which
no two calls on one UID are in progress at once, the per-TTL bound of the sequential runs holds
(`Spacing`). Without that exclusion two calls that both miss the cache send two requests at once.
A sequential run of `Resmanager.EvictRun` is its serial schedule, each call's three steps in
turn.
-/

namespace Resmanager

/-- A call is in progress from the lookup that missed the cache until its insertion. -/
def Call.active (c : Call) : Bool :=
  match c.phase with
  | .evict | .record _ => true
  | .lookup | .done => false

/-- No two calls in progress are on one UID. -/
def Exclusive (calls : List Call) : Prop :=
  calls.Pairwise fun a b => a.active → b.active → a.pod.uid ≠ b.pod.uid

instance (calls : List Call) : Decidable (Exclusive calls) :=
  inferInstanceAs (Decidable (List.Pairwise _ calls))

lemma Exclusive.uid_ne {calls : List Call} (hx : Exclusive calls) {a b : Call} (ha : a ∈ calls)
    (hb : b ∈ calls) (hab : a ≠ b) (haa : a.active) (hba : b.active) :
    a.pod.uid ≠ b.pod.uid :=
  hx.forall (by intro x y h hy hx; exact (h hx hy).symm) ha hb hab haa hba

/-- The calls a sequential event makes, each from its lookup. -/
def Event.calls : Event → List Call
  | .evictPodIfNotEvicted pod node reason message => [⟨pod, node, reason, message, .lookup⟩]
  | .evictPodsIfNotEvicted pods node reason message =>
    pods.map fun pod => ⟨pod, node, reason, message, .lookup⟩
  | .advance _ | .sweep _ => []

/-- The schedule that runs `n` calls one after another, from the call at index `k`, each for its
three steps. -/
def serial (k : Nat) : Nat → List Nat
  | 0 => []
  | n + 1 => k :: k :: k :: serial (k + 1) n

/-- The serial schedule of one sequential event whose calls start at index `k`: each call runs
its three steps in turn; the clock and the sweep move as the event moves them. -/
def Event.schedule (k : Nat) : Event → List ConcEvent
  | .evictPodIfNotEvicted .. => [.step k, .step k, .step k]
  | .evictPodsIfNotEvicted pods .. => (serial k pods.length).map .step
  | .advance d => [.advance d]
  | .sweep reached => [.sweep reached]

/-- The serial schedule of a sequential run whose calls start at index `k`. -/
def serialEvents (k : Nat) : List Event → List ConcEvent
  | [] => []
  | e :: evs => e.schedule k ++ serialEvents (k + e.calls.length) evs

lemma getElem?_middle {α : Type} (pre post : List α) (c : α) :
    (pre ++ c :: post)[pre.length]? = some c := by
  rw [List.getElem?_append_right (Nat.le_refl _), Nat.sub_self, List.getElem?_cons_zero]

lemma runConc_three (r : ResManager) (pre post : List Call) (c : Call) (hc : c.phase = .lookup)
    (rest : List ConcEvent) :
    runConc (r, pre ++ c :: post)
        (.step pre.length :: .step pre.length :: .step pre.length :: rest) =
      runConc (evictPodIfNotEvicted r c.pod c.node c.reason c.message,
        pre ++ { c with phase := .done } :: post) rest := by
  rw [runConc_block r (getElem?_middle pre post c) hc]
  simp

lemma runConc_schedule (r : ResManager) (pre post : List Call) (e : Event)
    (rest : List ConcEvent) :
    runConc (r, pre ++ e.calls ++ post) (e.schedule pre.length ++ rest) =
      runConc (step r e, pre ++ e.calls.map (fun c => { c with phase := .done }) ++ post) rest := by
  cases e with
  | evictPodIfNotEvicted pod node reason message =>
    simpa [Event.calls, Event.schedule] using runConc_three r pre post _ rfl rest
  | evictPodsIfNotEvicted pods node reason message =>
    induction pods generalizing pre r with
    | nil => rfl
    | cons pod pods ih =>
      have h := ih (evictPodIfNotEvicted r pod node reason message)
        (pre ++ [⟨pod, node, reason, message, .done⟩])
      simp only [Event.calls, Event.schedule, List.map_cons, List.length_cons, serial,
        List.cons_append, List.append_assoc, List.length_append, List.length_singleton,
        List.singleton_append] at h ⊢
      rw [runConc_three r pre _ _ rfl]
      exact h
  | advance d => rfl
  | sweep reached => rfl

/-- **The sequential runs are the serial schedules.** Every sequential run of eviction calls,
batches, clock advances and sweeps does what its serial schedule does: each call's three steps in
turn, over the list of all its calls. -/
theorem runEvents_eq_runConc (r : ResManager) (evs : List Event) :
    (runConc (r, evs.flatMap Event.calls) (serialEvents 0 evs)).1 = runEvents r evs := by
  suffices h : ∀ (pre : List Call) r,
      (runConc (r, pre ++ evs.flatMap Event.calls) (serialEvents pre.length evs)).1 =
        runEvents r evs from h [] r
  induction evs with
  | nil => intro pre r; rfl
  | cons e evs ih =>
    intro pre r
    have := runConc_schedule r pre (evs.flatMap Event.calls) e
      (serialEvents (pre.length + e.calls.length) evs)
    rw [List.flatMap_cons, ← List.append_assoc, serialEvents, this]
    have h := ih (pre ++ e.calls.map fun c => { c with phase := .done }) (step r e)
    simpa using h

/-- Before each event of the run, no two calls in progress are on one UID. -/
def ExclusiveRun : ResManager × List Call → List ConcEvent → Prop
  | _, [] => True
  | s, e :: evs => Exclusive s.2 ∧ ExclusiveRun (concStep s e) evs

instance : ∀ s evs, Decidable (ExclusiveRun s evs)
  | _, [] => isTrue trivial
  | s, e :: evs =>
    have := instDecidableExclusiveRun (concStep s e) evs
    inferInstanceAs (Decidable (Exclusive s.2 ∧ _))

section CallStep

variable (r : ResManager) (c : Call)

lemma Call.step_lookup (hc : c.phase = .lookup) :
    c.step r = (r, { c with phase :=
      if (r.podsEvicted.get c.pod.uid).isSome then .done else .evict }) := by
  simp only [Call.step, hc]
  cases r.podsEvicted.get c.pod.uid <;> rfl

lemma Call.step_evict (hc : c.phase = .evict) :
    ∃ tail, tail.all (fun e => !e.isRequest) ∧
      c.step r =
        ({ r with kubeClient := fun n => r.kubeClient (n + 1)
                  effects := r.effects ++
                    .audit c.pod.objectMeta.namespace c.pod.objectMeta.name c.reason c.message ::
                    .evictV1 r.now c.pod (r.kubeClient 0) :: tail },
         { c with phase := .record (succeeded (r.kubeClient 0)) }) := by
  obtain ⟨tail, ht, he⟩ := evictPod_spec r c.pod c.node c.reason c.message
  exact ⟨tail, ht, by simp only [Call.step, hc, he]⟩

lemma Call.step_record {success : Bool} (hc : c.phase = .record success)
    (hs : r.podsEvicted.stopped = false) :
    c.step r =
      ({ r with podsEvicted :=
          if success then
            { r.podsEvicted with
              items := Function.update r.podsEvicted.items c.pod.uid
                (some ⟨c.pod.uid, r.now + r.podsEvicted.defaultExpiration⟩) }
          else r.podsEvicted },
       { c with phase := .done }) := by
  cases success <;> simp [Call.step, hc, Cache.setDefault, hs]

lemma Call.step_done (hc : c.phase = .done) : c.step r = (r, c) := by
  simp only [Call.step, hc]

end CallStep

lemma mem_set_of_ne {α : Type} {l : List α} {i : Nat} {a d : α} (hi : l[i]? = some a)
    (hd : d ∈ l) (hne : d ≠ a) (b : α) : d ∈ l.set i b := by
  obtain ⟨j, hj⟩ := List.mem_iff_getElem?.mp hd
  have hij : i ≠ j := by
    rintro rfl
    exact hne (Option.some_injective _ (hj.symm.trans hi))
  exact List.mem_iff_getElem?.mpr ⟨j, by rw [List.getElem?_set_ne hij, hj]⟩

/-! ### What holds of the shared state -/

/-- The TTL stays, the cache runs, and no request is dated after the clock. -/
structure Live (ttl : Nat) (r : ResManager) : Prop where
  ttl_eq : r.podsEvicted.defaultExpiration = ttl
  running : r.podsEvicted.stopped = false
  past : ∀ t p res, .evictV1 t p res ∈ r.effects → t ≤ r.now

lemma Live.callStep {ttl : Nat} {r : ResManager} (hl : Live ttl r) (c : Call) :
    Live ttl (c.step r).1 := by
  cases hp : c.phase with
  | lookup => rwa [Call.step_lookup r c hp]
  | evict =>
    obtain ⟨tail, ht, he⟩ := Call.step_evict r c hp
    rw [he]
    refine ⟨hl.ttl_eq, hl.running, fun t p res hm => ?_⟩
    rcases List.mem_append.mp hm with hm | hm
    · exact hl.past t p res hm
    · exact Nat.le_of_eq (eq_of_mem_sent ht hm).1
  | record success =>
    rw [Call.step_record r c hp hl.running]
    exact ⟨by split <;> simp [hl.ttl_eq], by split <;> simp [hl.running], hl.past⟩
  | done => rwa [Call.step_done r c hp]

lemma Live.concStep {ttl : Nat} {s : ResManager × List Call} (hl : Live ttl s.1) :
    ∀ e, Live ttl (concStep s e).1
  | .step i => by
    simp only [Resmanager.concStep]
    split
    · exact hl
    · exact hl.callStep _
  | .advance d => ⟨hl.ttl_eq, hl.running, fun t p res hm => by
      have := hl.past t p res hm; simp only [Resmanager.concStep, step]; omega⟩
  | .sweep _ => ⟨by simp [Resmanager.concStep, step, hl.ttl_eq],
      by simp [Resmanager.concStep, step, hl.running], hl.past⟩

/-! ### Soundness of the cache, for every schedule -/

/-- A call about to insert its UID got an accepted answer, and a cached UID was accepted at least
a TTL before its entry expires. -/
structure Sound (ttl : Nat) (s : ResManager × List Call) : Prop where
  accepted : ∀ c ∈ s.2, c.phase = .record true →
    ∃ t res, .evictV1 t c.pod res ∈ s.1.effects ∧ succeeded res = true
  sound : ∀ u it, s.1.podsEvicted.items u = some it → it.object = u ∧
    ∃ t p res, .evictV1 t p res ∈ s.1.effects ∧ p.uid = u ∧ succeeded res = true ∧
      t + ttl ≤ it.expiration

lemma Sound.set_call {ttl : Nat} {r : ResManager} {calls : List Call} (hs : Sound ttl (r, calls))
    (i : Nat) {c' : Call} (hc' : c'.phase ≠ .record true) : Sound ttl (r, calls.set i c') where
  accepted d hd hp := by
    rcases List.mem_or_eq_of_mem_set hd with hd | rfl
    · exact hs.accepted d hd hp
    · exact absurd hp hc'
  sound := hs.sound

lemma Sound.callStep {ttl : Nat} {r : ResManager} {calls : List Call} (hl : Live ttl r)
    (hs : Sound ttl (r, calls)) {i : Nat} {c : Call} (hi : calls[i]? = some c) :
    Sound ttl ((c.step r).1, calls.set i (c.step r).2) := by
  cases hp : c.phase with
  | lookup =>
    rw [Call.step_lookup r c hp]
    exact hs.set_call i (by split <;> simp)
  | evict =>
    obtain ⟨tail, ht, he⟩ := Call.step_evict r c hp
    rw [he]
    constructor
    · intro d hd hdp
      rcases List.mem_or_eq_of_mem_set hd with hd | rfl
      · obtain ⟨t, res, hm, hres⟩ := hs.accepted d hd hdp
        exact ⟨t, res, List.mem_append_left _ hm, hres⟩
      · simp only [CallPhase.record.injEq] at hdp
        exact ⟨r.now, r.kubeClient 0, List.mem_append_right _ (by simp), hdp⟩
    · intro u it hu
      obtain ⟨ho, t, p, res, hm, hrest⟩ := hs.sound u it hu
      exact ⟨ho, t, p, res, List.mem_append_left _ hm, hrest⟩
  | record success =>
    rw [Call.step_record r c hp hl.running]
    cases success with
    | false => exact hs.set_call i (by simp)
    | true =>
      have hd : ({ c with phase := .done } : Call).phase ≠ .record true := by simp
      refine ⟨(hs.set_call i hd).accepted, fun u it hu => ?_⟩
      by_cases hu' : u = c.pod.uid
      · subst hu'
        simp only [if_true, Function.update_same, Option.some.injEq] at hu
        subst hu
        obtain ⟨t, res, hm, hres⟩ := hs.accepted c (List.getElem?_mem hi) hp
        refine ⟨rfl, t, c.pod, res, hm, rfl, hres, ?_⟩
        have := hl.past t c.pod res hm
        simp only [hl.ttl_eq]
        omega
      · exact hs.sound u it (by simpa [Function.update_noteq hu'] using hu)
  | done =>
    rw [Call.step_done r c hp]
    exact hs.set_call i (by simp [hp])

lemma Sound.concStep {ttl : Nat} {s : ResManager × List Call} (hl : Live ttl s.1)
    (hs : Sound ttl s) : ∀ e, Sound ttl (concStep s e)
  | .step i => by
    simp only [Resmanager.concStep]
    split
    · exact hs
    · exact hs.callStep hl ‹_›
  | .advance _ => ⟨hs.accepted, hs.sound⟩
  | .sweep reached => ⟨hs.accepted, fun u it hu => by
      rcases Cache.sweep_items s.1.podsEvicted s.1.now reached u with e | ⟨-, -, -, e⟩
      · exact hs.sound u it (e ▸ hu)
      · simp [Resmanager.concStep, step, e] at hu⟩

lemma Sound.run {ttl : Nat} {s : ResManager × List Call} (hl : Live ttl s.1) (hs : Sound ttl s)
    (evs : List ConcEvent) : Live ttl (runConc s evs).1 ∧ Sound ttl (runConc s evs) := by
  induction evs generalizing s with
  | nil => exact ⟨hl, hs⟩
  | cons e evs ih => exact ih (hl.concStep e) (hs.concStep hl e)

/-- **The cache holds only accepted evictions, under every schedule.** From an empty running cache
and calls not yet in progress, whatever the schedule, clock advances and sweeps: a cached UID maps
to itself, and an eviction request for a pod of that UID was answered nil or "not found" at least a
TTL before the entry expires. No failed eviction is ever cached. -/
theorem runConc_cache_sound (r : ResManager) (calls : List Call)
    (hs : r.podsEvicted.stopped = false) (he : r.effects = [])
    (hi : ∀ u, r.podsEvicted.items u = none) (hc : ∀ c ∈ calls, c.active = false)
    (evs : List ConcEvent) (u : String) (it : Item)
    (hu : (runConc (r, calls) evs).1.podsEvicted.items u = some it) :
    it.object = u ∧ ∃ t p res, .evictV1 t p res ∈ (runConc (r, calls) evs).1.effects ∧
      p.uid = u ∧ (res = none ∨ res = some .notFound) ∧
      t + r.podsEvicted.defaultExpiration ≤ it.expiration := by
  have hl : Live r.podsEvicted.defaultExpiration r := ⟨rfl, hs, by simp [he]⟩
  have h0 : Sound r.podsEvicted.defaultExpiration (r, calls) :=
    ⟨fun c hm hp => absurd (hc c hm) (by simp [Call.active, hp]),
      fun u it h => by simp [hi u] at h⟩
  obtain ⟨ho, t, p, res, hm, hp, hres, hle⟩ := (Sound.run hl h0 evs).2.sound u it hu
  exact ⟨ho, t, p, res, hm, hp, succeeded_eq_true.mp hres, hle⟩

theorem runConc_cache_sound_example :
    let a : Pod := { objectMeta := { name := "a", uid := "ua" } }
    let r : ResManager := ⟨newCacheDefault 10, 0, fun _ => some .notFound, []⟩
    let calls : List Call := [⟨a, {}, "memoryEvict", "", .lookup⟩]
    let evs := [.step 0, .step 0, .step 0]
    (runConc (r, calls) evs).1.podsEvicted.items "ua" = some ⟨"ua", 10⟩ ∧
      (⟨"ua", 10⟩ : Item).object = "ua" ∧
      ∃ t p res, .evictV1 t p res ∈ (runConc (r, calls) evs).1.effects ∧ p.uid = "ua" ∧
        (res = none ∨ res = some .notFound) ∧
        t + r.podsEvicted.defaultExpiration ≤ (⟨"ua", 10⟩ : Item).expiration := by
  intro a r calls evs
  have hu : (runConc (r, calls) evs).1.podsEvicted.items "ua" = some ⟨"ua", 10⟩ := by decide
  exact ⟨hu, runConc_cache_sound r calls rfl rfl (fun _ => rfl) (by decide) evs "ua" _ hu⟩

/-! ### The per-TTL bound, for exclusive schedules -/

/-- The invariant of the dedup cache over an exclusive run: a call about to evict finds its UID
uncached; each nil-answered request is past its TTL, still cached for it, or its call is about to
insert the UID; and the requests so far are spaced. -/
structure Spacing (ttl : Nat) (s : ResManager × List Call) : Prop where
  evicting : ∀ c ∈ s.2, c.phase = .evict → s.1.podsEvicted.items c.pod.uid = none
  covered : ∀ t p, .evictV1 t p none ∈ s.1.effects → t + ttl < s.1.now ∨
    (∃ it, s.1.podsEvicted.items p.uid = some it ∧ t + ttl ≤ it.expiration) ∨
    ∃ c ∈ s.2, c.phase = .record true ∧ c.pod.uid = p.uid
  spaced : Spaced ttl s.1.effects

lemma Spacing.set_call {ttl : Nat} {r : ResManager} {calls : List Call}
    (hv : Spacing ttl (r, calls)) {i : Nat} {c c' : Call} (hi : calls[i]? = some c)
    (hc : c.phase ≠ .record true)
    (hc' : c'.phase = .evict → r.podsEvicted.items c'.pod.uid = none) :
    Spacing ttl (r, calls.set i c') where
  evicting d hd hp := by
    rcases List.mem_or_eq_of_mem_set hd with hd | rfl
    · exact hv.evicting d hd hp
    · exact hc' hp
  covered t p hm := by
    rcases hv.covered t p hm with h | h | ⟨d, hd, hp, hu⟩
    · exact .inl h
    · exact .inr (.inl h)
    · exact .inr (.inr ⟨d, mem_set_of_ne hi hd (by rintro rfl; exact hc hp) c', hp, hu⟩)
  spaced := hv.spaced

lemma Exclusive.uid_ne_of_evict {calls : List Call} (hx : Exclusive calls) {c d : Call}
    (hc : c ∈ calls) (hd : d ∈ calls) (hp : c.phase = .evict) (hdp : d.phase = .record true) :
    d.pod.uid ≠ c.pod.uid :=
  hx.uid_ne hd hc (by rintro rfl; simp [hp] at hdp) (by simp [Call.active, hdp])
    (by simp [Call.active, hp])

lemma Spacing.evict {ttl : Nat} {r : ResManager} {calls : List Call}
    (hv : Spacing ttl (r, calls)) (hx : Exclusive calls) {i : Nat} {c : Call}
    (hi : calls[i]? = some c) (hp : c.phase = .evict) :
    Spacing ttl ((c.step r).1, calls.set i (c.step r).2) := by
  have hc := List.getElem?_mem hi
  obtain ⟨tail, ht, he⟩ := Call.step_evict r c hp
  rw [he]
  have hset :
      Spacing ttl (r, calls.set i { c with phase := .record (succeeded (r.kubeClient 0)) }) :=
    hv.set_call hi (by simp [hp]) (by simp)
  have hold :
      ∀ t p, .evictV1 t p none ∈ r.effects → p.uid = c.pod.uid → t + ttl < r.now := by
    intro t p hm hu
    rcases hv.covered t p hm with h | ⟨it, hit, -⟩ | ⟨d, hd, hdp, hdu⟩
    · exact h
    · rw [hu, hv.evicting c hc hp] at hit; cases hit
    · exact absurd (hdu.trans hu) (hx.uid_ne_of_evict hc hd hp hdp)
  refine ⟨hset.evicting, fun t p hm => ?_, fun t p t' p' res hsub hu => ?_⟩
  · rcases List.mem_append.mp hm with hm | hm
    · exact hset.covered t p hm
    · obtain ⟨rfl, rfl, hres⟩ := eq_of_mem_sent ht hm
      obtain ⟨hlen, -⟩ := List.getElem?_eq_some.mp hi
      exact .inr (.inr ⟨_, List.mem_set calls i hlen _, by simp [← hres, succeeded], rfl⟩)
  · rcases pair_sublist_append hsub with h | ⟨ha, hb⟩ | h
    · exact hv.spaced t p t' p' res h hu
    · obtain ⟨rfl, rfl, -⟩ := eq_of_mem_sent ht hb
      exact hold t p ha hu
    · exact absurd h (not_pair_sublist_sent (by rfl) (by rfl) _ _ ht (by rfl))

lemma Spacing.record {ttl : Nat} {r : ResManager} {calls : List Call} (hl : Live ttl r)
    (hv : Spacing ttl (r, calls)) (hx : Exclusive calls) {i : Nat} {c : Call}
    (hi : calls[i]? = some c) (hp : c.phase = .record true) :
    Spacing ttl ((c.step r).1, calls.set i (c.step r).2) := by
  have hc := List.getElem?_mem hi
  rw [Call.step_record r c hp hl.running]
  dsimp only [↓reduceIte]
  refine ⟨fun d hd hdp => ?_, fun t p hm => ?_, hv.spaced⟩
  · rcases List.mem_or_eq_of_mem_set hd with hd | rfl
    · have hne : d.pod.uid ≠ c.pod.uid := (hx.uid_ne_of_evict hd hc hdp hp).symm
      simpa [Function.update_noteq hne] using hv.evicting d hd hdp
    · simp at hdp
  · by_cases hu : p.uid = c.pod.uid
    · have := hl.past t p none hm
      exact .inr (.inl ⟨⟨c.pod.uid, r.now + r.podsEvicted.defaultExpiration⟩, by simp [hu],
        by simp only [hl.ttl_eq]; omega⟩)
    · rcases hv.covered t p hm with h | ⟨it, hit, hle⟩ | ⟨d, hd, hdp, hdu⟩
      · exact .inl h
      · exact .inr (.inl ⟨it, by simpa [Function.update_noteq hu] using hit, hle⟩)
      · exact .inr (.inr
          ⟨d, mem_set_of_ne hi hd (by rintro rfl; exact hu hdu.symm) _, hdp, hdu⟩)

lemma Spacing.callStep {ttl : Nat} {r : ResManager} {calls : List Call} (hl : Live ttl r)
    (hv : Spacing ttl (r, calls)) (hx : Exclusive calls) {i : Nat} {c : Call}
    (hi : calls[i]? = some c) : Spacing ttl ((c.step r).1, calls.set i (c.step r).2) := by
  cases hp : c.phase with
  | lookup =>
    rw [Call.step_lookup r c hp]
    refine hv.set_call hi (by simp [hp]) fun he => ?_
    cases hg : r.podsEvicted.get c.pod.uid with
    | none => simpa [Cache.get] using hg
    | some _ => simp [hg] at he
  | evict => exact hv.evict hx hi hp
  | record success =>
    cases success with
    | false =>
      rw [Call.step_record r c hp hl.running]
      exact hv.set_call hi (by simp [hp]) (by simp)
    | true => exact hv.record hl hx hi hp
  | done =>
    rw [Call.step_done r c hp]
    exact hv.set_call hi (by simp [hp]) fun h => by simp [hp] at h

lemma Spacing.concStep {ttl : Nat} {s : ResManager × List Call} (hl : Live ttl s.1)
    (hv : Spacing ttl s) (hx : Exclusive s.2) : ∀ e, Spacing ttl (concStep s e)
  | .step i => by
    simp only [Resmanager.concStep]
    split
    · exact hv
    · exact hv.callStep hl hx ‹_›
  | .advance d => ⟨hv.evicting,
      fun t p hm => (hv.covered t p hm).imp_left fun h => by
        simp only [Resmanager.concStep, step]; omega,
      hv.spaced⟩
  | .sweep reached => by
    show Spacing ttl ({ s.1 with podsEvicted := s.1.podsEvicted.sweep s.1.now reached }, s.2)
    refine ⟨fun c hc hp => ?_, fun t p hm => ?_, hv.spaced⟩
    · rcases Cache.sweep_items s.1.podsEvicted s.1.now reached c.pod.uid with e | ⟨-, -, -, e⟩
      · exact e.trans (hv.evicting c hc hp)
      · exact e
    · rcases hv.covered t p hm with h | ⟨it, hit, hle⟩ | h
      · exact .inl h
      · rcases Cache.sweep_items s.1.podsEvicted s.1.now reached p.uid
          with e | ⟨it', hit', hexp, -⟩
        · exact .inr (.inl ⟨it, e.trans hit, hle⟩)
        · rw [hit] at hit'
          cases hit'
          simp only [Item.expired, decide_eq_true_eq] at hexp
          exact .inl (by dsimp only; omega)
      · exact .inr (.inr h)

lemma Spacing.run {ttl : Nat} {s : ResManager × List Call} (hl : Live ttl s.1)
    (hv : Spacing ttl s) (evs : List ConcEvent) (hx : ExclusiveRun s evs) :
    Spacing ttl (runConc s evs) := by
  induction evs generalizing s with
  | nil => exact hv
  | cons e evs ih => exact ih (hl.concStep e) (hv.concStep hl hx.1 e) hx.2

/-- **At most one eviction per pod in a TTL window, under every exclusive schedule.** From a
running cache and calls not yet in progress, under any schedule of their steps, clock advances and
sweeps in which no two calls on one UID are in progress at once, and with any answers of the
cluster: a request for a pod comes after a nil-answered request for a pod of the same UID only once
a TTL has passed. -/
theorem runConc_spaced (r : ResManager) (calls : List Call) (hs : r.podsEvicted.stopped = false)
    (he : r.effects = []) (hc : ∀ c ∈ calls, c.active = false) (evs : List ConcEvent)
    (hx : ExclusiveRun (r, calls) evs) :
    Spaced r.podsEvicted.defaultExpiration (runConc (r, calls) evs).1.effects :=
  (Spacing.run ⟨rfl, hs, by simp [he]⟩
    ⟨fun c hm hp => absurd (hc c hm) (by simp [Call.active, hp]), by simp [he],
      by simp [Spaced, he]⟩ evs hx).spaced

theorem runConc_spaced_example :
    let a : Pod := { objectMeta := { name := "a", uid := "ua" } }
    let b : Pod := { objectMeta := { name := "b", uid := "ub" } }
    let r : ResManager := ⟨newCacheDefault 10, 0, fun _ => none, []⟩
    let calls : List Call := [⟨a, {}, "memoryEvict", "", .lookup⟩,
      ⟨b, {}, "memoryEvict", "", .lookup⟩, ⟨a, {}, "cpuEvict", "", .lookup⟩]
    let evs := [.step 0, .step 1, .step 0, .step 1, .step 0, .step 1, .advance 11,
      .sweep fun _ => true, .step 2, .step 2, .step 2]
    (∀ c ∈ calls, c.active = false) ∧ ExclusiveRun (r, calls) evs ∧
      List.Sublist [.evictV1 0 a none, .evictV1 11 a none] (runConc (r, calls) evs).1.effects ∧
      Spaced r.podsEvicted.defaultExpiration (runConc (r, calls) evs).1.effects := by
  intro a b r calls evs
  have hc : ∀ c ∈ calls, c.active = false := by decide
  have hx : ExclusiveRun (r, calls) evs := by decide
  exact ⟨hc, hx, by decide, runConc_spaced r calls rfl rfl hc evs hx⟩

/-- The exclusion cannot be dropped: two calls on one uncached UID that both look the cache up
before either evicts are in progress at once and send two requests at the same tick; both
answered nil, the requests are not spaced. -/
theorem runConc_race_not_spaced (r : ResManager) (a b : Call) (ha : a.phase = .lookup)
    (hb : b.phase = .lookup) (hu : a.pod.uid = b.pod.uid) (hg : r.podsEvicted.get a.pod.uid = none)
    (h₀ : r.kubeClient 0 = none) (h₁ : r.kubeClient 1 = none) :
    let evs := [.step 0, .step 1, .step 0, .step 1]
    ¬ ExclusiveRun (r, [a, b]) evs ∧
      ¬ Spaced r.podsEvicted.defaultExpiration (runConc (r, [a, b]) evs).1.effects := by
  intro evs
  let a' : Call := { a with phase := .evict }
  let b' : Call := { b with phase := .evict }
  have hg' : r.podsEvicted.get b.pod.uid = none := hu ▸ hg
  have hlookups : runConc (r, [a, b]) [.step 0, .step 1] = (r, [a', b']) := by
    simp [runConc, concStep, Call.step_lookup _ _ ha, Call.step_lookup _ _ hb, hg, hg', a', b']
  refine ⟨fun hx => ?_, fun hsp => ?_⟩
  · have h : Exclusive (runConc (r, [a, b]) [.step 0, .step 1]).2 := hx.2.2.1
    rw [hlookups] at h
    simp [Exclusive, Call.active, a', b', hu] at h
  · obtain ⟨t₁, -, e₁⟩ := Call.step_evict r a' rfl
    obtain ⟨t₂, -, e₂⟩ := Call.step_evict (a'.step r).1 b' rfl
    have hrun : (runConc (r, [a, b]) evs).1 = (b'.step (a'.step r).1).1 := by
      rw [show evs = [.step 0, .step 1] ++ [.step 0, .step 1] from rfl, runConc_append, hlookups]
      rfl
    have hx : .evictV1 r.now a.pod none ∈ (a'.step r).1.effects := by simp [e₁, h₀, a']
    refine absurd (hsp r.now a.pod r.now b.pod none ?_ hu) (by omega)
    rw [hrun, e₂]
    exact (List.singleton_sublist.mpr hx).append (List.singleton_sublist.mpr (by simp [e₁, h₁, b']))

end Resmanager
