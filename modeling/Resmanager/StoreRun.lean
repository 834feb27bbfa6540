import Resmanager.Store
import Mathlib.Data.List.Basic

/-!
# The NodeSLO store over a notification history

The handlers run on the informer's notifications one at a time. The spec says that after each
notification the store holds the object of the last add, its spec replaced by the merge of the
spec delivered last; in informer order the handlers do exactly that, whatever the merge helpers
compute. In any other order they panic when a spec-changing update comes before the first add,
and otherwise hold the object of the last add with the merge of the last spec that changed.
-/

namespace Resmanager

section Spec

variable (m : MergeHelpers)

/-- The merge the spec describes: each block of `s` is replaced by its merge with the default
block whenever that merge is non-nil, which `merged.or current` says. -/
def mergedSpec (s : NodeSLOSpec) : NodeSLOSpec :=
  let d := m.defaultNodeSLOSpecConfig
  { resourceUsedThresholdWithBE :=
      (m.mergeSLOSpecResourceUsedThresholdWithBE d.resourceUsedThresholdWithBE
        s.resourceUsedThresholdWithBE).or s.resourceUsedThresholdWithBE
    resourceQoSStrategy :=
      ((m.mergeSLOSpecResourceQoSStrategy d.resourceQoSStrategy s.resourceQoSStrategy).map
        m.mergeNoneResourceQoSIfDisabled).or s.resourceQoSStrategy
    cpuBurstStrategy :=
      (m.mergeSLOSpecCPUBurstStrategy d.cpuBurstStrategy s.cpuBurstStrategy).or
        s.cpuBurstStrategy }

theorem mergeNodeSLOSpec_pushed (c n : NodeSLO) :
    mergeNodeSLOSpec m (some { c with spec := n.spec }) n =
      some { c with spec := mergedSpec m n.spec } :=
  rfl

theorem createNodeSLO_eq (n : NodeSLO) :
    createNodeSLO m n = some { n with spec := mergedSpec m n.spec } :=
  mergeNodeSLOSpec_pushed m n n

end Spec

/-- The NodeSLO an add delivers. -/
def Notification.added : Notification → Option NodeSLO
  | .add (.nodeSLO n) => some n
  | _ => none

/-- The NodeSLO a notification delivers: the added object, or the new object of an update. -/
def Notification.delivered : Notification → Option NodeSLO
  | .add (.nodeSLO n) => some n
  | .update _ (.nodeSLO n) => some n
  | _ => none

/-- The object of the most recent add of `h`. -/
def lastAdd (h : List Notification) : Option NodeSLO :=
  h.foldl (fun a x => x.added.or a) none

/-- The object delivered last in `h`. -/
def lastDelivered (h : List Notification) : Option NodeSLO :=
  h.foldl (fun a x => x.delivered.or a) none

/-- `x` may follow a history whose last delivered object is `prev`: an add of a NodeSLO, or an
update of NodeSLOs whose old object is `prev`. -/
def Follows (prev : Option NodeSLO) : Notification → Prop
  | .add (.nodeSLO _) => True
  | .update (.nodeSLO o) (.nodeSLO _) => prev = some o
  | _ => False

instance (prev : Option NodeSLO) : DecidablePred (Follows prev)
  | .add (.nodeSLO _) => isTrue trivial
  | .update (.nodeSLO o) (.nodeSLO _) => inferInstanceAs (Decidable (prev = some o))
  | .add .other | .update .other _ | .update (.nodeSLO _) .other => isFalse id

/-- The notifications of `h` follow one another, the first one following `prev`. -/
def InformerOrderFrom : Option NodeSLO → List Notification → Prop
  | _, [] => True
  | prev, x :: h => Follows prev x ∧ InformerOrderFrom (x.delivered.or prev) h

instance : ∀ prev h, Decidable (InformerOrderFrom prev h)
  | _, [] => isTrue trivial
  | prev, x :: h =>
    have := instDecidableInformerOrderFrom (x.delivered.or prev) h
    inferInstanceAs (Decidable (Follows prev x ∧ _))

/-- Informer order: every notification follows the ones before it. So an add comes first, and
the old object of an update is the object delivered just before it. -/
def InformerOrder (h : List Notification) : Prop := InformerOrderFrom none h

instance (h : List Notification) : Decidable (InformerOrder h) :=
  inferInstanceAs (Decidable (InformerOrderFrom none h))

@[simp] lemma lastAdd_append_singleton (h : List Notification) (x : Notification) :
    lastAdd (h ++ [x]) = x.added.or (lastAdd h) := by
  simp [lastAdd]

@[simp] lemma lastDelivered_append_singleton (h : List Notification) (x : Notification) :
    lastDelivered (h ++ [x]) = x.delivered.or (lastDelivered h) := by
  simp [lastDelivered]

lemma handleAll_snoc {m : MergeHelpers} {r r' : Option NodeSLO} {h : List Notification}
    (hr : handleAll m r h = .ok r') (x : Notification) :
    handleAll m r (h ++ [x]) = handle m r' x := by
  simp only [handleAll, List.foldlM_append] at hr ⊢
  rw [hr]
  exact bind_pure (handle m r' x)

lemma informerOrderFrom_snoc (prev : Option NodeSLO) (h : List Notification) (x : Notification) :
    InformerOrderFrom prev (h ++ [x]) ↔ InformerOrderFrom prev h ∧
      Follows (h.foldl (fun a y => y.delivered.or a) prev) x := by
  induction h generalizing prev with
  | nil => simp [InformerOrderFrom]
  | cons y h ih => simp [InformerOrderFrom, ih, and_assoc]

lemma InformerOrder.init {h : List Notification} {x : Notification}
    (hh : InformerOrder (h ++ [x])) : InformerOrder h ∧ Follows (lastDelivered h) x :=
  (informerOrderFrom_snoc none h x).mp hh

lemma Follows.cases {prev : Option NodeSLO} {x : Notification} (hf : Follows prev x) :
    (∃ n, x = .add (.nodeSLO n)) ∨
      ∃ o n, x = .update (.nodeSLO o) (.nodeSLO n) ∧ prev = some o := by
  rcases x with ⟨_ | _⟩ | ⟨_ | _, _ | _⟩ <;> simp_all [Follows]

lemma InformerOrder.lastAdd_isSome {h : List Notification} (hh : InformerOrder h)
    (hd : (lastDelivered h).isSome) : (lastAdd h).isSome := by
  induction h using List.reverseRecOn with
  | nil => simp [lastDelivered] at hd
  | append_singleton h x ih =>
    obtain ⟨hh', hf⟩ := hh.init
    obtain ⟨n, rfl⟩ | ⟨o, n, rfl, hp⟩ := hf.cases
    · simp [Notification.added]
    · simpa [Notification.added] using ih hh' (by simp [hp])

theorem handleAll_informerOrder (m : MergeHelpers) (h : List Notification)
    (hh : InformerOrder h) :
    handleAll m none h = .ok ((lastAdd h).bind fun a =>
      (lastDelivered h).map fun d => { a with spec := mergedSpec m d.spec }) := by
  induction h using List.reverseRecOn with
  | nil => rfl
  | append_singleton h x ih =>
    obtain ⟨hh', hf⟩ := hh.init
    rw [handleAll_snoc (ih hh')]
    obtain ⟨n, rfl⟩ | ⟨o, n, rfl, hp⟩ := hf.cases
    · simp [handle, addFunc, createNodeSLO_eq, Notification.added, Notification.delivered]
    · obtain ⟨a, ha⟩ := Option.isSome_iff_exists.mp (hh'.lastAdd_isSome (by simp [hp]))
      by_cases hs : o.spec = n.spec
      · simp [handle, updateFunc, hs, ha, hp, Notification.added, Notification.delivered]
      · simp [handle, updateFunc, hs, ha, hp, updateNodeSLOSpec, mergeNodeSLOSpec_pushed,
          Notification.added, Notification.delivered]


theorem handleAll_informerOrder_example :
    let m : MergeHelpers := ⟨{}, fun _ p => p, fun _ p => p, id, fun _ p => p⟩
    let o₁ : NodeSLO := { objectMeta := { name := "node", resourceVersion := "1" } }
    let o₂ : NodeSLO := { objectMeta := { name := "node", resourceVersion := "2" } }
    let o₃ : NodeSLO := { objectMeta := { name := "node", resourceVersion := "3" }
                          spec := { resourceUsedThresholdWithBE := some { enable := some true } } }
    let h := [.add (.nodeSLO o₁), .update (.nodeSLO o₁) (.nodeSLO o₂),
      .update (.nodeSLO o₂) (.nodeSLO o₃)]
    InformerOrder h ∧ handleAll m none h = .ok (some { o₁ with spec := o₃.spec }) :=
  ⟨by decide, (handleAll_informerOrder _ _ (by decide)).trans rfl⟩

lemma handleAll_append_ok {m : MergeHelpers} {r r'' : Option NodeSLO} {h h' : List Notification}
    (hr : handleAll m r (h ++ h') = .ok r'') :
    ∃ r', handleAll m r h = .ok r' ∧ handleAll m r' h' = .ok r'' := by
  simp only [handleAll, List.foldlM_append] at hr ⊢
  cases e : List.foldlM (handle m) r h with
  | error err => rw [e] at hr; cases hr
  | ok r' => exact ⟨r', rfl, by rwa [e] at hr⟩

lemma handleAll_append {m : MergeHelpers} {r r' r'' : Option NodeSLO} {h h' : List Notification}
    (hr : handleAll m r h = .ok r') (hr' : handleAll m r' h' = .ok r'') :
    handleAll m r (h ++ h') = .ok r'' := by
  simp only [handleAll, List.foldlM_append] at hr hr' ⊢
  rw [hr]
  exact hr'

lemma handleAll_cons_ok {m : MergeHelpers} {r r'' : Option NodeSLO} {x : Notification}
    {h : List Notification} (hr : handleAll m r (x :: h) = .ok r'') :
    ∃ r', handle m r x = .ok r' ∧ handleAll m r' h = .ok r'' := by
  simp only [handleAll, List.foldlM_cons] at hr
  cases hx : handle m r x with
  | error err => rw [hx] at hr; cases hr
  | ok r' => exact ⟨r', rfl, by rwa [hx] at hr⟩

lemma handleAll_snoc_ok {m : MergeHelpers} {r r'' : Option NodeSLO} {h : List Notification}
    {x : Notification} (hr : handleAll m r (h ++ [x]) = .ok r'') :
    ∃ r', handleAll m r h = .ok r' ∧ handle m r' x = .ok r'' := by
  obtain ⟨r', hr', hx⟩ := handleAll_append_ok hr
  obtain ⟨r₁, hx, h₁⟩ := handleAll_cons_ok hx
  cases h₁
  exact ⟨r', hr', hx⟩

/-- The NodeSLO whose spec the handlers merge in: the added object, or the new object of an update
that changes the spec. -/
def Notification.effective : Notification → Option NodeSLO
  | .add (.nodeSLO n) => some n
  | .update (.nodeSLO o) (.nodeSLO n) => if o.spec = n.spec then none else some n
  | _ => none

/-- The object of the last add or spec-changing update of `h`. -/
def lastEffective (h : List Notification) : Option NodeSLO :=
  h.foldl (fun a x => x.effective.or a) none

/-- Whether a spec-changing update of `h` comes before any NodeSLO is added. -/
def updateBeforeAdd : List Notification → Bool
  | [] => false
  | x :: h => x.added.isNone && (x.effective.isSome || updateBeforeAdd h)

/-- `a` with its spec replaced by the merge of the spec of `d`, when there is one. -/
def withMergedSpec (m : MergeHelpers) (d : Option NodeSLO) (a : NodeSLO) : NodeSLO :=
  match d with
  | some d => { a with spec := mergedSpec m d.spec }
  | none => a

/-- The store the handlers leave from `r` after `h` when nothing panics: the object of the last
add, or the one stored before, with the merge of the spec of the last add or spec-changing update,
or the spec it had. -/
def afterHistory (m : MergeHelpers) (r : Option NodeSLO) (h : List Notification) :
    Option NodeSLO :=
  ((lastAdd h).or r).map (withMergedSpec m (lastEffective h))

lemma foldl_or_eq (g : Notification → Option NodeSLO) (init : Option NodeSLO)
    (h : List Notification) :
    h.foldl (fun a x => (g x).or a) init = (h.foldl (fun a x => (g x).or a) none).or init := by
  induction h generalizing init with
  | nil => rfl
  | cons x h ih =>
    rw [List.foldl_cons, List.foldl_cons, ih, ih ((g x).or none), Option.or_assoc, Option.or_none]

lemma lastAdd_cons (x : Notification) (h : List Notification) :
    lastAdd (x :: h) = (lastAdd h).or x.added := by
  rw [lastAdd, List.foldl_cons, foldl_or_eq, Option.or_none]
  rfl

@[simp] lemma lastEffective_append_singleton (h : List Notification) (x : Notification) :
    lastEffective (h ++ [x]) = x.effective.or (lastEffective h) := by
  simp [lastEffective]

lemma lastEffective_cons (x : Notification) (h : List Notification) :
    lastEffective (x :: h) = (lastEffective h).or x.effective := by
  rw [lastEffective, List.foldl_cons, foldl_or_eq, Option.or_none]
  rfl

lemma effective_of_added {x : Notification} {n : NodeSLO} (hx : x.added = some n) :
    x.effective = some n := by
  rcases x with ⟨_ | _⟩ | ⟨_ | _, _ | _⟩ <;>
    simp_all [Notification.added, Notification.effective]

lemma lastEffective_isSome {h : List Notification} (hh : (lastAdd h).isSome) :
    (lastEffective h).isSome := by
  induction h with
  | nil => cases hh
  | cons x h ih =>
    rw [lastAdd_cons] at hh
    rw [lastEffective_cons]
    cases ha : lastAdd h with
    | some _ => simp [ih (by simp [ha])]
    | none =>
      obtain ⟨n, hn⟩ := Option.isSome_iff_exists.mp (by simpa [ha] using hh)
      simp [effective_of_added hn]

lemma withMergedSpec_or (m : MergeHelpers) (d d' : Option NodeSLO) (a : NodeSLO) :
    withMergedSpec m (d.or d') a = withMergedSpec m d (withMergedSpec m d' a) := by
  cases d <;> cases d' <;> rfl

lemma handleAll_cons_of_ok {m : MergeHelpers} {r r' : Option NodeSLO} {x : Notification}
    {h : List Notification} (hx : handle m r x = .ok r') :
    handleAll m r (x :: h) = handleAll m r' h := by
  simp only [handleAll, List.foldlM_cons, hx]
  rfl

lemma handle_eq (m : MergeHelpers) (r : Option NodeSLO) (x : Notification) :
    handle m r x =
      match x.added, x.effective with
      | some n, _ => .ok (some (withMergedSpec m (some n) n))
      | none, some n =>
        match r with
        | none => .error nilPointerDereference
        | some cur => .ok (some (withMergedSpec m (some n) cur))
      | none, none => .ok r := by
  rcases x with ⟨n | _⟩ | ⟨o | _, n | _⟩ <;> try rfl
  by_cases hs : o.spec = n.spec
  · simp [handle, updateFunc, hs, Notification.added, Notification.effective]
  · cases r <;> simp [handle, updateFunc, hs, updateNodeSLOSpec, Notification.added,
      Notification.effective, withMergedSpec, mergeNodeSLOSpec_pushed]

lemma afterHistory_merge (m : MergeHelpers) (h : List Notification) (b n : NodeSLO) :
    ((lastAdd h).or (some b)).map (withMergedSpec m ((lastEffective h).or (some n))) =
      afterHistory m (some (withMergedSpec m (some n) b)) h := by
  unfold afterHistory
  cases ha : lastAdd h with
  | some a =>
    obtain ⟨d, hd⟩ :=
      Option.isSome_iff_exists.mp (lastEffective_isSome (show (lastAdd h).isSome by simp [ha]))
    simp [hd]
  | none => simp [withMergedSpec_or]

/-- **The handlers in any order.** From any store and for any notification history, in or out of
informer order: the handlers panic, with the nil-pointer error of `updateNodeSLOSpec`, exactly when
nothing is stored and a spec-changing update comes before the first add of a NodeSLO; otherwise the
store holds the object of the last add (or the one stored before), its spec the merge of the spec
of the last add or spec-changing update. An update never brings its own metadata in. -/
theorem handleAll_eq (m : MergeHelpers) (r : Option NodeSLO) (h : List Notification) :
    handleAll m r h =
      if r.isNone && updateBeforeAdd h then .error nilPointerDereference
      else .ok (afterHistory m r h) := by
  induction h generalizing r with
  | nil => cases r <;> rfl
  | cons x h ih =>
    have hx := handle_eq m r x
    simp only [updateBeforeAdd, afterHistory, lastAdd_cons, lastEffective_cons]
    cases ha : x.added with
    | some n =>
      simp only [ha] at hx
      rw [handleAll_cons_of_ok hx, ih, effective_of_added ha, Option.or_assoc, Option.or_some,
        afterHistory_merge]
      simp
    | none =>
      cases he : x.effective with
      | some n =>
        cases r with
        | none => simp [handleAll, ha, he, hx]; rfl
        | some cur =>
          simp only [ha, he] at hx
          rw [handleAll_cons_of_ok hx, ih, Option.or_assoc, Option.none_or, afterHistory_merge]
          simp
      | none =>
        simp only [ha, he] at hx
        rw [handleAll_cons_of_ok hx, ih]
        simp [afterHistory]

/-- An update of the spec before anything is added panics. -/
example :
    let m : MergeHelpers := ⟨{}, fun _ p => p, fun _ p => p, id, fun _ p => p⟩
    let n : NodeSLO := { spec := { resourceUsedThresholdWithBE := some { enable := some true } } }
    handleAll m none [.update (.nodeSLO {}) (.nodeSLO n), .add (.nodeSLO n)] =
      .error nilPointerDereference :=
  rfl

lemma handle_ok_cases {m : MergeHelpers} {r r' : Option NodeSLO} {x : Notification}
    (hx : handle m r x = .ok r') :
    (∃ n s, x.effective = some n ∧ r' = some s ∧ s.spec = mergedSpec m n.spec) ∨
      (x.effective = none ∧ r' = r) := by
  rw [handle_eq] at hx
  cases ha : x.added with
  | some n =>
    simp only [ha, Except.ok.injEq] at hx
    exact .inl ⟨n, _, effective_of_added ha, hx.symm, rfl⟩
  | none =>
    cases he : x.effective with
    | some n =>
      cases r with
      | none => simp [ha, he] at hx
      | some c =>
        simp only [ha, he, Except.ok.injEq] at hx
        exact .inl ⟨n, _, rfl, hx.symm, rfl⟩
    | none =>
      simp only [ha, he, Except.ok.injEq] at hx
      exact .inr ⟨rfl, hx.symm⟩

lemma handleAll_stored_spec {m : MergeHelpers} {h : List Notification} {s : NodeSLO}
    (hs : handleAll m none h = .ok (some s)) :
    ∃ n, lastEffective h = some n ∧ s.spec = mergedSpec m n.spec := by
  induction h using List.reverseRecOn generalizing s with
  | nil => cases hs
  | append_singleton h x ih =>
    obtain ⟨r', hr', hx⟩ := handleAll_snoc_ok hs
    rcases handle_ok_cases hx with ⟨n, s', hn, e, hs'⟩ | ⟨hn, rfl⟩
    · cases e
      exact ⟨n, by simp [hn], hs'⟩
    · obtain ⟨n, hl, e⟩ := ih hr'
      exact ⟨n, by simp [hn, hl], e⟩

end Resmanager
