import Resmanager.Defaults

/-!
# The store over time

What `Run` polls is the store as the handlers fill it while time goes on. `StoreTrace` is such a
history: at each tick the store is what notifications made of the store at the tick before, from
the empty one. `StoreTrace.ofHistory` is the store as the handlers work through one notification
history. With the merge of §4.2 and the node defaults, a trace stays synced once it is, and is
synced as soon as it holds a NodeSLO.
-/

namespace Resmanager

/-- The stored NodeSLO over time as the handlers fill it: at tick 0 it is what some notifications
made of the empty store, and at each next tick what further notifications made of the last. -/
structure StoreTrace (m : MergeHelpers) where
  nodeSLO : Nat → Option NodeSLO
  init : ∃ h, handleAll m none h = .ok (nodeSLO 0)
  next : ∀ t, ∃ h, handleAll m (nodeSLO t) h = .ok (nodeSLO (t + 1))

namespace StoreTrace

variable {m : MergeHelpers} (tr : StoreTrace m)

lemma grows {t t' : Nat} (ht : t ≤ t') :
    ∃ h, handleAll m (tr.nodeSLO t) h = .ok (tr.nodeSLO t') := by
  induction t', ht using Nat.le_induction with
  | base => exact ⟨[], rfl⟩
  | succ t' _ ih =>
    obtain ⟨h, hh⟩ := ih
    obtain ⟨h', hh'⟩ := tr.next t'
    exact ⟨h ++ h', handleAll_append hh hh'⟩

lemma reached (t : Nat) : ∃ h, handleAll m none h = .ok (tr.nodeSLO t) :=
  let ⟨h, hh⟩ := tr.init
  let ⟨h', hh'⟩ := tr.grows (Nat.zero_le t)
  ⟨h ++ h', handleAll_append hh hh'⟩

end StoreTrace

/-- The store once the handlers have worked through the first `k` notifications of `h`. -/
def storeAfter (m : MergeHelpers) (h : List Notification) (k : Nat) : Option NodeSLO :=
  match handleAll m none (h.take k) with
  | .ok r => r
  | .error _ => none

section History

variable {m : MergeHelpers} {h : List Notification} {r : Option NodeSLO}
  (hr : handleAll m none h = .ok r)
include hr

lemma handleAll_take (k : Nat) : handleAll m none (h.take k) = .ok (storeAfter m h k) := by
  rw [← List.take_append_drop k h] at hr
  obtain ⟨r', hk, -⟩ := handleAll_append_ok hr
  simp [storeAfter, hk]

lemma handleAll_take_add (k d : Nat) :
    handleAll m (storeAfter m h k) ((h.drop k).take d) = .ok (storeAfter m h (k + d)) := by
  have hkd := handleAll_take hr (k + d)
  rw [List.take_add] at hkd
  obtain ⟨r', hk, hd⟩ := handleAll_append_ok hkd
  rw [handleAll_take hr k] at hk
  cases hk
  exact hd

end History

/-- The store as the handlers work through a history `h` whose handling succeeds, having handled
its first `handled t` notifications at tick `t`. -/
def StoreTrace.ofHistory (m : MergeHelpers) (h : List Notification) (handled : Nat → Nat)
    (mono : ∀ t, handled t ≤ handled (t + 1)) (ok : ∃ r, handleAll m none h = .ok r) :
    StoreTrace m where
  nodeSLO t := storeAfter m h (handled t)
  init := let ⟨_, hr⟩ := ok; ⟨_, handleAll_take hr _⟩
  next t := by
    obtain ⟨_, hr⟩ := ok
    obtain ⟨d, hd⟩ := Nat.exists_eq_add_of_le (mono t)
    exact ⟨_, hd ▸ handleAll_take_add hr _ d⟩

section Synced

variable (gate : Feature → Bool) (tr : StoreTrace (overlayHelpers gate defaultNodeSLOSpecConfig))

lemma StoreTrace.hasSynced_mono {t t' : Nat} (ht : t ≤ t') (hs : hasSynced (tr.nodeSLO t) = true) :
    hasSynced (tr.nodeSLO t') = true :=
  let ⟨_, hh⟩ := tr.grows ht
  hasSynced_handleAll gate defaultNodeSLOSpecConfig_threshold_enable hs hh

lemma StoreTrace.synced_of_isSome {t : Nat} (hs : (tr.nodeSLO t).isSome) :
    hasSynced (tr.nodeSLO t) = true ∧ ∀ f, f = .beCPUSuppress ∨ f = .beMemoryEvict →
      (isFeatureDisabled (getNodeSLOCopy (tr.nodeSLO t)) f).2 = none := by
  obtain ⟨h, hh⟩ := tr.reached t
  obtain ⟨s, e⟩ := Option.isSome_iff_exists.mp hs
  rw [e] at hh ⊢
  obtain ⟨th, b, ht, hb⟩ := stored_threshold_enable gate defaultNodeSLOSpecConfig_threshold_enable hh
  exact ⟨by simp [hasSynced, ht], isFeatureDisabled_threshold_ok ht hb⟩

end Synced

end Resmanager
