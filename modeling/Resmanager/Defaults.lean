import Resmanager.Overlay

/-!
# The node defaults and what the store holds

With the merge of §4.2, every leaf the node defaults set is set in the stored spec in every state
the handlers reach from the empty store, in any order of notifications: it holds the value of the
last pushed spec that the handlers merged when that spec sets it, the default's otherwise. The
one leaf the merge may write past the overlay is the resctrl switch of a QoS class, and the
documented defaults leave it unset. The readiness check and the feature check of the threshold
strategy follow.
-/

namespace Resmanager

/-- The defaults of a QoS class: memory QoS off, the LLC range 0-100%, MBA 100%. -/
def defaultResourceQoS : ResourceQoS where
  memoryQoS := some { enable := some false }
  resctrlQoS := some
    { resctrlQoS := { catRangeStartPercent := some 0, catRangeEndPercent := some 100,
                      mbaPercent := some 100 } }

/-- Modelled from the spec: `util.DefaultNodeSLOSpecConfig` is not in the sources. The values are
the defaults nodeslo_types.go documents (kubebuilder defaults and doc comments) and §8 of the spec
names: the threshold strategy enabled, at 65% CPU and 70% memory; the LSR, LS and BE classes with
memory QoS off (its documented default) and the documented resctrl ranges; CPU burst 1000%, CFS
quota burst 300% with no period limit, share-pool threshold 50%. The cpuset suppress policy is
assumed, as §8 names a default policy without its value. The resctrl switch has no documented
default and is left unset. -/
def defaultNodeSLOSpecConfig : NodeSLOSpec where
  resourceUsedThresholdWithBE := some
    { enable := some true, cpuSuppressThresholdPercent := some 65,
      cpuSuppressPolicy := cpuSetPolicy, memoryEvictThresholdPercent := some 70 }
  resourceQoSStrategy := some
    { lsr := some defaultResourceQoS, ls := some defaultResourceQoS, be := some defaultResourceQoS }
  cpuBurstStrategy := some
    { cpuBurstConfig := { cpuBurstPercent := some 1000, cfsQuotaBurstPercent := some 300,
                          cfsQuotaBurstPeriodSeconds := some (-1) }
      sharePoolThresholdPercent := some 50 }

lemma defaultNodeSLOSpecConfig_threshold_enable :
    (defaultNodeSLOSpecConfig.get (.resourceUsedThresholdWithBE .enable)).isSome := rfl

lemma threshold_enable_of_get {s : NodeSLOSpec}
    (h : (s.get (.resourceUsedThresholdWithBE .enable)).isSome) :
    ∃ t e, s.resourceUsedThresholdWithBE = some t ∧ t.enable = some e := by
  cases ht : s.resourceUsedThresholdWithBE with
  | none => simp [NodeSLOSpec.get, ht] at h
  | some t =>
    cases he : t.enable with
    | none => simp [NodeSLOSpec.get, ResourceThresholdStrategy.get, ht, he] at h
    | some e => exact ⟨t, e, rfl, he⟩

section Synced

variable (gate : Feature → Bool) {dflt : NodeSLOSpec}
  (ht : (dflt.get (.resourceUsedThresholdWithBE .enable)).isSome)
include ht

lemma mergedSpec_threshold_enable (s : NodeSLOSpec) :
    ∃ t e, (mergedSpec (overlayHelpers gate dflt) s).resourceUsedThresholdWithBE = some t ∧
      t.enable = some e := by
  apply threshold_enable_of_get
  rw [get_mergedSpec_overlay gate dflt s]
  · cases s.get (.resourceUsedThresholdWithBE .enable) <;> simp [ht]
  · rfl

lemma stored_threshold_enable {h : List Notification} {s : NodeSLO}
    (hs : handleAll (overlayHelpers gate dflt) none h = .ok (some s)) :
    ∃ t b, s.spec.resourceUsedThresholdWithBE = some t ∧ t.enable = some b := by
  obtain ⟨n, -, e⟩ := handleAll_stored_spec hs
  exact e ▸ mergedSpec_threshold_enable gate ht n.spec

lemma hasSynced_handle {r r' : Option NodeSLO} {x : Notification} (hr : hasSynced r = true)
    (hx : handle (overlayHelpers gate dflt) r x = .ok r') :
    hasSynced r' = true := by
  rcases handle_ok_cases hx with ⟨n, s', _, rfl, e⟩ | ⟨-, rfl⟩
  · obtain ⟨t, _, h, _⟩ := mergedSpec_threshold_enable gate ht n.spec
    simp [hasSynced, e, h]
  · exact hr

lemma hasSynced_handleAll {r r' : Option NodeSLO} {h : List Notification}
    (hr : hasSynced r = true) (hh : handleAll (overlayHelpers gate dflt) r h = .ok r') :
    hasSynced r' = true := by
  induction h generalizing r with
  | nil => cases hh; exact hr
  | cons x h ih =>
    obtain ⟨r₁, hx, hh⟩ := handleAll_cons_ok hh
    exact ih (hasSynced_handle gate ht hr hx) hh

end Synced

end Resmanager
