import Mathlib.Logic.Function.Basic

/-!
# The expiring cache

`podsEvicted` is a `Cache` of `pkg/tools/cache`, which is not in the sources. §4.1 of the spec
gives its contract and this module models it: `SetDefault` stores an entry that expires the
default duration after now, `Get` is a lookup without side effects, and the sweep that `Run`
starts removes expired entries. One pass of the sweep here removes any set of expired entries,
the full sweep among them, so every sweep schedule is covered.
-/

namespace Resmanager

/-- A cache entry: the stored object and the time it expires. -/
structure Item where
  object : String
  expiration : Nat
deriving DecidableEq, Repr

/-- An entry is expired once the clock is past its expiration. -/
def Item.expired (now : Nat) (it : Item) : Bool := it.expiration < now

/-- Modelled from the spec: the `Cache` of `pkg/tools/cache` (§4.1). `stopped` records that the
stop signal has shut it down. -/
structure Cache where
  items : String → Option Item
  defaultExpiration : Nat
  stopped : Bool := false

/-- Modelled from the spec: `NewCacheDefault`, an empty running cache; its default expiration is
a constant of `pkg/tools/cache`, taken here as a parameter. -/
def newCacheDefault (defaultExpiration : Nat) : Cache where
  items := fun _ => none
  defaultExpiration := defaultExpiration

/-- Modelled from the spec: `Get`, a lookup with no side effects. -/
def Cache.get (c : Cache) (key : String) : Option String :=
  (c.items key).map Item.object

/-- The error `SetDefault` returns once the cache is shut down. -/
inductive CacheError
  | stopped
deriving DecidableEq, Repr

/-- Modelled from the spec: `SetDefault` inserts or refreshes `key` with the default expiration,
and fails only once the cache is shut down. -/
def Cache.setDefault (c : Cache) (now : Nat) (key value : String) : Except CacheError Cache :=
  if c.stopped then .error .stopped
  else .ok { c with items := Function.update c.items key (some ⟨value, now + c.defaultExpiration⟩) }

/-- Modelled from the spec: one pass of the sweep at time `now` removes the expired entries among
the keys it reaches; a shut-down cache is no longer swept. -/
def Cache.sweep (c : Cache) (now : Nat) (reached : String → Bool) : Cache :=
  if c.stopped then c
  else { c with items := fun k => if reached k then (c.items k).filter (fun it => !it.expired now)
                                  else c.items k }

@[simp] lemma Cache.sweep_defaultExpiration (c : Cache) (now : Nat) (reached : String → Bool) :
    (c.sweep now reached).defaultExpiration = c.defaultExpiration := by
  unfold Cache.sweep; split <;> rfl

@[simp] lemma Cache.sweep_stopped (c : Cache) (now : Nat) (reached : String → Bool) :
    (c.sweep now reached).stopped = c.stopped := by
  unfold Cache.sweep; split <;> rfl

/-- A sweep only removes entries, and only expired ones. -/
lemma Cache.sweep_items (c : Cache) (now : Nat) (reached : String → Bool) (k : String) :
    (c.sweep now reached).items k = c.items k ∨
      ∃ it, c.items k = some it ∧ it.expired now ∧ (c.sweep now reached).items k = none := by
  unfold Cache.sweep
  split
  · exact .inl rfl
  · dsimp only
    split
    · cases h : c.items k with
      | none => exact .inl rfl
      | some it => cases he : it.expired now <;> simp [Option.filter, he]
    · exact .inl rfl

end Resmanager
