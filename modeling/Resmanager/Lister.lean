import Resmanager.NodeSLO
import Mathlib.Data.List.Basic

/-!
# The NodeSLO lister

`nodeSLOLister` of the generated client: `List` and `Get` over the informer's indexer. The
indexer and `cache.ListAll` are client-go's and not in the sources; the indexer is a parameter,
and `listAll` follows client-go's contract: every stored object when the selector is empty,
else those whose labels it matches. Whatever the indexer holds, `List` returns the stored
NodeSLOs the selector matches and `Get` the one stored under the name.
-/

namespace Resmanager

/-- A `labels.Selector`: the label sets it matches, and `Empty()`, which holds only of a selector
without requirements, one that matches every label set. -/
structure Selector where
  «matches» : List (String × String) → Bool
  empty : Bool
  empty_matches : empty = true → ∀ l, «matches» l = true

/-- `labels.Everything()`. -/
def Selector.everything : Selector := ⟨fun _ => true, true, fun _ _ => rfl⟩

/-- What the lister reads of the informer's `cache.Indexer`: `GetByKey`, and the stored objects
in the order `List` returns them. -/
structure Indexer where
  getByKey : String → Except String (Option NodeSLO)
  list : List NodeSLO

/-- Modelled from client-go's contract: `cache.ListAll` appends each stored object in turn, all of
them when the selector is empty (without reading labels), else those whose labels it matches. -/
def listAll (store : List NodeSLO) (selector : Selector) : List NodeSLO :=
  store.filter fun m => selector.empty || selector.«matches» m.objectMeta.labels

/-- The errors of `Get`: the indexer's, passed on, and `errors.NewNotFound(v1alpha1.Resource(
"nodeslo"), name)`. -/
inductive ListerError
  | indexer (err : String)
  | notFound (resource name : String)
deriving DecidableEq, Repr

structure NodeSLOLister where
  indexer : Indexer

/-- `NewNodeSLOLister`. -/
def newNodeSLOLister (indexer : Indexer) : NodeSLOLister := ⟨indexer⟩

/-- `List`: the objects `cache.ListAll` appends, and its nil error. -/
def NodeSLOLister.list (s : NodeSLOLister) (selector : Selector) : List NodeSLO × Option String :=
  (listAll s.indexer.list selector, none)

/-- `Get`: the object stored under `name`, or an error. -/
def NodeSLOLister.get (s : NodeSLOLister) (name : String) : Except ListerError NodeSLO :=
  match s.indexer.getByKey name with
  | .error err => .error (.indexer err)
  | .ok none => .error (.notFound "nodeslo" name)
  | .ok (some obj) => .ok obj

section Spec

variable (s : NodeSLOLister)

/-- `List` returns, in the indexer's order, exactly the stored objects the selector matches, and
no error. -/
theorem NodeSLOLister.list_mem (selector : Selector) :
    List.Sublist (s.list selector).1 s.indexer.list ∧ (s.list selector).2 = none ∧
      ∀ x, x ∈ (s.list selector).1 ↔ x ∈ s.indexer.list ∧
        selector.«matches» x.objectMeta.labels = true := by
  refine ⟨List.filter_sublist _, rfl, fun x => ?_⟩
  simp only [NodeSLOLister.list, listAll, List.mem_filter, Bool.or_eq_true]
  constructor
  · rintro ⟨hx, he | hm⟩
    · exact ⟨hx, selector.empty_matches he _⟩
    · exact ⟨hx, hm⟩
  · rintro ⟨hx, hm⟩
    exact ⟨hx, .inr hm⟩

/-- `Get` returns the object the indexer holds under `name`; when it holds none, the error is
NotFound for the resource "nodeslo" and that name; otherwise it is the indexer's. -/
theorem NodeSLOLister.get_eq_ok (name : String) :
    (∀ obj, s.get name = .ok obj ↔ s.indexer.getByKey name = .ok (some obj)) ∧
    (s.get name = .error (.notFound "nodeslo" name) ↔ s.indexer.getByKey name = .ok none) ∧
    ∀ err, s.get name = .error (.indexer err) ↔ s.indexer.getByKey name = .error err := by
  unfold NodeSLOLister.get
  rcases s.indexer.getByKey name with err | _ | obj <;> simp

end Spec

end Resmanager
