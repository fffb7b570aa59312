import BucketStore.Cache

/-!
# The Registry of Caches

A **registry** holds one membership cache per bucket name, all of one shape. A cache comes into being
at the first reference to its name and is then filled; if filling it fails, the name stays unknown.
-/

namespace BucketStore

/-- The caches of the buckets referred to so far. -/
structure Registry where
  /-- The shape of every cache. -/
  shape : Filter.Shape
  /-- The caches by bucket name. -/
  caches : Std.TreeMap String Cache

namespace Registry

/-- The registry in which no name is known. -/
def empty (shape : Filter.Shape) : Registry :=
  ⟨shape, ∅⟩

/-- The cache of a name, if the name is known. -/
def find? (r : Registry) (name : String) : Option Cache :=
  r.caches[name]?

/-- Whether a name is known. -/
def contains (r : Registry) (name : String) : Bool :=
  r.caches.contains name

/-- The number of names. -/
def size (r : Registry) : Nat :=
  r.caches.size

/-- The names in ascending order. -/
def names (r : Registry) : List String :=
  r.caches.keys

/-- The cache of a name, or an empty one if the name is unknown. -/
def cacheOf (r : Registry) (name : String) : Cache :=
  (r.find? name).getD (.empty r.shape)

/-- Replaces the cache of a known name; an unknown name stays unknown. -/
def set (r : Registry) (name : String) (c : Cache) : Registry :=
  if r.contains name then { r with caches := r.caches.insert name c } else r

/-- Makes a name known. A name that is known already keeps its cache and `fill` is not asked; else the
new cache is what `fill` makes of an empty one, and if `fill` fails nothing changes. -/
def ensure {ε : Type} (r : Registry) (name : String) (fill : Cache → Except ε Cache) :
    Except ε Registry :=
  if r.contains name then .ok r
  else (fill (.empty r.shape)).map fun c => { r with caches := r.caches.insert name c }

/-! ### Look-ups -/

/-- At first no name is known. -/
@[simp] theorem find?_empty (shape : Filter.Shape) (name : String) :
    (empty shape).find? name = none := by
  simp [find?, empty]

/-- A name is known exactly if it has a cache. -/
theorem contains_eq_isSome_find? (r : Registry) (name : String) :
    r.contains name = (r.find? name).isSome := by
  simp [contains, find?]

/-- Setting a cache is seen under its own name, if that name is known. -/
theorem find?_set (r : Registry) (name other : String) (c : Cache) :
    (r.set name c).find? other =
      if name = other ∧ r.contains name then some c else r.find? other := by
  by_cases hk : r.contains name
  · simp only [set, hk, if_true, find?, and_true]
    rw [Std.TreeMap.getElem?_insert]
    simp
  · simp [set, hk]

end Registry

end BucketStore
