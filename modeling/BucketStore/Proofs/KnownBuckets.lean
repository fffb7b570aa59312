import BucketStore.Proofs.ByteOrder
import BucketStore.Proofs.Isolation
import BucketStore.Proofs.SameTables
import Mathlib.Data.String.Basic

/-!
# Known Buckets

A registry goes through calls that make a name known, with whatever they fill its cache with, and
through uses of the caches that are found in it. Each name goes its own way through such a run: it
has no cache until the first call for it whose filling succeeds, and from then on it has this cache
for good, with all that was done to it since (`Event.cell`). Whether a filling was asked for cannot
be told from a call that succeeds, but it can from a filling that fails with the very cache that it
is given (`Registry.asks`).

A backend starts with the bucket that it was opened on, and only switches make more of them known.
So what it knows can be told from the record of a run.

## Main results

* `call_cases`, `use_cases`: what an event can do to a registry.
* `names_ascending`: the names are listed in ascending order of their bytes.
* `find?_after`: each name goes its own way.
* `contains_after`, `countP_filled`: a name is known if a call for it succeeded, and one of these
  calls has filled its cache.
* `Registry.laws_after`: the laws of a registry after any run.
* `Backend.laws_after`: what a backend knows after any run.
* `registry_laws`: both of them.
-/

namespace BucketStore

namespace Registry

variable {ε : Type} {r : Registry} {name other : String} {fill : Cache → Except ε Cache}

/-! ### Names -/

/-- The names are those that are known. -/
theorem mem_names (r : Registry) (name : String) : name ∈ r.names ↔ r.contains name = true :=
  Std.TreeMap.mem_keys

/-- There are as many names as the registry has caches. -/
theorem length_names (r : Registry) : r.names.length = r.size :=
  Std.TreeMap.length_keys

/-- **The names ascend** in the order of their bytes, so that none is listed twice. -/
theorem names_ascending (r : Registry) :
    r.names.Pairwise fun a b => Text.encode a.toList < Text.encode b.toList :=
  Std.TreeMap.ordered_keys.imp fun h =>
    Text.encode_lt_encode (String.lt_iff_toList_lt.mp (compare_lt_iff_lt.mp h))

/-- A new cache makes its name known, and no other. -/
theorem contains_insert (r : Registry) (other name : String) (c : Cache) :
    ({ r with caches := r.caches.insert other c } : Registry).contains name =
      (r.contains name || other == name) := by
  rw [contains_eq_isSome_find?, find?_insert, contains_eq_isSome_find?]
  by_cases heq : other = name
  · simp [heq]
  · simp [heq]

/-! ### Events -/

/-- What is done with a registry. -/
inductive Event (ε : Type) where
  /-- A call makes a name known, with a cache that has to be filled if it is new. -/
  | call (name : String) (fill : Cache → Except ε Cache)
  /-- A name is looked up, and the cache that is found is used. -/
  | use (name : String) (change : Cache → Cache)

/-- The registry after an event: a call that fails leaves it as it was, and so does the use of a
name that is not known. -/
def Event.apply (r : Registry) : Event ε → Registry
  | .call name fill =>
    match r.ensure name fill with
    | .ok r' => r'
    | .error _ => r
  | .use name change =>
    match r.find? name with
    | some c => r.set name (change c)
    | none => r

/-- The registry after a row of events. -/
def after (r : Registry) (events : List (Event ε)) : Registry :=
  events.foldl Event.apply r

/-- What an event makes of the cache of one name. -/
def Event.cell (shape : Filter.Shape) (name : String) : Option Cache → Event ε → Option Cache
  | none, .call other fill => if other = name then (fill (.empty shape)).toOption else none
  | some c, .use other change => if other = name then some (change c) else some c
  | found, _ => found

/-- The cache that a call for a name **asks** to have filled, if it asks for that. Such a call is
made with a filling that fails with the cache that it gets. -/
def asks (r : Registry) (name : String) : Option Cache :=
  match r.ensure name (Except.error : Cache → Except Cache Cache) with
  | .ok _ => none
  | .error c => some c

/-- What is on record of a call. -/
structure Call where
  /-- The name that was to be made known. -/
  name : String
  /-- The cache that was to be filled, if there was one. -/
  asked : Option Cache
  /-- Whether the call succeeded. -/
  ok : Bool

/-- Whether a call for a name succeeded. -/
def Call.succeeded (name : String) (call : Call) : Bool :=
  call.name == name && call.ok

/-- Whether a call for a name succeeded by having a new cache filled. -/
def Call.filled (name : String) (call : Call) : Bool :=
  call.succeeded name && call.asked.isSome

/-- The record of an event, if it is a call. -/
def Event.call? (r : Registry) : Event ε → Option Call
  | .call name fill => some ⟨name, r.asks name, (r.ensure name fill).isOk⟩
  | .use .. => none

/-- The record of the calls in a row of events. -/
def calls (r : Registry) : List (Event ε) → List Call
  | [] => []
  | e :: rest => (e.call? r).toList ++ calls (e.apply r) rest

/-! ### One event -/

/-- A call asks for a new cache to be filled exactly if the name is not known. -/
theorem asks_eq (r : Registry) (name : String) :
    r.asks name = if r.contains name then none else some (.empty r.shape) := by
  cases h : r.contains name <;> simp [asks, ensure, h, Except.map]

/-- The three ways a call can go: the name is known, or its cache cannot be filled, or it is known
from then on with the cache that was filled. -/
theorem call_cases (r : Registry) (other : String) (fill : Cache → Except ε Cache) :
    (r.contains other = true ∧ r.ensure other fill = .ok r ∧
      (Event.call other fill).apply r = r ∧
      (Event.call other fill).call? r = some ⟨other, none, true⟩) ∨
    (∃ e, r.contains other = false ∧ fill (.empty r.shape) = .error e ∧
      r.ensure other fill = .error e ∧ (Event.call other fill).apply r = r ∧
      (Event.call other fill).call? r = some ⟨other, some (.empty r.shape), false⟩) ∨
    ∃ c, r.contains other = false ∧ fill (.empty r.shape) = .ok c ∧
      r.ensure other fill = .ok { r with caches := r.caches.insert other c } ∧
      (Event.call other fill).apply r = { r with caches := r.caches.insert other c } ∧
      (Event.call other fill).call? r = some ⟨other, some (.empty r.shape), true⟩ := by
  have hasks := r.asks_eq other
  cases hknown : r.contains other with
  | true =>
      have hens : r.ensure other fill = .ok r := by simp only [ensure, hknown, if_true]
      rw [hknown] at hasks
      left
      simp only [Event.apply, Event.call?, hens, hasks]
      exact ⟨trivial, trivial, trivial, rfl⟩
  | false =>
      rw [hknown] at hasks
      right
      cases hfill : fill (.empty r.shape) with
      | error e =>
          have hens : r.ensure other fill = .error e := by simp [ensure, hknown, hfill, Except.map]
          left
          simp only [Event.apply, Event.call?, hens, hasks]
          exact ⟨e, trivial, rfl, rfl, trivial, rfl⟩
      | ok c =>
          have hens : r.ensure other fill = .ok { r with caches := r.caches.insert other c } := by
            simp [ensure, hknown, hfill, Except.map]
          right
          simp only [Event.apply, Event.call?, hens, hasks]
          exact ⟨c, trivial, rfl, rfl, rfl, rfl⟩

/-- The use of a name sets its cache, if it has one. -/
theorem use_cases (r : Registry) (other : String) (change : Cache → Cache) :
    (r.find? other = none ∧ (.use other change : Event ε).apply r = r) ∨
      ∃ c, r.find? other = some c ∧
        (.use other change : Event ε).apply r = r.set other (change c) := by
  cases h : r.find? other with
  | none =>
      left
      exact ⟨rfl, by simp only [Event.apply, h]⟩
  | some c =>
      right
      exact ⟨c, rfl, by simp only [Event.apply, h]⟩

/-- An event keeps the shape of the registry. -/
theorem shape_apply (r : Registry) (e : Event ε) : (e.apply r).shape = r.shape := by
  cases e with
  | call other fill =>
      obtain ⟨-, -, h, -⟩ | ⟨_, -, -, -, h, -⟩ | ⟨_, -, -, -, h, -⟩ := r.call_cases other fill
      all_goals rw [h]
  | use other change =>
      obtain ⟨-, h⟩ | ⟨_, -, h⟩ := r.use_cases other change
      · rw [h]
      · rw [h, shape_set]

/-- **An event changes the cache of its own name only**, in the way of that name. -/
theorem find?_apply (r : Registry) (e : Event ε) (name : String) :
    (e.apply r).find? name = e.cell r.shape name (r.find? name) := by
  cases e with
  | call other fill =>
      obtain ⟨hknown, -, h, -⟩ | ⟨_, hnew, hfill, -, h, -⟩ | ⟨c, hnew, hfill, -, h, -⟩ :=
        r.call_cases other fill
      · rw [contains_eq_isSome_find?] at hknown
        rw [h]
        cases hfind : r.find? name with
        | none =>
            have hne : other ≠ name := fun heq => by simp [heq, hfind] at hknown
            simp only [Event.cell, if_neg hne]
        | some c => rfl
      · rw [h]
        cases hfind : r.find? name with
        | none => simp [Event.cell, hfill, Except.toOption]
        | some c => rfl
      · rw [contains_eq_isSome_find?] at hnew
        rw [h, find?_insert]
        cases hfind : r.find? name with
        | none => simp only [Event.cell, hfill, Except.toOption]
        | some c' =>
            have hne : other ≠ name := fun heq => by simp [heq, hfind] at hnew
            rw [if_neg hne]
            rfl
  | use other change =>
      obtain ⟨hnone, h⟩ | ⟨c, hsome, h⟩ := r.use_cases other change
      · rw [h]
        cases hfind : r.find? name with
        | none => rfl
        | some c =>
            have hne : other ≠ name := fun heq => by simp [heq, hfind] at hnone
            simp only [Event.cell, if_neg hne]
      · rw [h, find?_set_of_find? hsome]
        cases hfind : r.find? name with
        | none =>
            have hne : other ≠ name := fun heq => by simp [heq, hfind] at hsome
            rw [if_neg hne]
            rfl
        | some c' =>
            by_cases heq : other = name
            · subst heq
              rw [hsome] at hfind
              obtain rfl := Option.some.inj hfind
              rfl
            · simp only [Event.cell, if_neg heq]

/-! ### Runs -/

/-- The registry after one more event at the start. -/
theorem after_cons (r : Registry) (e : Event ε) (rest : List (Event ε)) :
    r.after (e :: rest) = (e.apply r).after rest :=
  rfl

/-- A row of events keeps the shape of the registry. -/
theorem shape_after (r : Registry) (events : List (Event ε)) :
    (r.after events).shape = r.shape := by
  induction events generalizing r with
  | nil => rfl
  | cons e rest ih => exact (ih _).trans (r.shape_apply e)

/-- **Each name goes its own way** through a row of events. -/
theorem find?_after (r : Registry) (events : List (Event ε)) (name : String) :
    (r.after events).find? name = events.foldl (Event.cell r.shape name) (r.find? name) := by
  induction events generalizing r with
  | nil => rfl
  | cons e rest ih => rw [after_cons, ih, shape_apply, find?_apply, List.foldl_cons]

/-- What is known after an event: what was known, and the name of a call that succeeded. -/
theorem contains_apply (r : Registry) (e : Event ε) (name : String) :
    (e.apply r).contains name =
      (r.contains name || (e.call? r).toList.any (·.succeeded name)) := by
  cases e with
  | call other fill =>
      obtain ⟨hknown, -, h, hcall⟩ | ⟨_, -, -, -, h, hcall⟩ | ⟨c, -, -, -, h, hcall⟩ :=
        r.call_cases other fill
      · rw [h, hcall]
        by_cases heq : other = name
        · simp [Call.succeeded, ← heq, hknown]
        · simp [Call.succeeded, heq]
      · rw [h, hcall]
        simp [Call.succeeded]
      · rw [h, hcall, contains_insert]
        simp [Call.succeeded]
  | use other change =>
      obtain ⟨-, h⟩ | ⟨_, -, h⟩ := r.use_cases other change
      · rw [h]
        simp [Event.call?]
      · rw [h, contains_set]
        simp [Event.call?]

/-- **A name is known if a call for it succeeded**, or if it was known at the start. -/
theorem contains_after (r : Registry) (events : List (Event ε)) (name : String) :
    (r.after events).contains name =
      (r.contains name || (r.calls events).any (·.succeeded name)) := by
  induction events generalizing r with
  | nil => simp [after, calls]
  | cons e rest ih =>
      rw [after_cons, ih, contains_apply, calls, List.any_append, Bool.or_assoc]

/-- A call fills a cache with success exactly if it makes its name known. -/
theorem countP_filled_apply (r : Registry) (e : Event ε) (name : String) :
    (e.call? r).toList.countP (·.filled name) =
      if r.contains name then 0 else if (e.apply r).contains name then 1 else 0 := by
  rw [contains_apply]
  cases e with
  | call other fill =>
      obtain ⟨hknown, -, -, hcall⟩ | ⟨_, -, -, -, -, hcall⟩ | ⟨_, hnew, -, -, -, hcall⟩ :=
        r.call_cases other fill
      · rw [hcall]
        by_cases heq : other = name
        · simp [Call.filled, ← heq, hknown]
        · cases r.contains name <;> simp [Call.filled, Call.succeeded, heq]
      · rw [hcall]
        cases r.contains name <;> simp [Call.filled, Call.succeeded]
      · rw [hcall]
        by_cases heq : other = name
        · simp [Call.filled, Call.succeeded, ← heq, hnew]
        · cases r.contains name <;> simp [Call.filled, Call.succeeded, heq]
  | use other change => cases r.contains name <;> simp [Event.call?]

/-- **No cache is filled twice** with success: a name that becomes known in a run does so by one
call. -/
theorem countP_filled (r : Registry) (events : List (Event ε)) (name : String) :
    (r.calls events).countP (·.filled name) =
      if r.contains name then 0 else if (r.after events).contains name then 1 else 0 := by
  induction events generalizing r with
  | nil => cases h : r.contains name <;> simp [after, calls, h]
  | cons e rest ih =>
      rw [calls, List.countP_append, ih, countP_filled_apply, after_cons]
      -- What is known stays known, so of the two counts at most one is not zero.
      cases hfirst : r.contains name with
      | true =>
          have hnext : (e.apply r).contains name = true := by simp [contains_apply, hfirst]
          simp [hnext]
      | false =>
          cases hnext : (e.apply r).contains name with
          | true =>
              have hlast : ((e.apply r).after rest).contains name = true := by
                simp [contains_after, hnext]
              simp [hlast]
          | false => simp

/-! ### The laws -/

/-- The **laws** of a registry after a row of events that started without any names. -/
structure Laws (shape : Filter.Shape) (events : List (Event ε)) (r : Registry) : Prop where
  /-- The names are those for which a call succeeded. -/
  registered : ∀ name, name ∈ r.names ↔
    ∃ call ∈ (empty shape).calls events, call.succeeded name = true
  /-- For each of them a filling has succeeded once, and for no other. -/
  filled : ∀ name, ((empty shape).calls events).countP (·.filled name) =
    if name ∈ r.names then 1 else 0
  /-- Each name has the cache that it got in its own way, with all that was done to it. -/
  found : ∀ name, r.find? name = events.foldl (Event.cell shape name) none
  /-- A call asks for a filling exactly if the name is not known, and then of a new cache. -/
  asks : ∀ name, r.asks name = if name ∈ r.names then none else some (.empty shape)
  /-- A call for a known name succeeds, and leaves the name its cache and all else as it was. -/
  kept : ∀ name ∈ r.names, ∀ fill : Cache → Except ε Cache,
    r.ensure name fill = .ok r
  /-- A call whose filling fails, fails with the same error and leaves all as it was. -/
  failed : ∀ name, name ∉ r.names → ∀ (fill : Cache → Except ε Cache) (e : ε),
    fill (.empty shape) = .error e →
      r.ensure name fill = .error e ∧ (Event.call name fill).apply r = r
  /-- A call whose filling succeeds makes its name known with the filled cache, and no other. -/
  created : ∀ name, name ∉ r.names → ∀ (fill : Cache → Except ε Cache) (c : Cache),
    fill (.empty shape) = .ok c → ∃ r', r.ensure name fill = .ok r' ∧
      ∀ other, r'.find? other = if name = other then some c else r.find? other
  /-- The names ascend in the order of their bytes. -/
  ascending : r.names.Pairwise fun a b => Text.encode a.toList < Text.encode b.toList
  /-- There are as many names as caches. -/
  size : r.names.length = r.size
  /-- To be known, to be found and to be listed is the same. -/
  known : ∀ name, (r.contains name = true ↔ name ∈ r.names) ∧
    ((r.find? name).isSome = true ↔ name ∈ r.names)

/-- **The laws hold after every run** of calls and uses. -/
theorem laws_after (shape : Filter.Shape) (events : List (Event ε)) :
    Laws shape events ((empty shape).after events) := by
  have hempty : ∀ name, (empty shape).contains name = false := fun name => by
    rw [contains_eq_isSome_find?, find?_empty, Option.isSome_none]
  have hshape : ((empty shape).after events).shape = shape := shape_after ..
  generalize hr : (empty shape).after events = r at hshape ⊢
  have hnew : ∀ {name}, name ∉ r.names → r.contains name = false := fun h =>
    Bool.not_eq_true _ ▸ mt (r.mem_names _).mpr h
  exact {
    registered := fun name => by
      rw [mem_names, ← hr, contains_after, hempty, Bool.false_or, List.any_eq_true]
    filled := fun name => by
      rw [countP_filled, hempty, hr]
      simp only [mem_names, Bool.false_eq_true, if_false]
    found := fun name => by rw [← hr, find?_after, find?_empty]; rfl
    asks := fun name => by
      rw [asks_eq, hshape]
      simp only [mem_names]
    kept := fun name hname fill => by rw [ensure, if_pos ((r.mem_names name).mp hname)]
    failed := fun name hname fill e hfill => by
      rw [← hshape] at hfill
      obtain ⟨hknown, -⟩ | ⟨_, -, hfill', hens, happly, -⟩ | ⟨_, -, hfill', -⟩ :=
        r.call_cases name fill
      · simp [hnew hname] at hknown
      · rw [hfill] at hfill'
        exact ⟨Except.error.inj hfill' ▸ hens, happly⟩
      · simp [hfill] at hfill'
    created := fun name hname fill c hfill => by
      rw [← hshape] at hfill
      obtain ⟨hknown, -⟩ | ⟨_, -, hfill', -⟩ | ⟨_, -, hfill', hens, -⟩ := r.call_cases name fill
      · simp [hnew hname] at hknown
      · simp [hfill] at hfill'
      · rw [hfill] at hfill'
        exact ⟨_, hens, fun other => Except.ok.inj hfill' ▸ find?_insert r name other _⟩
    ascending := r.names_ascending
    size := r.length_names
    known := fun name => ⟨(r.mem_names name).symm, by rw [mem_names, contains_eq_isSome_find?]⟩ }

end Registry

/-! ### Backends -/

namespace Backend

variable {b : Backend} {name bucket : String}

/-- Whether an entry of a record is a switch to a bucket that succeeded. -/
def Entry.switched (name : String) (e : Entry) : Bool :=
  e.request == .switch name && e.answer.isOk

/-- A switch makes its bucket known if it succeeds, and no other. -/
theorem contains_switch_eq (b : Backend) (new name : String) :
    (b.switch new).2.registry.contains name =
      (b.registry.contains name || (new == name && (b.switch new).1.isOk)) := by
  obtain ⟨_, -, h⟩ | ⟨_, _, -, -, h⟩ | ⟨n, registry, hn, hens, h⟩ := b.switch_cases new
  · rw [h]
    simp [Except.isOk, Except.toBool]
  · rw [h]
    simp [Except.isOk, Except.toBool]
  · rw [h]
    obtain rfl := BucketName.text_of_ofString hn
    rcases Registry.ensure_eq_ok hens with ⟨hknown, rfl⟩ | ⟨c, -, -, rfl⟩
    · by_cases heq : n.text = name
      · simp [← heq, hknown]
      · simp [heq]
    · rw [Registry.contains_insert]
      simp [Except.isOk, Except.toBool]

/-- What is known after a request: what was known, and the bucket of a switch that succeeded. -/
theorem contains_serve_eq (b : Backend) (request : Request) (name : String) :
    (b.serve request).2.registry.contains name =
      (b.registry.contains name ||
        Entry.switched name ⟨b.active, request, (b.serve request).1⟩) := by
  rcases request.switch_or with hrequest | ⟨new, rfl⟩
  · have hother : request ≠ .switch name := fun h => by cases h ▸ hrequest
    have hsteady : (b.serve request).2.registry.contains name = b.registry.contains name :=
      (steady_contains name).serve hrequest
    simp [hsteady, Entry.switched, hother]
  · have hname : (Request.switch new == .switch name) = (new == name) := by
      rw [Bool.eq_iff_iff]
      simp
    have hok : (b.serve (.switch new)).1.isOk = (b.switch new).1.isOk := by
      simp only [serve, Prod.map_fst]
      cases (b.switch new).1 <;> rfl
    rw [Entry.switched, hname, hok]
    exact b.contains_switch_eq new name

/-- **A bucket is known if a switch to it succeeded**, or if it was known at the start. -/
theorem contains_after_eq (b : Backend) (requests : List Request) (name : String) :
    (b.after requests).registry.contains name =
      (b.registry.contains name || (b.log requests).any (·.switched name)) := by
  induction requests generalizing b with
  | nil => simp [after, log]
  | cons request rest ih =>
      rw [after, ih, contains_serve_eq, log_cons, List.any_cons, Bool.or_assoc]

/-- The **laws** of what a backend knows after a row of requests since it was opened on a bucket. -/
structure Laws (b : Backend) (bucket : String) (requests : List Request) : Prop where
  /-- The known buckets are the one that was opened, and those that a switch to has succeeded. -/
  known : ∀ name, name ∈ (b.after requests).knownBuckets ↔
    name = bucket ∨ ∃ e ∈ b.log requests, e.switched name = true
  /-- Statistics are told, and their number of buckets is that of the known ones. -/
  stats : ∃ s, (b.after requests).stats = .ok s ∧
    s.buckets = (b.after requests).knownBuckets.length
  /-- The active bucket is known. -/
  active : (b.after requests).active ∈ (b.after requests).knownBuckets
  /-- The active cache is the one that the registry has for the active bucket. -/
  cache : (b.after requests).registry.find? (b.after requests).active =
    some (b.after requests).cache

/-- **The laws hold after every run** since a backend was opened. -/
theorem laws_after {shape : Filter.Shape} {v : Volume} {path : String}
    (h : (openWith shape v path bucket).1 = .ok b) (requests : List Request) :
    b.Laws bucket requests := by
  have hintact := (intact_of_openWith h).after requests
  obtain ⟨-, table, -, hfind⟩ := registry_of_openWith h
  have hactive := hintact.sound.find?_active
  exact {
    known := fun name => by
      have hfirst : b.registry.contains name = decide (name = bucket) := by
        rw [Registry.contains_eq_isSome_find?, hfind]
        by_cases heq : bucket = name
        · simp [heq]
        · simp [heq, Ne.symm heq]
      rw [knownBuckets, Registry.mem_names, contains_after_eq, hfirst, Bool.or_eq_true,
        decide_eq_true_eq, List.any_eq_true]
    stats := by
      obtain ⟨table', htable'⟩ := hintact.bucketD_active
      refine ⟨_, by rw [stats_working, htable'], ?_⟩
      exact (Registry.length_names _).symm
    active := by
      rw [knownBuckets, Registry.mem_names, Registry.contains_eq_isSome_find?, hactive,
        Option.isSome_some]
    cache := hactive }

end Backend

/-- **What is known.** A registry obeys its laws after every row of calls and uses, whatever the
caches are filled with and whether that succeeds; and a backend knows, after every row of requests
since it was opened, what it was opened on and switched to. -/
theorem registry_laws :
    (∀ (ε : Type) (shape : Filter.Shape) (events : List (Registry.Event ε)),
      Registry.Laws shape events ((Registry.empty shape).after events)) ∧
    ∀ (shape : Filter.Shape) (v : Volume) (path bucket : String) (b : Backend),
      (Backend.openWith shape v path bucket).1 = .ok b → ∀ requests, b.Laws bucket requests :=
  ⟨fun _ shape events => Registry.laws_after shape events,
    fun _ _ _ _ _ h requests => Backend.laws_after h requests⟩

/-- A name whose filling fails at first, and whose cache is used before it is asked for again; and a
backend that is switched to a new bucket, to a text that is no name, and back. -/
theorem known_after_failures :
    let events : List (Registry.Event Unit) := [.call "b" fun _ => .error (),
      .call "b" fun c => .ok (c.add [1]), .use "b" (·.noteTest [2]), .call "b" fun _ => .error ()]
    let r := (Registry.empty .byLength).after events
    (r.find? "b" = some (((Cache.empty .byLength).add [1]).noteTest [2]) ∧
      ((Registry.empty .byLength).calls events).countP (·.filled "b") = 1 ∧
      r.asks "a" = some (.empty .byLength)) ∧
    ∃ b, (Backend.openWith .byLength (.holding .single) "kv" "b").1 = .ok b ∧
      let requests : List Request := [.switch "c", .flush, .switch "", .switch "b"]
      ("c" ∈ (b.after requests).knownBuckets ∧ "" ∉ (b.after requests).knownBuckets) ∧
        ∃ s, (b.after requests).stats = .ok s ∧
          s.buckets = (b.after requests).knownBuckets.length := by
  let events : List (Registry.Event Unit) := [.call "b" fun _ => .error (),
    .call "b" fun c => .ok (c.add [1]), .use "b" (·.noteTest [2]), .call "b" fun _ => .error ()]
  let requests : List Request := [.switch "c", .flush, .switch "", .switch "b"]
  have hlaws := registry_laws.1 Unit .byLength events
  have hb : ((Registry.empty .byLength).after events).find? "b" =
      some (((Cache.empty .byLength).add [1]).noteTest [2]) := hlaws.found "b"
  have hfound : "b" ∈ ((Registry.empty .byLength).after events).names :=
    ((hlaws.known "b").2.mp (by rw [hb, Option.isSome_some]))
  have ha : "a" ∉ ((Registry.empty .byLength).after events).names := fun hmem => by
    have hsome := (hlaws.known "a").2.mpr hmem
    rw [hlaws.found "a"] at hsome
    cases hsome
  refine ⟨⟨hb, ?_, ?_⟩, ?_⟩
  · rw [hlaws.filled "b", if_pos hfound]
  · rw [hlaws.asks "a", if_neg ha]
  · have hrun : ((Backend.openWith .byLength (.holding .single) "kv" "b").1.toOption.map fun b =>
        ((b.log requests).any (·.switched "c"), (b.log requests).any (·.switched ""))) =
        some (true, false) := by decide +kernel
    obtain ⟨b, hopened, hlog⟩ := Option.map_eq_some_iff.mp hrun
    obtain ⟨hc, hempty⟩ := Prod.mk.inj hlog
    have hopen := StoreError.eq_ok_of_toOption hopened
    have hknown := registry_laws.2 _ _ _ _ b hopen requests
    refine ⟨b, hopen, ⟨?_, fun hmem => ?_⟩, hknown.stats⟩
    · exact (hknown.known "c").mpr (.inr (List.any_eq_true.mp hc))
    · rcases (hknown.known "").mp hmem with heq | hswitched
      · exact absurd heq (by decide)
      · rw [List.any_eq_true.mpr hswitched] at hempty
        cases hempty

end BucketStore
