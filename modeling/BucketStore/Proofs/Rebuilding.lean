import BucketStore.Proofs.Persistence

/-!
# Maintained and Rebuilt Caches

The cache of a bucket is maintained step by step over all requests. It could as well be thrown away
and **rebuilt** from the table, in any order of the keys (`Backend.loadAll`). A rebuilt cache counts
every slot exactly, up to where it is stuck (`Filter.Exact`). A maintained cache agrees with it at
every slot at which it is not stuck itself; at the others it can only be ahead, since a stuck counter
is never counted down. So all that a history leaves behind is positive bias at stuck counters.

## Main results

* `exact_loadAll`: keys that are only added are counted exactly.
* `Counts.counter_of_exact`: what a counting filter and an exact one have to do with each other.
* `maintained_vs_rebuilt`: every cache of every reachable backend against its rebuilt one.
-/

namespace BucketStore

namespace Filter

/-! ### Exact counters -/

/-- A filter counts some keys **exactly** if the counter of every slot is its load, up to where it is
stuck. -/
def Exact (f : Filter) (held : Multiset Key) : Prop :=
  ∀ slot, f.counter slot = min stuck (f.shape.load held slot)

variable {f g : Filter} {held : Multiset Key} {key : Key}

namespace Exact

/-- A new filter counts no keys exactly. -/
theorem empty (shape : Shape) : (Filter.empty shape).Exact 0 := by
  intro slot
  rw [counter_empty, Shape.load_zero]
  rfl

/-- An added key is counted exactly. -/
theorem add (h : f.Exact held) (key : Key) : (f.add key).Exact (key ::ₘ held) := by
  intro slot
  rw [counter_add, shape_add, Shape.load_cons, h slot]
  omega

end Exact

/-- **Counted and exact.** A filter that counts the same keys as an exact one is nowhere behind it, and
differs from it only where it is stuck. -/
theorem Counts.counter_of_exact (h : f.Counts held) (hg : g.Exact held) (hshape : g.shape = f.shape)
    {slot : Nat} (hslot : slot < f.shape.slots) :
    g.counter slot ≤ f.counter slot ∧
      (f.counter slot ≠ stuck → f.counter slot = g.counter slot) := by
  have hexact := hg slot
  rw [hshape] at hexact
  have hle := f.counter_le slot
  rcases h slot hslot with hs | hs
  · constructor
    · omega
    · exact fun hne => absurd hs hne
  · constructor <;> omega

/-! ### Answers and counters -/

/-- A filter whose counters are not behind admits whatever the other one admits. -/
theorem contains_mono (hshape : g.shape = f.shape)
    (hle : ∀ slot < f.shape.slots, g.counter slot ≤ f.counter slot) (h : g.contains key = true) :
    f.contains key = true := by
  rw [contains_iff] at h ⊢
  intro slot hslot
  have hpos := h slot (hshape ▸ hslot)
  have := hle slot (f.shape.positions_lt key hslot)
  omega

/-- Filters with the same counters give the same answers. -/
theorem contains_congr (hshape : g.shape = f.shape)
    (heq : ∀ slot < f.shape.slots, f.counter slot = g.counter slot) :
    f.contains key = g.contains key := by
  rw [Bool.eq_iff_iff]
  constructor
  · exact contains_mono hshape.symm fun slot hslot => (heq slot (hshape ▸ hslot)).le
  · exact contains_mono hshape fun slot hslot => (heq slot hslot).ge

end Filter

namespace Backend

/-! ### Rebuilding -/

/-- Adds keys to a cache in the order in which they are listed. -/
def loadAll (keys : List Key) (c : Cache) : Cache :=
  keys.foldl Cache.add c

/-- A bucket whose table can be read fills a cache with its keys in ascending order. -/
theorem fill_of_bucketD {s : Store} {name : String} {table : Table}
    (h : s.bucketD name = .ok table) (c : Cache) :
    fill s name c = .ok (loadAll table.keys c) := by
  simp only [fill_working, h]
  rfl

/-- Keys that are only added are counted exactly. -/
theorem exact_loadAll {c : Cache} {held : Multiset Key} (h : c.filter.Exact held)
    (keys : List Key) : (loadAll keys c).filter.Exact (↑keys + held) := by
  induction keys generalizing c held with
  | nil => simpa [loadAll] using h
  | cons key rest ih =>
      have hrest := ih (c := c.add key) (h.add key)
      rwa [Multiset.add_cons, ← Multiset.cons_add, Multiset.cons_coe] at hrest

/-- A cache that is rebuilt from the keys of a table counts them exactly, in whichever order they are
listed. -/
theorem exact_rebuilt (shape : Filter.Shape) {keys : List Key} {table : Table}
    (h : keys.Perm table.keys) :
    (loadAll keys (.empty shape)).filter.Exact (table.keys : Multiset Key) := by
  have hexact := exact_loadAll (c := .empty shape) (Filter.Exact.empty shape) keys
  rwa [add_zero, Multiset.coe_eq_coe.mpr h] at hexact

/-! ### Every reachable backend -/

/-- **Maintained caches agree with rebuilt ones.** Whatever was asked of a backend since it was opened,
the table of every bucket that has a cache can be read, and a new cache of the same shape that is
filled with its keys, in any order, counts each slot exactly, up to where it is stuck. The maintained
cache is nowhere behind and the same wherever it is not stuck. So it admits whatever the rebuilt one
admits, and if no counter is stuck they give the same answers. -/
theorem maintained_vs_rebuilt {b : Backend} {shape : Filter.Shape} {v : Volume}
    {path bucket : String} (h : (openWith shape v path bucket).1 = .ok b)
    (requests : List Request) {name : String} {c : Cache}
    (hc : (b.after requests).registry.find? name = some c) :
    ∃ table, (b.after requests).store.bucketD name = .ok table ∧
      fill (b.after requests).store name (.empty c.filter.shape) =
        .ok (loadAll table.keys (.empty c.filter.shape)) ∧
      ∀ keys : List Key, keys.Perm table.keys →
        let rebuilt := loadAll keys (.empty c.filter.shape)
        (∀ slot, rebuilt.filter.counter slot =
          min Filter.stuck (table.keys.map fun key => c.filter.shape.hits key slot).sum) ∧
        (∀ slot < c.filter.shape.slots,
          rebuilt.filter.counter slot ≤ c.filter.counter slot ∧
            (c.filter.counter slot ≠ Filter.stuck →
              c.filter.counter slot = rebuilt.filter.counter slot)) ∧
        (∀ key, rebuilt.mayContain key = true → c.mayContain key = true) ∧
        ((∀ slot < c.filter.shape.slots, c.filter.counter slot ≠ Filter.stuck) →
          ∀ key, c.mayContain key = rebuilt.mayContain key) := by
  have hsound := (sound_of_openWith h).1.after requests
  have hknown : (b.after requests).registry.contains name = true := by
    rw [Registry.contains_eq_isSome_find?, hc, Option.isSome_some]
  obtain ⟨table, htable⟩ := (readable_of_openWith h).after requests name hknown
  refine ⟨table, htable, fill_of_bucketD htable _, fun keys hkeys => ?_⟩
  have hcounts := hsound.registry.counts hc
  rw [Store.keysOf_of_bucketD htable] at hcounts
  have hexact := exact_rebuilt c.filter.shape hkeys
  have hshape : (loadAll keys (.empty c.filter.shape)).filter.shape = c.filter.shape :=
    shape_foldl_add keys _
  refine ⟨fun slot => ?_, fun slot hslot => hcounts.counter_of_exact hexact hshape hslot,
    fun key => ?_, fun hs key => ?_⟩
  · rw [hexact slot, hshape, Filter.Shape.load_coe]
  · exact Filter.contains_mono hshape fun slot hslot =>
      (hcounts.counter_of_exact hexact hshape hslot).1
  · exact Filter.contains_congr hshape fun slot hslot =>
      (hcounts.counter_of_exact hexact hshape hslot).2 (hs slot hslot)

/-- A cache that has seen keys come and go, which all share their slots, and its rebuilt one. -/
theorem maintained_eq_rebuilt_after_collisions :
    ∃ b c table, (openWith .byLength (.holding .single) "kv" "b").1 = .ok b ∧
      (b.after [.put .ifAbsent [7] [8], .delete [1] true, .put .always [9] []]).registry.find? "b" =
        some c ∧
      (b.after [.put .ifAbsent [7] [8], .delete [1] true, .put .always [9] []]).store.bucketD "b" =
        .ok table ∧
      ∀ keys : List Key, keys.Perm table.keys →
        ∀ key, c.mayContain key = (loadAll keys (.empty c.filter.shape)).mayContain key := by
  let requests : List Request := [.put .ifAbsent [7] [8], .delete [1] true, .put .always [9] []]
  have hrun : ((openWith .byLength (.holding .single) "kv" "b").1.toOption.bind fun b =>
      ((b.after requests).registry.find? "b").map fun c =>
        decide (∀ slot < c.filter.shape.slots, c.filter.counter slot ≠ Filter.stuck)) =
      some true := by decide +kernel
  obtain ⟨b, hb, hfound⟩ := Option.bind_eq_some_iff.mp hrun
  obtain ⟨c, hc, hs⟩ := Option.map_eq_some_iff.mp hfound
  have hopen := StoreError.eq_ok_of_toOption hb
  obtain ⟨table, htable, -, hall⟩ := maintained_vs_rebuilt hopen requests hc
  exact ⟨b, c, table, hopen, hc, htable, fun keys hkeys =>
    (hall keys hkeys).2.2.2 (of_decide_eq_true hs)⟩

end Backend

end BucketStore
