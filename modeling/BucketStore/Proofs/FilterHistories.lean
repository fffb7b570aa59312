import BucketStore.Proofs.Counting
import Mathlib.Algebra.BigOperators.Group.Finset.Basic
import Mathlib.Algebra.Group.Action.Defs
import Mathlib.Algebra.Order.Group.Multiset
import Mathlib.Data.List.Infix

/-!
# Histories of a Filter

A filter is changed by adding keys, removing keys and clearing it. This module looks at the whole
**history** of these changes, from the empty filter on. What a history leaves behind is the multiset
of the keys that were added since the last clear and not removed again; how often a key is in it is
the **net** number of the key. A history is **fair** if at no point a key was removed more often than
it had been added since the last clear.

After a fair history every counter is stuck or exactly the load of that multiset, whatever keys
collide with each other or with themselves, and in whichever order they came and went.

## Main results

* `count_held`: the multiset that is left after a fair history holds every key its net number of times.
* `counts_ofHistory`: the filter counts that multiset.
* `counter_of_fair_history`: the counters, the answers, and what is left of the order of the changes.
-/

namespace BucketStore.Filter

/-! ### Changes and histories -/

/-- One **change** of a filter. -/
inductive Change where
  /-- A key is added. -/
  | add (key : Key)
  /-- A key is removed. -/
  | remove (key : Key)
  /-- All counters go back to zero. -/
  | clear
  deriving DecidableEq, Repr

/-- The filter after a change. -/
def change (f : Filter) : Change → Filter
  | .add key => f.add key
  | .remove key => f.remove key
  | .clear => f.clear

/-- The filter after a **history** of changes, oldest first, that starts from the empty filter. -/
def ofHistory (shape : Shape) (history : List Change) : Filter :=
  history.foldl change (empty shape)

namespace Change

/-- The key that a change is about. -/
def key? : Change → Option Key
  | .add key => some key
  | .remove key => some key
  | .clear => none

/-- The keys that a history is about. -/
def keys (history : List Change) : Finset Key :=
  (history.filterMap key?).toFinset

/-- The changes since the last clear, newest first. -/
def sinceClear (history : List Change) : List Change :=
  history.reverse.takeWhile (· ≠ .clear)

/-- How often a key was added since the last clear. -/
def adds (history : List Change) (key : Key) : Nat :=
  (sinceClear history).count (.add key)

/-- How often a key was removed since the last clear. -/
def removes (history : List Change) (key : Key) : Nat :=
  (sinceClear history).count (.remove key)

/-- The **net** number of a key: how much more often it was added than removed since the last
clear. -/
def net (history : List Change) (key : Key) : Nat :=
  adds history key - removes history key

/-- A history is **fair** if at no point a key was removed more often than it had been added since the
last clear. -/
def Fair (history : List Change) : Prop :=
  ∀ past, past <+: history → ∀ key, removes past key ≤ adds past key

/-- The multiset of keys that a history leaves behind, built up change by change. -/
def held (history : List Change) : Multiset Key :=
  history.foldl (fun keys change =>
    match change with
    | .add key => key ::ₘ keys
    | .remove key => keys.erase key
    | .clear => 0) 0

/-! ### One change more -/

section Append

variable (past : List Change) (key other : Key)

/-- After a clear nothing has happened since. -/
@[simp] theorem sinceClear_append_clear : sinceClear (past ++ [.clear]) = [] := by
  simp [sinceClear]

/-- Any other change has happened since the last clear. -/
theorem sinceClear_append {change : Change} (h : change ≠ .clear) :
    sinceClear (past ++ [change]) = change :: sinceClear past := by
  simp [sinceClear, h]

@[simp] theorem adds_append_add :
    adds (past ++ [.add key]) other = adds past other + if key = other then 1 else 0 := by
  simp [adds, sinceClear_append, List.count_cons]

@[simp] theorem adds_append_remove : adds (past ++ [.remove key]) other = adds past other := by
  simp [adds, sinceClear_append]

@[simp] theorem removes_append_add : removes (past ++ [.add key]) other = removes past other := by
  simp [removes, sinceClear_append]

@[simp] theorem removes_append_remove :
    removes (past ++ [.remove key]) other = removes past other + if key = other then 1 else 0 := by
  simp [removes, sinceClear_append, List.count_cons]

@[simp] theorem held_append_add : held (past ++ [.add key]) = key ::ₘ held past := by
  simp [held]

@[simp] theorem held_append_remove : held (past ++ [.remove key]) = (held past).erase key := by
  simp [held]

@[simp] theorem held_append_clear : held (past ++ [.clear]) = 0 := by
  simp [held]

end Append

/-! ### Fair histories -/

namespace Fair

variable {past history : List Change} {key : Key}

/-- What came before in a fair history was fair. -/
theorem of_isPrefix (h : Fair history) (hpast : past <+: history) : Fair past :=
  fun _ hearlier => h _ (hearlier.trans hpast)

/-- A history is fair up to its last change. -/
theorem of_append {change : Change} (h : Fair (past ++ [change])) : Fair past :=
  h.of_isPrefix (List.prefix_append ..)

/-- A fair history removes only keys that it has left. -/
theorem net_pos (h : Fair (past ++ [.remove key])) : 0 < net past key := by
  have := h _ List.prefix_rfl key
  simp only [removes_append_remove, if_true, adds_append_remove] at this
  simp only [net]
  omega

end Fair

/-- **What a fair history leaves behind** holds every key its net number of times. -/
theorem count_held {history : List Change} (h : Fair history) (key : Key) :
    (held history).count key = net history key := by
  induction history using List.reverseRecOn with
  | nil => simp [held, net, adds, removes, sinceClear]
  | append_singleton past change ih =>
      have hpast := ih h.of_append
      have hfair := h.of_append _ List.prefix_rfl key
      simp only [net] at hpast ⊢
      cases change with
      | add k =>
          rw [held_append_add, Multiset.count_cons, adds_append_add, removes_append_add, hpast]
          simp only [eq_comm (a := key)]
          omega
      | remove k =>
          by_cases hk : k = key
          · subst hk
            rw [held_append_remove, Multiset.count_erase_self, adds_append_remove,
              removes_append_remove, if_pos rfl, hpast]
            omega
          · rw [held_append_remove, Multiset.count_erase_of_ne (Ne.symm hk), adds_append_remove,
              removes_append_remove, if_neg hk, hpast]
            omega
      | clear => simp [adds, removes]

/-! ### The sum over all keys -/

/-- A key that was added or removed since the last clear is a key that the history is about. -/
theorem mem_keys {history : List Change} {change : Change} {key : Key}
    (h : change ∈ sinceClear history) (hkey : change.key? = some key) : key ∈ keys history := by
  have hmem : change ∈ history := List.mem_reverse.mp ((List.takeWhile_sublist _).mem h)
  rw [keys, List.mem_toFinset, List.mem_filterMap]
  exact ⟨change, hmem, hkey⟩

/-- The load of what a fair history leaves behind, as a sum over the keys that it is about. -/
theorem load_held {history : List Change} (h : Fair history) (shape : Shape) (slot : Nat) :
    shape.load (held history) slot =
      ∑ key ∈ keys history, net history key * shape.hits key slot := by
  have hsubset : (held history).toFinset ⊆ keys history := by
    intro key hkey
    rw [Multiset.mem_toFinset, ← Multiset.count_pos, count_held h, net] at hkey
    exact mem_keys (List.count_pos_iff.mp (show 0 < adds history key by omega)) rfl
  rw [Shape.load, Finset.sum_multiset_map_count]
  calc ∑ key ∈ (held history).toFinset, (held history).count key • shape.hits key slot
      = ∑ key ∈ keys history, (held history).count key • shape.hits key slot := by
        refine Finset.sum_subset hsubset fun key _ hkey => ?_
        rw [Multiset.mem_toFinset, ← Multiset.count_eq_zero] at hkey
        rw [hkey, zero_nsmul]
    _ = ∑ key ∈ keys history, net history key * shape.hits key slot := by
        simp only [count_held h, smul_eq_mul]

/-- Fairness can be checked, since only the keys of a history have to be looked at. -/
instance (history : List Change) : Decidable (Fair history) :=
  decidable_of_iff (∀ past ∈ history.inits, ∀ key ∈ keys past, removes past key ≤ adds past key) <| by
    constructor
    · intro h past hpast key
      rcases Nat.eq_zero_or_pos (removes past key) with hzero | hpos
      · omega
      · exact h past ((List.mem_inits ..).mpr hpast) key (mem_keys (List.count_pos_iff.mp hpos) rfl)
    · intro h past hpast key _
      exact h past ((List.mem_inits ..).mp hpast) key

end Change

/-! ### The filter after a history -/

section Filters

variable {shape : Shape} {history : List Change}

/-- One change more. -/
@[simp] theorem ofHistory_append (shape : Shape) (past : List Change) (c : Change) :
    ofHistory shape (past ++ [c]) = (ofHistory shape past).change c := by
  simp [ofHistory]

/-- A history keeps the shape. -/
@[simp] theorem shape_ofHistory (shape : Shape) (history : List Change) :
    (ofHistory shape history).shape = shape := by
  induction history using List.reverseRecOn with
  | nil => rfl
  | append_singleton past c ih =>
      rw [ofHistory_append]
      cases c with
      | add key => rw [change, shape_add, ih]
      | remove key => rw [change, shape_remove, ih]
      | clear => rw [change, shape_clear, ih]

/-- **After a fair history** the filter counts what the history leaves behind. -/
theorem counts_ofHistory (shape : Shape) (h : Change.Fair history) :
    (ofHistory shape history).Counts (Change.held history) := by
  induction history using List.reverseRecOn with
  | nil => exact Counts.empty shape
  | append_singleton past c ih =>
      have hpast := ih h.of_append
      rw [ofHistory_append]
      cases c with
      | add key =>
          rw [Change.held_append_add]
          exact hpast.add key
      | remove key =>
          -- The key is among those that are left, so its hits are part of the load.
          have hkey : key ∈ Change.held past := by
            rw [← Multiset.count_pos, Change.count_held h.of_append]
            exact h.net_pos
          rw [Change.held_append_remove]
          exact hpast.remove hkey
      | clear =>
          rw [Change.held_append_clear]
          exact Counts.clear _

/-- After a fair history every counter is stuck or the sum, over all keys, of the hits of the key
times its net number. -/
theorem counter_ofHistory (shape : Shape) (h : Change.Fair history) {slot : Nat}
    (hslot : slot < shape.slots) :
    (ofHistory shape history).counter slot = stuck ∨
      (ofHistory shape history).counter slot =
        ∑ key ∈ Change.keys history, Change.net history key * shape.hits key slot := by
  have hcounts := counts_ofHistory shape h slot
  rw [shape_ofHistory, Change.load_held h] at hcounts
  exact hcounts hslot

/-- Where no counter is stuck, fair histories with the same net numbers leave the same counters. -/
theorem counter_ofHistory_congr {other : List Change} (h : Change.Fair history)
    (hother : Change.Fair other) (hnet : Change.net history = Change.net other) {slot : Nat}
    (hslot : slot < shape.slots) (hs : (ofHistory shape history).counter slot ≠ stuck)
    (hs' : (ofHistory shape other).counter slot ≠ stuck) :
    (ofHistory shape history).counter slot = (ofHistory shape other).counter slot := by
  have hheld : Change.held history = Change.held other := by
    refine Multiset.ext.mpr fun key => ?_
    rw [Change.count_held h, Change.count_held hother, hnet]
  have hcounts := (counts_ofHistory shape h slot (by simpa using hslot)).resolve_left hs
  have hcounts' := (counts_ofHistory shape hother slot (by simpa using hslot)).resolve_left hs'
  rw [hcounts, hcounts', hheld, shape_ofHistory, shape_ofHistory]

/-- **Filters remember what was added and not removed.** At every point of a fair history every counter
is stuck or exactly the sum, over all keys, of the hits of the key times its net number. So a key that
was added more often than removed is maybe present, whichever keys that share its slots were removed.
And where no counter is stuck, nothing but the net numbers is left of the history: other fair histories
with these numbers leave the same counters, and all counters are at zero if no key is left. -/
theorem counter_of_fair_history (shape : Shape) {history : List Change}
    (h : Change.Fair history) :
    ∀ past, past <+: history →
      (∀ slot < shape.slots, (ofHistory shape past).counter slot = stuck ∨
        (ofHistory shape past).counter slot =
          ∑ key ∈ Change.keys past, Change.net past key * shape.hits key slot) ∧
      (∀ key, Change.removes past key < Change.adds past key →
        (ofHistory shape past).contains key = true) ∧
      ((∀ slot < shape.slots, (ofHistory shape past).counter slot ≠ stuck) →
        (∀ other, Change.Fair other →
          (∀ slot < shape.slots, (ofHistory shape other).counter slot ≠ stuck) →
          Change.net other = Change.net past →
          ∀ slot < shape.slots,
            (ofHistory shape other).counter slot = (ofHistory shape past).counter slot) ∧
        ((∀ key, Change.net past key = 0) →
          ∀ slot < shape.slots, (ofHistory shape past).counter slot = 0)) := by
  intro past hpast
  have hfair := h.of_isPrefix hpast
  refine ⟨fun slot hslot => counter_ofHistory shape hfair hslot, fun key hkey => ?_, fun hs => ?_⟩
  · have hheld : key ∈ Change.held past := by
      rw [← Multiset.count_pos, Change.count_held hfair, Change.net]
      omega
    exact (counts_ofHistory shape hfair).contains hheld
  · constructor
    · intro other hother hs' hnet slot hslot
      exact counter_ofHistory_congr hother hfair hnet hslot (hs' slot hslot) (hs slot hslot)
    · intro hnone slot hslot
      rw [(counter_ofHistory shape hfair hslot).resolve_left (hs slot hslot)]
      exact Finset.sum_eq_zero fun key _ => by rw [hnone key, Nat.zero_mul]

end Filters

/-- A shape in which all keys share the same positions, and one slot comes up twice among them. -/
def Shape.crowded : Shape where
  capacity := 1
  rate := 0.5
  slots := 2
  hashes := 3
  probe _ := ⟨0, 1⟩
  slots_pos := Nat.succ_pos 1
  hashes_pos := Nat.succ_pos 2

/-- A key that shares all of its positions with one that was removed, and a clear before. -/
theorem counter_of_crowded_history :
    Change.Fair [.add [9], .clear, .add [1], .add [2], .remove [1]] ∧
      (ofHistory .crowded [.add [9], .clear, .add [1], .add [2], .remove [1]]).contains [2] = true ∧
      ∀ slot < 2, (ofHistory .crowded [.add [9], .clear]).counter slot = 0 := by
  have hfair : Change.Fair [.add [9], .clear, .add [1], .add [2], .remove [1]] := by decide
  have hall := counter_of_fair_history .crowded hfair
  have hnone : ∀ key, Change.net [.add [9], .clear] key = 0 := fun key => by
    simp [Change.net, Change.adds, Change.sinceClear]
  refine ⟨hfair, (hall _ List.prefix_rfl).2.1 [2] (by decide), ?_⟩
  exact ((hall [.add [9], .clear] (by decide)).2.2 (by decide +kernel)).2 hnone

end BucketStore.Filter
