import BucketStore.Proofs.KeptTallies

/-!
# Increments of Negative Tallies

An increment is meant to add its amount and to stop at the greatest tally where the sum goes beyond
it. What it does is to cut off the amount first, at the greatest tally, and the sum afterwards. Most
of the time nobody can tell: an amount that is no tally takes every tally that is not negative past
the end anyway. But a negative tally leaves room, and its sum with an amount that is no tally may be a
tally after all. Such an increment falls short of the sum, by what was cut off or by what is left up
to the greatest tally.

## Main results

* `exact_up_eq_add_shortfall`: how far an increment falls short of the sum.
* `apply_up_eq_exact_iff`: exactly when it does not.
* `increment_of_stored`: increments of stored numbers in every reachable backend.
* `not_increment_exact`: an increment that falls short of a sum that is a tally.
-/

namespace BucketStore

namespace Adjustment

variable {amount : Nat} {n : Int}

/-- **How far an increment falls short** of the sum with its whole amount: by what was cut off, or by
what was left up to the greatest tally, if that is less; and not at all where either is not there. -/
theorem exact_up_eq_add_shortfall :
    (up amount).exact n =
      (up amount).apply n + max 0 (min ((amount : Int) - Tally.greatest) (-n)) := by
  simp only [apply, exact]
  omega

/-- It does not show that the amount is cut off exactly if the tally is not negative or the amount is
a tally itself. -/
theorem apply_up_eq_exact_iff :
    (up amount).apply n = (up amount).exact n ↔ 0 ≤ n ∨ (amount : Int) ≤ Tally.greatest := by
  rw [exact_up_eq_add_shortfall]
  omega

end Adjustment

namespace Backend

variable {b : Backend} {shape : Filter.Shape} {v : Volume} {path bucket : String}

/-- **Increments of stored numbers.** Take any reachable backend, and any key under which its active
bucket holds the text of a number, which may be negative. An increment stores and returns the number
with the amount added, where the amount is cut off at the greatest tally, and the sum as well. That
is the sum with the whole amount, cut off at the greatest tally, exactly if the number was not
negative or the amount is a tally itself. -/
theorem increment_of_stored (hopen : (openWith shape v path bucket).1 = .ok b)
    (requests : List Request) {key : Key} {value : Value} {old : Int}
    (hvalue : (b.after requests).store.valueOf (b.after requests).active key = some value)
    (hold : Tally.ofValue? value = some old) (amount : Nat) (create : Bool) :
    let b' := b.after requests
    let result := b'.serve (.adjust (.up amount) create key)
    let n := min Tally.greatest (old + min (amount : Int) Tally.greatest)
    result.1 = .ok (.tally n) ∧
      result.2.store.valueOf b'.active key = some (Tally.toValue n) ∧
      (n = min Tally.greatest (old + amount) ↔ 0 ≤ old ∨ (amount : Int) ≤ Tally.greatest) := by
  intro b' result n
  have hb : b'.Intact := (intact_of_openWith hopen).after requests
  obtain ⟨hanswer, hleft⟩ := hb.serve_adjust (.up amount) create key
  have houtcome : (Adjustment.up amount).outcome create b'.active key
      (b'.store.valueOf b'.active key) = .ok n := by
    simp only [b', hvalue, Adjustment.outcome, hold]
    rfl
  refine ⟨?_, hleft n houtcome, Adjustment.apply_up_eq_exact_iff⟩
  rw [houtcome] at hanswer
  exact hanswer

/-- An increment of a negative number by the greatest amount of 64 bits, which is cut off. -/
theorem increment_of_negative :
    ∃ b, (openWith .byLength (.holding .single) "kv" "b").1 = .ok b ∧
      let b' := b.after [.put .always [7] [0x2D, 0x35], .delete [8] true]
      let result := b'.serve (.adjust (.up (2 ^ 64 - 1)) false [7])
      result.1 = .ok (.tally (2 ^ 63 - 6)) ∧
        result.2.store.valueOf b'.active [7] = some (Tally.toValue (2 ^ 63 - 6)) := by
  have hrun : ((openWith .byLength (.holding .single) "kv" "b").1.toOption.map fun b =>
      let b' := b.after [.put .always [7] [0x2D, 0x35], .delete [8] true]
      b'.store.valueOf b'.active [7]) = some (some [0x2D, 0x35]) := by decide +kernel
  obtain ⟨b, hb, hvalue⟩ := Option.map_eq_some_iff.mp hrun
  have hopen := StoreError.eq_ok_of_toOption hb
  have hold : Tally.ofValue? [0x2D, 0x35] = some (-5) := by decide
  have hsum : min Tally.greatest (-5 + min ((2 ^ 64 - 1 : Nat) : Int) Tally.greatest) =
      2 ^ 63 - 6 := by decide
  obtain ⟨hanswer, hstored, -⟩ := increment_of_stored hopen _ hvalue hold (2 ^ 64 - 1) false
  rw [hsum] at hanswer hstored
  exact ⟨b, hopen, hanswer, hstored⟩

/-- **An increment falls short of a sum that is a tally.** From the stored number -5 an increment by
2^63 + 2 goes to 2^63 - 6, and not to 2^63 - 3, which is a tally. So it is not true of every
reachable backend and every amount of 64 bits that the sum is cut off only where it is too great. -/
theorem not_increment_exact :
    ¬ ∀ (b : Backend) (shape : Filter.Shape) (v : Volume) (path bucket : String)
      (requests : List Request) (key : Key) (value : Value) (old : Int) (amount : Nat)
      (create : Bool),
      (openWith shape v path bucket).1 = .ok b →
      (b.after requests).store.valueOf (b.after requests).active key = some value →
      Tally.ofValue? value = some old → amount < 2 ^ 64 →
      ((b.after requests).serve (.adjust (.up amount) create key)).1 =
        .ok (.tally (min Tally.greatest (old + amount))) := by
  intro hall
  let requests : List Request := [.put .always [7] [0x2D, 0x35]]
  have hrun : ((openWith .byLength (.holding .single) "kv" "b").1.toOption.map fun b =>
      ((b.after requests).store.valueOf (b.after requests).active [7],
        ((b.after requests).serve (.adjust (.up (2 ^ 63 + 2)) false [7])).1)) =
      some (some [0x2D, 0x35], .ok (.tally (2 ^ 63 - 6))) := by decide +kernel
  obtain ⟨b, hb, hfound⟩ := Option.map_eq_some_iff.mp hrun
  simp only [Prod.mk.injEq] at hfound
  obtain ⟨hvalue, hanswer⟩ := hfound
  have hexact := hall b _ _ _ _ requests [7] _ (-5) (2 ^ 63 + 2) false
    (StoreError.eq_ok_of_toOption hb) hvalue (by decide) (by decide)
  rw [hanswer] at hexact
  exact absurd hexact (by decide)

end Backend

end BucketStore
