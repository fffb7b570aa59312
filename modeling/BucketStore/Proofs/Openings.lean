import BucketStore.Proofs.Soundness

/-!
# How Openings End

There are five ways for an opening to end (`Backend.Opening`). The name of the bucket is checked first,
then the store is leased, and then the bucket's table is looked for in it. Nothing else can go wrong:
a cache can be filled from any table of a bucket, whatever its shape.

Three of the four failures are told as failures of the initialization. The fourth is passed on as it
comes: where a foreign table stands under the name of the bucket, the fault of the table is the error
itself. So what a client can rely on is that an opening succeeds or tells that the initialization
failed as long as the bucket is not **obstructed** in this way.

## Main results

* `opening`: how an opening ends.
* `Opening.obstructed_or`: which ends belong to an obstructed bucket.
* `initialization_unless_obstructed`: the errors of openings.
* `not_initialization_of_foreign`: an opening that fails with another error.
-/

namespace BucketStore.Backend

/-- How an opening **ends**, with the volume that it leaves. -/
inductive Opening (shape : Filter.Shape) (v : Volume) (path bucket : String) :
    Except StoreError Backend × Volume → Prop
  /-- The text is no bucket name, and nothing was touched. -/
  | badName {fault : NameFault} (hname : BucketName.ofString bucket = .error fault) :
      Opening shape v path bucket (.error (.initialization (.badName bucket fault)), v)
  /-- The store cannot be leased, and nothing was touched. -/
  | unopenable {name : BucketName} {fault : OpenFault}
      (hname : BucketName.ofString bucket = .ok name) (hlease : v.lease path = .error fault) :
      Opening shape v path bucket (.error (.initialization (.unopenable path fault)), v)
  /-- The store has no such table, and is given back. -/
  | missing {name : BucketName} {place : Location} {s : Store} {leased : Volume}
      (hname : BucketName.ofString bucket = .ok name)
      (hlease : v.lease path = .ok (place, s, leased)) (htable : s[bucket]? = none) :
      Opening shape v path bucket
        (.error (.initialization (.noBucket bucket path)), leased.release place s)
  /-- The table is a foreign one, and the store is given back. -/
  | foreign {name : BucketName} {place : Location} {s : Store} {leased : Volume}
      (hname : BucketName.ofString bucket = .ok name)
      (hlease : v.lease path = .ok (place, s, leased)) (htable : s[bucket]? = some .foreign) :
      Opening shape v path bucket (.error (.table (.mistyped bucket .counts)), leased.release place s)
  /-- The table is that of a bucket, and the store stays leased. -/
  | opened {name : BucketName} {place : Location} {s : Store} {leased : Volume} {table : Table}
      {b : Backend} (hname : BucketName.ofString bucket = .ok name)
      (hlease : v.lease path = .ok (place, s, leased))
      (htable : s[bucket]? = some (.bucket table)) (hstore : b.store = s) (hplace : b.place = place) :
      Opening shape v path bucket (.ok b, leased)

variable {shape : Filter.Shape} {v : Volume} {path bucket : String}

/-- A registry that knows nothing has to fill the cache of every name. -/
theorem ensure_empty {ε : Type} (shape : Filter.Shape) (name : String)
    (fill : Cache → Except ε Cache) :
    (Registry.empty shape).ensure name fill =
      (fill (.empty shape)).map fun c =>
        { Registry.empty shape with caches := (Registry.empty shape).caches.insert name c } := by
  have hunknown : (Registry.empty shape).contains name = false := by
    rw [Registry.contains_eq_isSome_find?, Registry.find?_empty, Option.isSome_none]
  simp only [Registry.ensure, hunknown, Bool.false_eq_true, if_false]
  rfl

/-- **An opening ends in one of five ways.** -/
theorem opening (shape : Filter.Shape) (v : Volume) (path bucket : String) :
    Opening shape v path bucket (openWith shape v path bucket) := by
  cases hname : BucketName.ofString bucket with
  | error fault =>
      simp only [openWith, hname]
      exact .badName hname
  | ok name =>
      have htext := BucketName.text_of_ofString hname
      cases hlease : v.lease path with
      | error fault =>
          simp only [openWith, hname, hlease]
          exact .unopenable hname hlease
      | ok leasing =>
          obtain ⟨place, s, leased⟩ := leasing
          simp only [openWith, hname, hlease, htext, ensure_empty, existing_working, Store.bucket?]
          rcases htable : s[bucket]? with _ | table | _
          · exact .missing hname hlease htable
          · exact .opened hname hlease htable rfl rfl
          · exact .foreign hname hlease htable

/-- A foreign table **obstructs** a bucket if the store under a path can be leased and has the table
under the bucket's name. -/
def Obstructed (v : Volume) (path bucket : String) : Prop :=
  (∃ name, BucketName.ofString bucket = .ok name) ∧
    ∃ place s leased, v.lease path = .ok (place, s, leased) ∧ s[bucket]? = some .foreign

/-- A bucket whose store can be leased is obstructed exactly by a foreign table of its name. -/
theorem obstructed_iff {name : BucketName} {place : Location} {s : Store} {leased : Volume}
    (hname : BucketName.ofString bucket = .ok name)
    (hlease : v.lease path = .ok (place, s, leased)) :
    Obstructed v path bucket ↔ s[bucket]? = some .foreign := by
  constructor
  · rintro ⟨-, _, _, _, hleased, hforeign⟩
    rw [hlease] at hleased
    cases hleased
    exact hforeign
  · intro hforeign
    exact ⟨⟨name, hname⟩, place, s, leased, hlease, hforeign⟩

/-- An opening of a bucket that is not obstructed succeeds or tells that the initialization failed, and
that of an obstructed one fails with the fault of the table. -/
theorem Opening.obstructed_or {outcome : Except StoreError Backend × Volume}
    (h : Opening shape v path bucket outcome) :
    (((∃ b, outcome.1 = .ok b) ∨ ∃ fault, outcome.1 = .error (.initialization fault)) ∧
        ¬Obstructed v path bucket) ∨
      outcome.1 = .error (.table (.mistyped bucket .counts)) ∧ Obstructed v path bucket := by
  cases h with
  | badName hname =>
      refine .inl ⟨.inr ⟨_, rfl⟩, ?_⟩
      rintro ⟨⟨name, hproper⟩, -⟩
      rw [hname] at hproper
      cases hproper
  | unopenable hname hlease =>
      refine .inl ⟨.inr ⟨_, rfl⟩, ?_⟩
      rintro ⟨-, place, s, leased, hleased, -⟩
      rw [hlease] at hleased
      cases hleased
  | missing hname hlease htable =>
      refine .inl ⟨.inr ⟨_, rfl⟩, ?_⟩
      rw [obstructed_iff hname hlease, htable]
      nofun
  | foreign hname hlease htable => exact .inr ⟨rfl, (obstructed_iff hname hlease).mpr htable⟩
  | opened hname hlease htable hstore hplace =>
      refine .inl ⟨.inl ⟨_, rfl⟩, ?_⟩
      rw [obstructed_iff hname hlease, htable]
      nofun

/-- **The errors of openings.** Whatever the volume holds, and for every text, path and shape, an
opening succeeds or fails with a fault of the initialization exactly if no foreign table obstructs the
bucket; and where one does, it fails with the fault of that table. -/
theorem initialization_unless_obstructed (shape : Filter.Shape) (v : Volume) (path bucket : String) :
    ((∃ b, (openWith shape v path bucket).1 = .ok b) ∨
        (∃ fault, (openWith shape v path bucket).1 = .error (.initialization fault)) ↔
      ¬Obstructed v path bucket) ∧
    (Obstructed v path bucket →
      (openWith shape v path bucket).1 = .error (.table (.mistyped bucket .counts))) := by
  rcases (opening shape v path bucket).obstructed_or with ⟨hreached, hfree⟩ | ⟨hfault, hobstructed⟩
  · exact ⟨iff_of_true hreached hfree, fun h => absurd h hfree⟩
  · refine ⟨iff_of_false ?_ (not_not_intro hobstructed), fun _ => hfault⟩
    rw [hfault]
    rintro (⟨b, hb⟩ | ⟨fault, hinitialization⟩)
    · cases hb
    · cases hinitialization

/-- A foreign table under a proper name. -/
theorem table_fault_of_foreign :
    Obstructed (.holding ((∅ : Store).insert "f" .foreign)) "kv" "f" ∧
      (openWith .byLength (.holding ((∅ : Store).insert "f" .foreign)) "kv" "f").1 =
        .error (.table (.mistyped "f" .counts)) := by
  have hobstructed : Obstructed (.holding ((∅ : Store).insert "f" .foreign)) "kv" "f" :=
    ⟨⟨⟨"f"⟩, rfl⟩, ["kv"], _, _, rfl, rfl⟩
  exact ⟨hobstructed, (initialization_unless_obstructed _ _ _ _).2 hobstructed⟩

/-- A bucket that is obstructed: the error of the opening is not one of the initialization. -/
theorem not_initialization_of_foreign :
    ¬∀ shape v path bucket, (∃ b, (openWith shape v path bucket).1 = .ok b) ∨
      ∃ fault, (openWith shape v path bucket).1 = .error (.initialization fault) := by
  intro hall
  have hforeign : (openWith .byLength (.holding ((∅ : Store).insert "f" .foreign)) "kv" "f").1 =
      .error (.table (.mistyped "f" .counts)) := rfl
  rcases hall .byLength (.holding ((∅ : Store).insert "f" .foreign)) "kv" "f" with
    ⟨b, hb⟩ | ⟨fault, hfault⟩
  · rw [hforeign] at hb
    cases hb
  · rw [hforeign] at hfault
    cases hfault

end BucketStore.Backend
