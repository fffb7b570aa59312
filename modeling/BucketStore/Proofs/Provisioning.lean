import BucketStore.Proofs.Holdings
import BucketStore.Proofs.Openings

/-!
# Provisioning Buckets

To **provide** a bucket is to make sure that it is there: the directories above the store's file, the
file, and the bucket's table in it are made where they are missing. All that was there before stays.
The directories are made in empty places (`Volume.OnlyMade`), the store is taken out of its file and
given back with one table more at most, and a table that is there already is put back as it was.

An opening, in turn, makes no table at all. It takes the store out of its file, and either keeps it or
gives it back as it was.

## Main results

* `onlyMade_makeParents`: directories are made in empty places only, even where making them fails.
* `creation`: how providing a bucket ends.
* `Creation.kept`: no table is lost, however it ends.
* `createBucket_of_present`, `openWith_of_present`: what can be done with a bucket that is there.
* `tables_openWith`: an opening changes no table.
* `provisioning`: what is provided, once and once more, and what is opened then.
-/

namespace BucketStore

/-! ### Volumes -/

/-- Two nodes are **alike** if they are the same, with stores compared table by table. -/
def Node.Alike : Node → Node → Prop
  | .file (.store s), .file (.store s') => ∀ name : String, s'[name]? = s[name]?
  | node, node' => node' = node

theorem Node.Alike.refl (node : Node) : Alike node node := by
  rcases node with _ | _ | _ | _ <;> simp [Alike]

namespace Volume

variable {v v' v'' leased : Volume} {place other : Location} {names : List String} {text : String}
  {s s' : Store}

/-- Two volumes are **alike** if what stands at each location is. -/
def Alike (v v' : Volume) : Prop :=
  ∀ place, Option.Rel Node.Alike (v.at? place) (v'.at? place)

/-- The **tables** in the file at a location. Where there is no store, or one that is leased, there are
none. -/
def tables (v : Volume) (place : Location) : Store :=
  match v.at? place with
  | some (.file (.store s)) => s
  | _ => ∅

/-- The tables at a location hang on what stands there. -/
theorem tables_congr (h : v'.at? place = v.at? place) : v'.tables place = v.tables place := by
  simp only [tables, h]

/-! ### Making directories -/

/-- All that was done to a volume is that directories were **made**, in empty places. -/
def OnlyMade (v v' : Volume) : Prop :=
  ∀ place, v'.at? place = v.at? place ∨ v.at? place = none ∧ v'.at? place = some .directory

namespace OnlyMade

theorem refl (v : Volume) : OnlyMade v v :=
  fun _ => .inl rfl

theorem trans (h : OnlyMade v v') (h' : OnlyMade v' v'') : OnlyMade v v'' := by
  intro place
  rcases h' place with hsame' | ⟨hnone', hmade'⟩
  · rw [hsame']
    exact h place
  · rcases h place with hsame | ⟨-, hmade⟩
    · exact .inr ⟨hsame ▸ hnone', hmade'⟩
    · rw [hmade] at hnone'
      cases hnone'

/-- A directory is made in an empty place. -/
theorem put (h : v.at? place = none) : OnlyMade v (v.put place .directory) := by
  intro other
  rw [at?_put (ne_root_of_at? (by rw [h]; nofun))]
  by_cases hother : place = other
  · subst hother
    exact .inr ⟨h, if_pos rfl⟩
  · exact .inl (if_neg hother)

/-- Neither an empty place nor a directory holds tables. -/
theorem tables_eq (h : OnlyMade v v') (place : Location) : v'.tables place = v.tables place := by
  rcases h place with hsame | ⟨hnone, hmade⟩
  · exact tables_congr hsame
  · simp only [tables, hnone, hmade]

end OnlyMade

/-- One directory is made in an empty place. -/
theorem onlyMade_makeNamed (h : v.makeNamed names = .ok v') : OnlyMade v v' := by
  obtain ⟨goal, -, hgoal⟩ := ok_of_bind h
  cases goal with
  | here place => cases hgoal
  | named place =>
      simp only at hgoal
      cases hat : v.at? place with
      | none =>
          simp only [hat, Except.ok.injEq] at hgoal
          exact hgoal ▸ .put hat
      | some node => simp [hat] at hgoal

/-- Directories are made in empty places, from the top, and stay where a fault comes up below. -/
theorem onlyMade_makeAll (v : Volume) (names : List String) : OnlyMade v (v.makeAll names).2 := by
  -- The recursion is on the names above the last one, from the same volume.
  induction hlength : names.length generalizing names with
  | zero =>
      obtain rfl := List.length_eq_zero_iff.mp hlength
      rw [makeAll, dif_pos rfl]
      exact .refl v
  | succ n ih =>
      have hnames : names ≠ [] := by
        rintro rfl
        cases hlength
      have habove := ih names.dropLast (by rw [List.length_dropLast, hlength, Nat.add_sub_cancel])
      rw [makeAll, dif_neg hnames]
      split
      · rename_i made hmade
        exact onlyMade_makeNamed hmade
      · split
        · rename_i made hmake
          rw [hmake] at habove
          exact habove
        · rename_i made hmake
          rw [hmake] at habove
          split
          · rename_i hmade
            exact habove.trans (onlyMade_makeNamed hmade)
          · exact habove
      · exact .refl v

/-- Making the directories above a file, whether it succeeds or fails. -/
theorem onlyMade_makeParents (v : Volume) (path : Path) : OnlyMade v (v.makeParents path).2 := by
  simp only [makeParents, makeDirectories]
  split
  · exact .refl v
  · split
    · exact .refl v
    · exact onlyMade_makeAll v _

/-! ### Leases -/

/-- What was leased are the tables of the file. -/
theorem tables_of_lease (h : v.lease text = .ok (place, s, leased)) : v.tables place = s := by
  simp only [lease] at h
  split at h
  · cases h
  · cases h
  · rename_i hopen
    cases h
    obtain ⟨-, -, -, ⟨-, hbytes⟩ | hat⟩ := openFile_eq_ok_iff.mp hopen
    · cases hbytes
    · simp only [tables, hat]
  · rename_i hopen
    cases h
    obtain ⟨-, -, -, ⟨hat, -⟩ | hat⟩ := openFile_eq_ok_iff.mp hopen
    · simp only [tables, hat]
    · simp only [tables, hat]
  · cases h

/-- A store that was leased and given back stands in its file, and all else is as before. -/
theorem at?_release (h : v.lease text = .ok (place, s, leased)) (s' : Store) (other : Location) :
    (leased.release place s').at? other =
      if place = other then some (.file (.store s')) else v.at? other := by
  obtain ⟨content, hopen, rfl⟩ := lease_eq_ok h
  have hroot : place ≠ [] := by
    obtain ⟨-, -, -, ⟨hat, -⟩ | hat⟩ := openFile_eq_ok_iff.mp hopen
    · exact ne_root_of_at? (by rw [hat]; nofun)
    · exact ne_root_of_at? (by rw [hat]; nofun)
  rw [release, at?_put hroot, at?_put hroot]
  split <;> rfl

/-- The tables after a store was leased and given back. -/
theorem tables_release (h : v.lease text = .ok (place, s, leased)) (s' : Store)
    (other : Location) :
    (leased.release place s').tables other = if place = other then s' else v.tables other := by
  have hat := at?_release h s' other
  split
  · rename_i hplace
    rw [if_pos hplace] at hat
    simp only [tables, hat]
  · rename_i hplace
    rw [if_neg hplace] at hat
    exact tables_congr hat

/-- A store that is given back as it was leaves all tables as they were. -/
theorem tables_release_self (h : v.lease text = .ok (place, s, leased)) (other : Location) :
    (leased.release place s).tables other = v.tables other := by
  rw [tables_release h]
  split
  · rename_i hplace
    rw [← hplace, tables_of_lease h]
  · rfl

end Volume

namespace Backend

variable {b : Backend} {shape : Filter.Shape} {v v' : Volume} {path bucket : String}

/-! ### How providing a bucket ends -/

/-- How providing a bucket **ends**, with the volume that it leaves. -/
inductive Creation (v : Volume) (path bucket : String) : Except StoreError Unit × Volume → Prop
  /-- The text is no bucket name, and nothing was touched. -/
  | badName {fault : NameFault} (hname : BucketName.ofString bucket = .error fault) :
      Creation v path bucket (.error (.invalidBucketName fault), v)
  /-- The directories above the file could not all be made. -/
  | noParents {name : BucketName} {fault : SystemFault} {made : Volume}
      (hname : BucketName.ofString bucket = .ok name)
      (hmake : v.makeParents (Path.ofString path) = (.error fault, made)) :
      Creation v path bucket (.error (.io fault), made)
  /-- The store cannot be leased. -/
  | unopenable {name : BucketName} {fault : OpenFault} {made : Volume}
      (hname : BucketName.ofString bucket = .ok name)
      (hmake : v.makeParents (Path.ofString path) = (.ok (), made))
      (hlease : made.lease path = .error fault) :
      Creation v path bucket (.error (.database fault), made)
  /-- The table of the name is a foreign one, and the store is given back. -/
  | foreign {name : BucketName} {fault : TableFault} {made leased : Volume} {place : Location}
      {s : Store} (hname : BucketName.ofString bucket = .ok name)
      (hmake : v.makeParents (Path.ofString path) = (.ok (), made))
      (hlease : made.lease path = .ok (place, s, leased))
      (htable : s.bucketD bucket = .error fault) :
      Creation v path bucket (.error (.table fault), leased.release place s)
  /-- The store is given back with a table for the bucket. -/
  | provided {name : BucketName} {table : Table} {made leased : Volume} {place : Location}
      {s : Store} (hname : BucketName.ofString bucket = .ok name)
      (hmake : v.makeParents (Path.ofString path) = (.ok (), made))
      (hlease : made.lease path = .ok (place, s, leased))
      (htable : s.bucketD bucket = .ok table) :
      Creation v path bucket (.ok (), leased.release place (s.setBucket bucket table))

/-- **Providing a bucket ends in one of five ways.** -/
theorem creation (v : Volume) (path bucket : String) :
    Creation v path bucket (createBucket v path bucket) := by
  cases hname : BucketName.ofString bucket with
  | error fault =>
      simp only [createBucket, hname]
      exact .badName hname
  | ok name =>
      have htext := BucketName.text_of_ofString hname
      rcases hmake : v.makeParents (Path.ofString path) with ⟨fault | _, made⟩
      · simp only [createBucket, hname, hmake]
        exact .noParents hname hmake
      · cases hlease : made.lease path with
        | error fault =>
            simp only [createBucket, hname, hmake, hlease]
            exact .unopenable hname hmake hlease
        | ok leasing =>
            obtain ⟨place, s, leased⟩ := leasing
            simp only [createBucket, hname, hmake, hlease, htext, provide_working, Store.provide]
            cases htable : s.bucketD bucket with
            | error fault => exact .foreign hname hmake hlease htable
            | ok table => exact .provided hname hmake hlease htable

/-- The tables after a store was given back with a table for a bucket. -/
theorem tables_provided {made leased : Volume} {place : Location} {s : Store} {table : Table}
    (hmade : Volume.OnlyMade v made) (hlease : made.lease path = .ok (place, s, leased))
    (other : Location) (name : String) :
    ((leased.release place (s.setBucket bucket table)).tables other)[name]? =
      if place = other ∧ bucket = name then some (.bucket table)
      else (v.tables other)[name]? := by
  have hs : v.tables place = s := (hmade.tables_eq place).symm.trans (Volume.tables_of_lease hlease)
  rw [Volume.tables_release hlease]
  by_cases hplace : place = other
  · subst hplace
    rw [if_pos rfl, hs, Store.setBucket, Std.TreeMap.getElem?_insert]
    simp
  · rw [if_neg hplace, if_neg fun h => hplace h.1, hmade.tables_eq]

/-- **No table is lost**, however providing a bucket ends: what stood under a name of some file stands
there still. -/
theorem Creation.kept {outcome : Except StoreError Unit × Volume}
    (h : Creation v path bucket outcome) {place : Location} {name : String} {stored : Stored}
    (hstored : (v.tables place)[name]? = some stored) :
    (outcome.2.tables place)[name]? = some stored := by
  have hmade := v.onlyMade_makeParents (Path.ofString path)
  cases h with
  | badName hname => exact hstored
  | noParents hname hmake =>
      rw [hmake] at hmade
      rw [hmade.tables_eq, hstored]
  | unopenable hname hmake hlease =>
      rw [hmake] at hmade
      rw [hmade.tables_eq, hstored]
  | foreign hname hmake hlease htable =>
      rw [hmake] at hmade
      rw [Volume.tables_release_self hlease, hmade.tables_eq, hstored]
  | provided hname hmake hlease htable =>
      rw [hmake] at hmade
      rw [tables_provided hmade hlease]
      split
      · rename_i hhere
        obtain ⟨rfl, rfl⟩ := hhere
        rw [← Volume.tables_of_lease hlease, hmade.tables_eq, Store.bucketD_eq, hstored] at htable
        rcases stored with table | _
        · rw [Except.ok.inj htable]
        · cases htable
      · exact hstored

/-! ### What is provided -/

/-- A bucket is **provided** at a location if it has a table there, which is the one that it had or a new
one, and all else is as it was but for new directories. -/
structure Provided (v v' : Volume) (bucket : String) (place : Location) (table : Table) : Prop where
  /-- The table is the one that was there, or none was there and it is empty. -/
  table_eq : (v.tables place)[bucket]? = some (.bucket table) ∨
    (v.tables place)[bucket]? = none ∧ table = ∅
  /-- The bucket has the table, and there is no other change of a table in any file. -/
  tables_eq : ∀ (other : Location) (name : String), (v'.tables other)[name]? =
    if place = other ∧ bucket = name then some (.bucket table) else (v.tables other)[name]?
  /-- Other files are as they were, and other directories are there or were made. -/
  elsewhere : ∀ other, place ≠ other →
    v'.at? other = v.at? other ∨ v.at? other = none ∧ v'.at? other = some .directory

/-- A backend **shows** a bucket with a table: the statistics count its keys, each of them was added to
the cache, and reads find what the table holds. -/
structure Shows (b : Backend) (bucket : String) (table : Table) : Prop where
  /-- The bucket is active. -/
  active : b.active = bucket
  /-- The keys are counted, and each was added to the cache. -/
  stats : ∃ stats, b.stats = .ok stats ∧ stats.keys = table.size ∧ stats.cache.adds = table.size
  /-- Reads find what the table holds. -/
  get : ∀ key, (b.get key).1 = .ok table[key]?

/-- A backend that was opened on a bucket shows it with its table. -/
theorem shows_of_openWith (h : (openWith shape v path bucket).1 = .ok b) {table : Table}
    (htable : b.store.bucket? bucket = .ok (some table)) : b.Shows bucket table := by
  have hactive := (parts_of_openWith h).1
  have hseen : b.store.bucketD b.active = .ok table := by
    rw [hactive]
    exact Store.bucketD_of_bucket? htable
  have hadds : (loadKeys table (.empty shape)).stats.adds = table.size := by
    have hload := congrArg Cache.Stats.adds (stats_loadAll table.keys (.empty shape))
    rw [Std.TreeMap.length_keys] at hload
    exact hload.trans (Nat.zero_add _)
  refine ⟨hactive, ⟨_, CommandLine.stats_of_openWith h htable, rfl, hadds⟩, fun key => ?_⟩
  rw [get_eq, (sound_of_openWith h).1.found_eq hseen]

section Present

variable {name : BucketName} {leased : Volume} {place : Location} {s : Store} {table : Table}

/-- A bucket that is there can be provided, which leaves all as it is. -/
theorem createBucket_of_present (hname : BucketName.ofString bucket = .ok name)
    (hlease : v.lease path = .ok (place, s, leased))
    (hfile : v.at? place = some (.file (.store s))) (htable : s[bucket]? = some (.bucket table)) :
    ∃ v', createBucket v path bucket = (.ok (), v') ∧ v.Alike v' := by
  obtain ⟨_, hopen, -⟩ := Volume.lease_eq_ok hlease
  have hprovide : provide s bucket Disk.working = .ok (s.setBucket bucket table) := by
    rw [provide_working, Store.provide, Store.bucketD_eq, htable]
    rfl
  refine ⟨leased.release place (s.setBucket bucket table), ?_, fun other => ?_⟩
  · simp only [createBucket, hname, Volume.makeParents_of_openFile hopen, hlease,
      BucketName.text_of_ofString hname, hprovide]
  · rw [Volume.at?_release hlease]
    split
    · rename_i hplace
      rw [← hplace, hfile]
      refine .some fun other => ?_
      rw [Store.setBucket, Std.TreeMap.getElem?_insert]
      split
      · rename_i hbucket
        rw [← Std.LawfulEqCmp.eq_of_compare hbucket, htable]
      · rfl
    · cases v.at? other with
      | none => exact .none
      | some node => exact .some (.refl node)

/-- A bucket that is there can be opened with filters of any shape, and is shown with its table. -/
theorem openWith_of_present (hname : BucketName.ofString bucket = .ok name)
    (hlease : v.lease path = .ok (place, s, leased)) (htable : s[bucket]? = some (.bucket table))
    (shape : Filter.Shape) :
    ∃ b, (openWith shape v path bucket).1 = .ok b ∧ b.place = place ∧ b.Shows bucket table := by
  obtain ⟨b, hopen, hstore, -⟩ := openWith_of_hasBucket hname hlease ⟨table, htable⟩ shape
  have hseen : b.store.bucket? bucket = .ok (some table) := by
    simp only [hstore, Store.bucket?, htable]
  have hleased := (parts_of_openWith hopen).2.2
  rw [hlease] at hleased
  exact ⟨b, hopen, (Prod.mk.inj (Except.ok.inj hleased)).1.symm, shows_of_openWith hopen hseen⟩

end Present

/-- **What was provided**, when providing a bucket succeeds, and what can be done with it then. -/
theorem provided_of_createBucket (h : createBucket v path bucket = (.ok (), v')) :
    ∃ place table, Provided v v' bucket place table ∧
      (∃ v'', createBucket v' path bucket = (.ok (), v'') ∧ v'.Alike v'') ∧
      ∀ shape, ∃ b, (openWith shape v' path bucket).1 = .ok b ∧ b.place = place ∧
        b.Shows bucket table := by
  have hcreation := creation v path bucket
  have hmade := v.onlyMade_makeParents (Path.ofString path)
  rw [h] at hcreation
  cases hcreation with
  | provided hname hmake hlease htable =>
      rename_i name table made leased place s
      rw [hmake] at hmade
      obtain ⟨_, hagain⟩ := Volume.lease_release hlease (s.setBucket bucket table)
      have hfile := Volume.at?_release hlease (s.setBucket bucket table) place
      rw [if_pos rfl] at hfile
      have hstored : (s.setBucket bucket table)[bucket]? = some (.bucket table) :=
        Std.TreeMap.getElem?_insert_self
      have hprovided : Provided v (leased.release place (s.setBucket bucket table)) bucket place
          table := by
        refine ⟨?_, tables_provided hmade hlease, fun other hother => ?_⟩
        · rw [← hmade.tables_eq, Volume.tables_of_lease hlease]
          rw [Store.bucketD_eq] at htable
          generalize s[bucket]? = stored at htable ⊢
          rcases stored with _ | stored | _
          · exact .inr ⟨rfl, (Except.ok.inj htable).symm⟩
          · exact .inl (by rw [Except.ok.inj htable])
          · cases htable
        · rw [Volume.at?_release hlease, if_neg hother]
          exact hmade other
      exact ⟨place, table, hprovided, createBucket_of_present hname hagain hfile hstored,
        openWith_of_present hname hagain hstored⟩

/-! ### What an opening leaves -/

/-- **An opening changes no table**: it gives the store back as it was, or keeps it as it was. -/
theorem tables_openWith (shape : Filter.Shape) (v : Volume) (path bucket : String) :
    let opened := openWith shape v path bucket
    (∀ e, opened.1 = .error e → ∀ place, opened.2.tables place = v.tables place) ∧
      ∀ b, opened.1 = .ok b →
        b.store = v.tables b.place ∧
        ∀ place, (b.close opened.2).tables place = v.tables place := by
  have hopening := opening shape v path bucket
  generalize openWith shape v path bucket = outcome at hopening ⊢
  cases hopening with
  | badName hname => exact ⟨fun _ _ _ => rfl, nofun⟩
  | unopenable hname hlease => exact ⟨fun _ _ _ => rfl, nofun⟩
  | missing hname hlease htable => exact ⟨fun _ _ => Volume.tables_release_self hlease, nofun⟩
  | foreign hname hlease htable => exact ⟨fun _ _ => Volume.tables_release_self hlease, nofun⟩
  | opened hname hlease htable hstore hplace =>
      refine ⟨nofun, fun b hb => ?_⟩
      cases hb
      rw [close, hstore, hplace, Volume.tables_of_lease hlease]
      exact ⟨rfl, Volume.tables_release_self hlease⟩

/-- **Providing a bucket.** On every volume and for every path and text, providing a bucket touches
nothing if the text is no bucket name, and loses no table in any case. If it succeeds, the bucket has
the table that it had, or an empty one, and all other tables, files and directories are as they were,
but for directories that were missing. A second time succeeds and leaves all as it is, and the bucket
can be opened with filters of any shape and shown with its table. Opening in turn changes no table: if
it fails, all tables are as they were, and if it succeeds, the backend has those of its file, and all
are as they were when it is closed again. -/
theorem provisioning (v : Volume) (path bucket : String) :
    (∀ fault, BucketName.ofString bucket = .error fault →
      createBucket v path bucket = (.error (.invalidBucketName fault), v)) ∧
    (∀ (place : Location) (name : String) stored, (v.tables place)[name]? = some stored →
      ((createBucket v path bucket).2.tables place)[name]? = some stored) ∧
    (∀ v', createBucket v path bucket = (.ok (), v') →
      ∃ place table, Provided v v' bucket place table ∧
        (∃ v'', createBucket v' path bucket = (.ok (), v'') ∧ v'.Alike v'') ∧
        ∀ shape, ∃ b, (openWith shape v' path bucket).1 = .ok b ∧ b.place = place ∧
          b.Shows bucket table) ∧
    ∀ shape,
      let opened := openWith shape v path bucket
      (∀ e, opened.1 = .error e → ∀ place, opened.2.tables place = v.tables place) ∧
        ∀ b, opened.1 = .ok b →
          b.store = v.tables b.place ∧
          ∀ place, (b.close opened.2).tables place = v.tables place := by
  refine ⟨fun fault hname => ?_, fun place name stored hstored => ?_, fun v' hcreate => ?_,
    fun shape => ?_⟩
  · simp only [createBucket, hname]
  · exact (creation v path bucket).kept hstored
  · exact provided_of_createBucket hcreate
  · exact tables_openWith shape v path bucket

/-- A bucket that is provided beside another one, under a path that leads through a directory that is
missing. -/
theorem provisioning_through_missing_directory :
    ∃ v' place table b,
      createBucket (.holding .single) "x/../kv" "c" = (.ok (), v') ∧
      Provided (.holding .single) v' "c" place table ∧
      (openWith .byLength v' "x/../kv" "c").1 = .ok b ∧ b.Shows "c" table := by
  have hok : (createBucket (.holding .single) "x/../kv" "c").1.toOption = some () := by
    decide +kernel
  have hcreate := Prod.ext (y := (Except.ok (), _)) (StoreError.eq_ok_of_toOption hok) rfl
  obtain ⟨place, table, hprovided, -, hopens⟩ :=
    (provisioning (.holding .single) "x/../kv" "c").2.2.1 _ hcreate
  obtain ⟨b, hopen, -, hshows⟩ := hopens .byLength
  exact ⟨_, place, table, b, hcreate, hprovided, hopen, hshows⟩

end Backend

end BucketStore
