import BucketStore.Volume.Basic

/-!
# Leases Can Be Renewed

A path is resolved by walking from directory to directory, and a file can stand at its end only. So
whatever is put in the place of a file, or where nothing was, no walk that succeeded goes another way
(`Volume.KeepsDirectories`). In particular a store that was leased under a path and given back, with
whatever it holds by then, is found under the same path again.

## Main results

* `KeepsDirectories.target`: paths lead to the same location as long as directories stay.
* `openFile_eq_ok_iff`: when a path opens a file.
* `lease_release`: a store that was given back can be leased again.
-/

namespace BucketStore.Volume

variable {v v' v'' : Volume} {place : Location} {node : Node} {text : String}

/-! ### Directories -/

/-- One volume **keeps the directories** of another one if it has a directory wherever the other one
has. -/
def KeepsDirectories (v v' : Volume) : Prop :=
  ∀ place, v.at? place = some .directory → v'.at? place = some .directory

/-- What was put below the root stands at its location, and all else stands as before. -/
theorem at?_put (hplace : place ≠ []) (node : Node) (other : Location) :
    (v.put place node).at? other = if place = other then some node else v.at? other := by
  simp only [at?, put]
  by_cases hother : other = []
  · rw [if_pos hother, if_pos hother, if_neg fun h => hplace (h.trans hother)]
  · rw [if_neg hother, if_neg hother, Std.TreeMap.getElem?_insert]
    simp only [Std.LawfulEqCmp.compare_eq_iff_eq]

/-- The root is a directory. -/
theorem ne_root_of_at? (h : v.at? place ≠ some .directory) : place ≠ [] := by
  rintro rfl
  exact h rfl

namespace KeepsDirectories

theorem trans (h : KeepsDirectories v v') (h' : KeepsDirectories v' v'') :
    KeepsDirectories v v'' :=
  fun place hdir => h' place (h place hdir)

/-- Where no directory is, anything can be put. -/
theorem put (h : v.at? place ≠ some .directory) (node : Node) :
    KeepsDirectories v (v.put place node) := by
  intro other hother
  have hne : place ≠ other := by
    rintro rfl
    exact h hother
  rw [at?_put (ne_root_of_at? h), if_neg hne, hother]

/-- A walk that succeeds goes over directories only, so it goes the same way where they are kept. -/
theorem walk (h : KeepsDirectories v v') {names : List String} {last : Location}
    (hwalk : v.walk place names = .ok last) : v'.walk place names = .ok last := by
  induction names generalizing place with
  | nil => exact hwalk
  | cons name rest ih =>
      simp only [Volume.walk] at hwalk ⊢
      by_cases hdot : name = "."
      · rw [if_pos hdot] at hwalk ⊢
        exact ih hwalk
      by_cases hup : name = ".."
      · rw [if_neg hdot, if_pos hup] at hwalk ⊢
        exact ih hwalk
      by_cases hlong : longestName < name.utf8ByteSize
      · rw [if_neg hdot, if_neg hup, if_pos hlong] at hwalk
        cases hwalk
      rw [if_neg hdot, if_neg hup, if_neg hlong] at hwalk ⊢
      rcases hat : v.at? (place ++ [name]) with _ | _ | content
      · simp [hat] at hwalk
      · simp only [hat] at hwalk
        simp only [h _ hat]
        exact ih hwalk
      · simp [hat] at hwalk

/-- A path leads to the same location where directories are kept. -/
theorem target (h : KeepsDirectories v v') {names : List String} {goal : Target}
    (htarget : v.target names = .ok goal) : v'.target names = .ok goal := by
  simp only [Volume.target] at htarget ⊢
  cases hlast : names.getLast? with
  | none =>
      rw [hlast] at htarget
      exact htarget
  | some last =>
      simp only [hlast] at htarget
      by_cases hdots : last = "." ∨ last = ".."
      · simp only [if_pos hdots] at htarget ⊢
        cases hwalk : v.walk [] names with
        | error fault =>
            rw [hwalk] at htarget
            cases htarget
        | ok place =>
            rw [hwalk] at htarget
            rw [h.walk hwalk]
            exact htarget
      · simp only [if_neg hdots] at htarget ⊢
        cases hwalk : v.walk [] names.dropLast with
        | error fault =>
            rw [hwalk] at htarget
            cases htarget
        | ok place =>
            rw [hwalk] at htarget
            rw [h.walk hwalk]
            exact htarget

end KeepsDirectories

/-! ### Files -/

/-- A path opens a file if it leads to a place where a file is, or where one can be made. -/
theorem openFile_eq_ok_iff {content : Content} :
    v.openFile text = .ok (place, content) ↔
      refuse text = .ok () ∧ v.target (Path.ofString text).names = .ok (.named place) ∧
        (Path.ofString text).slashed = false ∧
        (v.at? place = none ∧ content = .bytes [] ∨ v.at? place = some (.file content)) := by
  simp only [openFile, bind, Except.bind]
  cases refuse text with
  | error fault => simp
  | ok =>
      rcases v.target (Path.ofString text).names with fault | _ | goal
      · simp
      · simp
      · cases (Path.ofString text).slashed with
        | true => simp
        | false =>
            simp only [Bool.false_eq_true, if_false, Except.ok.injEq, Target.named.injEq, true_and]
            constructor
            · intro h
              rcases hat : v.at? goal with _ | _ | found
              · simp only [hat, Except.ok.injEq, Prod.mk.injEq] at h
                obtain ⟨rfl, rfl⟩ := h
                exact ⟨rfl, .inl ⟨hat, rfl⟩⟩
              · simp [hat] at h
              · simp only [hat, Except.ok.injEq, Prod.mk.injEq] at h
                obtain ⟨rfl, rfl⟩ := h
                exact ⟨rfl, .inr hat⟩
            · rintro ⟨rfl, ⟨hat, rfl⟩ | hat⟩
              · simp only [hat]
              · simp only [hat]

/-! ### Stores -/

/-- A lease was made of a file, and left it leased. -/
theorem lease_eq_ok {s : Store} {leased : Volume} (h : v.lease text = .ok (place, s, leased)) :
    ∃ content, v.openFile text = .ok (place, content) ∧ leased = v.put place (.file .leased) := by
  simp only [lease] at h
  split at h
  · cases h
  · cases h
  · rename_i hopen
    cases h
    exact ⟨_, hopen, rfl⟩
  · rename_i hopen
    cases h
    exact ⟨_, hopen, rfl⟩
  · cases h

/-- **Leases can be renewed.** A store that was leased under a path can be given back with any tables,
and leased again under the same path. -/
theorem lease_release {s : Store} {leased : Volume} (h : v.lease text = .ok (place, s, leased))
    (s' : Store) :
    ∃ leased', (leased.release place s').lease text = .ok (place, s', leased') := by
  obtain ⟨content, hopen, rfl⟩ := lease_eq_ok h
  obtain ⟨hrefuse, htarget, hslashed, hat⟩ := openFile_eq_ok_iff.mp hopen
  have hfile : v.at? place ≠ some .directory := by
    rcases hat with ⟨hnone, -⟩ | hsome
    · simp [hnone]
    · simp [hsome]
  have hroot := ne_root_of_at? hfile
  have hleased : (v.put place (.file .leased)).at? place = some (.file .leased) := by
    rw [at?_put hroot, if_pos rfl]
  have hkeeps : KeepsDirectories v ((v.put place (.file .leased)).release place s') :=
    (KeepsDirectories.put hfile _).trans (KeepsDirectories.put (by simp [hleased]) _)
  have hback : ((v.put place (.file .leased)).release place s').at? place =
      some (.file (.store s')) := by
    rw [release, at?_put hroot, if_pos rfl]
  have hagain := openFile_eq_ok_iff.mpr ⟨hrefuse, hkeeps.target htarget, hslashed, .inr hback⟩
  exact ⟨_, by simp only [lease, hagain]; rfl⟩

end BucketStore.Volume
