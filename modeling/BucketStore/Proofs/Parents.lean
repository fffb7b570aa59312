import BucketStore.Proofs.Leases

/-!
# The Directories Above a File

A path that opens a file has been walked as far as its last name, so every directory above the file
is there already. Making these directories then changes nothing (`Volume.makeParents_of_openFile`),
although the names that are made (`Path.essential`) are not quite the names that are walked: where a
path has a `.` in its middle, a walk stays where it is, and nothing is made for it.

## Main results

* `walk_append`, `walk_filter`: walks along names that were put together, and without the `.`s.
* `isDirectory_of_walk`: where a walk ends there is a directory.
* `makeAll_of_isDirectory`: making a directory that is there changes nothing.
* `makeParents_of_openFile`: a file that can be opened has its directories.
-/

namespace BucketStore

/-! ### Names of a path -/

namespace Path

/-- The pieces of a text are made of its characters. -/
theorem mem_of_mem_pieces {text piece : List Char} {c : Char} (hpiece : piece ∈ pieces text)
    (hc : c ∈ piece) : c ∈ text := by
  induction text generalizing piece with
  | nil =>
      obtain rfl : piece = [] := by simpa [pieces] using hpiece
      cases hc
  | cons d rest ih =>
      rw [pieces] at hpiece
      split at hpiece
      · rcases List.mem_cons.mp hpiece with rfl | htail
        · cases hc
        · exact List.mem_cons_of_mem d (ih htail hc)
      · split at hpiece
        · obtain rfl : piece = [d] := by simpa using hpiece
          exact List.mem_singleton.mp hc ▸ List.mem_cons_self
        · rename_i first others hpieces
          rcases List.mem_cons.mp hpiece with rfl | htail
          · rcases List.mem_cons.mp hc with rfl | hfirst
            · exact List.mem_cons_self
            · exact List.mem_cons_of_mem d (ih (hpieces ▸ List.mem_cons_self) hfirst)
          · exact List.mem_cons_of_mem d (ih (hpieces ▸ List.mem_cons_of_mem first htail) hc)

/-- The names of a path are made of the characters of its text. -/
theorem mem_of_mem_names {text name : String} {c : Char} (hname : name ∈ (ofString text).names)
    (hc : c ∈ name.toList) : c ∈ text.toList := by
  obtain ⟨piece, hpiece, rfl⟩ := List.mem_map.mp hname
  rw [String.toList_ofList] at hc
  exact mem_of_mem_pieces (List.mem_filter.mp hpiece).1 hc

/-- The names that matter are names of the path. -/
theorem mem_names_of_mem_essential {p : Path} {name : String} (h : name ∈ p.essential) :
    name ∈ p.names := by
  rw [essential] at h
  split at h
  · cases h
  · rename_i first rest hnames
    rw [hnames]
    split at h
    · exact List.mem_cons_of_mem first (List.mem_filter.mp h).1
    · rcases List.mem_cons.mp h with rfl | hrest
      · exact List.mem_cons_self
      · exact List.mem_cons_of_mem first (List.mem_filter.mp hrest).1

end Path

namespace Volume

variable {v : Volume} {place last : Location} {names : List String} {text : String}

/-! ### Walks -/

/-- What succeeds after a walk goes on from where the walk ends. -/
theorem ok_of_bind {α β : Type} {walked : Except SystemFault α}
    {next : α → Except SystemFault β} {b : β} (h : walked >>= next = .ok b) :
    ∃ a, walked = .ok a ∧ next a = .ok b := by
  cases walked with
  | error fault => cases h
  | ok a => exact ⟨a, rfl, h⟩

/-- A walk along some names and then some more. -/
theorem walk_append (v : Volume) (place : Location) (names more : List String) :
    v.walk place (names ++ more) = v.walk place names >>= (v.walk · more) := by
  induction names generalizing place with
  | nil => rfl
  | cons name rest ih =>
      simp only [List.cons_append, walk]
      split
      · exact ih place
      · split
        · exact ih place.dropLast
        · split
          · rfl
          · rcases v.at? (place ++ [name]) with _ | _ | content
            · rfl
            · exact ih (place ++ [name])
            · rfl

/-- A `.` on the way makes no difference to a walk. -/
theorem walk_filter (v : Volume) (place : Location) (names : List String) :
    v.walk place (names.filter (· ≠ ".")) = v.walk place names := by
  induction names generalizing place with
  | nil => rfl
  | cons name rest ih =>
      by_cases hdot : name = "."
      · rw [List.filter_cons_of_neg (by simpa using hdot), ih, walk, if_pos hdot]
      · rw [List.filter_cons_of_pos (by simpa using hdot)]
        simp only [walk, ih]

/-- The last step of a walk, along a name, leads to a directory. -/
theorem directory_of_walk_singleton {name : String} (hdots : ¬(name = "." ∨ name = ".."))
    (h : v.walk place [name] = .ok last) :
    ¬longestName < name.utf8ByteSize ∧ last = place ++ [name] ∧ v.at? last = some .directory := by
  obtain ⟨hdot, hup⟩ := not_or.mp hdots
  rw [walk, if_neg hdot, if_neg hup] at h
  by_cases hlong : longestName < name.utf8ByteSize
  · rw [if_pos hlong] at h
    cases h
  · rw [if_neg hlong] at h
    rcases hat : v.at? (place ++ [name]) with _ | _ | content
    · simp [hat] at h
    · simp only [hat, walk, Except.ok.injEq] at h
      exact ⟨hlong, h.symm, h ▸ hat⟩
    · simp [hat] at h

/-- The target of names that end in this one. -/
theorem target_append (v : Volume) (before : List String) (name : String) :
    v.target (before ++ [name]) =
      if name = "." ∨ name = ".." then (v.walk [] (before ++ [name])).map .here
      else v.walk [] before >>= fun place =>
        if longestName < name.utf8ByteSize then .error .nameTooLong
        else .ok (.named (place ++ [name])) := by
  simp only [target, List.getLast?_concat, List.dropLast_concat]

/-- Names whose target is a name were walked up to the last one. -/
theorem walk_of_target_named (h : v.target names = .ok (.named place)) :
    ∃ before name middle, names = before ++ [name] ∧ name ≠ "." ∧
      v.walk [] before = .ok middle := by
  rcases List.eq_nil_or_concat names with rfl | ⟨before, name, rfl⟩
  · cases h
  · rw [List.concat_eq_append, target_append] at h
    by_cases hdots : name = "." ∨ name = ".."
    · rw [if_pos hdots] at h
      cases hwalk : v.walk [] (before ++ [name]) with
      | error fault =>
          rw [hwalk] at h
          cases h
      | ok middle =>
          rw [hwalk] at h
          cases h
    · rw [if_neg hdots] at h
      obtain ⟨middle, hwalk, -⟩ := ok_of_bind h
      exact ⟨before, name, middle, List.concat_eq_append, (not_or.mp hdots).1, hwalk⟩

/-- Names lead to a directory if they end there by themselves, or in the name of one. -/
theorem isDirectory_iff :
    v.isDirectory names = true ↔
      ∃ place, v.target names = .ok (.here place) ∨
        v.target names = .ok (.named place) ∧ v.at? place = some .directory := by
  rw [isDirectory]
  rcases v.target names with fault | place | place
  · simp
  · simp
  · rcases hat : v.at? place with _ | _ | content
    · simp [hat]
    · simp [hat]
    · simp [hat]

/-- Where a walk ends there is a directory. -/
theorem isDirectory_of_walk (h : v.walk [] names = .ok place) : v.isDirectory names = true := by
  rcases List.eq_nil_or_concat names with rfl | ⟨before, name, rfl⟩
  · rfl
  · rw [List.concat_eq_append] at h ⊢
    rw [isDirectory_iff, target_append]
    by_cases hdots : name = "." ∨ name = ".."
    · rw [if_pos hdots, h]
      exact ⟨place, .inl rfl⟩
    · rw [walk_append] at h
      obtain ⟨middle, hbefore, hlast⟩ := ok_of_bind h
      obtain ⟨hlong, rfl, hat⟩ := directory_of_walk_singleton hdots hlast
      refine ⟨middle ++ [name], .inr ⟨?_, hat⟩⟩
      rw [if_neg hdots, hbefore]
      exact if_neg hlong

/-! ### Making directories -/

/-- Making a directory that is there changes nothing. -/
theorem makeAll_of_isDirectory (h : v.isDirectory names = true) :
    v.makeAll names = (.ok (), v) := by
  have hthere : v.makeNamed names = .error .alreadyExists := by
    obtain ⟨place, htarget | ⟨htarget, hat⟩⟩ := isDirectory_iff.mp h
    · rw [makeNamed, htarget]
      rfl
    · rw [makeNamed, htarget]
      simp only [bind, Except.bind, hat]
  rw [makeAll]
  by_cases hnames : names = []
  · rw [dif_pos hnames]
  · rw [dif_neg hnames]
    simp only [hthere, h, if_true]

/-- The names above the last one that matter are walked like all of them. -/
theorem walk_essential_dropLast {path : Path} {before : List String} {name : String}
    (hnames : path.names = before ++ [name]) (hname : name ≠ ".") :
    v.walk [] path.essential.dropLast = v.walk [] before := by
  have hkept : [name].filter (· ≠ ".") = [name] := by simpa using hname
  rw [Path.essential, hnames]
  cases before with
  | nil =>
      simp [hname]
  | cons first middle =>
      simp only [List.cons_append, List.filter_append, hkept]
      split
      · rename_i hfirst
        rw [List.dropLast_concat, walk_filter, hfirst.1]
        rfl
      · rw [← List.cons_append, List.dropLast_concat]
        simp only [walk, walk_filter]

/-- **A file that can be opened has its directories**: making them changes nothing. -/
theorem makeParents_of_openFile {content : Content} (h : v.openFile text = .ok (place, content)) :
    v.makeParents (Path.ofString text) = (.ok (), v) := by
  obtain ⟨hrefuse, htarget, -, -⟩ := openFile_eq_ok_iff.mp h
  obtain ⟨before, name, middle, hnames, hname, hwalk⟩ := walk_of_target_named htarget
  have hparents : v.isDirectory (Path.ofString text).essential.dropLast = true :=
    isDirectory_of_walk ((walk_essential_dropLast hnames hname).trans hwalk)
  have hnul : (Path.ofString text).essential.dropLast.any (·.toList.contains '\x00') = false := by
    rw [List.any_eq_false]
    intro other hother hmem
    have htext := Path.mem_of_mem_names (Path.mem_names_of_mem_essential
      (List.dropLast_subset _ hother)) (List.contains_iff_mem.mp hmem)
    rw [refuse, if_pos (List.contains_iff_mem.mpr htext)] at hrefuse
    cases hrefuse
  rw [makeParents, Path.parent?]
  by_cases hnone : (Path.ofString text).essential = []
  · rw [if_pos hnone]
  · simp only [if_neg hnone, makeDirectories, hnul, Bool.false_eq_true, if_false]
    exact makeAll_of_isDirectory hparents

end Volume

end BucketStore
