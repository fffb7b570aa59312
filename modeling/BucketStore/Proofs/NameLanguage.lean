import BucketStore.Proofs.Operations
import BucketStore.Proofs.Provisioning

/-!
# The Language of Bucket Names

A text is a bucket name if it is a letter or digit, followed by any row of letters, digits, dots,
underscores and hyphens, and has at most 64 characters (`BucketName.Proper`). A text that is none is
**faulty** in exactly one way (`BucketName.Faulty`), though several things may be wrong with it: the
length goes before the first character, and the first character before all later ones, of which the
first one outside the alphabet counts.

The length of a text is told in bytes and its faults in characters. For names this makes no
difference, since their characters are single bytes; but a text of few characters may be too long,
and is then not looked at any further.

A switch and the provision of a bucket check the name before anything else. So they refuse a text as a
name exactly if it is faulty, with its own fault, and leave all as it was; whatever else may go wrong
is told by other errors.

## Main results

* `Spelled.utf8ByteSize_eq`: names have as many bytes as characters.
* `ofString_eq_ok_iff`, `ofString_eq_error_iff`: the texts that are names, and the fault of each other
  one.
* `switch_invalid_iff`, `createBucket_invalid_iff`: which texts are refused as names.
* `name_language`: all of this together.
-/

namespace BucketStore

/-! ### The language -/

namespace BucketName

/-- ASCII letters and digits. -/
def IsAlphanumeric (c : Char) : Prop :=
  'A' ≤ c ∧ c ≤ 'Z' ∨ 'a' ≤ c ∧ c ≤ 'z' ∨ '0' ≤ c ∧ c ≤ '9'

/-- The **alphabet** of names. -/
def InAlphabet (c : Char) : Prop :=
  IsAlphanumeric c ∨ c = '-' ∨ c = '_' ∨ c = '.'

/-- A text is **spelled** as a name if it is a letter or digit and a row of characters of the
alphabet. -/
def Spelled (s : String) : Prop :=
  ∃ first rest, s.toList = first :: rest ∧ IsAlphanumeric first ∧ ∀ c ∈ rest, InAlphabet c

/-- A text is **proper** if it is spelled as a name and has at most 64 characters. -/
def Proper (s : String) : Prop :=
  Spelled s ∧ s.length ≤ 64

/-- A text is **faulty** in one of four ways. -/
inductive Faulty (s : String) : NameFault → Prop
  /-- There is no character. -/
  | empty (hs : s = "") : Faulty s .empty
  /-- There are too many bytes, whatever they are. -/
  | tooLong (hlong : 64 < s.utf8ByteSize) : Faulty s .tooLong
  /-- The first character is no letter or digit. -/
  | badStart {first : Char} {rest : List Char} (hs : s.toList = first :: rest)
      (hfits : s.utf8ByteSize ≤ 64) (hfirst : ¬IsAlphanumeric first) : Faulty s .badStart
  /-- A later character is outside the alphabet, and none before it is. -/
  | badChar {first c : Char} {before rest : List Char}
      (hs : s.toList = first :: before ++ c :: rest) (hfits : s.utf8ByteSize ≤ 64)
      (hfirst : IsAlphanumeric first) (hbefore : ∀ d ∈ before, InAlphabet d)
      (hc : ¬InAlphabet c) : Faulty s (.badChar c)

variable {s : String} {c first : Char} {rest : List Char} {fault : NameFault}

/-! ### Characters and bytes -/

/-- The characters that may start a name are the letters and digits. -/
theorem isStart_iff : isStart c = true ↔ IsAlphanumeric c := by
  have hupper : c.isUpper = true ↔ 'A' ≤ c ∧ c ≤ 'Z' := decide_eq_true_iff
  have hlower : c.isLower = true ↔ 'a' ≤ c ∧ c ≤ 'z' :=
    Bool.and_eq_true_iff.trans (and_congr decide_eq_true_iff decide_eq_true_iff)
  have hdigit : c.isDigit = true ↔ '0' ≤ c ∧ c ≤ '9' :=
    Bool.and_eq_true_iff.trans (and_congr decide_eq_true_iff decide_eq_true_iff)
  change (c.isUpper || c.isLower || c.isDigit) = true ↔ IsAlphanumeric c
  rw [Bool.or_eq_true, Bool.or_eq_true, hupper, hlower, hdigit, or_assoc, IsAlphanumeric]

/-- The characters that may stand in a name are those of the alphabet. -/
theorem isAllowed_iff : isAllowed c = true ↔ InAlphabet c := by
  simp only [isAllowed, Bool.or_eq_true, isStart_iff, decide_eq_true_eq, InAlphabet, or_assoc]

/-- A character of the alphabet is one byte. -/
theorem length_utf8EncodeChar (h : InAlphabet c) : (String.utf8EncodeChar c).length = 1 := by
  rw [String.length_utf8EncodeChar, Char.utf8Size_eq_one_iff]
  rcases h with (⟨-, h⟩ | ⟨-, h⟩ | ⟨-, h⟩) | rfl | rfl | rfl
  · exact UInt32.le_trans h (by decide)
  · exact UInt32.le_trans h (by decide)
  · exact UInt32.le_trans h (by decide)
  · decide
  · decide
  · decide

/-- The bytes of a text are those of its characters. -/
theorem byteLength_toList (s : String) : Text.byteLength s.toList = s.utf8ByteSize := by
  rw [Text.byteLength, Text.encode, ← String.size_toByteArray, ← String.utf8Encode_toList,
    List.utf8Encode, List.size_toByteArray]

/-- Over the alphabet there are as many bytes as characters. -/
theorem byteLength_of_inAlphabet {cs : List Char} (h : ∀ c ∈ cs, InAlphabet c) :
    Text.byteLength cs = cs.length := by
  induction cs with
  | nil => rfl
  | cons c rest ih =>
      have hrest := ih fun d hd => h d (List.mem_cons_of_mem c hd)
      rw [Text.byteLength, Text.encode] at hrest ⊢
      rw [List.flatMap_cons, List.length_append, length_utf8EncodeChar (h c List.mem_cons_self),
        hrest, List.length_cons, Nat.add_comm]

/-- **A text that is spelled as a name has as many bytes as characters.** -/
theorem Spelled.utf8ByteSize_eq (h : Spelled s) : s.utf8ByteSize = s.length := by
  obtain ⟨first, rest, hs, hfirst, hrest⟩ := h
  have hall : ∀ c ∈ s.toList, InAlphabet c := by
    rw [hs]
    exact List.forall_mem_cons.mpr ⟨.inl hfirst, hrest⟩
  rw [← byteLength_toList, byteLength_of_inAlphabet hall, String.length_toList]

/-- It makes no difference to names whether their length is told in characters or in bytes. -/
theorem proper_iff_bytes : Proper s ↔ Spelled s ∧ s.utf8ByteSize ≤ 64 :=
  and_congr_right fun h => by rw [h.utf8ByteSize_eq]

/-! ### The check -/

/-- The check of a text that is not empty. -/
theorem fault?_of_cons (hs : s.toList = first :: rest) :
    fault? s.toList =
      if 64 < s.utf8ByteSize then some .tooLong
      else if !isStart first then some .badStart
      else (s.toList.find? fun c => !isAllowed c).map .badChar := by
  rw [← byteLength_toList, hs]
  rfl

/-- The check finds no fault in a proper text. -/
theorem Proper.fault?_eq (h : Proper s) : fault? s.toList = none := by
  obtain ⟨⟨first, rest, hs, hfirst, hrest⟩, hfits⟩ := proper_iff_bytes.mp h
  have hstart : isStart first = true := isStart_iff.mpr hfirst
  have hnone : s.toList.find? (fun c => !isAllowed c) = none := by
    rw [hs, List.find?_eq_none]
    intro c hc
    rw [Bool.not_eq_true', Bool.not_eq_false]
    rcases List.mem_cons.mp hc with rfl | hc
    · exact isAllowed_iff.mpr (.inl hfirst)
    · exact isAllowed_iff.mpr (hrest c hc)
  rw [fault?_of_cons hs, if_neg (Nat.not_lt.mpr hfits), hstart, hnone]
  rfl

/-- The check finds the fault of a faulty text. -/
theorem Faulty.fault?_eq (h : Faulty s fault) : fault? s.toList = some fault := by
  cases h with
  | empty hs =>
      rw [hs]
      rfl
  | tooLong hlong =>
      obtain ⟨first, rest, hs⟩ : ∃ first rest, s.toList = first :: rest := by
        refine List.exists_cons_of_ne_nil fun hnil => ?_
        rw [String.toList_eq_nil_iff.mp hnil] at hlong
        exact absurd hlong (by decide)
      rw [fault?_of_cons hs, if_pos hlong]
  | badStart hs hfits hfirst =>
      have hstart := mt isStart_iff.mp hfirst
      rw [fault?_of_cons hs, if_neg (Nat.not_lt.mpr hfits), if_pos (by simpa using hstart)]
  | @badChar first c before rest hs hfits hfirst hbefore hc =>
      have hstart : isStart first = true := isStart_iff.mpr hfirst
      have hbad := mt isAllowed_iff.mp hc
      have hfound : s.toList.find? (fun c => !isAllowed c) = some c := by
        refine List.find?_eq_some_iff_append.mpr
          ⟨by simpa using hbad, first :: before, rest, hs, fun d hd => ?_⟩
        rw [Bool.not_not]
        rcases List.mem_cons.mp hd with rfl | hd
        · exact isAllowed_iff.mpr (.inl hfirst)
        · exact isAllowed_iff.mpr (hbefore d hd)
      rw [fault?_of_cons hs, if_neg (Nat.not_lt.mpr hfits), hstart, hfound]
      rfl

/-- **A text is proper or faulty.** -/
theorem proper_or_faulty (s : String) : Proper s ∨ ∃ fault, Faulty s fault := by
  cases hs : s.toList with
  | nil => exact .inr ⟨_, .empty (String.toList_eq_nil_iff.mp hs)⟩
  | cons first rest =>
      by_cases hlong : 64 < s.utf8ByteSize
      · exact .inr ⟨_, .tooLong hlong⟩
      · have hfits := Nat.le_of_not_lt hlong
        by_cases hfirst : IsAlphanumeric first
        · cases hfound : rest.find? (fun c => !isAllowed c) with
          | none =>
              refine .inl (proper_iff_bytes.mpr ⟨⟨first, rest, hs, hfirst, fun c hc => ?_⟩, hfits⟩)
              exact isAllowed_iff.mp (by simpa using List.find?_eq_none.mp hfound c hc)
          | some c =>
              obtain ⟨hc, before, after, hrest, hbefore⟩ := List.find?_eq_some_iff_append.mp hfound
              refine .inr ⟨_, .badChar (hrest ▸ hs) hfits hfirst (fun d hd => ?_) ?_⟩
              · exact isAllowed_iff.mp (by simpa using hbefore d hd)
              · exact mt isAllowed_iff.mpr (by simpa using hc)
        · exact .inr ⟨_, .badStart hs hfits hfirst⟩

/-- **The texts that are names** are the proper ones, and each is the name that it spells. -/
theorem ofString_eq_ok_iff {name : BucketName} :
    ofString s = .ok name ↔ Proper s ∧ name.text = s := by
  constructor
  · intro h
    refine ⟨?_, text_of_ofString h⟩
    rcases proper_or_faulty s with hproper | ⟨fault, hfaulty⟩
    · exact hproper
    · simp only [ofString, hfaulty.fault?_eq] at h
      cases h
  · rintro ⟨hproper, rfl⟩
    simp only [ofString, hproper.fault?_eq]

/-- **The fault of a text** that is no name. -/
theorem ofString_eq_error_iff : ofString s = .error fault ↔ Faulty s fault := by
  constructor
  · intro h
    rcases proper_or_faulty s with hproper | ⟨fault', hfaulty⟩
    · simp only [ofString, hproper.fault?_eq] at h
      cases h
    · simp only [ofString, hfaulty.fault?_eq] at h
      cases h
      exact hfaulty
  · intro h
    simp only [ofString, h.fault?_eq]

/-- The faulty texts are those that are not proper. -/
theorem exists_faulty_iff : (∃ fault, Faulty s fault) ↔ ¬Proper s := by
  constructor
  · rintro ⟨fault, hfaulty⟩ hproper
    have hfault := hfaulty.fault?_eq
    rw [hproper.fault?_eq] at hfault
    cases hfault
  · exact (proper_or_faulty s).resolve_left

/-- The proper texts all make a name. -/
theorem exists_name_iff : (∃ name, ofString s = .ok name ∧ toString name = s) ↔ Proper s := by
  constructor
  · rintro ⟨name, hname, -⟩
    exact (ofString_eq_ok_iff.mp hname).1
  · intro h
    cases hs : ofString s with
    | ok name => exact ⟨name, rfl, (ofString_eq_ok_iff.mp hs).2⟩
    | error fault => exact absurd h (exists_faulty_iff.mp ⟨fault, ofString_eq_error_iff.mp hs⟩)

end BucketName

/-! ### Requests that name a bucket -/

namespace Backend

variable {b : Backend} {v : Volume} {path s : String} {fault : NameFault}

/-- Making a name known fails only where the bucket's table cannot be read. -/
theorem table_of_ensure_fill {r : Registry} {store : Store} {name : String} {e : StoreError}
    (h : r.ensure name (fill store name) = .error e) : ∃ fault, e = .table fault := by
  simp only [Registry.ensure, fill_working] at h
  split at h
  · cases h
  · cases hd : store.bucketD name with
    | error fault =>
        rw [hd] at h
        cases h
        exact ⟨fault, rfl⟩
    | ok table =>
        rw [hd] at h
        cases h

/-- A switch to a faulty text fails with its fault and leaves the backend as it was. -/
theorem switch_of_faulty (b : Backend) (h : BucketName.Faulty s fault) :
    b.switch s = (.error (.invalidBucketName fault), b) := by
  simp only [switch, BucketName.ofString_eq_error_iff.mpr h]

/-- **A switch refuses the faulty texts** as names, and no others. -/
theorem switch_invalid_iff :
    (b.switch s).1 = .error (.invalidBucketName fault) ↔ BucketName.Faulty s fault := by
  constructor
  · intro h
    obtain ⟨fault', hname, hend⟩ | ⟨_, e, -, hens, hend⟩ | ⟨_, _, -, -, hend⟩ := b.switch_cases s
    · rw [hend] at h
      cases h
      exact BucketName.ofString_eq_error_iff.mp hname
    · obtain ⟨fault', rfl⟩ := table_of_ensure_fill hens
      rw [hend] at h
      cases h
    · rw [hend] at h
      cases h
  · intro h
    rw [b.switch_of_faulty h]

/-- Providing a bucket under a faulty text fails with its fault and leaves the volume as it was. -/
theorem createBucket_of_faulty (v : Volume) (path : String) (h : BucketName.Faulty s fault) :
    createBucket v path s = (.error (.invalidBucketName fault), v) := by
  simp only [createBucket, BucketName.ofString_eq_error_iff.mpr h]

/-- **Providing a bucket refuses the faulty texts** as names, and no others. -/
theorem createBucket_invalid_iff :
    (createBucket v path s).1 = .error (.invalidBucketName fault) ↔ BucketName.Faulty s fault := by
  constructor
  · intro h
    have hcreation := creation v path s
    generalize createBucket v path s = outcome at h hcreation
    cases hcreation with
    | badName hname =>
        cases h
        exact BucketName.ofString_eq_error_iff.mp hname
    | noParents _ _ => cases h
    | unopenable _ _ _ => cases h
    | foreign _ _ _ _ => cases h
    | provided _ _ _ _ => cases h
  · intro h
    rw [createBucket_of_faulty v path h]

end Backend

namespace BucketName

/-- **The language of bucket names.** A text is a name exactly if it is proper, and the name shows as
the text itself; the length may be told in bytes as well. A text that is not proper is faulty, and
the check reports its fault. Switches and the provision of buckets refuse as names exactly the faulty
texts, with the fault of each, and then they leave the backend and the volume as they were. -/
theorem name_language (s : String) :
    (∀ name, ofString s = .ok name ↔ Proper s ∧ toString name = s) ∧
    ((∃ name, ofString s = .ok name ∧ toString name = s) ↔ Proper s) ∧
    (Proper s ↔ Spelled s ∧ s.utf8ByteSize ≤ 64) ∧
    ((∃ fault, Faulty s fault) ↔ ¬Proper s) ∧
    ∀ fault,
      (ofString s = .error fault ↔ Faulty s fault) ∧
      (∀ b : Backend,
        ((b.switch s).1 = .error (.invalidBucketName fault) ↔ Faulty s fault) ∧
        (b.switch s = (.error (.invalidBucketName fault), b) ↔ Faulty s fault)) ∧
      ∀ v path,
        ((Backend.createBucket v path s).1 = .error (.invalidBucketName fault) ↔ Faulty s fault) ∧
        (Backend.createBucket v path s = (.error (.invalidBucketName fault), v) ↔
          Faulty s fault) := by
  refine ⟨fun _ => ofString_eq_ok_iff, exists_name_iff, proper_iff_bytes, exists_faulty_iff,
    fun fault => ⟨ofString_eq_error_iff, fun b => ⟨Backend.switch_invalid_iff, ?_⟩,
      fun v path => ⟨Backend.createBucket_invalid_iff, ?_⟩⟩⟩
  · constructor
    · exact fun h => Backend.switch_invalid_iff.mp (congrArg Prod.fst h)
    · exact b.switch_of_faulty
  · constructor
    · exact fun h => Backend.createBucket_invalid_iff.mp (congrArg Prod.fst h)
    · exact Backend.createBucket_of_faulty v path

end BucketName

end BucketStore
