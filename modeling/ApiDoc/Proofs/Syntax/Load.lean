import ApiDoc.CommandLine.Run
import ApiDoc.Proofs.Json.Halves
import ApiDoc.Proofs.Traversal

/-!
# Faults in loading that are not reported

Loading a dump ends with a tree, with a fault that is reported, or with one of three that are not (`Unreported`): a path with a null character, bytes that are no text, and a whole number with too many digits. Which it is can be told from the path and from what stands in the file (`exists_unreported_iff`).

Texts with half a pair on its own stand apart (`StopsAtHalf`): no string holds it, so nothing is said about what comes of them but that an escape spells it (`StopsAtHalf.spelled`).
-/

namespace ApiDoc

/-! ### Paths -/

namespace Storage

theorem mem_splitSlashes {c : Char} (hc : c ≠ '/') {text : List Char} :
    c ∈ text ↔ ∃ name ∈ splitSlashes text, c ∈ name := by
  induction text with
  | nil => simp [splitSlashes]
  | cons d text ih =>
    rw [List.mem_cons, ih, splitSlashes]
    by_cases hd : d = '/'
    · simp [hd, hc]
    · simp only [beq_iff_eq, hd, ↓reduceIte]
      cases splitSlashes text with
      | nil => simp
      | cons name rest => simp [or_assoc]

theorem null_mem_iff (path : String) :
    (Path.ofString path).names.any (fun name => name.toList.contains '\x00') = true ↔ '\x00' ∈ path.toList := by
  rw [mem_splitSlashes (by decide)]
  simp only [Path.ofString, List.any_map, List.any_filter, List.any_eq_true]
  refine exists_congr fun name => and_congr_right fun _ => ?_
  simp only [Function.comp, String.toList_ofList, Bool.and_eq_true, List.contains_iff_mem]
  refine ⟨fun h => h.2, fun h => ⟨⟨?_, ?_⟩, h⟩⟩
  · cases name with
    | nil => simp at h
    | cons => rfl
  · rw [bne_iff_ne]
    rintro rfl
    simp at h

theorem step_ne_nullByte {files : Files} {place : Path} {name : String} : files.step place name ≠ .error .nullByte := by
  rw [Files.step]
  split
  · simp
  · simp
  · split
    · simp
    · split <;> simp

theorem foldlM_step_ne_nullByte {files : Files} (names : List String) (place : Path) :
    names.foldlM files.step place ≠ .error .nullByte := by
  induction names generalizing place with
  | nil => simp [pure, Except.pure]
  | cons name names ih =>
    rw [List.foldlM_cons]
    cases hstep : files.step place name with
    | error fault =>
      intro h
      obtain rfl := Except.error.inj h
      exact step_ne_nullByte hstep
    | ok next => exact ih next

/-- Reading fails because of a null character exactly when the path holds one. -/
theorem fault_of_read {files : Files} {path : String} {e : FileError} (h : files.read path = .error e) :
    e.fault = .nullByte ↔ '\x00' ∈ path.toList := by
  rw [← null_mem_iff]
  have hlocate : files.locate (Path.ofString path) = .error .nullByte ↔
      (Path.ofString path).names.any (fun name => name.toList.contains '\x00') = true := by
    rw [Files.locate]
    split
    · simp_all
    · split
      · simp_all
      · simp_all [foldlM_step_ne_nullByte]
  rw [← hlocate]
  rw [Files.read] at h
  split at h
  · rename_i fault hfault
    obtain rfl := Except.error.inj h
    simp [hfault]
  · rename_i place hplace
    rw [hplace]
    split at h
    · cases h
    · obtain rfl := Except.error.inj h
      simp
    · obtain rfl := Except.error.inj h
      simp

theorem read_of_null {files : Files} {path : String} (h : '\x00' ∈ path.toList) : ∃ e, files.read path = .error e := by
  have hlocate : files.locate (Path.ofString path) = .error .nullByte := by
    rw [Files.locate, if_pos ((null_mem_iff path).mpr h)]
  exact ⟨_, by rw [Files.read, hlocate]⟩

end Storage

/-! ### Dumps -/

namespace Syntax

open CommandLine (isReported)

/-- What keeps a dump from being loaded without being reported. -/
inductive Unreported (files : Storage.Files) (path : String) : Prop
  /-- The path holds a null character. -/
  | nullByte (h : '\x00' ∈ path.toList)
  /-- The file is no text. -/
  | undecodable {bytes : List UInt8} {e : Text.Utf8Error} (hread : files.read path = .ok bytes)
      (h : Text.decode bytes = .error e)
  /-- Reading the text stops at a whole number with too many digits. -/
  | digits {bytes : List UInt8} {text : List Char} {e : Number.TooManyDigits} (hread : files.read path = .ok bytes)
      (htext : Text.decode bytes = .ok text) (h : Json.parse text = .error (.digits e))

/-- Reading the text of the file stops at half a pair on its own. -/
def StopsAtHalf (files : Storage.Files) (path : String) : Prop :=
  ∃ bytes text spot, files.read path = .ok bytes ∧ Text.decode bytes = .ok text
    ∧ Json.parse text = .error (.malformed .loneHalf spot)

theorem StopsAtHalf.spelled {files : Storage.Files} {path : String} (h : StopsAtHalf files path) :
    ∃ bytes text, files.read path = .ok bytes ∧ Text.decode bytes = .ok text ∧ Json.SpellsHalf text := by
  obtain ⟨bytes, text, spot, hread, htext, hparse⟩ := h
  exact ⟨bytes, text, hread, htext, Json.spellsHalf_of_parse hparse⟩

theorem load_of_read {files : Storage.Files} {path : String} {bytes : List UInt8} (h : files.read path = .ok bytes) :
    load files path = SourceTree.ofBytes path bytes := by
  rw [load, h]
  rfl

theorem load_of_read_error {files : Storage.Files} {path : String} {e : Storage.FileError} (h : files.read path = .error e) :
    load files path = .error (.unavailable path e) := by
  rw [load, h]
  rfl

theorem load_of_parse {files : Storage.Files} {path : String} {bytes : List UInt8} {text : List Char} {j : Json}
    (hread : files.read path = .ok bytes) (htext : Text.decode bytes = .ok text) (hparse : Json.parse text = .ok j) :
    load files path = (SourceTree.ofJson (some path) j).mapError .notAList := by
  simp only [load_of_read hread, SourceTree.ofBytes, htext, parseDump, hparse, Except.mapError, bind, Except.bind]

theorem exists_ofBytes_unreported_iff {path : String} {bytes : List UInt8} :
    (∃ e, SourceTree.ofBytes path bytes = .error e ∧ isReported e = false) ↔
      (∃ e, Text.decode bytes = .error e) ∨ ∃ text, Text.decode bytes = .ok text
        ∧ ((∃ e, Json.parse text = .error (.digits e)) ∨ ∃ spot, Json.parse text = .error (.malformed .loneHalf spot)) := by
  rw [SourceTree.ofBytes]
  cases htext : Text.decode bytes with
  | error e => simp [Except.mapError, bind, Except.bind, isReported]
  | ok text =>
    cases hparse : Json.parse text with
    | error e => cases e <;> simp [Except.mapError, bind, Except.bind, parseDump, hparse, isReported]
    | ok j =>
      cases htree : SourceTree.ofJson (some path) j <;>
        simp [Except.mapError, bind, Except.bind, parseDump, hparse, htree, isReported]

/-- **The faults that are not reported.** -/
theorem exists_unreported_iff {files : Storage.Files} {path : String} :
    (∃ e, load files path = .error e ∧ isReported e = false) ↔ Unreported files path ∨ StopsAtHalf files path := by
  cases hread : files.read path with
  | error e =>
    have hfault := Storage.fault_of_read hread
    rw [load_of_read_error hread]
    constructor
    · rintro ⟨_, h, hreported⟩
      obtain rfl := Except.error.inj h
      exact .inl (.nullByte (hfault.mp (by simpa [isReported] using hreported)))
    · rintro ((hnull | ⟨hread', -⟩ | ⟨hread', -, -⟩) | ⟨_, _, _, hread', -⟩)
      · exact ⟨_, rfl, by simpa [isReported] using hfault.mpr hnull⟩
      · simp [hread] at hread'
      · simp [hread] at hread'
      · simp [hread] at hread'
  | ok bytes =>
    have hnull : '\x00' ∉ path.toList := by
      intro hnull
      obtain ⟨e, he⟩ := @Storage.read_of_null files path hnull
      simp [hread] at he
    rw [load_of_read hread, exists_ofBytes_unreported_iff]
    constructor
    · rintro (⟨e, he⟩ | ⟨text, htext, ⟨e, he⟩ | ⟨spot, he⟩⟩)
      · exact .inl (.undecodable hread he)
      · exact .inl (.digits hread htext he)
      · exact .inr ⟨bytes, text, spot, hread, htext, he⟩
    · rintro ((h | ⟨hread', h⟩ | ⟨hread', htext, h⟩) | ⟨_, text, spot, hread', htext, h⟩)
      · exact absurd h hnull
      · obtain rfl := Except.ok.inj (hread.symm.trans hread')
        exact .inl ⟨_, h⟩
      · obtain rfl := Except.ok.inj (hread.symm.trans hread')
        exact .inr ⟨_, htext, .inl ⟨_, h⟩⟩
      · obtain rfl := Except.ok.inj (hread.symm.trans hread')
        exact .inr ⟨text, htext, .inr ⟨spot, h⟩⟩

end Syntax

end ApiDoc
