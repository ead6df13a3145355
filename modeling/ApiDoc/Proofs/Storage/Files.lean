import Mathlib.Data.List.Basic
import ApiDoc.Proofs.Traversal
import ApiDoc.Storage.Files

/-!
# A written file can be read

What was written to a path is read from it again (`read_of_write`). The path still leads to the same place: the directories that it goes through are there as before, since a file is never put where a directory stands.
-/

namespace ApiDoc.Storage

variable {files files' : Files} {place : Path} {e : Entry}

theorem lookup_put_self (files : Files) (place : Path) (e : Entry) : (files.put place e).lookup place = some e := by
  have hnone : (files.filter fun f => f.1 != place).lookup place = none := by
    rw [List.lookup_eq_none_iff]
    intro f hf
    have hne : f.1 ≠ place := bne_iff_ne.mp (List.mem_filter.mp hf).2
    simpa using hne.symm
  rw [Files.put, List.lookup_append, hnone, Option.none_or, List.lookup_cons_self]

theorem lookup_put_of_ne {p : Path} (hne : p ≠ place) : (files.put place e).lookup p = files.lookup p := by
  have hother : (p == place) = false := beq_eq_false_iff_ne.mpr hne
  rw [Files.put, List.lookup_append, List.lookup_cons, hother, List.lookup_nil, Option.or_none]
  induction files with
  | nil => rfl
  | cons f files ih =>
    obtain ⟨q, x⟩ := f
    by_cases hq : q = place
    · subst hq
      rw [List.filter_cons_of_neg (by simp), ih, List.lookup_cons, hother]
    · rw [List.filter_cons_of_pos (by simpa using hq), List.lookup_cons, List.lookup_cons, ih]

theorem entry?_put_of_directory {p : Path} (hp : files.entry? p = some .directory) (hne : p ≠ place) :
    Files.entry? (files.put place e) p = some .directory := by
  rw [ Files.entry?, lookup_put_of_ne hne]
  rw [ Files.entry?] at hp
  cases hlookup : files.lookup p with
  | some x => simpa [hlookup] using hp
  | none =>
    have hthere : (p.isBase || files.any fun f => f.1.isBelow p) = true := by
      by_contra hthere
      simp [hlookup, hthere] at hp
    have hstays : (p.isBase || (files.put place e).any fun f => f.1.isBelow p) = true := by
      rw [Bool.or_eq_true, List.any_eq_true] at hthere ⊢
      refine hthere.imp_right ?_
      rintro ⟨f, hf, hbelow⟩
      by_cases hplace : f.1 = place
      · exact ⟨(place, e), by simp [Files.put], hplace ▸ hbelow⟩
      · exact ⟨f, by simp [Files.put, hf, hplace], hbelow⟩
    simp only [hstays, ↓reduceIte]

theorem step_put {start next : Path} {name : String} (hplace : files.entry? place ≠ some .directory)
    (h : files.step start name = .ok next) : (files.put place e).step start name = .ok next := by
  rw [Files.step] at h ⊢
  split at h
  · cases h
  · cases h
  · rename_i hstart
    have hne : start ≠ place := by
      rintro rfl
      exact hplace hstart
    rw [entry?_put_of_directory hstart hne]
    exact h

/-- A way that leads somewhere leads there still after something was put where no directory stands. -/
theorem foldlM_step_put (hplace : files.entry? place ≠ some .directory) (names : List String) {start target : Path}
    (h : names.foldlM files.step start = .ok target) : names.foldlM (files.put place e).step start = .ok target := by
  induction names generalizing start with
  | nil => exact h
  | cons name names ih =>
    obtain ⟨next, hnext, hrest⟩ := bind_eq_ok_iff.mp h
    rw [List.foldlM_cons, step_put hplace hnext]
    exact ih hrest

theorem locate_put {path : Path} (hplace : files.entry? place ≠ some .directory) (h : files.locate path = .ok place) :
    (files.put place e).locate path = .ok place := by
  rw [Files.locate] at h ⊢
  split at h
  · cases h
  · split at h
    · cases h
    · rename_i hnull hlong
      rw [if_neg hnull, if_neg hlong]
      exact foldlM_step_put hplace path.names h

/-- **What was written to a path is read from it.** -/
theorem read_of_write {path : String} {bytes : List UInt8} (h : files.write path bytes = .ok files') :
    files'.read path = .ok bytes := by
  rw [Files.write] at h
  cases hlocate : files.locate (Path.ofString path) with
  | error fault => simp [hlocate] at h
  | ok place =>
    have hplace : files.entry? place ≠ some .directory := by
      intro hdirectory
      simp [hlocate, hdirectory] at h
    have hput : files' = files.put place (.file bytes) := by
      simp only [hlocate] at h
      exact (Except.ok.inj h).symm
    have hentry : files'.entry? place = some (.file bytes) := by
      rw [ Files.entry?, hput, lookup_put_self]
    rw [Files.read, hput, locate_put hplace hlocate, ← hput]
    simp only [hentry]

end ApiDoc.Storage
