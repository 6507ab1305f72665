/-
  CodeFigure/Proofs/Config/Discovery.lean
  =======================================
  **The file in use is the nearest one.**

  The directories above a directory are its prefixes, listed so that each comes
  after those below it (`pairwise_ancestors`).  Looking for the first one with a
  configuration file therefore finds the closest (`discover?_eq_some_iff`), and a
  farther one plays no part.  Which file is in use is settled in every case
  (`uses_iff`).
-/
import CodeFigure.Config.Sources

namespace CodeFigure.Config

/-! ### Directories above a directory -/

theorem mem_ancestors_iff {directory place : Path} :
    place ∈ ancestors directory ↔ place <+: directory := by
  unfold ancestors
  rw [List.mem_map]
  constructor
  · rintro ⟨up, -, rfl⟩
    exact List.take_prefix _ _
  · intro hplace
    have hlength := hplace.length_le
    refine ⟨directory.length - place.length, List.mem_range.mpr (by omega), ?_⟩
    rw [Nat.sub_sub_self hlength]
    exact (List.prefix_iff_eq_take.mp hplace).symm

theorem pairwise_ancestors (directory : Path) :
    (ancestors directory).Pairwise fun nearer farther => farther <+: nearer := by
  unfold ancestors
  rw [List.pairwise_map]
  apply List.pairwise_lt_range.imp
  intro up further hless
  exact List.take_prefix_take_left (by omega)

/-- The first directory that passes a test has all others that pass it above it. -/
theorem find?_ancestors_eq_some_iff {test : Path → Bool} {directory place : Path} :
    (ancestors directory).find? test = some place ↔
      place <+: directory ∧ test place = true ∧
        ∀ other, other <+: directory → test other = true → other <+: place := by
  have hnearest : ∀ {place}, (ancestors directory).find? test = some place →
      ∀ other, other <+: directory → test other = true → other <+: place := by
    intro place hfind other hother htest
    obtain ⟨-, front, back, hsplit, hfront⟩ := List.find?_eq_some_iff_append.mp hfind
    have hpairs := pairwise_ancestors directory
    rw [hsplit] at hpairs
    have hmem : other ∈ front ++ place :: back := hsplit ▸ mem_ancestors_iff.mpr hother
    rcases List.mem_append.mp hmem with hin | hin
    · have hfails := hfront other hin
      rw [htest] at hfails
      cases hfails
    · rcases List.mem_cons.mp hin with rfl | hin
      · exact List.prefix_rfl
      · exact (List.pairwise_cons.mp (List.pairwise_append.mp hpairs).2.1).1 other hin
  constructor
  · intro hfind
    exact ⟨mem_ancestors_iff.mp (List.mem_of_find?_eq_some hfind), List.find?_some hfind,
      hnearest hfind⟩
  · rintro ⟨hplace, htest, hall⟩
    obtain ⟨found, hfind⟩ := Option.isSome_iff_exists.mp
      (List.find?_isSome.mpr ⟨place, mem_ancestors_iff.mpr hplace, htest⟩)
    have hbelow := hnearest hfind place hplace htest
    have habove := hall found (mem_ancestors_iff.mp (List.mem_of_find?_eq_some hfind))
      (List.find?_some hfind)
    rw [hfind, habove.eq_of_length_le hbelow.length_le]

/-! ### The nearest file -/

variable {surroundings : Surroundings}

theorem find?_candidates (files : FileSystem) (directory : Path) :
    (candidates directory).find? files.has =
      ((ancestors directory).find? fun place => files.has (fileAt place)).map fileAt :=
  List.find?_map

theorem discover?_eq_some_iff {path : String} :
    discover? surroundings = some path ↔
      ∃ directory, surroundings.directory = some directory ∧
        IsNearest surroundings.files directory path := by
  unfold discover? IsNearest
  simp only [Option.bind_eq_some_iff, find?_candidates, Option.map_eq_some_iff,
    find?_ancestors_eq_some_iff]
  constructor
  · rintro ⟨directory, hdirectory, place, ⟨hplace, hhas, hall⟩, rfl⟩
    exact ⟨directory, hdirectory, place, hplace, rfl, hhas, hall⟩
  · rintro ⟨directory, hdirectory, place, hplace, rfl, hhas, hall⟩
    exact ⟨directory, hdirectory, place, ⟨hplace, hhas, hall⟩, rfl⟩

theorem discover?_eq_none_iff :
    discover? surroundings = none ↔
      ∀ directory ∈ surroundings.directory, ∀ place, place <+: directory →
        surroundings.files.has (fileAt place) = false := by
  unfold discover?
  simp only [Option.bind_eq_none_iff, find?_candidates, Option.map_eq_none_iff, List.find?_eq_none,
    mem_ancestors_iff, Bool.not_eq_true, Option.mem_def]

/-- **Which file is in use is settled**, and it is the one that loading looks for. -/
theorem uses_iff {asked used : Option String} :
    Uses surroundings asked used ↔ used = asked.or (discover? surroundings) := by
  constructor
  · rintro (_ | ⟨hdirectory, hnearest⟩ | hnone)
    · rfl
    · exact (discover?_eq_some_iff.mpr ⟨_, hdirectory, hnearest⟩).symm
    · exact (discover?_eq_none_iff.mpr hnone).symm
  · rintro rfl
    cases asked with
    | some path => exact .asked path
    | none =>
      cases hfound : discover? surroundings with
      | none => exact .nothing (discover?_eq_none_iff.mp hfound)
      | some path =>
        obtain ⟨directory, hdirectory, hnearest⟩ := discover?_eq_some_iff.mp hfound
        exact .nearest hdirectory hnearest

theorem Uses.unique {asked used other : Option String} (huses : Uses surroundings asked used)
    (hother : Uses surroundings asked other) : used = other :=
  (uses_iff.mp huses).trans (uses_iff.mp hother).symm

theorem has_of_discover? {path : String} (hfound : discover? surroundings = some path) :
    surroundings.files.has path = true := by
  obtain ⟨directory, -, place, -, -, hhas, -⟩ := discover?_eq_some_iff.mp hfound
  exact hhas

end CodeFigure.Config
