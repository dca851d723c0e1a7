import DtsBundle.Proofs.Files.Location
/-!
# What a change changes

Reading, writing and removing by path come down to looking at, setting and erasing one location, the one the path leads
to (`read_eq_ok_iff`, `write_eq_ok_iff`, `remove_eq_ok_iff`).  None of them touches a directory, so every path that
could be looked up still can, and **a file at another location is read as before** (`read_of_write`, `read_of_remove`).
-/
namespace DtsBundle.FileSystem

/-! ## One location -/

theorem lookup_filter_ne {l location : Location} (h : l ≠ location) : ∀ entries : List (Location × FileEntry),
    (entries.filter fun e => e.1 ≠ location).lookup l = entries.lookup l
  | [] => rfl
  | (other, entry) :: entries => by
    by_cases ho : other = location
    · have hl : (l == other) = false := by rw [ho]; simpa using h
      rw [List.filter_cons_of_neg (by simp [ho]), List.lookup_cons, hl, lookup_filter_ne h]
    · rw [List.filter_cons_of_pos (by simp [ho]), List.lookup_cons, List.lookup_cons, lookup_filter_ne h]

theorem lookup_filter_self (location : Location) (entries : List (Location × FileEntry)) :
    (entries.filter fun e => e.1 ≠ location).lookup location = none := by
  rw [List.lookup_eq_none_iff]
  intro e he
  have hne : e.1 ≠ location := by simpa using (List.mem_filter.1 he).2
  simpa using fun h => hne h.symm

theorem get?_set_self {fs : FileSystem} {location : Location} (h : location ≠ []) (entry : FileEntry) :
    (fs.set location entry).get? location = some entry := by
  cases location with
  | nil => exact absurd rfl h
  | cons name around => simp [get?, set]

theorem get?_set_of_ne {fs : FileSystem} {l location : Location} (h : l ≠ location) (entry : FileEntry) :
    (fs.set location entry).get? l = fs.get? l := by
  cases l with
  | nil => rfl
  | cons name around =>
    have hbeq : (name :: around == location) = false := by simpa using h
    rw [get?, set, List.lookup_cons, hbeq, lookup_filter_ne h, get?]
    all_goals exact fun e => by cases e

theorem get?_erase_self {fs : FileSystem} {location : Location} (h : location ≠ []) :
    (fs.erase location).get? location = none := by
  cases location with
  | nil => exact absurd rfl h
  | cons name around => exact lookup_filter_self _ _

theorem get?_erase_of_ne {fs : FileSystem} {l location : Location} (h : l ≠ location) :
    (fs.erase location).get? l = fs.get? l := by
  cases l with
  | nil => rfl
  | cons name around => exact lookup_filter_ne h _

theorem ne_root_of_get? {fs : FileSystem} {location : Location} (h : fs.get? location ≠ some .directory) :
    location ≠ [] :=
  fun e => h (by rw [e]; rfl)

theorem ne_directory_of_file {fs : FileSystem} {location : Location} {content : List UInt8}
    (h : fs.get? location = some (.file content)) : fs.get? location ≠ some .directory := by
  rw [h]
  exact fun e => by cases e

theorem ne_root_of_file {fs : FileSystem} {location : Location} {content : List UInt8}
    (h : fs.get? location = some (.file content)) : location ≠ [] :=
  ne_root_of_get? (ne_directory_of_file h)

theorem keepsDirectories_set {fs : FileSystem} {location : Location} (h : fs.get? location ≠ some .directory)
    (entry : FileEntry) : KeepsDirectories fs (fs.set location entry) := by
  intro l hl
  have hne : l ≠ location := fun e => h (by rw [← e, hl])
  rwa [get?_set_of_ne hne]

theorem keepsDirectories_erase {fs : FileSystem} {location : Location} (h : fs.get? location ≠ some .directory) :
    KeepsDirectories fs (fs.erase location) := by
  intro l hl
  have hne : l ≠ location := fun e => h (by rw [← e, hl])
  rwa [get?_erase_of_ne hne]

theorem keepsDirectories_of_erase {fs : FileSystem} {location : Location} (h : fs.get? location ≠ some .directory) :
    KeepsDirectories (fs.erase location) fs := by
  intro l hl
  by_cases he : l = location
  · rw [he, get?_erase_self (ne_root_of_get? h)] at hl
    cases hl
  · rwa [get?_erase_of_ne he] at hl

/-! ## By path -/

theorem read_eq_ok_iff {fs : FileSystem} {here : Location} {path : Text} {content : List UInt8} :
    fs.read here path = .ok content ↔
      fs.locate here path = .ok (Path.location here path) ∧ fs.get? (Path.location here path) = some (.file content) := by
  rw [read]
  cases hl : fs.locate here path with
  | error fault => simp
  | ok location =>
    obtain rfl := location_of_locate hl
    dsimp only
    cases hg : fs.get? (Path.location here path) with
    | none => simp
    | some entry => cases entry <;> simp

theorem write_eq_ok_iff {fs written : FileSystem} {here : Location} {path : Text} {content : List UInt8} :
    fs.write here path content = .ok written ↔
      fs.locate here path = .ok (Path.location here path) ∧ fs.get? (Path.location here path) ≠ some .directory ∧
        written = fs.set (Path.location here path) (.file content) := by
  rw [write]
  cases hl : fs.locate here path with
  | error fault => simp
  | ok location =>
    obtain rfl := location_of_locate hl
    dsimp only
    cases hg : fs.get? (Path.location here path) with
    | none => simp [eq_comm]
    | some entry => cases entry <;> simp [eq_comm]

theorem remove_eq_ok_iff {fs left : FileSystem} {here : Location} {path : Text} :
    fs.remove here path = .ok left ↔
      fs.locate here path = .ok (Path.location here path) ∧
        (∃ content, fs.get? (Path.location here path) = some (.file content)) ∧
          left = fs.erase (Path.location here path) := by
  rw [remove]
  cases hl : fs.locate here path with
  | error fault => simp
  | ok location =>
    obtain rfl := location_of_locate hl
    dsimp only
    cases hg : fs.get? (Path.location here path) with
    | none => simp
    | some entry => cases entry <;> simp [eq_comm]

theorem readText_eq_ok_iff {fs : FileSystem} {here : Location} {path text : Text} :
    fs.readText here path = .ok text ↔ ∃ content, fs.read here path = .ok content ∧ Text.ofUtf8? content = some text := by
  rw [readText]
  cases hr : fs.read here path with
  | error fault => simp
  | ok content => cases hu : Text.ofUtf8? content <;> simp [hu]

/-- What is read depends on the directories and on what is at the place the path leads to. -/
theorem read_of_keepsDirectories {fs other : FileSystem} {here : Location} {path : Text} {content : List UInt8}
    (hk : KeepsDirectories fs other)
    (hget : other.get? (Path.location here path) = fs.get? (Path.location here path))
    (h : fs.read here path = .ok content) : other.read here path = .ok content := by
  obtain ⟨hl, hg⟩ := read_eq_ok_iff.1 h
  exact read_eq_ok_iff.2 ⟨locate_of_keepsDirectories hk hl, hget.trans hg⟩

theorem keepsDirectories_of_write {fs written : FileSystem} {here : Location} {path : Text} {content : List UInt8}
    (h : fs.write here path content = .ok written) : KeepsDirectories fs written := by
  obtain ⟨-, hd, rfl⟩ := write_eq_ok_iff.1 h
  exact keepsDirectories_set hd _

theorem keepsDirectories_of_remove {fs left : FileSystem} {here : Location} {path : Text}
    (h : fs.remove here path = .ok left) : KeepsDirectories fs left := by
  obtain ⟨-, ⟨content, hg⟩, rfl⟩ := remove_eq_ok_iff.1 h
  exact keepsDirectories_erase (ne_directory_of_file hg)

theorem keepsDirectories_before_remove {fs left : FileSystem} {here : Location} {path : Text}
    (h : fs.remove here path = .ok left) : KeepsDirectories left fs := by
  obtain ⟨-, ⟨content, hg⟩, rfl⟩ := remove_eq_ok_iff.1 h
  exact keepsDirectories_of_erase (ne_directory_of_file hg)

/-- Whether a path can be written is a matter of the directories alone. -/
theorem write_of_sameDirectories {fs other written : FileSystem} {here : Location} {path : Text} {content : List UInt8}
    (hto : KeepsDirectories fs other) (hfrom : KeepsDirectories other fs) (h : fs.write here path content = .ok written) :
    ∃ done, other.write here path content = .ok done := by
  obtain ⟨hl, hd, -⟩ := write_eq_ok_iff.1 h
  exact ⟨_, write_eq_ok_iff.2 ⟨locate_of_keepsDirectories hto hl, fun hdir => hd (hfrom _ hdir), rfl⟩⟩

/-- A file that was removed can be written again. -/
theorem write_of_removed {fs left : FileSystem} {here : Location} {path : Text} (h : fs.remove here path = .ok left)
    (content : List UInt8) : ∃ written, left.write here path content = .ok written := by
  have hk := keepsDirectories_of_remove h
  obtain ⟨hlocate, ⟨_, hget⟩, rfl⟩ := remove_eq_ok_iff.1 h
  refine ⟨_, write_eq_ok_iff.2 ⟨locate_of_keepsDirectories hk hlocate, ?_, rfl⟩⟩
  rw [get?_erase_self (ne_root_of_file hget)]
  exact fun e => by cases e

/-- What was written is read. -/
theorem read_written {fs written : FileSystem} {here : Location} {path : Text} {content : List UInt8}
    (h : fs.write here path content = .ok written) : written.read here path = .ok content := by
  have hk := keepsDirectories_of_write h
  obtain ⟨hl, hd, rfl⟩ := write_eq_ok_iff.1 h
  exact read_eq_ok_iff.2 ⟨locate_of_keepsDirectories hk hl, get?_set_self (ne_root_of_get? hd) _⟩

theorem get?_of_write {fs written : FileSystem} {here location : Location} {path : Text} {content : List UInt8}
    (h : fs.write here path content = .ok written) (hne : location ≠ Path.location here path) :
    written.get? location = fs.get? location := by
  obtain ⟨-, -, rfl⟩ := write_eq_ok_iff.1 h
  exact get?_set_of_ne hne _

/-- **Writing one file leaves every other as it was.** -/
theorem read_of_write {fs written : FileSystem} {here there : Location} {path other : Text} {content kept : List UInt8}
    (h : fs.write there path content = .ok written) (hne : Path.location here other ≠ Path.location there path)
    (hr : fs.read here other = .ok kept) : written.read here other = .ok kept := by
  have hk := keepsDirectories_of_write h
  obtain ⟨-, -, rfl⟩ := write_eq_ok_iff.1 h
  exact read_of_keepsDirectories hk (get?_set_of_ne hne _) hr

/-- **Removing one file leaves every other as it was.** -/
theorem read_of_remove {fs left : FileSystem} {here there : Location} {path other : Text} {kept : List UInt8}
    (h : fs.remove there path = .ok left) (hne : Path.location here other ≠ Path.location there path)
    (hr : fs.read here other = .ok kept) : left.read here other = .ok kept := by
  have hk := keepsDirectories_of_remove h
  obtain ⟨-, -, rfl⟩ := remove_eq_ok_iff.1 h
  exact read_of_keepsDirectories hk (get?_erase_of_ne hne) hr

end DtsBundle.FileSystem
