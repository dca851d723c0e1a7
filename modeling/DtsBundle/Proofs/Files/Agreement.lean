import DtsBundle.Proofs.Files.Change
/-!
# Systems that agree but in some places

Two file systems can be the same everywhere but in a few places, where neither has a directory (`SameBut`).  A path that
does not lead through any of these is looked up alike in both, and if it does not lead to one either, the same is found
there: **what avoids the places cannot tell the two apart** (`readText_eq`, `directory_eq`).

A change by such a path is made in both or refused in both for the same cause, and they agree afterwards as they did
before; a place that was written is no longer one in which they differ (`write_cases`, `remove_cases`).
-/
namespace DtsBundle

namespace Path

/-- The places in which parts are looked up, one after the other. -/
def lookups : Location → List Text → List Location
  | _, [] => []
  | here, part :: parts => here :: lookups (step here part) parts

/-- The places a path leads through. -/
def way (here : Location) (path : Text) : List Location :=
  lookups (if isAbsolute path then [] else here) (Text.fields '/' path)

/-- A path leads neither through nor to any of some places. -/
structure Avoids (places : Location → Prop) (here : Location) (path : Text) : Prop where
  through : ∀ location ∈ way here path, ¬ places location
  endpoint : ¬ places (location here path)

theorem lookups_append (parts more : List Text) (here : Location) :
    lookups here (parts ++ more) = lookups here parts ++ lookups (parts.foldl step here) more := by
  induction parts generalizing here with
  | nil => rfl
  | cons part parts ih => rw [List.cons_append, lookups, lookups, ih, List.foldl_cons, List.cons_append]

/-- **A name joined to a base is looked up where the base leads to.** -/
theorem mem_way_join {here l : Location} {base name : Text} (hs : '/' ∉ name) (h : l ∈ way here (join base name)) :
    l ∈ way here base ∨ l = location here base := by
  by_cases hb : base = []
  · subst hb
    have hjoin : join [] name = name := by simp [join]
    rw [hjoin, way, isAbsolute_eq_false_of_not_mem hs, Text.fields_of_not_mem hs] at h
    exact .inr (List.mem_singleton.1 h)
  · obtain ⟨habs, parts, hjoin, hbase⟩ := fields_join hs hb
    rw [way, habs, hjoin, lookups_append, List.mem_append] at h
    rw [way, location]
    -- the name is looked up behind all the parts of the base but an empty last one, which stays where they lead to
    rcases hbase with hbase | hbase
    · rw [hbase]
      exact h.imp_right List.mem_singleton.1
    · rw [hbase, lookups_append]
      exact .inl (List.mem_append.2 h)

end Path

namespace FileSystem

/-- Two systems that differ in some places at most, and by no directory. -/
def SameBut (places : Location → Prop) (fs other : FileSystem) : Prop :=
  ∀ location, fs.get? location = other.get? location ∨
    places location ∧ fs.get? location ≠ some .directory ∧ other.get? location ≠ some .directory

variable {places : Location → Prop} {fs other third : FileSystem} {here : Location} {path : Text} {content : List UInt8}

theorem walk_cons (fs : FileSystem) (here : Location) (part : Text) (parts : List Text) :
    fs.walk here (part :: parts) =
      match fs.get? here with
      | none => .error .notFound
      | some (.file _) => .error .notDirectory
      | some .directory =>
        if maxName < Text.byteCount part then .error .nameTooLong else fs.walk (Path.step here part) parts := by
  rw [walk, Path.step]
  cases fs.get? here with
  | none => rfl
  | some entry =>
    cases entry with
    | file content => rfl
    | directory =>
      dsimp only
      by_cases hdot : part = [] ∨ part = ['.']
      · have hlen : ¬ maxName < Text.byteCount part := by rcases hdot with rfl | rfl <;> decide
        rw [if_pos hdot, if_neg hlen, if_pos hdot]
      · rw [if_neg hdot, if_neg hdot]
        by_cases hup : part = ['.', '.']
        · have hlen : ¬ maxName < Text.byteCount part := by rw [hup]; decide
          rw [if_pos hup, if_neg hlen, if_pos hup]
        · rw [if_neg hup, if_neg hup]

theorem write_eq_error_iff {fault : FileFault} :
    fs.write here path content = .error fault ↔
      fs.locate here path = .error fault ∨
        ∃ location, fs.locate here path = .ok location ∧ fs.get? location = some .directory ∧ fault = .isDirectory := by
  rw [write]
  cases fs.locate here path with
  | error fault' => simp
  | ok location =>
    dsimp only
    cases hget : fs.get? location with
    | none => simp [hget]
    | some entry => cases entry <;> simp [hget, eq_comm]

namespace SameBut

theorem refl (places : Location → Prop) (fs : FileSystem) : SameBut places fs fs :=
  fun _ => .inl rfl

theorem trans (h : SameBut places fs other) (h' : SameBut places other third) : SameBut places fs third := by
  intro location
  rcases h location with hsame | ⟨hplace, hfs, hother⟩
  · rw [hsame]
    exact h' location
  · rcases h' location with hsame | ⟨-, -, hthird⟩
    · exact .inr ⟨hplace, hfs, fun hdir => hother (hsame.trans hdir)⟩
    · exact .inr ⟨hplace, hfs, hthird⟩

theorem mono {more : Location → Prop} (h : SameBut places fs other) (hmore : ∀ location, places location → more location) :
    SameBut more fs other := by
  intro location
  rcases h location with hsame | ⟨hplace, hfs, hother⟩
  · exact .inl hsame
  · exact .inr ⟨hmore location hplace, hfs, hother⟩

theorem get?_eq (h : SameBut places fs other) {location : Location} (hplace : ¬ places location) :
    fs.get? location = other.get? location :=
  (h location).resolve_right fun hdiffer => hplace hdiffer.1

theorem directory_iff (h : SameBut places fs other) (location : Location) :
    fs.get? location = some .directory ↔ other.get? location = some .directory := by
  rcases h location with hsame | ⟨-, hfs, hother⟩
  · rw [hsame]
  · exact ⟨fun hdir => absurd hdir hfs, fun hdir => absurd hdir hother⟩

/-! ## What cannot tell them apart -/

theorem walk_eq (h : SameBut places fs other) {parts : List Text} {here : Location}
    (hlookups : ∀ location ∈ Path.lookups here parts, ¬ places location) :
    fs.walk here parts = other.walk here parts := by
  induction parts generalizing here with
  | nil => rfl
  | cons part parts ih =>
    rw [Path.lookups, List.forall_mem_cons] at hlookups
    rw [walk_cons, walk_cons, h.get?_eq hlookups.1, ih hlookups.2]

theorem locate_eq (h : SameBut places fs other) (hway : ∀ location ∈ Path.way here path, ¬ places location) :
    fs.locate here path = other.locate here path := by
  rw [locate, locate, h.walk_eq hway]

theorem read_eq (h : SameBut places fs other) (havoids : Path.Avoids places here path) :
    fs.read here path = other.read here path := by
  rw [read, read, h.locate_eq havoids.through]
  cases hlocate : other.locate here path with
  | error fault => rfl
  | ok location =>
    obtain rfl := location_of_locate hlocate
    simp only [h.get?_eq havoids.endpoint]

/-- **A path that avoids the places is read alike.** -/
theorem readText_eq (h : SameBut places fs other) (havoids : Path.Avoids places here path) :
    fs.readText here path = other.readText here path := by
  rw [readText, readText, h.read_eq havoids]

theorem directory_eq (h : SameBut places fs other) (havoids : Path.Avoids places here path) :
    fs.directory here path = other.directory here path := by
  rw [directory, directory, h.locate_eq havoids.through]
  cases hlocate : other.locate here path with
  | error fault => rfl
  | ok location =>
    obtain rfl := location_of_locate hlocate
    simp only [h.get?_eq havoids.endpoint]

/-! ## Changes in both -/

theorem set (h : SameBut places fs other) {location : Location} (hfs : fs.get? location ≠ some .directory)
    (entry : FileEntry) :
    SameBut (fun l => places l ∧ l ≠ location) (fs.set location entry) (other.set location entry) := by
  have hother : other.get? location ≠ some .directory := fun hdir => hfs ((h.directory_iff location).2 hdir)
  intro l
  by_cases hl : l = location
  · rw [hl, get?_set_self (ne_root_of_get? hfs), get?_set_self (ne_root_of_get? hother)]
    exact .inl rfl
  · rw [get?_set_of_ne hl, get?_set_of_ne hl]
    exact (h l).imp_right fun hdiffer => ⟨⟨hdiffer.1, hl⟩, hdiffer.2⟩

theorem erase (h : SameBut places fs other) {location : Location} (hfs : fs.get? location ≠ some .directory) :
    SameBut (fun l => places l ∧ l ≠ location) (fs.erase location) (other.erase location) := by
  have hother : other.get? location ≠ some .directory := fun hdir => hfs ((h.directory_iff location).2 hdir)
  intro l
  by_cases hl : l = location
  · rw [hl, get?_erase_self (ne_root_of_get? hfs), get?_erase_self (ne_root_of_get? hother)]
    exact .inl rfl
  · rw [get?_erase_of_ne hl, get?_erase_of_ne hl]
    exact (h l).imp_right fun hdiffer => ⟨⟨hdiffer.1, hl⟩, hdiffer.2⟩

theorem write_of_ok {written : FileSystem} (h : SameBut places fs other)
    (hway : ∀ location ∈ Path.way here path, ¬ places location) (hwrite : fs.write here path content = .ok written) :
    ∃ written', other.write here path content = .ok written' ∧
      SameBut (fun l => places l ∧ l ≠ Path.location here path) written written' := by
  obtain ⟨hlocate, hdir, rfl⟩ := write_eq_ok_iff.1 hwrite
  rw [h.locate_eq hway] at hlocate
  exact ⟨_, write_eq_ok_iff.2 ⟨hlocate, fun hdir' => hdir ((h.directory_iff _).2 hdir'), rfl⟩, h.set hdir _⟩

theorem write_of_error {fault : FileFault} (h : SameBut places fs other)
    (hway : ∀ location ∈ Path.way here path, ¬ places location) (hwrite : fs.write here path content = .error fault) :
    other.write here path content = .error fault := by
  rcases write_eq_error_iff.1 hwrite with hlocate | ⟨location, hlocate, hdir, rfl⟩
  · rw [h.locate_eq hway] at hlocate
    exact write_eq_error_iff.2 (.inl hlocate)
  · rw [h.locate_eq hway] at hlocate
    exact write_eq_error_iff.2 (.inr ⟨location, hlocate, (h.directory_iff location).1 hdir, rfl⟩)

theorem remove_of_ok {left : FileSystem} (h : SameBut places fs other) (havoids : Path.Avoids places here path)
    (hremove : fs.remove here path = .ok left) :
    ∃ left', other.remove here path = .ok left' ∧ SameBut (fun l => places l ∧ l ≠ Path.location here path) left left' := by
  obtain ⟨hlocate, ⟨content, hget⟩, rfl⟩ := remove_eq_ok_iff.1 hremove
  have hget' := hget
  rw [h.get?_eq havoids.endpoint] at hget'
  rw [h.locate_eq havoids.through] at hlocate
  exact ⟨_, remove_eq_ok_iff.2 ⟨hlocate, ⟨content, hget'⟩, rfl⟩, h.erase (ne_directory_of_file hget)⟩

theorem remove_of_error {fault : FileFault} (h : SameBut places fs other) (havoids : Path.Avoids places here path)
    (hremove : fs.remove here path = .error fault) : other.remove here path = .error fault := by
  rw [remove, h.locate_eq havoids.through] at hremove
  rw [remove]
  cases hlocate : other.locate here path with
  | error fault' =>
    rw [hlocate] at hremove
    exact hremove
  | ok location =>
    obtain rfl := location_of_locate hlocate
    rw [hlocate] at hremove
    simp only [h.get?_eq havoids.endpoint] at hremove
    dsimp only
    cases hget : other.get? (Path.location here path) with
    | none =>
      rw [hget] at hremove
      exact hremove
    | some entry =>
      rw [hget] at hremove
      cases entry with
      | directory => exact hremove
      | file content => cases hremove

end SameBut

/-! ## A change by itself -/

theorem sameBut_set {location : Location} (hplace : places location) (hdir : fs.get? location ≠ some .directory)
    (content : List UInt8) : SameBut places fs (fs.set location (.file content)) := by
  intro l
  by_cases hl : l = location
  · refine .inr ⟨hl ▸ hplace, hl ▸ hdir, ?_⟩
    rw [hl, get?_set_self (ne_root_of_get? hdir)]
    exact fun e => by cases e
  · exact .inl (get?_set_of_ne hl _).symm

theorem sameBut_of_write {written : FileSystem} (hplace : places (Path.location here path))
    (h : fs.write here path content = .ok written) : SameBut places fs written := by
  obtain ⟨-, hdir, rfl⟩ := write_eq_ok_iff.1 h
  exact sameBut_set hplace hdir content

theorem sameBut_of_remove {left : FileSystem} (hplace : places (Path.location here path))
    (h : fs.remove here path = .ok left) : SameBut places fs left := by
  obtain ⟨-, ⟨content, hget⟩, rfl⟩ := remove_eq_ok_iff.1 h
  intro l
  by_cases hl : l = Path.location here path
  · refine .inr ⟨hl ▸ hplace, hl ▸ ne_directory_of_file hget, ?_⟩
    rw [hl, get?_erase_self (ne_root_of_file hget)]
    exact fun e => by cases e
  · exact .inl (get?_erase_of_ne hl).symm

end FileSystem
end DtsBundle
