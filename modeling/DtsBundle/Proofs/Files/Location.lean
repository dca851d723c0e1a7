import DtsBundle.Files.System
import DtsBundle.Proofs.Text.Lines
/-!
# Where a path leads

A path that can be looked up leads to one place, whatever the files are: `Path.location` reads it off the text alone,
and **a look-up that succeeds ends there** (`location_of_locate`).  So two paths can be told apart before anything is
written, and a file in a directory stands at its name in the place of the directory (`location_join`).

Whether a look-up succeeds is a matter of the directories only: it does so still when they are all kept
(`locate_of_keepsDirectories`).
-/
namespace DtsBundle

namespace Path

/-- Where one part leads to: an empty part or a dot stays, two dots go to the parent. -/
def step (here : Location) (part : Text) : Location :=
  if part = [] ∨ part = ['.'] then here else if part = ['.', '.'] then here.tail else part :: here

/-- Where a path leads to from a directory, as far as its text can tell. -/
def location (here : Location) (path : Text) : Location :=
  (Text.fields '/' path).foldl step (if isAbsolute path then [] else here)

theorem step_of_name {here : Location} {name : Text} (h : name ∉ [[], ['.'], ['.', '.']]) :
    step here name = name :: here := by
  simp only [List.mem_cons, List.not_mem_nil, or_false, not_or] at h
  obtain ⟨h0, h1, h2⟩ := h
  rw [step, if_neg (by simp [h0, h1]), if_neg h2]

theorem isAbsolute_eq_false_of_not_mem {name : Text} (hs : '/' ∉ name) : isAbsolute name = false := by
  cases name with
  | nil => rfl
  | cons c rest =>
    have hc : c ≠ '/' := fun e => hs (by rw [e]; exact List.mem_cons_self)
    simpa [isAbsolute] using hc

/-- A name joined to a base is one part more, in place of the empty one that the base may end with. -/
theorem fields_join {base name : Text} (hs : '/' ∉ name) (hb : base ≠ []) :
    isAbsolute (join base name) = isAbsolute base ∧
      ∃ parts, Text.fields '/' (join base name) = parts ++ [name] ∧
        (Text.fields '/' base = parts ∨ Text.fields '/' base = parts ++ [[]]) := by
  have hrel : isAbsolute name = false := isAbsolute_eq_false_of_not_mem hs
  have hfield : Text.fields '/' name = [name] := Text.fields_of_not_mem hs
  -- with a base in front the text starts at the root just when the base does
  have habs : ∀ rest, isAbsolute (base ++ rest) = isAbsolute base := fun rest => by
    obtain ⟨c, t, rfl⟩ := List.exists_cons_of_ne_nil hb
    rfl
  by_cases hslash : base.getLast? = some '/'
  · obtain ⟨front, hfront⟩ := List.getLast?_eq_some_iff.1 hslash
    have hjoin : join base name = base ++ name := by simp [join, hrel, hb, hslash]
    refine ⟨by rw [hjoin, habs], Text.fields '/' front, ?_, .inr ?_⟩
    · rw [hjoin, hfront, List.append_assoc]
      exact (Text.fields_append_cons '/' front name).trans (by rw [hfield])
    · rw [hfront]
      exact Text.fields_append_cons '/' front []
  · have hjoin : join base name = base ++ '/' :: name := by simp [join, hrel, hb, hslash]
    refine ⟨by rw [hjoin, habs], Text.fields '/' base, ?_, .inl rfl⟩
    rw [hjoin, Text.fields_append_cons, hfield]

/-- **A name joined to a base stands where the base leads to.** -/
theorem location_join {here : Location} {base name : Text} (hs : '/' ∉ name) (hn : name ∉ [[], ['.'], ['.', '.']]) :
    location here (join base name) = name :: location here base := by
  by_cases hb : base = []
  · subst hb
    have hjoin : join [] name = name := by simp [join]
    have hfield : Text.fields '/' name = [name] := Text.fields_of_not_mem hs
    rw [hjoin, location, isAbsolute_eq_false_of_not_mem hs, hfield]
    exact step_of_name hn
  · obtain ⟨habs, parts, hjoin, hbase⟩ := fields_join hs hb
    rw [location, location, habs, hjoin, List.foldl_append, List.foldl_cons, List.foldl_nil, step_of_name hn]
    rcases hbase with hbase | hbase
    · rw [hbase]
    · rw [hbase, List.foldl_append]
      rfl
end Path

namespace FileSystem

/-- Every directory of one system is a directory of another. -/
def KeepsDirectories (fs other : FileSystem) : Prop :=
  ∀ location, fs.get? location = some .directory → other.get? location = some .directory

theorem KeepsDirectories.trans {a b c : FileSystem} (hab : KeepsDirectories a b) (hbc : KeepsDirectories b c) :
    KeepsDirectories a c :=
  fun l h => hbc l (hab l h)

theorem walk_cons_eq_ok_iff {fs : FileSystem} {here location : Location} {part : Text} {parts : List Text} :
    fs.walk here (part :: parts) = .ok location ↔
      fs.get? here = some .directory ∧ Text.byteCount part ≤ maxName ∧
        fs.walk (Path.step here part) parts = .ok location := by
  rw [walk]
  cases hget : fs.get? here with
  | none => simp
  | some entry =>
    cases entry with
    | file content => simp
    | directory =>
      simp only [true_and]
      by_cases hdot : part = [] ∨ part = ['.']
      · have hlen : Text.byteCount part ≤ maxName := by rcases hdot with rfl | rfl <;> decide
        rw [if_pos hdot, Path.step, if_pos hdot]
        simp [hlen]
      · rw [if_neg hdot, Path.step, if_neg hdot]
        by_cases hup : part = ['.', '.']
        · have hlen : Text.byteCount part ≤ maxName := by rw [hup]; decide
          rw [if_pos hup, if_pos hup]
          simp [hlen]
        · rw [if_neg hup, if_neg hup]
          by_cases hlen : maxName < Text.byteCount part
          · rw [if_pos hlen]
            simp [Nat.not_le.2 hlen]
          · rw [if_neg hlen]
            simp [Nat.not_lt.1 hlen]

theorem walk_eq_foldl {fs : FileSystem} : ∀ {parts : List Text} {here location : Location},
    fs.walk here parts = .ok location → location = parts.foldl Path.step here
  | [], here, location, h => by
    simpa [walk] using h.symm
  | part :: parts, here, location, h => by
    obtain ⟨-, -, hrest⟩ := walk_cons_eq_ok_iff.1 h
    rw [List.foldl_cons]
    exact walk_eq_foldl hrest

theorem walk_of_keepsDirectories {fs other : FileSystem} (hk : KeepsDirectories fs other) :
    ∀ {parts : List Text} {here location : Location},
      fs.walk here parts = .ok location → other.walk here parts = .ok location
  | [], here, location, h => by
    simpa [walk] using h
  | part :: parts, here, location, h => by
    obtain ⟨hd, hlen, hrest⟩ := walk_cons_eq_ok_iff.1 h
    exact walk_cons_eq_ok_iff.2 ⟨hk here hd, hlen, walk_of_keepsDirectories hk hrest⟩

theorem locate_eq_ok_iff {fs : FileSystem} {here location : Location} {path : Text} :
    fs.locate here path = .ok location ↔
      path.contains '\x00' = false ∧ path ≠ [] ∧ Text.byteCount path ≤ maxPath ∧
        fs.walk (if Path.isAbsolute path then [] else here) (Text.fields '/' path) = .ok location := by
  rw [locate]
  split
  · rename_i h
    have hnul : '\x00' ∈ path := by simpa using h
    simp [hnul]
  · rename_i h
    have hnul : path.contains '\x00' = false := by simpa using h
    simp only [hnul, true_and]
    split
    · rename_i hempty
      simp [hempty]
    · rename_i hempty
      split
      · rename_i hlong
        simp [Nat.not_le.2 hlong]
      · rename_i hlong
        simp [hempty, Nat.not_lt.1 hlong]

/-- **A look-up that succeeds ends where the path leads.** -/
theorem location_of_locate {fs : FileSystem} {here location : Location} {path : Text}
    (h : fs.locate here path = .ok location) : location = Path.location here path :=
  walk_eq_foldl (locate_eq_ok_iff.1 h).2.2.2

/-- **A look-up succeeds still when the directories are kept.** -/
theorem locate_of_keepsDirectories {fs other : FileSystem} {here location : Location} {path : Text}
    (hk : KeepsDirectories fs other) (h : fs.locate here path = .ok location) : other.locate here path = .ok location := by
  obtain ⟨hnul, hne, hlen, hwalk⟩ := locate_eq_ok_iff.1 h
  exact locate_eq_ok_iff.2 ⟨hnul, hne, hlen, walk_of_keepsDirectories hk hwalk⟩

end FileSystem
end DtsBundle
