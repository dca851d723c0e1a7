import DtsBundle.Host
import DtsBundle.Proofs.Files.Agreement
/-!
# Starting a program

A program is started in the place that the directory's path leads to, and it is what is installed where its own path leads
to from there (`installed_of_start`).  Only these two paths are looked up, so **a start cannot tell what is in places that
both of them avoid** (`start_eq`).
-/
namespace DtsBundle

open FileSystem (SameBut)

theorem FileSystem.location_of_directory {fs : FileSystem} {here inside : Location} {path : Text}
    (h : fs.directory here path = .ok inside) : inside = Path.location here path := by
  rw [directory] at h
  split at h
  · cases h
  rename_i location hlocate
  split at h
  · cases h
  · cases h
  · rw [← Except.ok.inj h]
    exact location_of_locate hlocate

namespace Host

variable {host : Host} {fs other : FileSystem} {directory program : Text} {arguments : List Text}

theorem installed_of_start {inside : Location} {compiler : Compiler}
    (h : host.start fs directory program arguments = .ok (inside, compiler)) :
    inside = Path.location host.here directory ∧
      host.installed (Path.location (Path.location host.here directory) program) = some compiler := by
  rw [start] at h
  split at h
  · cases h
  split at h
  · cases h
  rename_i found hdirectory
  obtain rfl := FileSystem.location_of_directory hdirectory
  split at h
  · cases h
  rename_i location hlocate
  obtain rfl := FileSystem.location_of_locate hlocate
  split at h
  · cases h
  · cases h
  split at h
  · cases h
  rename_i hinstalled
  obtain ⟨rfl, rfl⟩ := Prod.mk.inj (Except.ok.inj h)
  exact ⟨rfl, hinstalled⟩

theorem start_eq {places : Location → Prop} (h : SameBut places fs other)
    (hdirectory : Path.Avoids places host.here directory)
    (hprogram : Path.Avoids places (Path.location host.here directory) program) :
    host.start fs directory program arguments = host.start other directory program arguments := by
  rw [start, start, h.directory_eq hdirectory]
  split
  · rfl
  cases hfound : other.directory host.here directory with
  | error fault => rfl
  | ok inside =>
    obtain rfl := FileSystem.location_of_directory hfound
    simp only [h.locate_eq hprogram.through]
    cases hlocate : other.locate (Path.location host.here directory) program with
    | error fault => rfl
    | ok location =>
      obtain rfl := FileSystem.location_of_locate hlocate
      simp only [h.get?_eq hprogram.endpoint]

end Host
end DtsBundle
