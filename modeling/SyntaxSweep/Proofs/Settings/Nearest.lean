import SyntaxSweep.Machine.System
import SyntaxSweep.Proofs.Path.Above
import Mathlib.Data.List.Basic

namespace SyntaxSweep.Files

open SyntaxSweep.Path (Ascends)

variable {files : Files} {start p q d file : Path}

/-- The directory, at or above the start, has a settings file, and none that is passed on the way up
to it has one or is the top of a repository. -/
structure IsNearest (files : Files) (start d : Path) : Prop where
  ascends : start.Ascends d
  isFile : files.isFile (d.join settingsName)
  passed : ∀ e, start.Ascends e → e.Ascends d → e ≠ d →
    ¬files.isFile (e.join settingsName) ∧ ¬files.isPresent (e.join repositoryName)

theorem discover_of_top (h : p.parent? = none) : files.discover p =
    if files.isFile (p.join settingsName) then some (p.join settingsName) else none := by
  rw [discover, Path.selfAndAbove_of_top h, nearestSettings, nearestSettings]
  split
  · rfl
  · exact ite_self none

theorem discover_of_parent (h : p.isAbsolute) (hq : p.parent? = some q) : files.discover p =
    if files.isFile (p.join settingsName) then some (p.join settingsName)
    else if files.isPresent (p.join repositoryName) then none
    else files.discover q := by
  rw [discover, Path.selfAndAbove_of_parent h hq]
  rfl

theorem isNearest_self (h : p.isAbsolute) (hfile : files.isFile (p.join settingsName)) :
    files.IsNearest p p where
  ascends := .self p
  isFile := hfile
  passed _ he hback hne := absurd (he.antisymm hback h).symm hne

theorem isNearest_iff_of_file (h : p.isAbsolute) (hfile : files.isFile (p.join settingsName)) :
    files.IsNearest p d ↔ d = p := by
  constructor
  · intro hd
    by_contra hne
    exact (hd.passed p (.self p) hd.ascends (Ne.symm hne)).1 hfile
  · rintro rfl
    exact isNearest_self h hfile

/-- Without a settings file in a directory, the nearest is that of its parent, unless the directory is
the top of a repository. -/
theorem isNearest_iff_of_parent (h : p.isAbsolute) (hq : p.parent? = some q)
    (hfile : ¬files.isFile (p.join settingsName)) : files.IsNearest p d ↔
      ¬files.isPresent (p.join repositoryName) ∧ files.IsNearest q d := by
  constructor
  · rintro ⟨hascends, hisFile, hpassed⟩
    obtain rfl | habove := (Path.ascends_iff_of_parent hq).1 hascends
    · exact absurd hisFile hfile
    · have hp := hpassed p (.self p) hascends (habove.ne_of_parent h hq).symm
      exact ⟨hp.2, habove, hisFile, fun e he => hpassed e (.up hq he)⟩
  · rintro ⟨hrepository, hascends, hisFile, hpassed⟩
    refine ⟨.up hq hascends, hisFile, fun e he hback hne => ?_⟩
    obtain rfl | habove := (Path.ascends_iff_of_parent hq).1 he
    · exact ⟨hfile, hrepository⟩
    · exact hpassed e habove hback hne

theorem not_isNearest_of_top (hp : p.parent? = none) (hfile : ¬files.isFile (p.join settingsName)) :
    ¬files.IsNearest p d := by
  rintro ⟨hascends, hisFile, -⟩
  rw [(Path.ascends_iff_of_top hp).1 hascends] at hisFile
  exact hfile hisFile

theorem discover_eq_some_iff (h : start.isAbsolute) : files.discover start = some file ↔
    ∃ d, files.IsNearest start d ∧ file = d.join settingsName := by
  induction start, h using Path.induction_above with
  | top p h hp =>
    rw [discover_of_top hp]
    by_cases hfile : files.isFile (p.join settingsName)
    · simp only [hfile, if_true, isNearest_iff_of_file h hfile, exists_eq_left, Option.some.injEq]
      exact eq_comm
    · rw [if_neg hfile]
      refine ⟨nofun, ?_⟩
      rintro ⟨d, hd, -⟩
      exact absurd hd (not_isNearest_of_top hp hfile)
  | up p q h hq ih =>
    rw [discover_of_parent h hq]
    by_cases hfile : files.isFile (p.join settingsName)
    · simp only [hfile, if_true, isNearest_iff_of_file h hfile, exists_eq_left, Option.some.injEq]
      exact eq_comm
    · rw [if_neg hfile]
      simp only [isNearest_iff_of_parent h hq hfile]
      by_cases hrepository : files.isPresent (p.join repositoryName)
      · simp [hrepository]
      · rw [if_neg hrepository, ih]
        exact exists_congr fun d => and_congr_left fun _ => (and_iff_right hrepository).symm

theorem discover_eq_none_iff (h : start.isAbsolute) :
    files.discover start = none ↔ ∀ d, ¬files.IsNearest start d := by
  rw [Option.eq_none_iff_forall_ne_some]
  simp only [ne_eq, discover_eq_some_iff h, not_exists, not_and]
  exact ⟨fun hnone d hd => hnone _ d hd rfl, fun hnone file d hd _ => hnone d hd⟩

theorem discover_congr {other : Files} (hisFile : other.isFile = files.isFile)
    (hisPresent : other.isPresent = files.isPresent) (start : Path) :
    other.discover start = files.discover start := by
  rw [discover, discover]
  induction start.selfAndAbove with
  | nil => rfl
  | cons d above ih => rw [nearestSettings, nearestSettings, hisFile, hisPresent, ih]

theorem layerAt_congr {other : Files} (h : other.read file = files.read file) :
    other.layerAt file = files.layerAt file := by
  rw [layerAt, layerAt, h]

theorem layerFor_none_congr {other : Files} (h : other.discover start = files.discover start)
    (hread : ∀ file, files.discover start = some file → other.read file = files.read file) :
    other.layerFor none start = files.layerFor none start := by
  simp only [layerFor, h]
  cases hfile : files.discover start with
  | none => rfl
  | some file => exact layerAt_congr (hread file hfile)

theorem layerFor_some_congr {other : Files} (hisFile : other.isFile file = files.isFile file)
    (hread : other.read file = files.read file) (start start' : Path) :
    other.layerFor (some file) start' = files.layerFor (some file) start := by
  simp only [layerFor, hisFile, layerAt_congr hread]

/-- On the way up from a directory, which ends and passes one directory for every beginning of the
steps that lead to it, the first settings file is found that stands no higher than the top of a
repository; and the settings depend on that file alone, or on the one that is named. -/
theorem discover_nearest (files : Files) (h : start.isAbsolute) :
    (∀ file, files.discover start = some file ↔
        ∃ d, files.IsNearest start d ∧ file = d.join settingsName) ∧
      (files.discover start = none ↔ ∀ d, ¬files.IsNearest start d) ∧
      (∀ d, start.Ascends d → d.components <+: start.components ∧ d.bytes <+: start.bytes) ∧
      (∀ steps, steps ≠ [] → steps <+: start.components →
        ∃! d, start.Ascends d ∧ d.components = steps) ∧
      (∀ d q, start.Ascends d → d.parent? = some q → q.bytes.length < d.bytes.length) ∧
      (∀ other : Files, other.discover start = files.discover start →
        (∀ file, files.discover start = some file → other.read file = files.read file) →
        other.layerFor none start = files.layerFor none start) ∧
      ∀ (other : Files) named start', other.isFile named = files.isFile named →
        other.read named = files.read named →
        other.layerFor (some named) start' = files.layerFor (some named) start := by
  refine ⟨fun file => discover_eq_some_iff h, discover_eq_none_iff h, fun d hd => hd.prefixes h,
    fun steps => Path.existsUnique_ascends h, ?_, fun other => layerFor_none_congr, ?_⟩
  · intro d q hd hq
    exact Path.length_of_parent (hd.isAbsolute h) hq
  · intro other named start' hisFile hread
    exact layerFor_some_congr hisFile hread start start'

/-- A disk with a settings file at its top and a link to another one in `r`. There and in `r/g` are
tops of repositories, and in `r/a` is a link of that name that leads nowhere. -/
def nestedDisk : Disk where
  tree := .directory true [
    (bytesOf "c", .file (bytesOf "jobs = 2\n") false),
    (bytesOf "check-syntax.toml", .file (bytesOf "jobs = 3\n") false),
    (bytesOf "r", .directory true [
      (bytesOf ".git", .empty),
      (bytesOf "a", .directory true [(bytesOf ".git", .link (.ofText "../gone"))]),
      (bytesOf "check-syntax.toml", .link (.ofText "/c")),
      (bytesOf "g", .directory true [(bytesOf ".git", .file [] false)])])]
  directory := []

def readingOnly (files : Files) (file : Path) : Files where
  isFile := files.isFile
  isPresent := files.isPresent
  read p := if p = file then files.read p else .error .noEntry

theorem discover_nestedDisk :
    nestedDisk.files.discover (.ofText "/r//a/.") = some (.ofText "/r/check-syntax.toml") ∧
      (∃ d, nestedDisk.files.IsNearest (.ofText "/r//a/.") d ∧
        Path.ofText "/r/check-syntax.toml" = d.join settingsName) ∧
      (nestedDisk.files.readingOnly (.ofText "/r/check-syntax.toml")).layerFor none
          (.ofText "/r//a/.") =
        nestedDisk.files.layerFor none (.ofText "/r//a/.") ∧
      ∀ d, ¬nestedDisk.files.IsNearest (.ofText "/r/g/") d := by
  have hfound : nestedDisk.files.discover (.ofText "/r//a/.") =
      some (.ofText "/r/check-syntax.toml") := by
    have ha : nestedDisk.files.isFile ((Path.ofText "/r//a/.").join settingsName) = false := by cbv
    have ha' : nestedDisk.files.isPresent ((Path.ofText "/r//a/.").join repositoryName) = false := by
      cbv
    have hr : nestedDisk.files.isFile ((Path.ofText "/r").join settingsName) = true := by cbv
    have hway : (Path.ofText "/r//a/.").selfAndAbove =
        [.ofText "/r//a/.", .ofText "/r", .ofText "/"] := by decide
    simp only [discover, hway, nearestSettings, ha, ha', hr, Bool.false_eq_true, if_false,
      if_true]
    rfl
  have hnothing : nestedDisk.files.discover (.ofText "/r/g/") = none := by
    have hg : nestedDisk.files.isFile ((Path.ofText "/r/g/").join settingsName) = false := by cbv
    have hg' : nestedDisk.files.isPresent ((Path.ofText "/r/g/").join repositoryName) = true := by
      cbv
    have hway : (Path.ofText "/r/g/").selfAndAbove =
        [.ofText "/r/g/", .ofText "/r", .ofText "/"] := by decide
    simp only [discover, hway, nearestSettings, hg, hg', Bool.false_eq_true, if_false, if_true]
  have hsame := @discover_congr nestedDisk.files
    (nestedDisk.files.readingOnly (.ofText "/r/check-syntax.toml")) rfl rfl (.ofText "/r//a/.")
  obtain ⟨hsome, -, -, -, -, hlayer, -⟩ :=
    @discover_nearest (.ofText "/r//a/.") nestedDisk.files (by decide)
  obtain ⟨-, hnone, -⟩ := @discover_nearest (.ofText "/r/g/") nestedDisk.files (by decide)
  have hread (file : Path)
      (hfile : nestedDisk.files.discover (.ofText "/r//a/.") = some file) :
      (nestedDisk.files.readingOnly (.ofText "/r/check-syntax.toml")).read file =
        nestedDisk.files.read file := by
    rw [hfound, Option.some.injEq] at hfile
    exact if_pos hfile.symm
  exact ⟨hfound, (hsome _).1 hfound, hlayer _ hsame hread, hnone.1 hnothing⟩

end SyntaxSweep.Files
