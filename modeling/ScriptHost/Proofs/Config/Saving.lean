import ScriptHost.Proofs.Config.File
import ScriptHost.Proofs.Config.Path

/-!
# What saving settings does to a directory

Settings that are saved under a path are loaded from it, and no other file of the directory is
changed but the temporary one, whose name is that of the file with another extension. What stood
there is lost. So after any saves the settings that were saved last under a path are loaded from it
just when none of the saves behind has its temporary file there.

Settings that are refused change nothing when they are saved, and settings that are refused are
never loaded.

## Main definitions

* `ScriptHost.Config.Saved` — what saving settings does when it succeeds.
* `ScriptHost.Config.SaveEnds` — how saving settings ends.
* `ScriptHost.Config.saveAll` — saves one after the other.

## Main results

* `ScriptHost.Config.saving_law` — what saving settings does to a directory.
* `ScriptHost.Config.saved_lost` — saved settings that get lost when others are saved.
-/

namespace ScriptHost

/-! ## Directories -/

namespace Directory

variable {dir : Directory}

/-- A file that is moved stands at its new place, nothing stands at its old one, and the other files
stay. -/
lemma get?_move {source target : String} {contents : List UInt8}
    (h : dir.get? source = some contents) (other : String) :
    (move dir source target).get? other =
      if other = target then some contents
      else if other = source then none else dir.get? other := by
  rw [move, h]
  dsimp only
  rw [Dict.get?_insert, Dict.get?_erase]

end Directory

namespace Config

variable {config : Config} {path : Path} {dir before after : Directory}

/-! ## One save -/

/-- What saving settings does when it succeeds. -/
structure Saved (config : Config) (path : Path) (before after : Directory) : Prop where
  /-- The file for the settings stands where the path leads. -/
  file : ∃ place, path.place? = some place ∧ after.get? place = some config.fileBytes
  /-- The settings are loaded from the path. -/
  loaded : load after path = .ok config
  /-- The files at other places than the two that are used stay. -/
  others : ∀ other, path.place? ≠ some other → (temporaryPath path).place? ≠ some other →
    after.get? other = before.get? other
  /-- Nothing stands at the place of the temporary file, unless the settings do. -/
  temporary : ∀ other, path.place? ≠ some other → (temporaryPath path).place? = some other →
    after.get? other = none
  /-- All other files stay just when nothing stood at the place of the temporary file. -/
  untouched_iff : (∀ other, path.place? ≠ some other → after.get? other = before.get? other) ↔
    ∀ other, path.place? ≠ some other → (temporaryPath path).place? = some other →
      before.get? other = none

/-- How saving settings ends. -/
inductive SaveEnds (config : Config) (path : Path) (before : Directory) :
    Except StoreFault Unit → Directory → Prop
  /-- The settings are refused, and nothing changes. -/
  | refused {fault : ConfigFault} (hcheck : config.check = .error fault) :
      SaveEnds config path before (.error (.config fault)) before
  /-- There is no place for the temporary file, and nothing changes. -/
  | notCreated (hcheck : config.check = .ok ())
      (htemporary : (temporaryPath path).place? = none) :
      SaveEnds config path before (.error (.file (.notCreated (temporaryPath path)))) before
  /-- There is no place for the settings, and they stay in the temporary file. -/
  | notMoved (hcheck : config.check = .ok ()) {temporary : String}
      (htemporary : (temporaryPath path).place? = some temporary) (hplace : path.place? = none) :
      SaveEnds config path before (.error (.file (.notMoved (temporaryPath path) path)))
        (before.insert temporary config.fileBytes)
  /-- The settings are saved. -/
  | saved (hcheck : config.check = .ok ()) {after : Directory}
      (hsaved : Saved config path before after) : SaveEnds config path before (.ok ()) after

/-- What stands at a place after settings were written to a temporary file that was moved. -/
lemma get?_written {place temporary : String} (other : String) :
    (Directory.move (before.insert temporary config.fileBytes) temporary place).get? other =
      if other = place then some config.fileBytes
      else if other = temporary then none else before.get? other := by
  have hwritten : (before.insert temporary config.fileBytes).get? temporary =
      some config.fileBytes := by
    rw [Dict.get?_insert, if_pos rfl]
  rw [Directory.get?_move hwritten, Dict.get?_insert]
  split
  · rfl
  · split <;> rfl

/-- Settings are loaded from their file, when they are not refused. -/
lemma load_of_fileBytes {place : String} (hcheck : config.check = .ok ())
    (hplace : path.place? = some place) (hfile : dir.get? place = some config.fileBytes) :
    load dir path = .ok config := by
  have hcontents : contents? dir path = some config.fileBytes := by
    rw [contents?, hplace, Option.bind_some, hfile]
  rw [load, hcontents]
  simp only [ofBytes?_fileBytes, hcheck]

/-- Settings that were written to a temporary file that was moved are saved. -/
lemma saved_of_places {place temporary : String} (hcheck : config.check = .ok ())
    (hplace : path.place? = some place)
    (htemporary : (temporaryPath path).place? = some temporary) :
    Saved config path before
      (Directory.move (before.insert temporary config.fileBytes) temporary place) := by
  have hothers (other : String) (hother : path.place? ≠ some other)
      (hne : (temporaryPath path).place? ≠ some other) :
      (Directory.move (before.insert temporary config.fileBytes) temporary place).get? other =
        before.get? other := by
    have hplace' : other ≠ place := fun heq => hother (heq ▸ hplace)
    have htemporary' : other ≠ temporary := fun heq => hne (heq ▸ htemporary)
    rw [get?_written, if_neg hplace', if_neg htemporary']
  have hgone (other : String) (hother : path.place? ≠ some other)
      (heq : (temporaryPath path).place? = some other) :
      (Directory.move (before.insert temporary config.fileBytes) temporary place).get? other =
        none := by
    have hplace' : other ≠ place := fun heq => hother (heq ▸ hplace)
    rw [get?_written, if_neg hplace', if_pos (Option.some.inj (heq.symm.trans htemporary))]
  have hfile : (Directory.move (before.insert temporary config.fileBytes) temporary place).get?
      place = some config.fileBytes := by
    rw [get?_written, if_pos rfl]
  refine ⟨⟨place, hplace, hfile⟩, load_of_fileBytes hcheck hplace hfile, hothers, hgone, ?_⟩
  constructor
  · intro h other hother heq
    rw [← h other hother, hgone other hother heq]
  · intro h other hother
    by_cases heq : (temporaryPath path).place? = some other
    · rw [hgone other hother heq, h other hother heq]
    · exact hothers other hother heq

variable (config path before) in
/-- Every save ends in one of these ways. -/
lemma saveEnds : SaveEnds config path before (save config before path).1
    (save config before path).2 := by
  unfold save
  split
  · rename_i fault hcheck
    exact .refused hcheck
  · rename_i hcheck
    split
    · rename_i htemporary
      exact .notCreated hcheck htemporary
    · rename_i temporary htemporary
      dsimp only
      split
      · rename_i hplace
        exact .notMoved hcheck htemporary hplace
      · rename_i place hplace
        exact .saved hcheck (saved_of_places hcheck hplace htemporary)

/-- Settings that are loaded are not refused. -/
lemma check_of_load (h : load dir path = .ok config) : config.check = .ok () := by
  unfold load at h
  split at h
  · cases h
  · split at h
    · cases h
    · split at h
      · cases h
      · rename_i hcheck
        cases h
        exact hcheck

/-! ## Saves one after the other -/

/-- The directory behind saves one after the other. -/
def saveAll (dir : Directory) (saves : List (Config × Path)) : Directory :=
  saves.foldl (fun dir s => (save s.1 dir s.2).2) dir

/-- A save does not fail for its files: there is a place for the settings and one for the temporary
file. -/
def Fits (s : Config × Path) : Prop :=
  s.2.place? ≠ none ∧ (temporaryPath s.2).place? ≠ none

/-- A save takes away what stands where a path leads: it has its temporary file there, and the
settings elsewhere. -/
def Displaces (s : Config × Path) (path : Path) : Prop :=
  s.1.check = .ok () ∧ (temporaryPath s.2).place? = path.place?

instance (s : Config × Path) (path : Path) : Decidable (Displaces s path) :=
  inferInstanceAs (Decidable (_ ∧ _))

/-- What a save under another path leaves at a place. -/
lemma get?_save {place : String} (hplace : path.place? = some place) {s : Config × Path}
    (hfits : Fits s) (hother : s.1.check = .ok () → s.2.place? ≠ path.place?) :
    (save s.1 dir s.2).2.get? place = if Displaces s path then none else dir.get? place := by
  have hends := saveEnds s.1 s.2 dir
  generalize (save s.1 dir s.2).1 = outcome, (save s.1 dir s.2).2 = after at hends
  cases hends with
  | refused hcheck =>
    rw [if_neg fun hdisplaces => by simp [hdisplaces.1] at hcheck]
  | notCreated _ htemporary => exact absurd htemporary hfits.2
  | notMoved _ _ hnone => exact absurd hnone hfits.1
  | saved hcheck hsaved =>
    have hne : s.2.place? ≠ some place := hplace ▸ hother hcheck
    by_cases hdisplaces : Displaces s path
    · rw [if_pos hdisplaces, hsaved.temporary place hne (hdisplaces.2.trans hplace)]
    · rw [if_neg hdisplaces]
      exact hsaved.others place hne fun heq => hdisplaces ⟨hcheck, heq.trans hplace.symm⟩

/-- What saves under other paths leave at a place.

**Proof sketch.** By induction on the saves: what one of them takes away none of the others puts
back. -/
lemma get?_saveAll {place : String} (hplace : path.place? = some place)
    {saves : List (Config × Path)} (hfits : ∀ s ∈ saves, Fits s)
    (hother : ∀ s ∈ saves, s.1.check = .ok () → s.2.place? ≠ path.place?) (dir : Directory) :
    (saveAll dir saves).get? place =
      if ∃ s ∈ saves, Displaces s path then none else dir.get? place := by
  induction saves generalizing dir with
  | nil => simp [saveAll]
  | cons s rest ih =>
    have hstep : (save s.1 dir s.2).2.get? place =
        if Displaces s path then none else dir.get? place :=
      get?_save hplace (hfits s List.mem_cons_self) (hother s List.mem_cons_self)
    have hrest := ih (fun t ht => hfits t (List.mem_cons_of_mem _ ht))
      (fun t ht => hother t (List.mem_cons_of_mem _ ht)) (save s.1 dir s.2).2
    have hcons : saveAll dir (s :: rest) = saveAll (save s.1 dir s.2).2 rest := rfl
    have hiff : (∃ t ∈ s :: rest, Displaces t path) ↔
        Displaces s path ∨ ∃ t ∈ rest, Displaces t path := by simp
    rw [hcons, hrest, hstep, if_congr hiff rfl rfl]
    by_cases hs : Displaces s path
    · simp [hs]
    · rw [if_neg hs]
      exact (if_congr (or_iff_right hs) rfl rfl).symm

/-- Settings that were saved last under a path are loaded from it just when no save behind has its
temporary file there. -/
lemma load_saveAll_iff (hsave : (save config before path).1 = .ok ())
    {later : List (Config × Path)} (hfits : ∀ s ∈ later, Fits s)
    (hother : ∀ s ∈ later, s.1.check = .ok () → s.2.place? ≠ path.place?) :
    load (saveAll (save config before path).2 later) path = .ok config ↔
      ∀ s ∈ later, ¬ Displaces s path := by
  have hends := saveEnds config path before
  rw [hsave] at hends
  generalize (save config before path).2 = after at hends
  cases hends with
  | saved hcheck hsaved =>
    obtain ⟨place, hplace, hfile⟩ := hsaved.file
    have hget := get?_saveAll hplace hfits hother after
    by_cases hdisplaced : ∃ s ∈ later, Displaces s path
    · obtain ⟨s, hs, hdisplaces⟩ := hdisplaced
      rw [if_pos ⟨s, hs, hdisplaces⟩] at hget
      have hlost : load (saveAll after later) path = .error (.file (.notRead path)) := by
        rw [load, contents?, hplace, Option.bind_some, hget]
      rw [hlost]
      exact ⟨nofun, fun h => absurd hdisplaces (h s hs)⟩
    · rw [if_neg hdisplaced, hfile] at hget
      exact ⟨fun _ s hs hdisplaces => hdisplaced ⟨s, hs, hdisplaces⟩,
        fun _ => load_of_fileBytes hcheck hplace hget⟩

/-! ## File names -/

/-- Settings that are not refused are saved under a file name, when there is a name for the
temporary file. -/
lemma save_ofName (hcheck : config.check = .ok ()) {name : String}
    (hname : Path.IsFileName name.toList) (hstem : Path.stem name.toList ≠ ['.'])
    (hfits : Path.byteCount (Path.temporaryName name.toList) ≤ Path.nameLimit)
    (before : Directory) : (save config before (.ofName name)).1 = .ok () := by
  unfold save
  rw [hcheck, Path.place?_temporaryPath hname hstem hfits, Path.place?_ofName hname]

variable (config path before) in
/-- **Saving settings.** Settings that are refused change nothing when they are saved; settings that
are saved are loaded from their path, and all other files stay but the one at the place of the
temporary file, which is lost. Settings that are refused are never loaded. After any saves the
settings that were saved last under a path are loaded from it just when no save behind has its
temporary file there. Under a file name settings are saved whenever there is a name for the
temporary file, which is the file name with another extension.

**Proof sketch.** The bytes of the file are the indented text of the form of the settings, which is
read back. Writing the temporary file and moving it touches two places: after it the first is empty
and the settings are at the second. What one save takes away no other save puts back. -/
theorem saving_law :
    SaveEnds config path before (save config before path).1 (save config before path).2 ∧
    (∀ loaded, load before path = .ok loaded → loaded.check = .ok ()) ∧
    ((save config before path).1 = .ok () → ∀ later : List (Config × Path),
      (∀ s ∈ later, Fits s) →
      (∀ s ∈ later, s.1.check = .ok () → s.2.place? ≠ path.place?) →
        (load (saveAll (save config before path).2 later) path = .ok config ↔
          ∀ s ∈ later, ¬ Displaces s path)) ∧
    ∀ name : String, config.check = .ok () → Path.IsFileName name.toList →
      Path.stem name.toList ≠ ['.'] →
      Path.byteCount (Path.temporaryName name.toList) ≤ Path.nameLimit →
        (Path.ofName name).place? = some name ∧
        (temporaryPath (.ofName name)).place? =
          some (String.ofList (Path.temporaryName name.toList)) ∧
        (save config before (.ofName name)).1 = .ok () :=
  ⟨saveEnds config path before, fun _ => check_of_load,
    fun hsave _ hfits hother => load_saveAll_iff hsave hfits hother,
    fun _ hcheck hname hstem hfits => ⟨Path.place?_ofName hname,
      Path.place?_temporaryPath hname hstem hfits, save_ofName hcheck hname hstem hfits before⟩⟩

/-- The standard settings, with another script name. -/
def withScriptName (scriptName : String) : Config :=
  { standard with scriptName }

/-- Settings that were saved as `a.tmp` get lost when others are saved as `a.json`: both saves
succeed, and then there is nothing to be loaded from the first name. -/
theorem saved_lost :
    (save (withScriptName "main.py") .empty (.ofName "a.tmp")).1 = .ok () ∧
      (save (withScriptName "other.py") (save (withScriptName "main.py") .empty (.ofName "a.tmp")).2
        (.ofName "a.json")).1 = .ok () ∧
      load (saveAll .empty [(withScriptName "main.py", .ofName "a.tmp"),
        (withScriptName "other.py", .ofName "a.json")]) (.ofName "a.tmp") =
          .error (.file (.notRead (.ofName "a.tmp"))) := by
  refine ⟨rfl, rfl, ?_⟩
  decide +kernel

end Config

end ScriptHost
