import SymbolResolver.Project.ConfigFile
import SymbolResolver.Proofs.Codecs
import SymbolResolver.Proofs.FilePaths

/-!
# Saved configurations

A configuration is checked, written beside its place and moved there. What is loaded after a save that
succeeds is the configuration that was saved. A save that fails leaves what was there, and with one
exception also what is loaded: if the path of the project steps back out of a missing directory, then
the attempt makes that directory, and a configuration behind it can be found from then on.
-/

namespace SymbolResolver

namespace ConfigFile

open Files

theorem solid_directory (project : String) : Solid (directory project) :=
  solid_join project (by decide)

theorem plain_config : Plain "config.json" := by decide

theorem plain_staged : Plain "config.tmp" := by decide

/-! ## Loading -/

/-- The configuration of a project by what stands at the path of its configuration. -/
def configAt (file : String) : Option Node → Outcome Config
  | none => .ok .default
  | some (.file (some text)) => parse file text
  | some (.file none) => .error (accessError "read" file "stream did not contain valid UTF-8")
  | some (.directory _) => .error (accessError "read" file "Is a directory")

/-- Loading changes nothing and depends on what stands at one path. -/
theorem load_eq (project : String) (disk : Disk) :
    load (m := StateM Disk) project disk =
      (configAt (path project) (disk.node? (path project)), disk) := by
  unfold load
  cases found : disk.node? (path project) with
  | none =>
      simp only [bind, StateT.bind, FileSystem.lookUp, found]
      rfl
  | some node =>
      obtain ⟨location, located, there⟩ := Disk.node?_eq_some.mp found
      simp only [bind, StateT.bind, FileSystem.lookUp, found, FileSystem.readText, Disk.readText,
        located, there, Option.map_some]
      cases node with
      | directory entries => rfl
      | file content => cases content <;> rfl

theorem validate_of_parse {file text : String} {config : Config}
    (parsed : parse file text = .ok config) : config.validate = .ok () := by
  unfold parse at parsed
  split at parsed
  · cases parsed
  · obtain ⟨_, valid, rfl⟩ := map_eq_ok.mp parsed
    exact valid

/-- Every configuration that is loaded can be used. -/
theorem validate_of_configAt {file : String} {found : Option Node} {config : Config}
    (loaded : configAt file found = .ok config) : config.validate = .ok () := by
  cases found with
  | none =>
      cases loaded
      decide
  | some node =>
      cases node with
      | directory entries => cases loaded
      | file content =>
          cases content with
          | none => cases loaded
          | some text => exact validate_of_parse loaded

theorem version_of_validate {config : Config} (valid : config.validate = .ok ()) :
    config.version = 1 := by
  by_contra other
  rw [Config.validate, Config.fault?, if_pos other] at valid
  cases valid

/-- A usable configuration is found again in its text. -/
theorem parse_pretty {config : Config} (valid : config.validate = .ok ()) (file : String) :
    parse file config.toDocument.pretty = .ok config := by
  have back : Config.read config.toDocument = .ok config :=
    Config.returns_of_version (by rw [version_of_validate valid]; decide)
  rw [parse, (Config.fits.written config).readText_pretty, back]
  exact map_eq_ok.mpr ⟨(), valid, rfl⟩

theorem load_of_node? {project : String} {config : Config} {disk : Disk}
    (there : disk.node? (path project) = some (.file (some config.toDocument.pretty)))
    (valid : config.validate = .ok ()) :
    load (m := StateM Disk) project disk = (.ok config, disk) := by
  rw [load_eq, there, configAt, parse_pretty valid]

/-! ## Saving -/

section Attempts

variable {action file : String} {operation : StateM Disk (Attempt Unit)}
  {next : StateM Disk (Outcome Unit)} {disk middle after : Disk}

theorem attempting_of_error {cause : String} (failed : operation disk = (.error cause, after)) :
    attempting action file operation next disk =
      (.error (accessError action file cause), after) := by
  simp only [attempting, bind, StateT.bind, failed]
  rfl

theorem attempting_of_ok (done : operation disk = (.ok (), middle)) :
    attempting action file operation next disk = next middle := by
  simp only [attempting, bind, StateT.bind, done]

theorem attempting_eq_ok :
    attempting action file operation next disk = (.ok (), after) ↔
      ∃ middle, operation disk = (.ok (), middle) ∧ next middle = (.ok (), after) := by
  constructor
  · intro attempted
    rcases done : operation disk with ⟨_ | _, middle⟩
    · rw [attempting_of_error done] at attempted
      cases attempted
    · rw [attempting_of_ok done] at attempted
      exact ⟨middle, rfl, attempted⟩
  · rintro ⟨middle, done, rest⟩
    rw [attempting_of_ok done, rest]

theorem cases_of_attempting_error {error : Error}
    (attempted : attempting action file operation next disk = (.error error, after)) :
    (∃ cause, operation disk = (.error cause, after)) ∨
      ∃ middle, operation disk = (.ok (), middle) ∧ next middle = (.error error, after) := by
  rcases done : operation disk with ⟨cause | _, middle⟩
  · rw [attempting_of_error done] at attempted
    cases attempted
    exact .inl ⟨cause, rfl⟩
  · rw [attempting_of_ok done] at attempted
    exact .inr ⟨middle, rfl, attempted⟩

end Attempts

variable {project : String} {config : Config} {disk after : Disk}

theorem save_of_invalid {error : Error} (invalid : config.validate = .error error) :
    save (m := StateM Disk) project config disk = (.error error, disk) := by
  rw [save, invalid]
  rfl

/-- Saving succeeds in four steps. -/
theorem save_eq_ok :
    save (m := StateM Disk) project config disk = (.ok (), after) ↔
      config.validate = .ok () ∧ ∃ made written,
        disk.createDirectories (directory project) = (.ok (), made) ∧
        made.write (stagedPath project) (some config.toDocument.pretty) = (.ok (), written) ∧
        written.rename (stagedPath project) (path project) = (.ok (), after) := by
  cases valid : config.validate with
  | error error =>
      rw [save_of_invalid valid]
      exact ⟨nofun, nofun⟩
  | ok _ =>
      simp only [save, valid, attempting_eq_ok, true_and]
      constructor
      · rintro ⟨made, created, written, wrote, _, moved, ⟨⟩⟩
        exact ⟨made, written, created, wrote, moved⟩
      · rintro ⟨made, written, created, wrote, moved⟩
        exact ⟨made, created, written, wrote, after, moved, rfl⟩

/-- Saving fails before it writes anything, or with the text written beside its place. -/
theorem cases_of_save_error {error : Error}
    (failed : save (m := StateM Disk) project config disk = (.error error, after)) :
    config.validate = .error error ∧ after = disk ∨
      after = (disk.createDirectories (directory project)).2 ∨
      ∃ made, disk.createDirectories (directory project) = (.ok (), made) ∧
        made.write (stagedPath project) (some config.toDocument.pretty) = (.ok (), after) := by
  cases valid : config.validate with
  | error error =>
      rw [save_of_invalid valid] at failed
      cases failed
      exact .inl ⟨rfl, rfl⟩
  | ok _ =>
      simp only [save, valid] at failed
      rcases cases_of_attempting_error failed with ⟨_, stopped⟩ | ⟨made, created, failed⟩
      · exact .inr (.inl (by rw [show disk.createDirectories _ = _ from stopped]))
      · rcases cases_of_attempting_error failed with ⟨_, stopped⟩ | ⟨written, wrote, failed⟩
        · obtain rfl := Disk.write_failed stopped
          exact .inr (.inl (by rw [show disk.createDirectories _ = _ from created]))
        · rcases cases_of_attempting_error failed with ⟨_, stopped⟩ | ⟨_, -, ⟨⟩⟩
          obtain rfl := Disk.rename_failed stopped
          exact .inr (.inr ⟨made, created, wrote⟩)

/-- A successful save puts the text into its place. -/
theorem kept_of_save_ok (saved : save (m := StateM Disk) project config disk = (.ok (), after)) :
    after.node? (path project) = some (.file (some config.toDocument.pretty)) ∧
      after.node? (stagedPath project) = none ∧
      Disk.Kept (fun location => after.locate (path project) = .ok location ∨
        after.locate (stagedPath project) = .ok location) (directory project) disk after := by
  obtain ⟨-, made, written, created, wrote, moved⟩ := save_eq_ok.mp saved
  have kept := (Disk.createDirectories_spec disk (solid_directory project)).1
  rw [created] at kept
  obtain ⟨location, staged_located, located, extended, sights⟩ :=
    Disk.exists_replaced (solid_directory project) plain_staged plain_config (by decide) wrote moved
  refine ⟨?_, ?_, kept.of_extends extended fun other untouched => ?_⟩
  · refine (Disk.node?_of_locate located).trans ?_
    apply Node.get?_of_sight?_file
    rw [sights, Function.update_self]
  · refine (Disk.node?_of_locate staged_located).trans ?_
    apply Node.get?_of_sight?_none
    rw [sights, Function.update_of_ne (by simp), Function.update_self]
  · obtain ⟨not_file, not_staged⟩ := not_or.mp untouched
    rw [sights, Function.update_of_ne, Function.update_of_ne]
    · rintro rfl
      exact not_staged staged_located
    · rintro rfl
      exact not_file located

/-- A save that fails leaves everything as it was, except the text beside its place. -/
theorem kept_of_save_error {error : Error}
    (failed : save (m := StateM Disk) project config disk = (.error error, after)) :
    Disk.Kept (fun location => after.locate (stagedPath project) = .ok location)
      (directory project) disk after := by
  have kept := (Disk.createDirectories_spec disk (solid_directory project)).1
  rcases cases_of_save_error failed with ⟨-, rfl⟩ | rfl | ⟨made, created, wrote⟩
  · exact ⟨rfl, fun _ _ => .inl rfl⟩
  · exact ⟨kept.working, fun location _ => kept.sights location id⟩
  · rw [created] at kept
    obtain ⟨location, -, located, write⟩ :=
      Disk.exists_staged (solid_directory project) plain_staged wrote
    refine kept.of_extends write.forth fun other untouched => ?_
    rw [write.sights, Function.update_of_ne]
    rintro rfl
    exact untouched located

theorem node?_of_save_error {error : Error}
    (failed : save (m := StateM Disk) project config disk = (.error error, after))
    (back : disk.node? (path project) = none → disk.StepsBackAlong (directory project)) :
    after.node? (path project) = disk.node? (path project) := by
  have unchanged := Disk.node?_createDirectories (solid_directory project) plain_config back
  rcases cases_of_save_error failed with ⟨-, rfl⟩ | rfl | ⟨made, created, wrote⟩
  · rfl
  · exact unchanged
  · rw [created] at unchanged
    have beside := Disk.node?_write (solid_directory project) plain_staged plain_config
      (by decide) wrote
    exact beside.trans unchanged

/-- Saving succeeds exactly if the configuration can be used, the directory can be made, and both
paths can lead to files in it. -/
theorem save_succeeds_iff :
    (save (m := StateM Disk) project config disk).1 = .ok () ↔
      config.validate = .ok () ∧
        ∃ made, disk.createDirectories (directory project) = (.ok (), made) ∧
          made.AdmitsFile (stagedPath project) ∧ made.AdmitsFile (path project) := by
  have replaces (made : Disk) :
      (∃ written after,
        made.write (stagedPath project) (some config.toDocument.pretty) = (.ok (), written) ∧
        written.rename (stagedPath project) (path project) = (.ok (), after)) ↔
      made.IsDirectory (directory project) ∧
        made.AdmitsFile (stagedPath project) ∧ made.AdmitsFile (path project) :=
    Disk.replaces_iff (solid_directory project) plain_staged plain_config (by decide)
  constructor
  · intro succeeded
    obtain ⟨valid, made, written, created, wrote, moved⟩ := save_eq_ok.mp (Prod.ext succeeded rfl)
    obtain ⟨-, admits⟩ := (replaces made).mp ⟨written, _, wrote, moved⟩
    exact ⟨valid, made, created, admits⟩
  · rintro ⟨valid, made, created, admits⟩
    have there := (Disk.createDirectories_spec disk (solid_directory project)).2.mp
    rw [created] at there
    obtain ⟨written, after, wrote, moved⟩ := (replaces made).mpr ⟨there rfl, admits⟩
    rw [save_eq_ok.mpr ⟨valid, made, written, created, wrote, moved⟩]

/-- A project whose configuration cannot be replaced, because it is a directory. -/
def blocked : Node := .directory [(".symres", .directory [("config.json", .directory [])])]

end ConfigFile

end SymbolResolver
