import Jotter.Settings.Configuration

/-!
The configurations that have been read. A file is read once, and so is the configuration that is used
where no file is named; what fails to be read is tried again. The file used without a name is the one
that the environment names, or else `config.yml` if it is there.
-/

namespace Jotter

/-- What the settings are read from. -/
structure Surroundings where
  folder : Folder Document
  environment : Environment
  /-- The home directories of accounts. -/
  accounts : Homes := []

structure SettingsCache where
  surroundings : Surroundings
  standing : Option Configuration := none
  loaded : List (String × Configuration) := []

/-- The source of log lines with the name of its channel. -/
structure Logger where
  component : String
  color : Setting
  name : String
  deriving Repr

namespace Surroundings

/-- Reads the file at a path; `shown` is how a message names it. -/
def load (surroundings : Surroundings) (shown : String) (path : FilePath) :
    Except Failure Configuration :=
  match if path.holdsNull then .nowhere else surroundings.folder.find path with
  | .nowhere => .error (.missingFile shown)
  | .tooLong => .error (.nameTooLong path.text)
  | .folder => .error (.directoryGiven path.text)
  | .file document => Configuration.ofDocument surroundings.environment path.text document

/-- Reads the file of a name. -/
def loadNamed (surroundings : Surroundings) (name : String) : Except Failure Configuration :=
  surroundings.load name (.ofText name)

/-- The name of the file that is looked for. -/
def usualName : String := "config.yml"

/-- Reads the usual file, if it is there. -/
def loadUsual (surroundings : Surroundings) : Except Failure Configuration :=
  match surroundings.folder.find (.ofText usualName) with
  | .file _ | .folder => surroundings.loadNamed usualName
  | .nowhere | .tooLong => .ok .standard

/-- Reads the configuration that is used where no file is named. -/
def loadStanding (surroundings : Surroundings) : Except Failure Configuration :=
  match surroundings.environment.value? "CONFIG_FILE" with
  | none | some "" => surroundings.loadUsual
  | some name => surroundings.loadNamed name

/-- The home directories that a path can begin at; the environment goes before the accounts. -/
def homes (surroundings : Surroundings) : Homes :=
  match surroundings.environment.value? "HOME" with
  | some home => ("", home) :: surroundings.accounts
  | none => surroundings.accounts

end Surroundings

namespace SettingsCache

/-- Forgets the configurations. -/
def reset (cache : SettingsCache) : SettingsCache :=
  { cache with standing := none, loaded := [] }

/-- The configuration that is used where no file is named. -/
def standingConfiguration : Attempt SettingsCache Configuration := do
  let cache ← get
  match cache.standing with
  | some configuration => return configuration
  | none =>
    match cache.surroundings.loadStanding with
    | .ok configuration =>
      set { cache with standing := some configuration }
      return configuration
    | .error failure => throw failure

/-- The configuration of a file, known by its resolved path. Every name on the way is looked at, also one
that the path leads out of again. -/
def fileConfiguration (file : String) : Attempt SettingsCache Configuration := do
  let cache ← get
  let named := FilePath.ofText file
  if named.holdsNull then throw .nullInName
  let path := named.resolved
  match cache.loaded.lookup path.text with
  | some configuration => return configuration
  | none =>
    match cache.surroundings.load path.text path with
    | .ok configuration =>
      set { cache with loaded := (path.text, configuration) :: cache.loaded }
      return configuration
    | .error failure => throw failure

/-- The configuration of a file, or the one without a name. -/
def configuration : Option String → Attempt SettingsCache Configuration
  | none => standingConfiguration
  | some file => fileConfiguration file

/-- Makes the configuration of a file the one that is used where no file is named. -/
def makeStanding (file : Option String) : Attempt SettingsCache Configuration := do
  let found ← configuration file
  modify fun cache => { cache with standing := some found }
  return found

/-- A value of a configuration. -/
def value (path : String) (fallback : Setting) (file : Option String) :
    Attempt SettingsCache Setting := do
  if path.isEmpty then throw .emptyPath
  return (← configuration file).value path fallback

/-- What is read from a configuration by a step that may fail. -/
def readSetting {α : Type} (read : Configuration → Except Failure α) (file : Option String) :
    Attempt SettingsCache α := do
  match read (← configuration file) with
  | .ok value => return value
  | .error failure => throw failure

def composerSettings (file : Option String) : Attempt SettingsCache ComposerSettings :=
  readSetting (·.composerSettings) file

def theme (file : Option String) : Attempt SettingsCache Theme :=
  readSetting (·.theme) file

/-- The theme that is put in force: the standard one, if the file is missing or has a wrong value. -/
def activeTheme (file : Option String) : Attempt SettingsCache Theme := do
  match ← Attempt.outcome (theme file) with
  | .ok theme => return theme
  | .error failure =>
    match failure.family with
    | .storage | .value => return .standard
    | _ => throw failure

/-- The level from which log lines are kept. Logging works without a configuration. -/
def logLevel (fallback : Int) : Attempt SettingsCache Int := do
  match ← Attempt.outcome standingConfiguration with
  | .ok configuration => return configuration.logLevel fallback
  | .error _ => return fallback

/-- The source of log lines of a name, or of a component, which has its colour from the
configuration. -/
def logger (component name : Option String) (color : Setting) : Attempt SettingsCache Logger := do
  match name, component with
  | some name, _ =>
    let color := if color.isGiven then color else .text LogSource.defaultColor
    return ⟨name, color, if name.isEmpty then "root" else name⟩
  | none, none => throw .unnamedComponent
  | none, some component =>
    let color :=
      match ← Attempt.outcome standingConfiguration with
      | .ok configuration => configuration.logColor component
      | .error _ => .text LogSource.defaultColor
    return ⟨component, color, "wren." ++ component⟩

/-- A composer made as the configuration says; what is given here goes before it. -/
def composer (file vaultPath notebook : Option String) (now : Moment) :
    Attempt SettingsCache (Composer Desk) := do
  let settings ← composerSettings file
  let homes := (← get).surroundings.homes
  let given (text : Option String) : Option String := text.filter (!·.isEmpty)
  readSetting (fun configuration => do
    let vaultPath ← match given vaultPath with
      | some path => do
        let path ← (FilePath.ofText path).expandHome homes
        pure (some path.text)
      | none => configuration.vaultPath homes
    let notebook := match given notebook with
      | some name => .text name
      | none => configuration.notebook
    Composer.create settings vaultPath notebook (← configuration.notebooks) now) file

end SettingsCache

end Jotter
