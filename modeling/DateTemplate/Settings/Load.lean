import DateTemplate.Settings.Decode

set_option autoImplicit false

/-!
# Loading settings

Settings are read from a file that is named, or from the one at the default place. The named file has
to be there; without a file at the default place the default settings hold.
-/

namespace DateTemplate.Settings

/-- The names of the environment that tell the default place. -/
def placeNames : List Text := ["XDG_CONFIG_HOME".toList, "HOME".toList]

/-- The default place of the settings file. -/
def defaultPath (env : Bindings Text) : Path :=
  let base : Path := match env.get? "XDG_CONFIG_HOME".toList with
    | some base => base
    | none => Path.join ((Path.home? env).getD ['~']) ".config".toList
  (base.join "datexpr".toList).join "config.toml".toList

/-- Loads the settings from a named file, or from the one at the default place. -/
def load {m : Type → Type} [Monad m] (host : Host m) (named : Option Path) :
    m (Except SettingsError Settings) := do
  let path := named.getD (defaultPath (← host.lookup placeNames))
  if !(← host.exists? path) then
    return if named.isSome then .error (.missing path) else .ok {}
  match ← host.read path with
  | .error cause => return .error (.unreadable path cause)
  | .ok t =>
    match SettingsFile.ofText? t with
    | none => return .error (.malformed path)
    | some file =>
      let env ← host.lookup file.environmentNames
      return ofFile env path file

end DateTemplate.Settings
