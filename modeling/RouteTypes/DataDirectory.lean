import RouteTypes.Host

/-!
# The data directory

Reports on crashes are kept in a directory of the user. Systems with a convention for such
directories follow it: there the environment may name the place. Other systems have a directory
in the home of the user.
-/

namespace RouteTypes.Host

/-- The system has a convention for the directories of a user. -/
def hasConvention (host : Host) : Bool :=
  host.system == "Linux" || "DSB".toList.isPrefixOf host.system.toList.reverse

/-- The home of a user for whom the environment names none. -/
def defaultHome : String := "/root"

/-- The home of the user. Slashes at its end do not count. -/
def home (host : Host) : FilePath :=
  let text := (host.setting? "HOME").getD defaultHome
  let plain := String.ofList (text.toList.reverse.dropWhile (· == '/')).reverse
  FilePath.ofString (if plain == "" then "/" else plain)

/-- The place of the data directory. -/
def dataPath (host : Host) : FilePath :=
  if host.hasConvention then
    let base := match host.filled? "XDG_DATA_HOME" with
      | some text => FilePath.ofString text
      | none => host.home.join (FilePath.ofString ".local/share")
    base.join (FilePath.ofString "apitypes")
  else host.home.join (FilePath.ofString ".apitypes/logs")

/-- Makes the data directory. -/
def makeDataDirectory (host : Host) : Host × Except FileFault FilePath :=
  match host.files.makeDirectories host.dataPath with
  | (files, .ok ()) => ({ host with files := files }, .ok host.dataPath)
  | (files, .error fault) => ({ host with files := files }, .error fault)

end RouteTypes.Host
