import DriverMonitor.Failure
import DriverMonitor.Files.Access

/-! # Where profiles are kept

In development mode profiles are kept below the working directory. Otherwise they are kept in the
user's data directory: the one that the environment names, if that is an absolute path, or else the
usual one below the home directory.
-/

namespace DriverMonitor

/-- What the environment says about the user's directories. -/
structure DataHome where
  home : Option String
  dataHome : Option String := none
  deriving DecidableEq, Repr

namespace DataHome

/-- Where profiles are kept in development mode. -/
def developmentDirectory : String := "./dev_data/drivers"

def userData? (env : DataHome) : Option String :=
  match env.dataHome.filter (·.startsWith "/") with
  | some directory => some directory
  | none => (env.home.filter (!·.isEmpty)).map (joinPath · ".local/share")

def profilesDirectory (env : DataHome) (development : Bool) : Except Failure String :=
  if development then .ok developmentDirectory
  else env.userData?.elim (.error (.config .noHome)) fun data => .ok (joinPath data "watchout/drivers")

end DataHome

end DriverMonitor
