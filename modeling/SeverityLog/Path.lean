import SeverityLog.Event

/-!
# Paths of the configuration

The configuration directory lies below the directory that the environment names for it, or else
below the home directory.
-/

namespace SeverityLog

namespace Path

def join (directory name : String) : String :=
  if directory = "" ∨ directory.endsWith "/" then directory ++ name else directory ++ "/" ++ name

def isAbsolute (path : String) : Bool := path.startsWith "/"

end Path

structure Environment where
  home : Option String := none
  xdgConfigHome : Option String := none
  /-- The home directory of the account. -/
  accountHome : String := "/root"
  logFilter : Option String := none

namespace Environment

def homeDirectory (e : Environment) : String :=
  match e.home with
  | some home => if home = "" then e.accountHome else home
  | none => e.accountHome

/-- A relative path in the environment does not count. -/
def configRoot (e : Environment) : String :=
  match e.xdgConfigHome.filter Path.isAbsolute with
  | some directory => directory
  | none => Path.join e.homeDirectory ".config"

def configDirectory (e : Environment) : String := Path.join e.configRoot "admaplog"

end Environment

namespace Config

def fileName : String := "config.toml"

def fileIn (directory : String) : String := Path.join directory fileName

end Config

end SeverityLog
