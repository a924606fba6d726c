import SeverityLog.CommandLine.Option

/-!
# Help

The short and the long help are laid out from one table of options. Prose is broken between words
so that no line is longer than a hundred characters.
-/

namespace SeverityLog.CommandLine

def programName : String := "admap-log"

def programVersion : String := "1.0.0"

def summary : String :=
  "Severity-filtered logging for the autonomous driving map plugin, with console and host " ++
    "message-bar sinks"

def description : List String := [
  "AdMapLog - severity-filtered logging for the autonomous driving map plugin.",
  "Sends MESSAGE through the console sink, or opens a host window whose message bar and log " ++
    "panel are driven by the GUI sink."]

def usage : String := "Usage: " ++ programName ++ " [OPTIONS] [MESSAGE]"

def messageHelp : String := "Message to log"

namespace OptionName

def explanation (long : Bool) : OptionName → String
  | level => "Severity of MESSAGE: error, warning, info, debug"
  | sink => "Sink to use: console or gui (overrides config.toml)"
  | verbosity => "Reporting threshold: 0 errors, 1 +warnings, 2 +infos, 3+ +debug"
  | config => "Path to config.toml (defaults to the platform config directory)"
  | debug => "Enable debug diagnostics (equivalent to RUST_LOG=debug)"
  | help =>
    if long then "Print help (see a summary with '-h')" else "Print help (see more with '--help')"
  | version => "Print version"

def default? : OptionName → Option String
  | level => some ("[default: " ++ defaultLevel ++ "]")
  | _ => none

/-- Both spellings, and a placeholder for the value. -/
def spelling (o : OptionName) : String :=
  let value := if o.takesValue then " <" ++ o.long.toUpper ++ ">" else ""
  "-" ++ String.singleton o.short ++ ", --" ++ o.long ++ value

end OptionName

def lineWidth : Nat := 100

/-- The lines of a paragraph: a word that does not fit begins a new line. -/
def wrap (width : Nat) (text : String) : List String :=
  (text.splitOn " ").foldl (fun lines word =>
    match lines.getLast? with
    | none => [word]
    | some line =>
      if line.length + 1 + word.length ≤ width then lines.dropLast ++ [line ++ " " ++ word]
      else lines ++ [word]) []

def padEnd (width : Nat) (s : String) : String :=
  s ++ String.ofList (List.replicate (width - s.length) ' ')

def explanationColumn : Nat :=
  ((OptionName.all.map (·.spelling.length)).max?.getD 0) + 4

def shortLines : List String :=
  wrap lineWidth summary ++ ["", usage, "", "Arguments:", "  [MESSAGE]  " ++ messageHelp, "",
    "Options:"] ++
  OptionName.all.map fun o =>
    padEnd explanationColumn ("  " ++ o.spelling) ++ o.explanation false ++
      ((o.default?.map (" " ++ ·)).getD "")

def indent : String := String.ofList (List.replicate 10 ' ')

def longItem (o : OptionName) : List String :=
  ["", "  " ++ o.spelling, indent ++ o.explanation true] ++
    (o.default?.map fun text => [indent, indent ++ text]).getD []

def longLines : List String :=
  ((description.map (wrap lineWidth)).intersperse [""]).flatten ++
  ["", usage, "", "Arguments:", "  [MESSAGE]", indent ++ messageHelp, "", "Options:"] ++
  (OptionName.all.flatMap longItem).drop 1

def helpText (long : Bool) : String :=
  String.join ((if long then longLines else shortLines).map (· ++ "\n"))

def versionText : String := programName ++ " " ++ programVersion ++ "\n"

end SeverityLog.CommandLine
