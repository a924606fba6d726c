/-!
# Options of the command line

The options with their spellings and descriptions, in the order in which they are listed.
-/

namespace SeverityLog.CommandLine

inductive OptionName where
  | level
  | sink
  | verbosity
  | config
  | debug
  | help
  | version
  deriving DecidableEq, Repr

namespace OptionName

def all : List OptionName := [level, sink, verbosity, config, debug, help, version]

def long : OptionName → String
  | level => "level"
  | sink => "sink"
  | verbosity => "verbosity"
  | config => "config"
  | debug => "debug"
  | help => "help"
  | version => "version"

def short : OptionName → Char
  | level => 'l'
  | sink => 's'
  | verbosity => 'v'
  | config => 'c'
  | debug => 'd'
  | help => 'h'
  | version => 'V'

def takesValue : OptionName → Bool
  | level | sink | verbosity | config => true
  | debug | help | version => false

def ofLong? (word : String) : Option OptionName := all.find? (·.long == word)

def ofShort? (c : Char) : Option OptionName := all.find? (·.short == c)

end OptionName

def defaultLevel : String := "info"

structure Invocation where
  message : Option String := none
  level : String := defaultLevel
  sink : Option String := none
  verbosity : Option UInt32 := none
  config : Option String := none
  debug : Bool := false
  deriving DecidableEq, Repr

end SeverityLog.CommandLine
