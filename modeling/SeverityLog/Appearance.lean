import SeverityLog.Severity

/-!
# How a tag looks on the host's surfaces

The bar of the host knows four styles and its panel three levels. Each of the four canonical tags
has its own style; any other tag looks like a debug message.
-/

namespace SeverityLog

structure Colour where
  red : UInt8
  green : UInt8
  blue : UInt8
  alpha : UInt8 := 255
  deriving DecidableEq, Repr

namespace Colour

def hexByte (b : UInt8) : List Char :=
  let digits := Nat.toDigits 16 b.toNat
  List.replicate (2 - digits.length) '0' ++ digits

/-- A number sign, then two digits for each of red, green, blue and opacity. -/
def hex (c : Colour) : String :=
  String.ofList ('#' :: [c.red, c.green, c.blue, c.alpha].flatMap hexByte)

end Colour

inductive BarStyle where
  | critical
  | warning
  | info
  | success
  deriving DecidableEq, Repr, Inhabited

namespace BarStyle

def all : List BarStyle := [critical, warning, info, success]

def label : BarStyle → String
  | critical => "Critical"
  | warning => "Warning"
  | info => "Info"
  | success => "Success"

def background : BarStyle → Colour
  | critical => { red := 0xB9, green := 0x1C, blue := 0x1C }
  | warning => { red := 0xB4, green := 0x53, blue := 0x09 }
  | info => { red := 0x1D, green := 0x4E, blue := 0xD8 }
  | success => { red := 0x15, green := 0x80, blue := 0x3D }

/-- The colour of all text on the bar. -/
def text : Colour := { red := 0xF9, green := 0xFA, blue := 0xFB }

def rounding : Nat := 4

end BarStyle

/-- The level of an entry in the panel, which knows no debug level. -/
inductive PanelLevel where
  | critical
  | warning
  | info
  deriving DecidableEq, Repr, Inhabited

namespace PanelLevel

def all : List PanelLevel := [critical, warning, info]

def name : PanelLevel → String
  | critical => "Critical"
  | warning => "Warning"
  | info => "Info"

def label : PanelLevel → String
  | critical => "CRITICAL"
  | warning => "WARNING"
  | info => "INFO"

def colour : PanelLevel → Colour
  | critical => { red := 0xDC, green := 0x26, blue := 0x26 }
  | warning => { red := 0xD9, green := 0x77, blue := 0x06 }
  | info => { red := 0x9C, green := 0xA3, blue := 0xAF }

/-- The label in a column of eight characters, and a space. -/
def badge (l : PanelLevel) : String :=
  l.label ++ String.ofList (List.replicate (8 - l.label.length) ' ') ++ " "

end PanelLevel

structure Appearance where
  style : BarStyle
  level : PanelLevel
  deriving DecidableEq, Repr

namespace Appearance

/-- A debug message has no style of its own: it is a success on the bar and an info in the
panel. -/
def ofSeverity : Severity → Appearance
  | .error => ⟨.critical, .critical⟩
  | .warning => ⟨.warning, .warning⟩
  | .info => ⟨.info, .info⟩
  | .debug => ⟨.success, .info⟩

def ofTag (tag : String) : Appearance :=
  ofSeverity ((Severity.ofTag? tag).getD .debug)

theorem ofTag_tag (s : Severity) : ofTag s.tag = ofSeverity s := by
  simp [ofTag, Severity.ofTag?_tag]

end Appearance

end SeverityLog
