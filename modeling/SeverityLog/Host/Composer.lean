import SeverityLog.Severity
import SeverityLog.Text.Blank

/-!
# The composer

The composer holds a draft, the severity and threshold to send it with, and at most one message
that waits to be dispatched. To submit a draft is to trim it, cut it to the longest message, and
let it wait; a blank draft stays as it is.
-/

namespace SeverityLog

structure Composer where
  draft : String := ""
  severity : Severity := .info
  verbosity : Verbosity := .all
  mirror : Bool := false
  pending : Option (Severity × String) := none
  deriving DecidableEq, Repr

namespace Composer

def longestMessage : Nat := 4096

def message (draft : String) : String :=
  String.ofList ((Text.trim draft.toList).take longestMessage)

def isBlank (draft : String) : Bool := (Text.trim draft.toList).isEmpty

def submit (c : Composer) : Composer :=
  if isBlank c.draft then c
  else { c with pending := some (c.severity, message c.draft), draft := "" }

def takePending (c : Composer) : Option (Severity × String) × Composer :=
  (c.pending, { c with pending := none })

/-- The draft after text is typed at its end, as far as the field takes it. -/
def typed (text : String) (draft : String) : String :=
  draft ++ String.ofList (text.toList.take (longestMessage - draft.length))

/-- The slider shows thresholds from errors alone to all severities. -/
def slider (v : Verbosity) : Nat := min v.value.toNat Verbosity.all.value.toNat

/-- The threshold after the slider is put at a value. A slider that already stands there leaves the
threshold as it is. -/
def slide (value : Nat) (v : Verbosity) : Verbosity :=
  let target := min value Verbosity.all.value.toNat
  if target = slider v then v else ⟨UInt32.ofNat target⟩

end Composer

end SeverityLog
