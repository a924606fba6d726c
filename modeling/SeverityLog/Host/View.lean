import SeverityLog.Host.State

/-!
# What the window paints

The texts of the message bar, the composer and the log panel, in the order in which they are
painted.
-/

namespace SeverityLog

inductive Painted where
  | text (t : String)
  | barText (t : String)
  | frame (fill : Colour) (rounding : Nat)
  | row (t : String) (badge : Colour)
  deriving DecidableEq, Repr

def Panel.allCategories : String := "All categories"

namespace View

def closeButton : String := "✕"

section Bar

variable (fits : Widget → Bool)

/-- The title and the text stand on one row with the close button and the countdown, which are
pushed off its right end where the fonts and the size of the window leave no room for them. -/
def widget (now : Instant) (w : Widget) : List Painted :=
  [.frame w.style.background BarStyle.rounding, .barText w.title, .barText w.text] ++
  if fits w then [.text closeButton, .barText (toString (w.countdown now) ++ "s")] else []

def messageBar (now : Instant) (b : Bar) : List Painted := b.flatMap (widget fits now)

end Bar

def reported (v : Verbosity) : List Severity := Severity.all.filter (v.permits ·)

def reports (v : Verbosity) : String :=
  "Reports: " ++ ", ".intercalate ((reported v).map Severity.label)

def filteredHint (s : Severity) (v : Verbosity) : String :=
  s.label ++ " messages are filtered at verbosity " ++ toString v ++ "."

def draft (text : String) : List Painted :=
  if text.isEmpty then [.text "Type a message, Ctrl+Enter to send", .text ""] else [.text text]

def composer (c : Composer) : List Painted :=
  [.text "Send Message", .text "Severity:"] ++ Severity.all.map (.text ·.label) ++
  [.text "Verbosity:", .text (toString (Composer.slider c.verbosity)),
    .text (reports c.verbosity), .text "Also print to console", .text "Message:"] ++
  draft c.draft ++ [.text "Send"] ++
  if c.verbosity.permits c.severity then [] else [.text (filteredHint c.severity c.verbosity)]

def row (e : PanelEntry) : Painted :=
  .row (e.timestamp.written ++ " " ++ e.level.badge ++ "[" ++ e.category ++ "] " ++ e.text)
    e.level.colour

def logPanel (h : Host) : List Painted :=
  let rows := h.panel.visible h.filter
  [.text "Log Messages", .text (h.filter.getD Panel.allCategories), .text "Clear"] ++
  if rows.isEmpty then [.text "No messages yet."] else rows.map row

def window (fits : Widget → Bool) (now : Instant) (h : Host) : List Painted :=
  messageBar fits now h.bar ++ composer h.composer ++ logPanel h

end View

end SeverityLog
