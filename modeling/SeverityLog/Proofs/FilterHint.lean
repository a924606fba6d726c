import SeverityLog.Host.View
import SeverityLog.Proofs.SentMessage

/-!
# What the composer says about filtering

The composer paints the threshold as far as its slider goes, the severities that the threshold
reports, and a hint when the selected severity is not one of them. A frame paints this from what its
own controls have selected, and the sinks take the same threshold when the frame is drawn. A draft
that is sent in the frame is therefore delivered when its severity is listed, and reaches nothing
when the hint is there.
-/

namespace SeverityLog

namespace View

/-- The thresholds are nested, so what they report is cut from one list. -/
theorem reported_eq_take (v : Verbosity) :
    reported v = Severity.all.take (v.value.toNat + 1) := by
  have hpermits : (v.permits ·) = fun s : Severity => decide (s.rank ≤ v.value.toNat) := by
    funext s
    rw [Bool.eq_iff_iff, Verbosity.permits_iff, decide_eq_true_iff]
  rw [reported, hpermits]
  match v.value.toNat with
  | 0 => rfl
  | 1 => rfl
  | 2 => rfl
  | n + 3 => simp [Severity.all, Severity.rank]

theorem mem_reported {v : Verbosity} {s : Severity} :
    s ∈ reported v ↔ s.rank ≤ v.value.toNat := by
  rw [reported, List.mem_filter, Verbosity.permits_iff]
  exact and_iff_right s.mem_all

theorem label_mem_reported {v : Verbosity} {s : Severity} :
    s.label ∈ (reported v).map Severity.label ↔ s.rank ≤ v.value.toNat := by
  have hinjective : Function.Injective Severity.label := by
    intro a b h
    cases a <;> cases b <;> first | rfl | exact absurd h (by decide)
  rw [List.mem_map_of_injective hinjective, mem_reported]

theorem composer_eq (c : Composer) :
    composer c =
      [.text "Send Message", .text "Severity:", .text "Error", .text "Warning", .text "Info",
        .text "Debug", .text "Verbosity:", .text (toString (Composer.slider c.verbosity)),
        .text (reports c.verbosity), .text "Also print to console", .text "Message:"] ++
      draft c.draft ++ .text "Send" ::
        if c.verbosity.permits c.severity then []
        else [.text (filteredHint c.severity c.verbosity)] := by
  rw [composer, List.append_assoc (_ ++ draft c.draft)]
  rfl

end View

namespace Composer

/-- The slider shows a number that reports the same severities as the threshold. -/
theorem permits_slider (v : Verbosity) (s : Severity) :
    Verbosity.permits ⟨UInt32.ofNat (slider v)⟩ s = v.permits s := by
  have hnumber : (UInt32.ofNat (slider v)).toNat = min v.value.toNat 4 :=
    UInt32.toNat_ofNat_of_lt' (Nat.lt_of_le_of_lt (Nat.min_le_right _ _) (by decide))
  have hrank : s.rank ≤ 3 := by cases s <;> decide
  rw [Bool.eq_iff_iff, Verbosity.permits_iff, Verbosity.permits_iff, hnumber]
  omega

end Composer

namespace Turn

/-- The frame in which the message field and the button are used in another way. -/
def composing (draft : Option String) (send sendKey : Bool) (t : Turn) : Turn :=
  { t with controls := { t.controls with draft, send, sendKey } }

def readAt (r : Reading) (t : Turn) : Turn := { t with reading := r }

end Turn

namespace App

/-- What the composer paints in a frame. Its controls have acted, and the draft is not sent yet. -/
def painted (t : Turn) (a : App) : List Painted :=
  View.composer ((a.host.adjust t.verbosity).composer.edit t.controls)

/-- Whatever the clock shows, a frame brings the message to the bar, to the panel and, when it is
mirrored, to the console. -/
structure Delivers (s : Severity) (m : String) (t : Turn) (a : App) : Prop where
  bar : ∀ r, (a.turn (t.readAt r)).app.host.bar =
    [{ title := s.tag, text := m, style := GuiSink.documentedStyle s.tag
       pushedAt := r.instant, seconds := 5 }]
  panel : ∀ r, (a.turn (t.readAt r)).app.host.panel =
    (t.keptEntries a.host.panel).rtake 4999 ++
      [{ timestamp := r.timestamp, category := "Intel Autonomus Driving Map"
         level := GuiSink.documentedLevel s.tag, text := m }]
  printed : ∀ r, (a.turn (t.readAt r)).printed =
    if (a.turn (t.readAt r)).app.host.composer.mirror then "[1]" ++ s.tag ++ ": " ++ m ++ "\n"
    else ""

/-- Whatever the clock shows, a frame prints nothing, and its bar and panel are what its other
controls have left of them. -/
structure Withholds (t : Turn) (a : App) : Prop where
  bar : ∀ r, (a.turn (t.readAt r)).app.host.bar = t.keptWidgets a.host.bar
  panel : ∀ r, (a.turn (t.readAt r)).app.host.panel = t.keptEntries a.host.panel
  printed : ∀ r, (a.turn (t.readAt r)).printed = ""

section Submission

variable {t : Turn} {a : App} {s : Severity} {m : String}

/-- A delivered widget carries the reading of the clock, and a kept one does not. -/
theorem Delivers.not_withholds (h : a.Delivers s m t) : ¬ a.Withholds t := by
  intro hw
  have hbar : ∀ r : Reading, [_] = t.keptWidgets a.host.bar :=
    fun r => (h.bar r).symm.trans (hw.bar r)
  have hsame := (hbar ⟨0, ⟨0⟩⟩).trans (hbar ⟨1, ⟨0⟩⟩).symm
  cases hsame

variable (hsinks : a.guiVerbosity = a.consoleVerbosity)
  (hsubmitted : t.controls.submission? a.host.composer.severity a.host.composer.draft = some (s, m))

include hsinks hsubmitted

theorem delivers_of_le (hle : s.rank ≤ (t.selected a.host.composer.verbosity).value.toNat) :
    a.Delivers s m t := by
  have hreported := fun r : Reading =>
    have hfollows := follows_turn (t.readAt r) a hsinks
    hfollows.reported s m (hfollows.submitted _ hsubmitted) hle
  exact ⟨fun r => (hreported r).1, fun r => (hreported r).2.1, fun r => (hreported r).2.2⟩

theorem withholds_of_lt (hlt : (t.selected a.host.composer.verbosity).value.toNat < s.rank) :
    a.Withholds t := by
  have hfiltered := fun r : Reading =>
    have hfollows := follows_turn (t.readAt r) a hsinks
    hfollows.filtered s m (hfollows.submitted _ hsubmitted) hlt
  exact ⟨fun r => (hfiltered r).1, fun r => (hfiltered r).2.1, fun r => (hfiltered r).2.2⟩

theorem delivers_iff :
    a.Delivers s m t ↔ s.rank ≤ (t.selected a.host.composer.verbosity).value.toNat := by
  refine ⟨fun h => ?_, delivers_of_le hsinks hsubmitted⟩
  by_contra hlt
  exact h.not_withholds (withholds_of_lt hsinks hsubmitted (Nat.not_le.mp hlt))

theorem withholds_iff :
    a.Withholds t ↔ (t.selected a.host.composer.verbosity).value.toNat < s.rank := by
  refine ⟨fun h => ?_, withholds_of_lt hsinks hsubmitted⟩
  by_contra hle
  exact (delivers_of_le hsinks hsubmitted (Nat.not_lt.mp hle)).not_withholds h

end Submission

end App

/-- What the composer paints in a frame is true of a draft that is sent in this frame, whatever the
draft is and by whichever of the two ways it is sent. The hint stands below the button when the
draft is withheld, and only then. The severity is listed when the draft is delivered, and only then.
The list begins with the errors and leaves none out, and the slider's number reports the same
severities as the thresholds of the sinks. -/
theorem composer_truthful (r : Reading) (h : Host) (initial : Option (Severity × String))
    (turns : List Turn) (t : Turn) :
    let a := ((App.attach r h initial).follow turns).app
    let severity := t.controls.severity.getD a.host.composer.severity
    let threshold := (t.selected a.host.composer.verbosity).value.toNat
    ∃ (number : Nat) (labels : List String) (hint : List Painted),
      a.painted t =
        [.text "Send Message", .text "Severity:", .text "Error", .text "Warning", .text "Info",
          .text "Debug", .text "Verbosity:", .text (toString number),
          .text ("Reports: " ++ ", ".intercalate labels), .text "Also print to console",
          .text "Message:"] ++
        View.draft (t.controls.draft.getD a.host.composer.draft) ++ .text "Send" :: hint ∧
      (hint = [] ∨ hint = [.text (severity.label ++ " messages are filtered at verbosity " ++
        toString threshold ++ ".")]) ∧
      (number = min threshold 4 ∧ ∀ s,
        Verbosity.permits ⟨UInt32.ofNat number⟩ s = (a.turn t).app.guiVerbosity.permits s ∧
          Verbosity.permits ⟨UInt32.ofNat number⟩ s =
            (a.turn t).app.consoleVerbosity.permits s) ∧
      labels <+: ["Error", "Warning", "Info", "Debug"] ∧
      ∀ draft send sendKey m,
        let sent := t.composing draft send sendKey
        sent.controls.submission? a.host.composer.severity a.host.composer.draft =
            some (severity, m) →
          (hint ≠ [] ↔ a.Withholds sent) ∧
            (severity.label ∈ labels ↔ a.Delivers severity m sent) := by
  intro a severity threshold
  have hgui : (App.attach r h initial).app.guiVerbosity = h.composer.verbosity :=
    App.guiVerbosity_send _ _ _ _
  have hconsole : (App.attach r h initial).app.consoleVerbosity = h.composer.verbosity :=
    App.consoleVerbosity_send _ _ _ _
  have hsinks : a.guiVerbosity = a.consoleVerbosity :=
    Frame.sinks_follow (hgui.trans hconsole.symm) turns
  let v := t.selected a.host.composer.verbosity
  refine ⟨Composer.slider v, (View.reported v).map Severity.label,
    if v.permits severity then [] else [.text (View.filteredHint severity v)],
    ?_, ?_, ⟨rfl, fun s => ⟨?_, ?_⟩⟩, ?_, ?_⟩
  · exact View.composer_eq _
  · split_ifs
    · exact .inl rfl
    · exact .inr rfl
  · rw [App.guiVerbosity_turn, Composer.permits_slider]
  · rw [App.consoleVerbosity_turn t a hsinks, Composer.permits_slider]
  · rw [View.reported_eq_take, List.map_take]
    exact List.take_prefix _ _
  · intro draft send sendKey m sent hsubmitted
    have hselected : sent.selected a.host.composer.verbosity = v := rfl
    refine ⟨?_, ?_⟩
    · rw [App.withholds_iff hsinks hsubmitted, hselected, ← Nat.not_le, ← Verbosity.permits_iff]
      split_ifs with hpermits <;> simp [hpermits]
    · rw [App.delivers_iff hsinks hsubmitted, hselected, View.label_mem_reported]

/-- A frame that picks a severity and moves the slider from beyond its end to the warnings. -/
def Turn.narrowing (s : Severity) : Turn where
  now := 0
  reading := ⟨0, ⟨0⟩⟩
  controls := { severity := some s, slide := some 1 }

theorem composer_truthful_narrowing :
    let a := ((App.attach ⟨0, ⟨0⟩⟩ (.new ⟨7⟩) none).follow []).app
    let sent := (Turn.narrowing .info).composing (some " go ") false true
    sent.controls.submission? a.host.composer.severity a.host.composer.draft =
        some (.info, "go") ∧
      (a.painted (.narrowing .info)).getLast? =
        some (.text "Info messages are filtered at verbosity 1.") ∧
      a.Withholds sent := by
  intro a sent
  have hsubmitted : sent.controls.submission? a.host.composer.severity a.host.composer.draft =
      some (.info, "go") := by decide
  have hlast : (a.painted (.narrowing .info)).getLast? =
      some (.text "Info messages are filtered at verbosity 1.") := by decide
  obtain ⟨number, labels, hint, hpainted, _, _, _, htrue⟩ :=
    composer_truthful ⟨0, ⟨0⟩⟩ (.new ⟨7⟩) none [] (.narrowing .info)
  refine ⟨hsubmitted, hlast, (htrue (some " go ") false true "go" hsubmitted).1.mp ?_⟩
  rintro rfl
  have hbutton : (a.painted (.narrowing .info)).getLast? = some (.text "Send") := by
    rw [hpainted, List.getLast?_append]
    rfl
  exact absurd (hlast.symm.trans hbutton) (by decide)

end SeverityLog
