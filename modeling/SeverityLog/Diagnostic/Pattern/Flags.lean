import SeverityLog.Text.Blank

/-!
# Flags of patterns

Flags say how a pattern is read, from where they are changed to the end of the group around it.
Three of them decide what is well formed: whether letters match in any case, whether the pattern is
about characters or about bytes, and whether it is spaced out with blanks and comments.
-/

namespace SeverityLog.Diagnostic.Pattern

structure Flags where
  anyCase : Bool := false
  unicode : Bool := true
  spaced : Bool := false
  deriving DecidableEq, Repr

namespace Flags

/-- Each flag is known, nothing is written twice, and a hyphen is not the last. -/
def isChange (cs : List Char) : Bool :=
  cs.all ("-imsUuRx".contains ·) && cs.Nodup && cs.getLast? != some '-'

/-- The flags after a change. Those behind the hyphen are switched off. -/
def change (cs : List Char) (f : Flags) : Flags :=
  let on := cs.takeWhile (· != '-')
  let off := cs.dropWhile (· != '-')
  let switch (now : Bool) (flag : Char) : Bool := (now || on.contains flag) && !off.contains flag
  { anyCase := switch f.anyCase 'i'
    unicode := switch f.unicode 'u'
    spaced := switch f.spaced 'x' }

/-- Characters of any case are matched by a table, and there is none. -/
def needsTable (f : Flags) : Bool := f.unicode && f.anyCase

/-- Whether a class may be taken for its complement. A class of bytes may hold ASCII only. -/
def admitsComplement (f : Flags) : Bool := f.unicode

end Flags

/-! ## Blanks and comments -/

/-- The rest after blanks, and after comments from a hash to the end of the line. -/
def dropComments (inComment : Bool) : List Char → List Char
  | [] => []
  | c :: r =>
    if inComment then dropComments (c != '\n') r
    else if Text.isBlank c then dropComments false r
    else if c = '#' then dropComments true r
    else c :: r

namespace Flags

def skip (f : Flags) (s : List Char) : List Char := if f.spaced then dropComments false s else s

/-- The next character that counts, as it is seen from a distance: a comment ends at once. -/
def peek? (f : Flags) (s : List Char) : Option Char :=
  if f.spaced then
    match Text.trimStart s with
    | '#' :: r => (Text.trimStart r).head?
    | r => r.head?
  else s.head?

end Flags

end SeverityLog.Diagnostic.Pattern
