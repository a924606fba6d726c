import SeverityLog.Text.Unprintable

/-!
# Offsets in bytes

Text is cut at offsets that count its bytes. A cut can fail: an offset may lie inside a character
that takes several bytes. A cut at the offset of a character cuts before it.
-/

namespace SeverityLog.Text

abbrev Located := List (Nat × Char)

def locate : Nat → List Char → Located
  | _, [] => []
  | n, c :: cs => (n, c) :: locate (n + c.utf8Size) cs

theorem snd_mem_of_mem_locate {n : Nat} {cs : List Char} {p : Nat × Char}
    (h : p ∈ locate n cs) : p.2 ∈ cs := by
  induction cs generalizing n with
  | nil => cases h
  | cons c cs ih =>
    rcases List.mem_cons.1 h with rfl | h
    · exact List.mem_cons_self
    · exact List.mem_cons_of_mem _ (ih h)

/-- An offset, where a piece starts or ends, that is inside a character. -/
structure SplitCharacter where
  atStart : Bool
  offset : Nat
  /-- The offset of the character itself. -/
  first : Nat
  char : Char
  deriving DecidableEq, Repr

def SplitCharacter.message (s : SplitCharacter) : String :=
  (if s.atStart then "start" else "end") ++ " byte index " ++ toString s.offset ++
    " is not a char boundary; it is inside '" ++ String.ofList (escape s.char) ++ "' (bytes " ++
    toString s.first ++ ".." ++ toString (s.first + s.char.utf8Size) ++ " of string)"

namespace Located

/-- The character that an offset splits. -/
def split? (offset : Nat) (atStart : Bool) (s : Located) : Option SplitCharacter :=
  (s.find? fun (n, c) => n < offset && offset < n + c.utf8Size).map fun (n, c) =>
    ⟨atStart, offset, n, c⟩

def cutFrom (first : Nat) (s : Located) : Except SplitCharacter String :=
  match s.split? first true with
  | some split => .error split
  | none => .ok (String.ofList ((s.filter (first ≤ ·.1)).map (·.2)))

def cut (first past : Nat) (s : Located) : Except SplitCharacter String :=
  match s.split? first true, s.split? past false with
  | some split, _ | none, some split => .error split
  | none, none =>
    .ok (String.ofList ((s.filter fun (n, _) => first ≤ n && n < past).map (·.2)))

end Located

end SeverityLog.Text
