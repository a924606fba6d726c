import SeverityLog.Failure

/-!
# Files

A tree of files and directories, and what a path leads to in it. A path is followed part by part;
every part but the last has to lead to a directory.
-/

namespace SeverityLog

inductive Lookup where
  | file (bytes : ByteArray)
  | directory
  /-- Something is there that cannot be read. -/
  | unreadable (cause : ReadFailure)
  /-- The path leads to nothing. -/
  | failed (cause : ReadFailure)

namespace Lookup

def isPresent : Lookup → Bool
  | failed _ => false
  | _ => true

def text : Lookup → Except ReadFailure String
  | file bytes => (String.fromUTF8? bytes).elim (.error .notUtf8) .ok
  | directory => .error .isDirectory
  | unreadable cause | failed cause => .error cause

theorem isPresent_of_ne {found : Lookup} (h : ∀ cause, found ≠ .failed cause) :
    found.isPresent := by
  cases found with
  | failed cause => exact absurd rfl (h cause)
  | _ => rfl

theorem isPresent_of_text {found : Lookup} {content : String} (h : found.text = .ok content) :
    found.isPresent := by
  cases found with
  | failed cause => cases h
  | _ => rfl

end Lookup

inductive FileNode where
  | file (bytes : ByteArray)
  | directory

/-- Files and directories by the parts of their paths from the root. A directory that holds
something need not be listed. -/
structure FileTree where
  workingDirectory : List String
  nodes : List (List String × FileNode)

namespace FileTree

def parts (path : String) : List String := (path.toList.splitOn '/').map String.ofList

def enter (place : List String) (part : String) : List String :=
  if part = "" ∨ part = "." then place
  else if part = ".." then place.dropLast
  else place ++ [part]

/-- The places on the way along the parts of a path, the last at its end. -/
def way (place : List String) : List String → List (List String)
  | [] => [place]
  | part :: rest => place :: way (enter place part) rest

/-- The tree of the given paths. Each directory on the way to a path is made, also one that the
path leaves again. -/
def ofPaths (workingDirectory : List String) (paths : List (String × FileNode)) : FileTree where
  workingDirectory
  nodes := paths.flatMap fun (path, node) =>
    let places := (way workingDirectory (parts path)).reverse
    (places.head?.getD [], node) :: places.tail.map (·, .directory)

def node? (t : FileTree) (place : List String) : Option FileNode :=
  match t.nodes.lookup place with
  | some n => some n
  | none =>
    if place.isPrefixOf t.workingDirectory || t.nodes.any (place.isPrefixOf ·.1) then
      some .directory
    else none

def walk (t : FileTree) (place : List String) : List String → Lookup
  | [] => .directory
  | part :: rest =>
    if part.utf8ByteSize > 255 then .failed .nameTooLong
    else
      match t.node? (enter place part), rest with
      | none, _ => .failed .noSuchFile
      | some .directory, _ => t.walk (enter place part) rest
      | some (.file bytes), [] => .file bytes
      | some (.file _), _ :: _ => .failed .notDirectory

def lookup (t : FileTree) (path : String) : Lookup :=
  if path.contains (Char.ofNat 0) then .failed .nulInName
  else if path = "" then .failed .noSuchFile
  else if path.utf8ByteSize ≥ 4096 then .failed .nameTooLong
  else t.walk (if path.startsWith "/" then [] else t.workingDirectory) (parts path)

end FileTree

end SeverityLog
