import CaptureProbe.Output.Fault

/-!
A directory tree in which files are written by path. A path is followed name by name, from the root or
from the directory at home, and through links; only its last name may be new. Some names are devices,
which keep nothing.
-/

namespace CaptureProbe

abbrev Place := List String

inductive Device where
  | null
  | full
  | terminal
  | output
  | errors
  deriving DecidableEq, Repr

structure Directory where
  home : Place := []
  folders : List Place := []
  /-- Links, each with the names that are followed from the root instead. -/
  links : List (Place × List String) := []
  devices : List (Place × Device) := []
  /-- Directories in and below which nothing new can be put, with the fault of an attempt. -/
  sealed : List (Place × Fault) := []
  files : List (Place × String) := []
  deriving DecidableEq, Repr

namespace Directory

def splitSlashes : List Char → List (List Char)
  | [] => [[]]
  | c :: rest =>
    if c = '/' then [] :: splitSlashes rest
    else match splitSlashes rest with
      | [] => [[c]]
      | name :: names => (c :: name) :: names

def components (path : String) : List String := (splitSlashes path.toList).map String.ofList

def isFolder (d : Directory) (place : Place) : Bool := place.isEmpty || d.folders.contains place

def isFile (d : Directory) (place : Place) : Bool := d.files.any (·.1 == place)

def device? (d : Directory) (place : Place) : Option Device := d.devices.lookup place

def link? (d : Directory) (place : Place) : Option (List String) := d.links.lookup place

def seal? (d : Directory) (place : Place) : Option Fault :=
  (d.sealed.find? (·.1.isPrefixOf place)).map (·.2)

/-- The most bytes of a name, and of a whole path with the byte that ends it. -/
def longestName : Nat := 255

def longestPath : Nat := 4096

def mostLinks : Nat := 40

inductive Step where
  | to (place : Place)
  | link (names : List String)
  deriving DecidableEq, Repr

def enter (d : Directory) (place : Place) (name : String) : Except Fault Step :=
  let next := place ++ [name]
  if name = "" ∨ name = "." then .ok (.to place)
  else if name = ".." then .ok (.to place.dropLast)
  else if longestName < name.utf8ByteSize then .error .nameTooLong
  else match d.link? next with
    | some names => .ok (.link names)
    | none =>
      if d.isFolder next then .ok (.to next)
      else if d.isFile next ∨ (d.device? next).isSome then .error .notDirectory
      else .error .noSuchFile

/-- Follows names through directories up to the first link, where a jump goes on from the root. -/
def walkTo (d : Directory) (jump : List String → Except Fault Place) :
    Place → List String → Except Fault Place
  | place, [] => .ok place
  | place, name :: rest =>
    match d.enter place name with
    | .error fault => .error fault
    | .ok (.to place) => d.walkTo jump place rest
    | .ok (.link names) => jump (names ++ rest)

def walk (d : Directory) : Nat → Place → List String → Except Fault Place
  | 0 => d.walkTo fun _ => .error .tooManyLinks
  | links + 1 => d.walkTo (d.walk links [])

def target (d : Directory) (place : Place) (name : String) : Except Fault Step :=
  let next := place ++ [name]
  if name = "." ∨ name = ".." ∨ d.isFolder next then .error .isDirectory
  else if longestName < name.utf8ByteSize then .error .nameTooLong
  else match d.link? next with
    | some names => .ok (.link names)
    | none =>
      if d.isFile next ∨ (d.device? next).isSome then .ok (.to next)
      else match d.seal? next with
        | some fault => .error fault
        | none => .ok (.to next)

def followTo (d : Directory) (jump : List String → Except Fault Place) :
    Place → List String → Except Fault Place
  | _, [] => .error .isDirectory
  | place, [name] =>
    match d.target place name with
    | .error fault => .error fault
    | .ok (.to place) => .ok place
    | .ok (.link names) => jump names
  | place, name :: rest =>
    match d.enter place name with
    | .error fault => .error fault
    | .ok (.to place) => d.followTo jump place rest
    | .ok (.link names) => jump (names ++ rest)

/-- Follows names to what can be written, of which the last may be new, through so many links at
most. -/
def follow (d : Directory) : Nat → Place → List String → Except Fault Place
  | 0 => d.followTo fun _ => .error .tooManyLinks
  | links + 1 => d.followTo (d.follow links [])

/-- The place of a path by its names. A path that ends in a slash names a directory. -/
def locateNames (d : Directory) (start : Place) (names : List String) : Except Fault Place :=
  let kept := (names.reverse.dropWhile (· = "")).reverse
  if kept.length = names.length then d.follow mostLinks start kept
  else match d.walk mostLinks start kept.dropLast with
    | .error fault => .error fault
    | .ok _ => .error .isDirectory

def startOf (d : Directory) (path : String) : Place :=
  if path.toList.head? = some '/' then [] else d.home

def locate (d : Directory) (path : String) : Except Fault Place :=
  if path.toList.contains '\x00' then .error .nulInPath
  else if path = "" then .error .noSuchFile
  else if longestPath ≤ path.utf8ByteSize then .error .nameTooLong
  else d.locateNames (d.startOf path) (components path)

def put (d : Directory) (place : Place) (text : String) : Directory :=
  { d with files := d.files.filter (·.1 != place) ++ [(place, text)] }

def read? (d : Directory) (place : Place) : Option String :=
  (d.files.find? (·.1 == place)).map (·.2)

def filesAtHome (d : Directory) : List (Place × String) :=
  d.files.filterMap fun file =>
    if d.home.isPrefixOf file.1 then some (file.1.drop d.home.length, file.2) else none

end Directory
end CaptureProbe
