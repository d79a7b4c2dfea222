import StepLab.CommandLine.Path
import StepLab.LoadError
import StepLab.Text.Blank
import StepLab.Text.Lines

/-! # Directories

Files at places, which are lists of names from the root.  Every part of a path but the last
has to lead to a folder; what goes wrong first is the error. -/

set_option autoImplicit false

namespace StepLab

abbrev Place := List String

namespace Place

def root : Place := []

def temporary : Place := ["tmp"]

/-- The working folder, under a name that no path spells. -/
def here : Place := temporary ++ [Path.itself]

def above (p : Place) : Place := p.dropLast

def start (path : Path) : Place := if path.rooted then root else here

end Place

structure Directory where
  files : List (Place × ByteArray) := []

namespace Directory

def systemFolders : List Place :=
  [["bin"], ["boot"], ["dev"], ["etc"], ["home"], ["lib"], ["media"], ["mnt"], ["opt"],
   ["proc"], ["root"], ["run"], ["sbin"], ["srv"], ["sys"], ["tmp"], ["usr"], ["var"],
   ["dev", "pts"], ["dev", "shm"], ["usr", "bin"], ["usr", "lib"], ["usr", "local"],
   ["usr", "sbin"], ["usr", "share"], ["var", "cache"], ["var", "lib"], ["var", "log"],
   ["var", "tmp"]]

/-- The file that is always there and always empty, whatever is written to it. -/
def nullDevice : Place := ["dev", "null"]

def ofFiles (files : List (String × ByteArray)) : Directory where
  files := (nullDevice, ByteArray.empty) :: files.map fun file =>
    let path := Path.ofText file.1
    (Place.start path ++ path.parts.filter (· ≠ Path.itself), file.2)

def file? (d : Directory) (p : Place) : Option ByteArray :=
  (d.files.find? fun file => file.1 = p).map Prod.snd

/-- Whether there is a folder at a place: the root, the working folder, a folder of
the system, or one with files in it. -/
def isFolder (d : Directory) (p : Place) : Bool :=
  p = Place.root || p = Place.here || systemFolders.contains p ||
    d.files.any fun file => p.isPrefixOf file.1 && file.1 ≠ p

def folder (d : Directory) (p : Place) : Except FileError Place :=
  if d.isFolder p then .ok p
  else if (d.file? p).isSome then .error .notADirectory
  else .error .missing

/-- Goes from a folder to what a part names in it, which need not exist. -/
def enter (d : Directory) (p : Place) (part : String) : Except FileError Place := do
  let p ← d.folder p
  if part = Path.itself then return p
  else if part = Path.parent then return p.above
  else if Path.isOverlongPart part then throw .nameTooLong
  else return p ++ [part]

def locate (d : Directory) (text : String) : Except FileError Place := do
  let path := Path.ofText text
  if text.isEmpty then throw .missing
  else if Path.isOverlong text then throw .nameTooLong
  else
    let p ← path.parts.foldlM d.enter (Place.start path)
    if path.slashed then d.folder p else return p

def bytes (d : Directory) (text : String) : Except FileError ByteArray := do
  let p ← d.locate text
  if d.isFolder p then throw .isADirectory
  else
    match d.file? p with
    | some bytes => return bytes
    | none => throw .missing

def read (d : Directory) (text : String) : Except FileError String := do
  match String.fromUTF8? (← d.bytes text) with
  | some content => return content
  | none => throw .notText

def clear (d : Directory) (p : Place) : Directory where
  files := (p, ByteArray.empty) :: d.files.filter fun file => file.1 ≠ p

/-- The place for a new file with the given last part.  A part that stands for a
folder, or is followed by a slash, can only name a folder. -/
def placeIn (d : Directory) (p : Place) (last : String) (slashed : Bool) :
    Except FileError Place := do
  let p ← d.folder p
  if Path.isDots last || slashed then throw .isADirectory
  else if Path.isOverlongPart last then throw .nameTooLong
  else if d.isFolder (p ++ [last]) then throw .isADirectory
  else return p ++ [last]

def create (d : Directory) (text : String) : Except FileError Directory := do
  let path := Path.ofText text
  if text.isEmpty then throw .missing
  else if Path.isOverlong text then throw .nameTooLong
  else
    match path.parts.getLast? with
    | none => throw .isADirectory
    | some last =>
        let p ← path.parts.dropLast.foldlM d.enter (Place.start path)
        return d.clear (← d.placeIn p last path.slashed)

/-- A line without what stands before its first space and without the blanks from
there on; a line without spaces is left as it is. -/
def afterFirstWord (line : List Char) : List Char :=
  match line.dropWhile (· ≠ ' ') with
  | [] => line
  | rest => rest.dropWhile Text.isBlank

def timedLines (d : Directory) (text : String) : List String :=
  match d.read text with
  | .ok content =>
      (Text.lines content.toList).map fun line => String.ofList (afterFirstWord line)
  | .error _ => []

end Directory

end StepLab
