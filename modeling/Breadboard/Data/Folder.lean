import Breadboard.Data.Dict
import Breadboard.Data.Path

/-! A folder: the files and folders inside it, by the paths of their places. -/

namespace Breadboard

inductive FolderEntry where
  | file (content : Bytes)
  | folder
  deriving DecidableEq

inductive PathFault where
  | missing
  /-- A file where a folder should be. -/
  | notFolder
  /-- A folder where a file should be. -/
  | isFolder
  | tooLong
  /-- A path that cannot be told to the host: code points that have no bytes. -/
  | unencodable
  /-- A path that cannot be told to the host: a null inside. -/
  | hasNull
  deriving DecidableEq, Repr

namespace PathFault

def isUnasked : PathFault → Bool
  | unencodable => true
  | hasNull => true
  | _ => false

end PathFault

abbrev Folder := Dict FolderEntry

namespace Folder

/-- What is at a place. What is around a file is a folder. -/
def at? (f : Folder) (p : Place) : Option FolderEntry :=
  if p.isAround ∨ p = Place.root then some .folder
  else
    match f.get? p.path with
    | some entry => some entry
    | none =>
        if f.any fun (path, _) => path.startsWith (p.path ++ text "/") then some .folder else none

def walk (f : Folder) (p : Place) : (steps : List Text) → Except PathFault Place
  | [] => .ok p
  | step :: steps =>
      match f.at? p with
      | none => .error .missing
      | some (.file _) => .error .notFolder
      | some .folder =>
          if Path.isStay step then walk f p steps
          else if step = Place.up then walk f p.parent steps
          else if Path.mostNameBytes < ((Utf8.encode? step).getD []).length then .error .tooLong
          else walk f (p ++ [step]) steps

/-- The place that a path leads to. There may be nothing there, but a folder is around it. -/
def place? (f : Folder) (path : Text) : Except PathFault Place :=
  match Utf8.encode? path with
  | none => .error .unencodable
  | some bytes =>
      if bytes.contains 0 then .error .hasNull
      else if path.isEmpty then .error .missing
      else if Path.mostBytes < bytes.length then .error .tooLong
      else
        let (start, steps) := Path.steps path
        f.walk start steps

def entry? (f : Folder) (path : Text) : Option FolderEntry := (f.place? path).toOption.bind f.at?

def content? (f : Folder) (path : Text) : Option Bytes :=
  match f.entry? path with
  | some (.file content) => some content
  | _ => none

def write (f : Folder) (path : Text) (content : Bytes) : Except PathFault Folder := do
  let p ← f.place? path
  match f.at? p with
  | some .folder => throw .isFolder
  | _ => return f.put p.path (.file content)

/-- The folder with a file that can be added to; it is left as it is if it is there. -/
def touch (f : Folder) (path : Text) : Except PathFault Folder :=
  f.write path ((f.content? path).getD [])

end Folder

end Breadboard
