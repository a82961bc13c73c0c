import HiveDump.Fault

/-!
# Looking up files

A `Directory` is a set of named files and folders. `Directory.read` looks up a path in it as the
system does: a file has to be named without anything behind it, and a folder cannot be read. Names
and paths are limited in length, and no path has a zero character.
-/

namespace HiveDump

/-- What a name stands for. -/
inductive Directory.Item
  | file (content : ByteArray)
  | folder

/-- Files and folders by their paths from here. -/
structure Directory where
  items : List (String × Directory.Item)

/-- Why a file cannot be read. -/
inductive LookupFault
  | notFound
  | isFolder
  | notAFolder
  | tooLong
  deriving DecidableEq, Repr

/-- The wording of a lookup fault. -/
def LookupFault.message : LookupFault → String
  | notFound => "No such file or directory"
  | isFolder => "Is a directory"
  | notAFolder => "Not a directory"
  | tooLong => "File name too long"

namespace Directory

/-- The steps of a path, without empty ones in the middle; a slash at the end is a step. -/
def steps (path : String) : List String :=
  let parts := (path.split (· == '/')).toStringList
  let inner := parts.dropLast.filter (· ≠ "")
  match parts.getLast? with
  | some "" => inner ++ ["."]
  | some last => inner ++ [last]
  | none => inner

/-- The path that steps from here spell. -/
def joined (place : List String) : String :=
  String.intercalate "/" place

/-- What stands at a place that is named by its steps from here. -/
def find? (d : Directory) (place : List String) : Option Item :=
  let path := joined place
  if place.isEmpty then some .folder
  else match d.items.find? fun e => joined (steps e.1) == path with
    | some (_, item) => some item
    | none => if d.items.any fun e => (path ++ "/").isPrefixOf e.1 then some .folder else none

/-- Whether a name is longer than any that a folder can hold. -/
def isLongName (name : String) : Bool :=
  name.utf8ByteSize > 255

/-- Whether a path is longer than any that the system takes. -/
def isLongPath (path : String) : Bool :=
  path.utf8ByteSize > 4095

/-- What steps that start outside lead to: nothing is known there but folders above. -/
def outside (steps : List String) : Except LookupFault Item :=
  match steps.find? fun s => s != "." && s != ".." with
  | none => .ok .folder
  | some name => .error (if isLongName name then .tooLong else .notFound)

/-- Takes the steps of a path from a place. -/
def follow (d : Directory) : (place : List String) → (steps : List String) →
    Except LookupFault Item
  | place, [] =>
    match d.find? place with
    | some item => .ok item
    | none => .error .notFound
  | place, step :: rest =>
    match d.find? place with
    | none => .error .notFound
    | some (.file _) => .error .notAFolder
    | some .folder =>
      if step = "." then d.follow place rest
      else if isLongName step then .error .tooLong
      else if step ≠ ".." then d.follow (place ++ [step]) rest
      else if place.isEmpty then outside rest
      else d.follow place.dropLast rest

/-- What a path leads to. -/
def lookup (d : Directory) (path : String) : Except LookupFault Item :=
  if path.isEmpty then .error .notFound
  else if isLongPath path then .error .tooLong
  else if "/".isPrefixOf path then outside (steps path)
  else d.follow [] (steps path)

/-- The content of the file at a path. -/
def read (d : Directory) (path : String) : Except Fault ByteArray :=
  let unreadable (fault : LookupFault) : Except Fault ByteArray :=
    .error (.unopenable path (.file fault.message))
  if path.contains '\x00' then .error .zeroInPath
  else match d.lookup path with
    | .ok (.file content) => .ok content
    | .ok .folder => unreadable .isFolder
    | .error fault => unreadable fault

end Directory

end HiveDump
