import HiveDump.Text.DecimalDigit
import HiveDump.Text.Quoted

/-!
# Arguments of the command line

The program takes flags and the name of one file, in any order. Every flag has a long name, which
may be cut short as long as it stays clear which is meant; most have a short name, and short names
may be run together behind one hyphen. No flag takes a value. Everything behind `--` names files.

`Arguments.plan` says what the program has to do: print its help or version, complain, or run. A
flag that prints takes effect before anything behind it is looked at, but an argument that could
mean several flags is complained about before all else.
-/

namespace HiveDump

/-- The flags of the command line. -/
inductive Flag
  | help
  | debug
  | keepGoing
  | version
  deriving DecidableEq, Repr

namespace Flag

/-- All flags, in the order in which they are listed. -/
def all : List Flag := [help, debug, keepGoing, version]

/-- The long name of a flag. -/
def long : Flag → String
  | help => "--help"
  | debug => "--debug"
  | keepGoing => "--keep-going"
  | version => "--version"

/-- The letter of a flag. -/
def letter? : Flag → Option Char
  | help => some 'h'
  | debug => some 'd'
  | keepGoing => some 'k'
  | version => none

/-- The flag with a letter. -/
def ofLetter? (c : Char) : Option Flag :=
  all.find? fun f => f.letter? == some c

/-- The names of a flag in messages. -/
def names (f : Flag) : String :=
  match f.letter? with
  | some c => s!"-{c}/{f.long}"
  | none => f.long

end Flag

/-- What an argument in front of `--` is. -/
inductive Argument
  | file (name : String)
  /-- A flag by its long name, perhaps with a value that it does not take. -/
  | long (flag : Flag) (value : Option String)
  /-- A flag by its letter, and the letters behind it. -/
  | letters (flag : Flag) (rest : List Char)
  /-- A flag by its letter, and what stands behind an equals sign right behind the letter. -/
  | letterWithValue (flag : Flag) (value : List Char)
  | unknown (text : String)
  deriving DecidableEq, Repr

/-- Whether an argument names a file. -/
def Argument.isFile : Argument → Bool
  | file _ => true
  | _ => false

/-- What a run is asked to do. -/
structure Invocation where
  debug : Bool := false
  keepGoing : Bool := false
  file : Option String := none
  deriving DecidableEq, Repr

/-- What the program has to do. -/
inductive Plan
  | help
  | version
  | complain (text : String)
  | run (invocation : Invocation)
  deriving DecidableEq, Repr

namespace Arguments

/-! ## One argument -/

/-- Whether a text is a negative number: digits behind a hyphen, or digits around a full stop of
which those in front may be missing. -/
def isNegativeNumber (cs : List Char) : Bool :=
  let cs := if cs.getLast? = some '\n' then cs.dropLast else cs
  match cs with
  | '-' :: number =>
    let whole := number.takeWhile DecimalDigit.isDigit
    match number.dropWhile DecimalDigit.isDigit with
    | [] => !whole.isEmpty
    | '.' :: fraction => !fraction.isEmpty && fraction.all DecimalDigit.isDigit
    | _ => false
  | _ => false

/-- A text in front of its first equals sign, and what stands behind the sign. -/
def splitValue (cs : List Char) : List Char × Option (List Char) :=
  match cs.dropWhile (· ≠ '=') with
  | [] => (cs, none)
  | _ :: value => (cs.takeWhile (· ≠ '='), some value)

/-- An argument that names no flag. -/
def other (cs : List Char) : Argument :=
  let text := String.ofList cs
  if isNegativeNumber cs || cs.contains ' ' then .file text else .unknown text

/-- What an argument is, or a complaint that it is not clear. -/
def classify (text : String) : Except String Argument :=
  match text.toList with
  | '-' :: '-' :: rest =>
    let (name, value) := splitValue ('-' :: '-' :: rest)
    let value := value.map String.ofList
    match Flag.all.find? fun f => f.long.toList = name with
    | some f => .ok (.long f value)
    | none =>
      match Flag.all.filter fun f => name.isPrefixOf f.long.toList with
      | [] => .ok (other text.toList)
      | [f] => .ok (.long f value)
      | fs =>
        let names := String.intercalate ", " (fs.map Flag.long)
        .error s!"ambiguous option: {text} could match {names}"
  | '-' :: c :: rest =>
    match Flag.ofLetter? c, rest with
    | some f, '=' :: value => .ok (.letterWithValue f value)
    | some f, rest => .ok (.letters f rest)
    | none, _ => .ok (other text.toList)
  | _ => .ok (.file text)

/-! ## Flags -/

/-- The complaint about a value that a flag does not take. -/
def ignoredValue (f : Flag) (value : List Char) : String :=
  s!"argument {f.names}: ignored explicit argument {Quoted.text (String.ofList value)}"

/-- The flags that letters behind one hyphen name; from the first that names none on, they are a
value of the flag in front of it. -/
def spell (f : Flag) : (rest : List Char) → Except String (List Flag)
  | [] => .ok [f]
  | c :: rest =>
    match Flag.ofLetter? c with
    | some g => (spell g rest).map (f :: ·)
    | none => .error (ignoredValue f (c :: rest))

/-- The flags that an argument names. More letters may stand behind the equals sign that follows
a letter, but not nothing. -/
def flags : Argument → Except String (List Flag)
  | .long f none => .ok [f]
  | .long f (some value) => .error (ignoredValue f value.toList)
  | .letters f rest => spell f rest
  | .letterWithValue f [] => .error (ignoredValue f [])
  | .letterWithValue f value => spell f value
  | .file _ | .unknown _ => .ok []

/-! ## All arguments -/

/-- What is known in the middle of the arguments. -/
structure Progress where
  invocation : Invocation := {}
  /-- Whether the place of the file's name is taken. -/
  placed : Bool := false
  /-- Arguments that have no place. -/
  extras : List String := []

/-- Applies flags in order; one that prints ends the arguments. -/
def applyFlags (p : Progress) : List Flag → Except Plan Progress
  | [] => .ok p
  | .help :: _ => .error .help
  | .version :: _ => .error .version
  | .debug :: rest => applyFlags { p with invocation := { p.invocation with debug := true } } rest
  | .keepGoing :: rest =>
    applyFlags { p with invocation := { p.invocation with keepGoing := true } } rest

/-- Puts a file's name in its place, or with the arguments that have none. -/
def place (p : Progress) (name : String) : Progress :=
  if p.placed then { p with extras := p.extras ++ [name] }
  else { p with placed := true, invocation := { p.invocation with file := some name } }

/-- Takes an argument in front of `--`. -/
def take (p : Progress) (a : Argument) : Except Plan Progress :=
  match a with
  | .file name => .ok (place p name)
  | .unknown text => .ok { p with extras := p.extras ++ [text] }
  | a =>
    match flags a with
    | .error text => .error (.complain text)
    | .ok fs => applyFlags p fs

/-- Takes what stands behind `--`; `adjacent` says that the file's name stands right in front of
it. -/
def takeRest (p : Progress) (adjacent : Bool) (rest : List String) : Progress :=
  if !p.placed then
    match rest with
    | [] => { p with placed := true }
    | name :: more => { place p name with extras := p.extras ++ more }
  else if adjacent then { p with extras := p.extras ++ rest }
  else { p with extras := p.extras ++ "--" :: rest }

/-- Whether the only file's name is the last of the arguments. -/
def endsWithFile (as : List Argument) : Bool :=
  match (as.filter Argument.isFile).length, as.getLast? with
  | 1, some a => a.isFile
  | _, _ => false

/-- What the program has to do. -/
def plan (arguments : List String) : Plan :=
  let front := arguments.takeWhile (· ≠ "--")
  let rest := arguments.dropWhile (· ≠ "--")
  match front.mapM classify with
  | .error text => .complain text
  | .ok as =>
    match as.foldlM take {} with
    | .error plan => plan
    | .ok p =>
      let p := match rest with
        | [] => p
        | _ :: rest => takeRest p (endsWithFile as) rest
      match p.extras with
      | [] => .run p.invocation
      | extras => .complain ("unrecognized arguments: " ++ String.intercalate " " extras)

end Arguments

end HiveDump
