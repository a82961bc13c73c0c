import HiveDump.Markup.Label
import HiveDump.Policy

/-!
# Configurations

How a hive is converted: whether reading it is traced, whether malformed entries are skipped, the
error policy, and the encoding of the document. A configuration may be given a policy or encoding
that is none; `Config.complaints` lists what is wrong with it.

Options come by name. `Config.ofOptions` leaves out the options without a value, the strict ways of
setting options take every one as it comes. The lenient way also lets an option take the place of
any other part of a configuration: most parts are never asked for again, but a configuration whose
check is replaced cannot be checked.
-/

namespace HiveDump

/-- What a configuration holds as its error policy. -/
inductive PolicyChoice
  | policy (p : Policy)
  | missing
  | text (s : String)

/-- The policy, if one was chosen. -/
def PolicyChoice.policy? : PolicyChoice → Option Policy
  | policy p => some p
  | missing | text _ => none

/-- The value of an option. -/
inductive OptionValue
  | missing
  | flag (b : Bool)
  | text (s : String)
  | policy (p : Policy)
  /-- A value of a type that no option takes, by the name of the type. -/
  | foreign (typeName : String)

/-- The name of the type of a value. -/
def OptionValue.typeName : OptionValue → String
  | missing => "NoneType"
  | flag _ => "bool"
  | text _ => "str"
  | policy _ => "ErrorPolicy"
  | foreign typeName => typeName

/-- Whether an option has no value. -/
def OptionValue.isMissing : OptionValue → Bool
  | missing => true
  | _ => false

/-- How a hive is converted. -/
structure Config where
  debug : Bool := false
  skipBad : Bool := false
  policy : PolicyChoice := .policy Policy.standard
  encoding : String := "utf-8"
  /-- The type of the value that stands in place of the check, if one does. -/
  checkReplaced : Option String := none

namespace Config

/-- Skips what is malformed, and warns if it is verbose. -/
def salvage (verbose : Bool := true) : Config :=
  { skipBad := true, policy := .policy { rule := .resume verbose } }

/-- The names of the options. -/
def optionNames : List String := ["debug", "skip_bad", "error_policy", "encoding"]

/-- Sets an option; a value of the wrong type leaves it as it is. -/
def set (c : Config) (name : String) (value : OptionValue) : Config :=
  match name, value with
  | "debug", .flag b => { c with debug := b }
  | "skip_bad", .flag b => { c with skipBad := b }
  | "encoding", .text s => { c with encoding := s }
  | "error_policy", .policy p => { c with policy := .policy p }
  | "error_policy", .text s => { c with policy := .text s }
  | "error_policy", .missing => { c with policy := .missing }
  | _, _ => c

/-- Parts that every configuration has besides its options, and that are never asked for. -/
def partNames : List String :=
  ["salvage", "from_kwargs", "__annotations__", "__dataclass_fields__", "__dataclass_params__",
    "__delattr__", "__dir__", "__doc__", "__eq__", "__format__", "__ge__", "__getattribute__",
    "__getstate__", "__gt__", "__hash__", "__init__", "__init_subclass__", "__le__", "__lt__",
    "__match_args__", "__module__", "__ne__", "__new__", "__reduce__", "__reduce_ex__",
    "__repr__", "__setattr__", "__sizeof__", "__str__", "__subclasshook__"]

/-- Puts a value in place of a part that is no option. -/
def replacePart (c : Config) (name : String) (value : OptionValue) : Except Fault Config :=
  let typeName := value.typeName
  match name with
  | "validate" => .ok { c with checkReplaced := some typeName }
  | "__class__" => .error (.notAClass typeName)
  | "__dict__" => if typeName = "dict" then .ok c else .error (.notADictionary typeName)
  | "__weakref__" => .error (.readOnlyPart name)
  | _ => if name ∈ partNames then .ok c else .error (.unknownOption name)

/-- A configuration from the options that have a value. -/
def ofOptions (options : List (String × OptionValue)) : Except Fault Config :=
  if options.any fun o => o.1 == "cls" then .error (.repeatedOption "VisitConfig.from_kwargs" "cls")
  else options.foldlM (fun c (name, value) =>
    if value.isMissing then .ok c
    else if name ∈ optionNames then .ok (c.set name value)
    else c.replacePart name value) {}

/-- The fault of an option that a function does not have; `given` is what it is given in any
case. -/
def foreignOption (function given name : String) : Fault :=
  if name = given then .repeatedOption function name else .unexpectedOption function name

/-- A configuration changed by options that all count. -/
def replace (c : Config) (options : List (String × OptionValue)) : Except Fault Config :=
  match options.find? fun o => o.1 ∉ optionNames with
  | some (name, _) => .error (foreignOption "VisitConfig.__init__" "self" name)
  | none => .ok (options.foldl (fun c (name, value) => c.set name value) c)

/-- A configuration from options that all count. -/
def ofFields (options : List (String × OptionValue)) : Except Fault Config :=
  replace {} options

/-- The salvaging configuration with its one option. -/
def salvageOf (options : List (String × OptionValue)) : Except Fault Config :=
  match options.find? fun o => o.1 ≠ "verbose" with
  | some (name, _) => .error (foreignOption "VisitConfig.salvage" "cls" name)
  | none => .ok <| salvage <| match options with
    | (_, .flag verbose) :: _ => verbose
    | _ => true

/-- What is wrong with a configuration, unless it cannot be told. -/
def complaints (c : Config) : Except Fault (List String) :=
  match c.checkReplaced with
  | some typeName => .error (.uncheckable typeName)
  | none =>
    if c.encoding.contains '\x00' then .error .zeroInLabel
    else if Label.isVoid c.encoding then .error (.voidLabel c.encoding)
    else .ok <|
      (match c.policy with
        | .policy _ => []
        | _ => ["error_policy must be an ErrorPolicy instance"]) ++
      (if Label.isRegistered c.encoding then []
        else [s!"unknown output encoding: {c.encoding}"])

end Config

end HiveDump
