import HiveDump.Text.Unprintable

/-!
# Quoted text

The form in which names and keys stand in messages: between single quotes, or between double ones
if the text holds a single quote and no double one. A backslash, the quote in use, tab, line feed
and carriage return are escaped with a letter; every other character that cannot be shown gets its
code in two, four or eight hexadecimal digits.
-/

namespace HiveDump.Quoted

/-- `width` hexadecimal digits of `n`, in lower case. -/
def hex (width n : Nat) : List Char :=
  let digits := Nat.toDigits 16 n
  List.replicate (width - digits.length) '0' ++ digits

/-- The shortest escape that has room for the code point. -/
def codeEscape (n : Nat) : List Char :=
  if n < 0x100 then '\\' :: 'x' :: hex 2 n
  else if n < 0x10000 then '\\' :: 'u' :: hex 4 n
  else '\\' :: 'U' :: hex 8 n

/-- A character between two `quote`s. -/
def escape (quote c : Char) : List Char :=
  if c = quote ∨ c = '\\' then ['\\', c]
  else if c = '\t' then ['\\', 't']
  else if c = '\n' then ['\\', 'n']
  else if c = '\r' then ['\\', 'r']
  else if c.toNat < 0x20 then codeEscape c.toNat
  else if c.toNat < 0x7F then [c]
  else if Unprintable.contains c.toNat then codeEscape c.toNat
  else [c]

/-- The quote that a text is put between. -/
def quoteFor (cs : List Char) : Char :=
  if '\'' ∈ cs ∧ '"' ∉ cs then '"' else '\''

/-- A text between quotes. -/
def text (s : String) : String :=
  let quote := quoteFor s.toList
  String.ofList (quote :: s.toList.flatMap (escape quote) ++ [quote])

/-- A text between quotes, or the word for a text that is missing. -/
def optional : Option String → String
  | some s => text s
  | none => "None"

end HiveDump.Quoted
