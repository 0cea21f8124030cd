import EntityAtlas.Json.Layout
import EntityAtlas.Text.Printable

/-!
# The text of a value in place of a name

Where a name is expected and any value may be given, the value is shown as a text. A text stands
for itself. Any other value is spelled out, with the texts inside it in quotes: single ones, unless
the text has a single quote and no double one. Quotes, backslashes and unprintable characters are
escaped.
-/

set_option autoImplicit false

namespace EntityAtlas.Json

/-- The escape of a character by its code, as short as the code allows. -/
def codeEscape (char : Char) : List Char :=
  let code := char.toNat
  if code < 0x100 then '\\' :: 'x' :: hexadecimal 2 code
  else if code < 0x10000 then '\\' :: 'u' :: hexadecimal 4 code
  else '\\' :: 'U' :: hexadecimal 8 code

/-- A character of a text that stands between quotes. -/
def spelledChar (quote char : Char) : List Char :=
  if char = quote ∨ char = '\\' then ['\\', char]
  else if char = '\n' then ['\\', 'n']
  else if char = '\r' then ['\\', 'r']
  else if char = '\t' then ['\\', 't']
  else if Text.isPrintable char then [char]
  else codeEscape char

/-- The quotes that go around a text. -/
def quoteAround (text : List Char) : Char :=
  if text.contains '\x27' && !text.contains '\x22' then '\x22' else '\x27'

/-- A text between quotes. -/
def spelledText (text : String) : String :=
  let quote := quoteAround text.toList
  String.ofList (quote :: text.toList.flatMap (spelledChar quote) ++ [quote])

mutual

/-- A value spelled out. -/
def spelled : Json → String
  | .null => "None"
  | .bool true => "True"
  | .bool false => "False"
  | .integer value => integerText value
  | .decimal digits places => decimalText digits places
  | .text value => spelledText value
  | .list items => "[" ++ ", ".intercalate (spelledItems items) ++ "]"
  | .record fields => "\x7b" ++ ", ".intercalate (spelledFields fields) ++ "\x7d"

/-- The items of a list, each spelled out. -/
def spelledItems : List Json → List String
  | [] => []
  | item :: rest => item.spelled :: spelledItems rest

/-- The fields of a record, each spelled out. -/
def spelledFields : List (String × Json) → List String
  | [] => []
  | (name, value) :: rest => (spelledText name ++ ": " ++ value.spelled) :: spelledFields rest

end

/-- A value as a text: a text as it is, and any other value spelled out. -/
def display : Json → String
  | .text value => value
  | value => value.spelled

end EntityAtlas.Json
