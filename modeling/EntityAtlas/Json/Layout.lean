import EntityAtlas.Json

/-!
# The text of a JSON value

A layout fixes what JSON leaves open: the separators, whether nested values go on lines of their
own, whether the fields of a record are sorted, and whether characters beyond ASCII are escaped.
-/

set_option autoImplicit false

namespace EntityAtlas.Json

/-- The choices in writing a JSON value. -/
structure Layout where
  itemSeparator : String
  keySeparator : String
  /-- The indentation of one level; without it all stands on one line. -/
  indent : Option String := none
  sortKeys : Bool := false
  asciiOnly : Bool := true

namespace Layout

/-- No blanks, fields in the order they were written, ASCII only: the form of an answer sent to
a client. -/
def compact : Layout := { itemSeparator := ",", keySeparator := ":" }

/-- A layout with the separators that go with its indentation where none are chosen: an item
separator before a line break has no blank after it. -/
def choose (indent : Option String) (separators : Option (String × String))
    (sortKeys asciiOnly : Bool) : Layout :=
  let (itemSeparator, keySeparator) :=
    separators.getD (if indent.isSome then "," else ", ", ": ")
  { itemSeparator, keySeparator, indent, sortKeys, asciiOnly }

/-- The break before an item at some depth. -/
def lineBreak (layout : Layout) (depth : Nat) : String :=
  match layout.indent with
  | none => ""
  | some unit => "\n" ++ String.join (List.replicate depth unit)

/-- Items between brackets, on lines of their own if the layout indents. -/
def enclose (layout : Layout) (depth : Nat) (opening closing : String) (items : List String) :
    String :=
  if items.isEmpty then opening ++ closing
  else
    opening ++ layout.lineBreak (depth + 1) ++
      (layout.itemSeparator ++ layout.lineBreak (depth + 1)).intercalate items ++
      layout.lineBreak depth ++ closing

end Layout

/-! ## Texts and numbers -/

/-- A number in at least so many hexadecimal digits. -/
def hexadecimal (width code : Nat) : List Char :=
  let digits := Nat.toDigits 16 code
  List.replicate (width - digits.length) '0' ++ digits

/-- The escape of a UTF-16 unit. -/
def unitEscape (code : Nat) : List Char := '\\' :: 'u' :: hexadecimal 4 code

/-- The escape of a character by its UTF-16 units. -/
def escape (char : Char) : List Char :=
  let code := char.toNat
  if code < 0x10000 then unitEscape code
  else
    unitEscape (0xD800 + (code - 0x10000) / 0x400) ++ unitEscape (0xDC00 + (code - 0x10000) % 0x400)

/-- A character inside a quoted text. Quotes, backslashes and control characters are always
escaped; under `asciiOnly` so is whatever lies beyond the printable ASCII characters. -/
def quotedChar (asciiOnly : Bool) (char : Char) : List Char :=
  if char = '\x22' then ['\\', '\x22']
  else if char = '\\' then ['\\', '\\']
  else if char = '\n' then ['\\', 'n']
  else if char = '\r' then ['\\', 'r']
  else if char = '\t' then ['\\', 't']
  else if char = '\x08' then ['\\', 'b']
  else if char = '\x0c' then ['\\', 'f']
  else if char.toNat < 0x20 || (asciiOnly && char.toNat > 0x7E) then escape char
  else [char]

/-- A text in quotes. -/
def quoted (asciiOnly : Bool) (text : String) : String :=
  String.ofList ('\x22' :: text.toList.flatMap (quotedChar asciiOnly) ++ ['\x22'])

/-- A whole number in decimal digits. -/
def integerText (value : Int) : String :=
  String.ofList ((if value < 0 then ['-'] else []) ++ Nat.toDigits 10 value.natAbs)

/-- The number `digits / 10 ^ places` with that many decimal places. -/
def decimalText (digits : Int) (places : Nat) : String :=
  if places = 0 then integerText digits
  else
    let whole := Nat.toDigits 10 (digits.natAbs / Nat.pow 10 places)
    let fraction := Nat.toDigits 10 (digits.natAbs % Nat.pow 10 places)
    String.ofList ((if digits < 0 then ['-'] else []) ++ whole ++ '.' ::
      (List.replicate (places - fraction.length) '0' ++ fraction))

/-! ## Values -/

mutual

/-- The text of a value at some depth, its fields in the order they stand. -/
def write (layout : Layout) (depth : Nat) : Json → String
  | .null => "null"
  | .bool true => "true"
  | .bool false => "false"
  | .integer value => integerText value
  | .decimal digits places => decimalText digits places
  | .text value => quoted layout.asciiOnly value
  | .list items => layout.enclose depth "[" "]" (writeItems layout (depth + 1) items)
  | .record fields => layout.enclose depth "\x7b" "\x7d" (writeFields layout (depth + 1) fields)

/-- The texts of the items of a list. -/
def writeItems (layout : Layout) (depth : Nat) : List Json → List String
  | [] => []
  | item :: rest => item.write layout depth :: writeItems layout depth rest

/-- The texts of the fields of a record. -/
def writeFields (layout : Layout) (depth : Nat) : List (String × Json) → List String
  | [] => []
  | (name, value) :: rest =>
    (quoted layout.asciiOnly name ++ layout.keySeparator ++ value.write layout depth) ::
      writeFields layout depth rest

end

/-- The text of a value in a layout. -/
def render (layout : Layout) (value : Json) : String :=
  (if layout.sortKeys then value.keysAscending else value).write layout 0

end EntityAtlas.Json
