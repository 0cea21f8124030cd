/-!
# Addresses of requests

The path that the address of a request names. An address may be given in full, with a scheme and a
host in front; a query and a fragment may follow the path. What stands between them is read as an
address once more. Tabs and line breaks count for nothing. In the path a percent sign with two
hexadecimal digits stands for a character, and however many slashes it starts with count as one.
Where slashes stand together within a path, it can be merged into one without them
(`isMerged_merged`). No request can be made to a host that does not have the form of one.
-/

set_option autoImplicit false

namespace EntityAtlas.Service.Address

/-! ## Parts of an address -/

/-- An address without tabs and line breaks, and without blanks and controls in front. -/
def cleaned (address : List Char) : List Char :=
  (address.filter fun char => char ≠ '\t' ∧ char ≠ '\n' ∧ char ≠ '\r').dropWhile (· ≤ ' ')

/-- Whether a character may stand in the name of a scheme. -/
def isSchemeChar (char : Char) : Bool :=
  char.isAlphanum || char == '+' || char == '-' || char == '.'

/-- The name of the scheme in front of an address, empty if there is none, and the rest. -/
def splitScheme (address : List Char) : List Char × List Char :=
  match address.dropWhile isSchemeChar, address.head? with
  | ':' :: rest, some first =>
    if first.isAlpha then (address.takeWhile isSchemeChar, rest) else ([], address)
  | _, _ => ([], address)

/-- Whether a character stands behind the host of an address. -/
def endsHost (char : Char) : Bool := char == '/' || char == '?' || char == '#'

/-- The host in front of an address, empty if there is none, and the rest. -/
def splitHost : List Char → List Char × List Char
  | '/' :: '/' :: rest => (rest.takeWhile (!endsHost ·), rest.dropWhile (!endsHost ·))
  | address => ([], address)

/-- The start of an address up to its fragment and its query. -/
def beforeQuery (address : List Char) : List Char :=
  (address.takeWhile (· ≠ '#')).takeWhile (· ≠ '?')

/-! ## Percent signs -/

/-- The value of a hexadecimal digit. -/
def digit? (char : Char) : Option Nat :=
  if char.isDigit then some (char.toNat - '0'.toNat)
  else if 'a' ≤ char ∧ char ≤ 'f' then some (char.toNat - 'a'.toNat + 10)
  else if 'A' ≤ char ∧ char ≤ 'F' then some (char.toNat - 'A'.toNat + 10)
  else none

/-- A text with the escaped characters in place of their escapes. A percent sign without two digits
stands for itself. -/
def decoded : List Char → List Char
  | '%' :: high :: low :: rest =>
    match digit? high, digit? low with
    | some high, some low => Char.ofNat (16 * high + low) :: decoded rest
    | _, _ => '%' :: decoded (high :: low :: rest)
  | char :: rest => char :: decoded rest
  | [] => []

/-- What has no percent sign stands for itself. -/
theorem decoded_eq_self {text : List Char} (plain : ∀ char ∈ text, char ≠ '%') :
    decoded text = text := by
  induction text with
  | nil => rfl
  | cons char rest ih =>
    have apart : char ≠ '%' := plain char List.mem_cons_self
    rw [decoded, ih fun other member => plain other (List.mem_cons_of_mem char member)]
    rintro high low tail rfl
    exact absurd rfl apart

/-! ## Paths -/

/-- A path with one slash at its start. -/
def rooted (path : List Char) : List Char := '/' :: path.dropWhile (· = '/')

/-- What stands in an address between its host and its query. -/
def middle (address : List Char) : List Char :=
  beforeQuery (splitHost (splitScheme (cleaned address)).2).2

/-- The path that an address names. -/
def path (address : String) : List Char := rooted (decoded (middle (middle address.toList)))

/-- A path with slashes that stand together made one. -/
def merged : List Char → List Char
  | [] => []
  | char :: rest =>
    if char = '/' ∧ (merged rest).head? = some '/' then merged rest else char :: merged rest

/-- Whether no two slashes of a path stand together. -/
def isMerged : List Char → Bool
  | '/' :: '/' :: _ => false
  | _ :: rest => isMerged rest
  | [] => true

/-- A slash in front of a merged path that starts with none leaves it merged. -/
theorem isMerged_cons {char : Char} {path : List Char}
    (apart : ¬(char = '/' ∧ path.head? = some '/')) (rest : isMerged path = true) :
    isMerged (char :: path) = true := by
  rw [isMerged]
  · exact rest
  · rintro tail rfl rfl
    exact apart ⟨rfl, rfl⟩

/-- Merging leaves no two slashes together. -/
theorem isMerged_merged (path : List Char) : isMerged (merged path) = true := by
  induction path with
  | nil => rfl
  | cons char rest ih =>
    rw [merged]
    split
    · exact ih
    · exact isMerged_cons ‹_› ih

/-! ## Hosts -/

/-- Why no request can be made to an address. -/
inductive AddressError where
  /-- The host has brackets of one kind only. -/
  | lonelyBracket
  /-- A label in the name of the host is empty or too long. -/
  | hostName
  /-- The port is not the number of a port. -/
  | port

/-- The scheme of an address. -/
def scheme (address : List Char) : String :=
  String.ofList ((splitScheme (cleaned address)).1.map Char.toLower)

/-- The host of an address, with what belongs to it: who asks, and a port. -/
def host (address : List Char) : List Char := (splitHost (splitScheme (cleaned address)).2).1

/-- The name of a host and its port, which is empty if there is none. A name in brackets may have
colons. -/
def nameAndPort (host : List Char) : List Char × List Char :=
  let site := (host.reverse.takeWhile (· ≠ '@')).reverse
  match site.dropWhile (· ≠ '[') with
  | '[' :: bracketed =>
    (bracketed.takeWhile (· ≠ ']'), ((bracketed.dropWhile (· ≠ ']')).dropWhile (· ≠ ':')).drop 1)
  | _ => (site.takeWhile (· ≠ ':'), (site.dropWhile (· ≠ ':')).drop 1)

/-- Whether a host name has labels that points separate: none longer than 63 characters, and none
but the last empty. -/
def isHostName (name : List Char) : Bool :=
  let labels := name.splitOn '.'
  labels.all (·.length ≤ 63) && !labels.dropLast.any (·.isEmpty)

/-- Whether a port is absent or the number of a port. -/
def isPort (port : List Char) : Bool :=
  port.all Char.isDigit &&
    port.foldl (fun value digit => 10 * value + (digit.toNat - '0'.toNat)) 0 ≤ 65535

/-- What is wrong with a host. -/
def hostError? (host : List Char) : Option AddressError :=
  if host.contains '[' != host.contains ']' then some .lonelyBracket
  else if !isHostName (nameAndPort host).1 then some .hostName
  else if !isPort (nameAndPort host).2 then some .port
  else none

/-- What is wrong with an address. -/
def error? (address : String) : Option AddressError := hostError? (host address.toList)

end EntityAtlas.Service.Address
