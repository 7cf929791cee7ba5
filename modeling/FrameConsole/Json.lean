import FrameConsole.Text.Hex

/-!
# JSON trees

JSON values as trees. The members of an object keep the order in which they are written, and a
number is kept as it is written, since `1.0` is not accepted where an integer is asked for.

## Main definitions

* `FrameConsole.Json` — the trees.
* `FrameConsole.Json.member?` — the member of an object with a given key.
* `FrameConsole.Json.pretty` — the indented text of a tree.
-/

namespace FrameConsole

/-- A JSON value. -/
inductive Json where
  /-- The value `null`. -/
  | null
  /-- A truth value. -/
  | bool (value : Bool)
  /-- A number written without a fraction. -/
  | integer (value : Int)
  /-- A number written with digits after the point: `digits` without the point, and how many of
  them stand after it. -/
  | fraction (digits : Int) (places : Nat)
  /-- A string. -/
  | string (value : String)
  /-- A list of values. -/
  | array (items : List Json)
  /-- An object, by its keys and values in order. -/
  | object (members : List (String × Json))

namespace Json

instance : Inhabited Json := ⟨null⟩

/-- The value of the first member with a key, if the tree is an object that has one. -/
def member? (key : String) : Json → Option Json
  | .object members => members.lookup key
  | _ => none

/-- The number of a tree that is an integer. -/
def integer? : Json → Option Int
  | .integer value => some value
  | _ => none

/-- The text of a tree that is a string. -/
def string? : Json → Option String
  | .string value => some value
  | _ => none

/-- The items of a tree that is a list. -/
def array? : Json → Option (List Json)
  | .array items => some items
  | _ => none

/-! ### Text -/

/-- The written form of a character of a string. -/
def escape (c : Char) : List Char :=
  if c = '"' ∨ c = '\\' then ['\\', c]
  else if c.toNat = 0x08 then ['\\', 'b']
  else if c = '\t' then ['\\', 't']
  else if c = '\n' then ['\\', 'n']
  else if c.toNat = 0x0C then ['\\', 'f']
  else if c = '\r' then ['\\', 'r']
  else if c.toNat < 0x20 then
    ['\\', 'u', '0', '0', Hex.digitChar (c.toNat / 16), Hex.digitChar (c.toNat % 16)]
  else [c]

/-- A string in its quotes. -/
def quote (s : String) : String :=
  String.ofList (['"'] ++ s.toList.flatMap escape ++ ['"'])

/-- The decimal text of a number with `places` digits after the point. -/
def decimal (digits : Int) (places : Nat) : String :=
  let unsigned := (Nat.toDigits 10 digits.natAbs).leftpad (places + 1) '0'
  let whole := unsigned.take (unsigned.length - places)
  let sign := if digits < 0 then "-" else ""
  sign ++ String.ofList whole ++ "." ++ String.ofList (unsigned.drop whole.length)

/-- A new line, indented by two spaces for each level. -/
def newline (level : Nat) : String :=
  String.ofList ('\n' :: List.replicate (2 * level) ' ')

/-- The items or members of a list or object between its brackets, each on a line of its own; an
empty one has its brackets only. -/
def bracketed (opening closing : String) (level : Nat) (entries : List String) : String :=
  match entries with
  | [] => opening ++ closing
  | _ =>
    opening ++ newline (level + 1) ++ String.intercalate ("," ++ newline (level + 1)) entries
      ++ newline level ++ closing

mutual

/-- The indented text of a tree that stands at some level. -/
def prettyAt (level : Nat) : Json → String
  | .null => "null"
  | .bool value => if value then "true" else "false"
  | .integer value => toString value
  | .fraction digits places => decimal digits places
  | .string value => quote value
  | .array items => bracketed "[" "]" level (prettyItems (level + 1) items)
  | .object members => bracketed "\x7b" "\x7d" level (prettyMembers (level + 1) members)

/-- The texts of the items of a list. -/
def prettyItems (level : Nat) : List Json → List String
  | [] => []
  | item :: items => prettyAt level item :: prettyItems level items

/-- The texts of the members of an object. -/
def prettyMembers (level : Nat) : List (String × Json) → List String
  | [] => []
  | (key, value) :: members =>
    (quote key ++ ": " ++ prettyAt level value) :: prettyMembers level members

end

/-- The indented text of a tree. -/
def pretty (json : Json) : String :=
  json.prettyAt 0

end FrameConsole.Json
