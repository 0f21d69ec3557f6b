import PadGraph.Text

/-!
# JSON values and how they are written

* `Json` — a JSON value. A string whose escapes do not form characters is kept as a string without
  content, so that it can be passed over where its content does not matter.
* `Json.compact`, `Json.pretty` — the two written forms: without any blanks, and with every item on
  a line of its own, indented by two blanks for each level.
-/

namespace PadGraph

/-- A JSON value; the fields of an object keep their order. -/
inductive Json where
  | null
  | boolean (value : Bool)
  /-- A number as it is written. -/
  | number (literal : Text)
  /-- A string; `none` when it holds half of a surrogate pair. -/
  | string (content : Option Text)
  | array (items : List Json)
  | object (fields : List (Option Text × Json))
  deriving Repr, Inhabited

namespace Json

/-- A string with content. -/
def text (content : Text) : Json := string (some content)

/-! ### Strings -/

/-- A character inside a string: quotes, backslashes and control characters are escaped, all other
characters stand for themselves. -/
def escape (c : Char) : Text :=
  if c = '"' then ['\\', '"']
  else if c = '\\' then ['\\', '\\']
  else if c = '\n' then ['\\', 'n']
  else if c = '\r' then ['\\', 'r']
  else if c = '\t' then ['\\', 't']
  else if c.toNat = 8 then ['\\', 'b']
  else if c.toNat = 12 then ['\\', 'f']
  else if c.toNat < 32 then
    ['\\', 'u', '0', '0', Nat.digitChar (c.toNat / 16), Nat.digitChar (c.toNat % 16)]
  else [c]

/-- A string in its quotes. -/
def quote (content : Text) : Text := '"' :: content.flatMap escape ++ ['"']

/-! ### The two written forms -/

/-- A value that is no list and no object; there is nothing in it to lay out. -/
def scalar : Json → Text
  | null => ['n', 'u', 'l', 'l']
  | boolean true => ['t', 'r', 'u', 'e']
  | boolean false => ['f', 'a', 'l', 's', 'e']
  | number literal => literal
  | string content => quote (content.getD [])
  | array _ => []
  | object _ => []

mutual

/-- A value without any blanks. -/
def compact : Json → Text
  | array items => '[' :: [','].intercalate (compactItems items) ++ [']']
  | object fields => '\x7b' :: [','].intercalate (compactFields fields) ++ ['\x7d']
  | null => scalar null
  | boolean value => scalar (boolean value)
  | number literal => scalar (number literal)
  | string content => scalar (string content)

/-- The items of a list without any blanks. -/
def compactItems : List Json → List Text
  | [] => []
  | item :: items => compact item :: compactItems items

/-- The fields of an object without any blanks. -/
def compactFields : List (Option Text × Json) → List Text
  | [] => []
  | (key, value) :: fields =>
    (quote (key.getD []) ++ ':' :: compact value) :: compactFields fields

end

/-- A new line at a given level. -/
def newLine (level : Nat) : Text := '\n' :: List.replicate (2 * level) ' '

/-- Parts on lines of their own between an opening and a closing character; nothing stands between
those when there are no parts. -/
def block (level : Nat) (opening closing : Char) (parts : List Text) : Text :=
  match parts with
  | [] => [opening, closing]
  | parts =>
    opening :: newLine (level + 1) ++ (',' :: newLine (level + 1)).intercalate parts ++
      newLine level ++ [closing]

mutual

/-- A value laid out over lines, at a given level. -/
def prettyAt (level : Nat) : Json → Text
  | array items => block level '[' ']' (prettyItems (level + 1) items)
  | object fields => block level '\x7b' '\x7d' (prettyFields (level + 1) fields)
  | null => scalar null
  | boolean value => scalar (boolean value)
  | number literal => scalar (number literal)
  | string content => scalar (string content)

/-- The items of a list laid out over lines. -/
def prettyItems (level : Nat) : List Json → List Text
  | [] => []
  | item :: items => prettyAt level item :: prettyItems level items

/-- The fields of an object laid out over lines. -/
def prettyFields (level : Nat) : List (Option Text × Json) → List Text
  | [] => []
  | (key, value) :: fields =>
    (quote (key.getD []) ++ ':' :: ' ' :: prettyAt level value) :: prettyFields level fields

end

/-- A value laid out over lines. -/
def pretty (value : Json) : Text := prettyAt 0 value

end Json

end PadGraph
