import ClassGraph.Json.Basic

namespace ClassGraph.Json

/-- A character inside a string. Only quotation marks, backslashes and control characters are
written in another form. -/
def escaped (c : Char) : String :=
  if c = '"' then "\\\""
  else if c = '\\' then "\\\\"
  else if c = '\n' then "\\n"
  else if c = '\r' then "\\r"
  else if c = '\t' then "\\t"
  else if c.toNat = 8 then "\\b"
  else if c.toNat = 12 then "\\f"
  else if c.toNat < 0x20 then
    "\\u00" ++ String.ofList [Nat.digitChar (c.toNat / 16), Nat.digitChar (c.toNat % 16)]
  else c.toString

def quoted (s : String) : String :=
  "\"" ++ String.join (s.toList.map escaped) ++ "\""

mutual

/-- The text without any blanks. -/
def compact : Json → String
  | null => "null"
  | bool value => if value then "true" else "false"
  | number literal => literal
  | string value => quoted value
  | array items => "[" ++ String.intercalate "," (compactItems items) ++ "]"
  | object members => "\x7b" ++ String.intercalate "," (compactMembers members) ++ "\x7d"

def compactItems : List Json → List String
  | [] => []
  | item :: rest => compact item :: compactItems rest

def compactMembers : List (String × Json) → List String
  | [] => []
  | (key, value) :: rest => (quoted key ++ ":" ++ compact value) :: compactMembers rest

end

def newLine (level : Nat) : String :=
  "\n" ++ String.ofList (List.replicate (2 * level) ' ')

/-- Texts on lines of their own between two brackets; nothing stands between the brackets of an
empty list. -/
def block (level : Nat) (opening closing : String) (texts : List String) : String :=
  if texts.isEmpty then opening ++ closing
  else opening ++ newLine (level + 1) ++ String.intercalate ("," ++ newLine (level + 1)) texts ++
    newLine level ++ closing

mutual

/-- The text over several lines, at a level of nesting. -/
def prettyAt (level : Nat) : Json → String
  | null => "null"
  | bool value => if value then "true" else "false"
  | number literal => literal
  | string value => quoted value
  | array items => block level "[" "]" (prettyItems (level + 1) items)
  | object members => block level "\x7b" "\x7d" (prettyMembers (level + 1) members)

def prettyItems (level : Nat) : List Json → List String
  | [] => []
  | item :: rest => prettyAt level item :: prettyItems level rest

def prettyMembers (level : Nat) : List (String × Json) → List String
  | [] => []
  | (key, value) :: rest =>
    (quoted key ++ ": " ++ prettyAt level value) :: prettyMembers level rest

end

def pretty (value : Json) : String :=
  value.prettyAt 0

end ClassGraph.Json
