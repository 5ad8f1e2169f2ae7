import ClassGraph.Text.Order

namespace ClassGraph

inductive Json where
  | null
  | bool (value : Bool)
  | number (literal : String)
  | string (value : String)
  | array (items : List Json)
  | object (members : List (String × Json))
deriving Inhabited

namespace Json

def nat (n : Nat) : Json :=
  number (toString n)

/-- An object whose members stand in the order of their keys; of repeated keys the first stays. -/
def sortedObject (members : List (String × Json)) : Json :=
  object (inOrder (fun a b => Text.before a.1 b.1) members)

/-- The value of a key; of repeated keys the last counts. -/
def get? (key : String) : Json → Option Json
  | object members => (members.reverse.find? (·.1 == key)).map (·.2)
  | _ => none

def string? : Json → Option String
  | string value => some value
  | _ => none

def bool? : Json → Option Bool
  | bool value => some value
  | _ => none

def array? : Json → Option (List Json)
  | array items => some items
  | _ => none

def object? : Json → Option (List (String × Json))
  | object members => some members
  | _ => none

/-- A number written with digits only. -/
def nat? : Json → Option Nat
  | number literal => if literal.toList.all Char.isDigit then literal.toNat? else none
  | _ => none

end Json

end ClassGraph
