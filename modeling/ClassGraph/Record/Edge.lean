namespace ClassGraph

inductive EdgeKind where
  | inherits
  | implements
  | usesTrait
  | instantiates
  | typeHint
  | staticCall
  | classConstant
  | staticProperty
  | classTest
  | importStatement
deriving DecidableEq, Repr, Inhabited

namespace EdgeKind

/-- All kinds, in the order of their stored indices. -/
def all : List EdgeKind :=
  [inherits, implements, usesTrait, instantiates, typeHint, staticCall, classConstant,
   staticProperty, classTest, importStatement]

theorem mem_all (kind : EdgeKind) : kind ∈ all := by
  cases kind <;> decide

def text : EdgeKind → String
  | inherits => "inherits"
  | implements => "implements"
  | usesTrait => "uses_trait"
  | instantiates => "instantiates"
  | typeHint => "type_hint"
  | staticCall => "static_call"
  | classConstant => "class_constant"
  | staticProperty => "static_property"
  | classTest => "instanceof"
  | importStatement => "use"

def ofText? (text : String) : Option EdgeKind :=
  all.find? (·.text == text)

theorem ofText?_text (kind : EdgeKind) : ofText? kind.text = some kind := by
  cases kind <;> decide

def index (kind : EdgeKind) : Nat :=
  all.idxOf kind

def ofIndex? (index : Nat) : Option EdgeKind :=
  all[index]?

theorem ofIndex?_index (kind : EdgeKind) : ofIndex? kind.index = some kind := by
  cases kind <;> decide

/-- Edges along which a class takes over what another one declares. -/
def isAncestral : EdgeKind → Bool
  | inherits | implements | usesTrait => true
  | _ => false

end EdgeKind

structure Edge where
  target : String
  kind : EdgeKind
  line : Nat
deriving DecidableEq, Repr, Inhabited

end ClassGraph
