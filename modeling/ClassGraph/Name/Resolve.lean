import ClassGraph.Name.Scope

namespace ClassGraph

/-- What a reference means: a type of the language, or a class by its full name. -/
inductive Referent where
  | builtin
  | named (name : String)
deriving DecidableEq, Repr

namespace Referent

def name? : Referent → Option String
  | builtin => none
  | named name => some name

end Referent

/-- Type words that never name a class. -/
def typeWords : List String :=
  ["array", "bool", "callable", "false", "float", "int", "iterable", "mixed", "never", "null",
   "object", "string", "true", "void"]

def isTypeWord (name : String) : Bool :=
  typeWords.any (Text.sameIgnoringCase · name)

def isSelfWord (name : String) : Bool :=
  Text.sameIgnoringCase name "self" || Text.sameIgnoringCase name "static"

def isParentWord (name : String) : Bool :=
  Text.sameIgnoringCase name "parent"

namespace Scope

/-- A qualified reference, cut at its first backslash. The head may stand for the namespace
itself or for an import. -/
def resolveQualified (s : Scope) (head rest : String) : String :=
  if Text.sameIgnoringCase head "namespace" then s.fullName rest
  else match s.imports.find? head with
    | some target => target ++ "\\" ++ rest
    | none => s.fullName (head ++ "\\" ++ rest)

/-- A reference of one segment that is no type word. -/
def resolvePlain (s : Scope) (name : String) : String :=
  (s.imports.find? name).getD (s.fullName name)

/-- The meaning of a reference without blanks around it. -/
def wordMeaning (s : Scope) (reference : String) : Option Referent :=
  if reference.isEmpty then none
  else if isSelfWord reference then (s.enclosing.bind (·.name)).map .named
  else if isParentWord reference then (s.enclosing.bind (·.parent)).map .named
  else
    let head := reference.toList.takeWhile (!isBackslash ·)
    match reference.toList.dropWhile (!isBackslash ·) with
    | _ :: rest =>
      if head.isEmpty then some (.named (String.ofList rest))
      else some (.named (s.resolveQualified (String.ofList head) (String.ofList rest)))
    | [] =>
      if isTypeWord reference then some .builtin else some (.named (s.resolvePlain reference))

/-- The meaning of a reference; `none` if it has none, as the parent of a class without one. -/
def meaning (s : Scope) (reference : String) : Option Referent :=
  s.wordMeaning (String.ofList (Text.strip Text.isBlank reference.toList))

end Scope

def isTypeSeparator (c : Char) : Bool :=
  c == '|' || c == '&'

/-- Blanks and parentheses, which may stand around a member of a type. -/
def isTypePadding (c : Char) : Bool :=
  Text.isBlank c || c == '(' || c == ')'

/-- A member of a type without its padding and question marks. -/
def typeMember (text : List Char) : List Char :=
  Text.strip Text.isBlank ((Text.strip isTypePadding text).dropWhile (· == '?'))

/-- The members of a type as they are written, in order. -/
def typeMembers (text : String) : List String :=
  (((Text.pieces isTypeSeparator text.toList).map typeMember).filter (!·.isEmpty)).map String.ofList

namespace Scope

/-- The meanings of the members of a type, in order; members without meaning are left out. -/
def typeMeanings (s : Scope) (text : String) : List Referent :=
  (typeMembers text).filterMap s.meaning

/-- The class that a text means as a reference, as a list of at most one name. -/
def namesOfReference (s : Scope) (text : String) : List String :=
  ((s.meaning text).bind Referent.name?).toList

/-- The classes that a text means as a type. -/
def namesOfType (s : Scope) (text : String) : List String :=
  (s.typeMeanings text).filterMap Referent.name?

end Scope

end ClassGraph
