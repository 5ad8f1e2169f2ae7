namespace ClassGraph

/-- What a class-like declaration declares. -/
inductive ClassForm where
  | plain
  | interface
  | trait
  | enumeration
deriving DecidableEq, Repr, Inhabited

/-- Clauses that list names: parents, interfaces, and used traits. -/
inductive ClauseForm where
  | parents
  | interfaces
  | traits
deriving DecidableEq, Repr

inductive TypeForm where
  | named
  | nullable
  | union
  | intersection
  | normalForm
  | primitive
  | list
deriving DecidableEq, Repr

inductive NameForm where
  | simple
  | qualified
  | relative
  | keyword
deriving DecidableEq, Repr

/-- Members reached through a scope: a call or a property. -/
inductive MemberForm where
  | call
  | property
deriving DecidableEq, Repr

inductive Kind where
  | namespaceDefinition
  | importDeclaration
  | importClause
  | importGroup
  | namespaceName
  | declaration (form : ClassForm)
  | anonymousClass
  | clause (form : ClauseForm)
  | method
  | typeExpression (form : TypeForm)
  | name (form : NameForm)
  | creation
  | constantAccess
  | memberAccess (form : MemberForm)
  | binary
  | comment
  | other (spelling : String)
deriving DecidableEq, Repr, Inhabited

namespace Kind

/-- The spelling of each kind that has a constructor of its own. -/
def spellings : List (String × Kind) :=
  [("namespace_definition", namespaceDefinition),
   ("namespace_use_declaration", importDeclaration),
   ("namespace_use_clause", importClause),
   ("namespace_use_group", importGroup),
   ("namespace_name", namespaceName),
   ("class_declaration", declaration .plain),
   ("interface_declaration", declaration .interface),
   ("trait_declaration", declaration .trait),
   ("enum_declaration", declaration .enumeration),
   ("anonymous_class", anonymousClass),
   ("base_clause", clause .parents),
   ("class_interface_clause", clause .interfaces),
   ("use_declaration", clause .traits),
   ("method_declaration", method),
   ("named_type", typeExpression .named),
   ("optional_type", typeExpression .nullable),
   ("union_type", typeExpression .union),
   ("intersection_type", typeExpression .intersection),
   ("disjunctive_normal_form_type", typeExpression .normalForm),
   ("primitive_type", typeExpression .primitive),
   ("type_list", typeExpression .list),
   ("name", name .simple),
   ("qualified_name", name .qualified),
   ("relative_name", name .relative),
   ("relative_scope", name .keyword),
   ("object_creation_expression", creation),
   ("class_constant_access_expression", constantAccess),
   ("scoped_call_expression", memberAccess .call),
   ("scoped_property_access_expression", memberAccess .property),
   ("binary_expression", binary),
   ("comment", comment)]

def ofSpelling (spelling : String) : Kind :=
  (spellings.lookup spelling).getD (other spelling)

def spelling : Kind → String
  | other spelling => spelling
  | kind => ((spellings.find? (·.2 == kind)).map (·.1)).getD ""

end Kind

end ClassGraph
