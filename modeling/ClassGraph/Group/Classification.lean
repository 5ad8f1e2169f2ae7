import ClassGraph.Group.Collector

namespace ClassGraph

structure GroupDefinition where
  name : String
  configs : List Config
deriving Inhabited

structure Classification where
  groups : List (String × List String) := []
  errors : List (String × CollectorError) := []
deriving Inhabited

namespace GroupDefinition

/-- Group definitions in the order of their names; of those with one name the last counts. -/
def arrange (definitions : List GroupDefinition) : List GroupDefinition :=
  inOrder (fun a b => Text.before a.name b.name) definitions.reverse

/-- The names of the classes that meet one of several configurations, in the order of the map. -/
def matching (engine : PatternEngine) (registry : Registry) (m : CodeMap) (configs : List Config) :
    List (FileRecord × ClassRecord) → Evaluation engine (List String)
  | [] => return []
  | (file, c) :: rest => do
    let met ← configs.anyM (registry.satisfying engine m ⟨c.name, some file.path⟩)
    let others ← matching engine registry m configs rest
    return if met then c.name :: others else others

/-- The members of a group in increasing order. -/
def members (engine : PatternEngine) (registry : Registry) (m : CodeMap) (configs : List Config) :
    Evaluation engine (List String) := do
  forM configs (registry.validating engine)
  return inOrder Text.before (← matching engine registry m configs m.entries)

end GroupDefinition

namespace Classification

/-- Adds a group with its members, or with none and its error. -/
def addGroup (c : Classification) (name : String) :
    Except CollectorError (List String) → Classification
  | .ok members => { c with groups := c.groups ++ [(name, members)] }
  | .error error =>
    { groups := c.groups ++ [(name, [])], errors := c.errors ++ [(name, error)] }

/-- Sorts the classes of a map into groups, one after another. -/
def evaluating (engine : PatternEngine) (registry : Registry) (m : CodeMap)
    (definitions : List GroupDefinition) : StateM (PatternCache engine) Classification :=
  (GroupDefinition.arrange definitions).foldlM (fun c d => do
    return c.addGroup d.name (← (GroupDefinition.members engine registry m d.configs).run)) {}

/-- Sorts the classes of a map into groups. -/
def ofDefinitions (engine : PatternEngine) (registry : Registry) (m : CodeMap)
    (definitions : List GroupDefinition) : Classification :=
  ((evaluating engine registry m definitions).run {}).1

/-- The value of a classification; errors are left out if there are none. -/
def toJson (c : Classification) : Json :=
  let groups := Json.object (c.groups.map fun (name, members) => (name, .array (members.map .string)))
  let errors := Json.object (c.errors.map fun (name, error) => (name, .string error.message))
  if c.errors.isEmpty then .object [("groups", groups)]
  else .object [("errors", errors), ("groups", groups)]

end Classification

end ClassGraph
