import ClassGraph.Json.Basic
import ClassGraph.Map.Basic
import ClassGraph.Pattern.Engine

namespace ClassGraph

inductive Collector where
  | className
  | directory
  | inherits
  | combination
  | any
deriving DecidableEq, Repr, Inhabited

namespace Collector

def tag : Collector → String
  | className => "className"
  | directory => "directory"
  | inherits => "inherits"
  | combination => "bool"
  | any => "any"

def all : List Collector :=
  [className, directory, inherits, combination, any]

def ofTag? (tag : String) : Option Collector :=
  all.find? (·.tag == tag)

end Collector

/-- What is wrong with a field of a configuration. -/
inductive FieldFault where
  | missing
  | notString
  | emptyName
  | notArray
  | notObjects
  | noneNested
  | badPattern (message : String)
deriving DecidableEq, Repr

def FieldFault.message : FieldFault → String
  | missing => "missing"
  | notString => "expected a string"
  | emptyName => "empty class name"
  | notArray => "expected an array"
  | notObjects => "entries must be objects"
  | noneNested => "at least one nested collector is required"
  | badPattern message => message

inductive CollectorError where
  | field (collector : Collector) (key : String) (fault : FieldFault)
  | unknown (tag : String)
  | missingType
deriving DecidableEq, Repr

def CollectorError.message : CollectorError → String
  | field collector key fault =>
    "Collector \"" ++ collector.tag ++ "\" has an invalid \"" ++ key ++ "\" configuration: " ++
      fault.message
  | unknown tag => "Unknown collector type \"" ++ tag ++ "\""
  | missingType => "Collector configuration has no string \"type\" field"

/-- A configuration: the members of a JSON object. -/
abbrev Config := List (String × Json)

/-- The collectors that configurations may name. -/
abbrev Registry := List Collector

namespace Registry

def standard : Registry :=
  [.className, .directory, .inherits, .combination]

/-- The tags of the collectors, in order. -/
def tags (registry : Registry) : List String :=
  inOrder Text.before (registry.map (·.tag))

def find (registry : Registry) (tag : String) : Except CollectorError Collector :=
  match registry.find? (·.tag == tag) with
  | some collector => .ok collector
  | none => .error (.unknown tag)

end Registry

namespace Config

/-- The value of a field; of repeated keys the last counts. -/
def get? (config : Config) (key : String) : Option Json :=
  (Json.object config).get? key

/-- The collector that a configuration names. -/
def collector (registry : Registry) (config : Config) : Except CollectorError Collector :=
  match config.get? "type" with
  | some (.string tag) => registry.find tag
  | _ => .error .missingType

def requiredString (config : Config) (collector : Collector) (key : String) :
    Except CollectorError String :=
  match config.get? key with
  | some (.string value) => .ok value
  | some _ => .error (.field collector key .notString)
  | none => .error (.field collector key .missing)

/-- The class name that a configuration gives. -/
def ancestor (config : Config) : Except CollectorError String := do
  let value ← config.requiredString .inherits "value"
  let name := dropLeadingBackslashes value
  if name.isEmpty then .error (.field .inherits "value" .emptyName) else .ok name

/-- The configurations in a field, which holds objects only; an absent field has none. -/
def nested (config : Config) (key : String) : Except CollectorError (List Config) :=
  match config.get? key with
  | none => .ok []
  | some (.array items) =>
    if items.all (·.object?.isSome) then .ok (items.filterMap Json.object?)
    else .error (.field .combination key .notObjects)
  | some _ => .error (.field .combination key .notArray)

/-- The configurations that a class must meet, and those that it must not meet. -/
structure Clauses where
  must : List Config
  mustNot : List Config

namespace Clauses

def all (clauses : Clauses) : List Config :=
  clauses.must ++ clauses.mustNot

end Clauses

/-- The nested configurations, of which there is at least one. -/
def clauses (config : Config) : Except CollectorError Clauses := do
  let must ← config.nested "must"
  let mustNot ← config.nested "must_not"
  if must.isEmpty && mustNot.isEmpty then .error (.field .combination "must" .noneNested)
  else .ok ⟨must, mustNot⟩

section Size

variable {config inner : Config}

theorem mem_of_get? {key : String} {value : Json} (found : config.get? key = some value) :
    (key, value) ∈ config := by
  obtain ⟨entry, isEntry, rfl⟩ := Option.map_eq_some_iff.mp found
  have sameKey : entry.1 = key := by
    have tested := List.find?_some isEntry
    exact beq_iff_eq.mp tested
  rw [← sameKey]
  exact List.mem_reverse.mp (List.mem_of_find?_eq_some isEntry)

theorem sizeOf_of_item {key : String} {items : List Json}
    (found : config.get? key = some (.array items)) (member : inner ∈ items.filterMap Json.object?) :
    sizeOf inner < sizeOf config := by
  obtain ⟨item, inItems, isObject⟩ := List.mem_filterMap.mp member
  have asObject : item = .object inner := by
    cases item <;> cases isObject
    rfl
  have inConfig := List.sizeOf_lt_of_mem (mem_of_get? found)
  have inArray := List.sizeOf_lt_of_mem inItems
  rw [asObject] at inArray
  simp only [Prod.mk.sizeOf_spec, Json.array.sizeOf_spec] at inConfig
  simp only [Json.object.sizeOf_spec] at inArray
  omega

theorem sizeOf_of_nested {key : String} {configs : List Config}
    (read : config.nested key = .ok configs) (member : inner ∈ configs) :
    sizeOf inner < sizeOf config := by
  unfold nested at read
  split at read
  · cases read
    cases member
  · rename_i items found
    split at read
    · cases read
      exact sizeOf_of_item found member
    · cases read
  · cases read

theorem nested_of_clauses {both : Clauses} (read : config.clauses = .ok both) :
    config.nested "must" = .ok both.must ∧ config.nested "must_not" = .ok both.mustNot := by
  unfold clauses at read
  cases must : config.nested "must" with
  | error e =>
    rw [must] at read
    cases read
  | ok must' =>
    cases mustNot : config.nested "must_not" with
    | error e =>
      rw [must, mustNot] at read
      cases read
    | ok mustNot' =>
      simp only [must, mustNot, bind, Except.bind] at read
      split at read
      · cases read
      · cases read
        exact ⟨rfl, rfl⟩

/-- Nested configurations are smaller than the one around them. -/
theorem sizeOf_of_clauses {both : Clauses} (read : config.clauses = .ok both)
    (member : inner ∈ both.all) : sizeOf inner < sizeOf config := by
  obtain ⟨must, mustNot⟩ := nested_of_clauses read
  rcases List.mem_append.mp member with inMust | inMustNot
  · exact sizeOf_of_nested must inMust
  · exact sizeOf_of_nested mustNot inMustNot

end Size

end Config

/-- A pattern that a collector has compiled. -/
structure KeptPattern (engine : PatternEngine) where
  collector : Collector
  text : String
  ignoresCase : Bool
  pattern : engine.Compiled
  compiled : engine.compile ignoresCase text = .ok pattern

/-- The patterns that were compiled, the newest first. Texts that are no pattern are not kept. -/
structure PatternCache (engine : PatternEngine) where
  entries : List (KeptPattern engine) := []

namespace PatternCache

variable {engine : PatternEngine}

def find? (cache : PatternCache engine) (collector : Collector) (ignoresCase : Bool)
    (text : String) : Option (KeptPattern engine) :=
  cache.entries.find? fun kept =>
    kept.collector == collector && kept.ignoresCase == ignoresCase && kept.text == text

def add (cache : PatternCache engine) (kept : KeptPattern engine) : PatternCache engine :=
  ⟨kept :: cache.entries⟩

end PatternCache

/-- Evaluations keep patterns, also when they fail. -/
abbrev Evaluation (engine : PatternEngine) := ExceptT CollectorError (StateM (PatternCache engine))

namespace Evaluation

variable {engine : PatternEngine} {α : Type}

def ofExcept (result : Except CollectorError α) : Evaluation engine α :=
  ExceptT.mk (pure result)

/-- The result of an evaluation and the patterns kept behind it. -/
def after (cache : PatternCache engine) (x : Evaluation engine α) :
    Except CollectorError α × PatternCache engine :=
  x.run.run cache

/-- The result of an evaluation that comes first. -/
def answer (x : Evaluation engine α) : Except CollectorError α :=
  (x.after {}).1

end Evaluation

/-- The pattern that a configuration gives. -/
def Config.pattern (config : Config) (engine : PatternEngine) (collector : Collector)
    (ignoresCase : Bool) : Evaluation engine engine.Compiled := do
  let text ← .ofExcept (config.requiredString collector "regex")
  match (← get).find? collector ignoresCase text with
  | some kept => return kept.pattern
  | none =>
    match compiled : engine.compile ignoresCase text with
    | .ok pattern =>
      modify (·.add { collector, text, ignoresCase, pattern, compiled })
      return pattern
    | .error message => throw (.field collector "regex" (.badPattern message))

/-- A class as collectors see it: its name, and its file's path while the file is there. -/
structure Subject where
  name : String
  owner : Option Pathname := none
deriving DecidableEq, Repr, Inhabited

/-- A path as patterns see it, with slashes only. -/
def Pathname.slashed (p : Pathname) : String :=
  String.ofList (p.text.toList.map fun c => if c = '\\' then '/' else c)

namespace Registry

/-- Looks for faults in a configuration and all that are nested in it; the first one is told. -/
def validating (registry : Registry) (engine : PatternEngine) (config : Config) :
    Evaluation engine Unit := do
  match ← .ofExcept (config.collector registry) with
  | .className => discard (config.pattern engine .className true)
  | .directory => discard (config.pattern engine .directory false)
  | .inherits => discard (.ofExcept config.ancestor)
  | .combination =>
    match _read : config.clauses with
    | .error error => throw error
    | .ok clauses => forM clauses.all.attach fun inner => registry.validating engine inner.1
  | .any => return ()
termination_by sizeOf config
decreasing_by exact Config.sizeOf_of_clauses _read inner.2

/-- Whether a class meets a configuration. Evaluation goes from left to right and stops as soon as
the answer is known, so that a fault behind that point does not show. -/
def satisfying (registry : Registry) (engine : PatternEngine) (m : CodeMap) (subject : Subject)
    (config : Config) : Evaluation engine Bool := do
  match ← .ofExcept (config.collector registry) with
  | .className => return engine.search (← config.pattern engine .className true) subject.name
  | .directory =>
    let pattern ← config.pattern engine .directory false
    return subject.owner.any fun path => engine.search pattern path.slashed
  | .inherits => return (m.ancestors subject.name).contains (← .ofExcept config.ancestor)
  | .combination =>
    match _read : config.clauses with
    | .error error => throw error
    | .ok clauses =>
      if ← clauses.must.attach.allM fun inner => registry.satisfying engine m subject inner.1 then
        return !(← clauses.mustNot.attach.anyM fun inner =>
          registry.satisfying engine m subject inner.1)
      else return false
  | .any => return true
termination_by sizeOf config
decreasing_by
  · exact Config.sizeOf_of_clauses _read (List.mem_append_left _ inner.2)
  · exact Config.sizeOf_of_clauses _read (List.mem_append_right _ inner.2)

/-- Whether a configuration is free of faults. -/
def validate (registry : Registry) (engine : PatternEngine) (config : Config) :
    Except CollectorError Unit :=
  (registry.validating engine config).answer

/-- Whether a class meets a configuration. -/
def satisfies (registry : Registry) (engine : PatternEngine) (config : Config) (m : CodeMap)
    (subject : Subject) : Except CollectorError Bool :=
  (registry.satisfying engine m subject config).answer

end Registry

end ClassGraph
