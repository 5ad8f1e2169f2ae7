import ClassGraph.File.Pathname
import ClassGraph.Pattern.Engine

namespace ClassGraph.Command

inductive Format where
  | json
  | dot
deriving DecidableEq, Repr, Inhabited

structure Options where
  input : Pathname
  output : Option Pathname := none
  format : Format := .json
  countsImports : Bool := false
  cacheDirectory : Option Pathname := none
  memoryOnly : Bool := false
  groups : Option Pathname := none
  excludes : List (String → Bool) := []
deriving Inhabited

/-- Why the arguments ask for no analysis. -/
inductive Stop where
  | usage
  | help
  | version
deriving DecidableEq, Repr

/-- Options without a value. -/
inductive Switch where
  | countImports
  | memoryOnly
  | verbose
deriving DecidableEq, Repr

/-- Options with a value. -/
inductive Setting where
  | input
  | output
  | format
  | cacheDirectory
  | groups
  | exclude
deriving DecidableEq, Repr

/-- What an option stands for. -/
inductive Meaning where
  | switch (switch : Switch)
  | setting (setting : Setting)
  | stop (stop : Stop)
deriving DecidableEq, Repr

/-- The meaning of an option's long name. -/
def Meaning.ofName? : String → Option Meaning
  | "input" => some (.setting .input)
  | "output" => some (.setting .output)
  | "format" => some (.setting .format)
  | "count-use-statements" => some (.switch .countImports)
  | "cache-dir" => some (.setting .cacheDirectory)
  | "no-disk-cache" => some (.switch .memoryOnly)
  | "groups" => some (.setting .groups)
  | "exclude" => some (.setting .exclude)
  | "verbose" => some (.switch .verbose)
  | "help" => some (.stop .help)
  | "version" => some (.stop .version)
  | _ => none

/-- The meaning of an option's letter. -/
def Meaning.ofLetter? : Char → Option Meaning
  | 'i' => some (.setting .input)
  | 'o' => some (.setting .output)
  | 'f' => some (.setting .format)
  | 'g' => some (.setting .groups)
  | 'e' => some (.setting .exclude)
  | 'v' => some (.switch .verbose)
  | 'h' => some (.stop .help)
  | 'V' => some (.stop .version)
  | _ => none

/-- The options given so far. -/
structure Given where
  input : Option Pathname := none
  output : Option Pathname := none
  format : Option Format := none
  cacheDirectory : Option Pathname := none
  groups : Option Pathname := none
  excludes : List (String → Bool) := []
  switches : List Switch := []

namespace Given

/-- A path that an option gives; it may be given once and not be empty. -/
def path (present : Option Pathname) (value : String) : Except Stop (Option Pathname) :=
  if present.isSome || value.isEmpty then .error .usage else .ok (some ⟨value⟩)

def formatOf (present : Option Format) (value : String) : Except Stop (Option Format) :=
  if present.isSome then .error .usage
  else if value = "json" then .ok (some .json)
  else if value = "dot" then .ok (some .dot)
  else .error .usage

def set (engine : PatternEngine) (given : Given) (setting : Setting) (value : String) :
    Except Stop Given := do
  match setting with
  | .input => return { given with input := ← path given.input value }
  | .output => return { given with output := ← path given.output value }
  | .format => return { given with format := ← formatOf given.format value }
  | .cacheDirectory => return { given with cacheDirectory := ← path given.cacheDirectory value }
  | .groups => return { given with groups := ← path given.groups value }
  | .exclude =>
    match engine.compile false value with
    | .ok pattern => return { given with excludes := given.excludes ++ [engine.search pattern] }
    | .error _ => .error .usage

def switchOn (given : Given) (switch : Switch) : Except Stop Given :=
  if given.switches.contains switch then .error .usage
  else .ok { given with switches := given.switches ++ [switch] }

/-- The options, if they are complete and do not exclude each other. -/
def finish (given : Given) : Except Stop Options :=
  let memoryOnly := given.switches.contains .memoryOnly
  match given.input with
  | none => .error .usage
  | some input =>
    if given.cacheDirectory.isSome && memoryOnly then .error .usage
    else .ok
      { input
        output := given.output
        format := given.format.getD .json
        countsImports := given.switches.contains .countImports
        cacheDirectory := given.cacheDirectory
        memoryOnly
        groups := given.groups
        excludes := given.excludes }

/-- Takes the letters of an argument. If the last one needs a value that is not behind it, the
setting is told. -/
def letters (engine : PatternEngine) (given : Given) :
    List Char → Except Stop (Given × Option Setting)
  | [] => .ok (given, none)
  | letter :: rest =>
    match Meaning.ofLetter? letter with
    | none => .error .usage
    | some (.stop stop) => .error stop
    | some (.switch switch) =>
      match given.switchOn switch with
      | .ok given => letters engine given rest
      | .error stop => .error stop
    | some (.setting setting) =>
      match rest with
      | [] => .ok (given, some setting)
      | '=' :: value => (given.set engine setting (String.ofList value)).map (·, none)
      | value => (given.set engine setting (String.ofList value)).map (·, none)

/-- Takes a long option with its value, if it has one behind an equals sign. -/
def long (engine : PatternEngine) (given : Given) (cs : List Char) :
    Except Stop (Given × Option Setting) :=
  let name := String.ofList (cs.takeWhile (· != '='))
  match Meaning.ofName? name, cs.dropWhile (· != '=') with
  | none, _ => .error .usage
  | some (.stop stop), [] => .error stop
  | some (.switch switch), [] => (given.switchOn switch).map (·, none)
  | some (.setting setting), [] => .ok (given, some setting)
  | some (.setting setting), _ :: value =>
    (given.set engine setting (String.ofList value)).map (·, none)
  | some _, _ :: _ => .error .usage

/-- Takes one argument that is no value. -/
def argument (engine : PatternEngine) (given : Given) (text : String) :
    Except Stop (Given × Option Setting) :=
  match text.toList with
  | '-' :: '-' :: name => given.long engine name
  | '-' :: letter :: rest => given.letters engine (letter :: rest)
  | _ => .error .usage

end Given

/-- Whether an argument may be the value of the option before it: it is no option itself. -/
def isValue (text : String) : Bool :=
  match text.toList with
  | '-' :: _ :: _ => false
  | _ => true

/-- Reads arguments; `pending` is a setting whose value comes next. Behind two dashes nothing may
follow. -/
def read (engine : PatternEngine) (given : Given) (pending : Option Setting) :
    List String → Except Stop Given
  | [] => if pending.isSome then .error .usage else .ok given
  | text :: rest =>
    match pending with
    | some setting =>
      if isValue text then
        match given.set engine setting text with
        | .ok given => read engine given none rest
        | .error stop => .error stop
      else .error .usage
    | none =>
      if text = "--" then
        if rest.isEmpty then .ok given else .error .usage
      else
        match given.argument engine text with
        | .ok (given, pending) => read engine given pending rest
        | .error stop => .error stop

def Options.ofArguments (engine : PatternEngine) (arguments : List String) :
    Except Stop Options := do
  let given ← read engine {} none arguments
  given.finish

end ClassGraph.Command
