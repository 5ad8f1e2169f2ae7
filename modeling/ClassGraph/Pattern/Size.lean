import ClassGraph.Pattern.Basic
import ClassGraph.Pattern.Encoding
import Std.Data.HashMap

namespace ClassGraph.Pattern

/-- The most bytes that a program may take. -/
def largestSize : Nat :=
  10485760

/-- What has been laid down of a program: the number of its states, and the bytes for the links of
those states that have several. -/
structure Layout where
  states : Nat := 0
  links : Nat := 0

namespace Layout

/-- A state takes 32 bytes beside its links. -/
def bytes (layout : Layout) : Nat :=
  32 * layout.states + layout.links

def isTooLarge (layout : Layout) : Bool :=
  largestSize < layout.bytes

def addStates (layout : Layout) (count : Nat) : Layout :=
  { layout with states := layout.states + count }

/-- A state with links to several others, each of four bytes. -/
def addFork (layout : Layout) (links : Nat) : Layout :=
  { states := layout.states + 1, links := layout.links + 4 * links }

/-- A state with links for several ranges of bytes, each of eight bytes. -/
def addSwitch (layout : Layout) (links : Nat) : Layout :=
  { states := layout.states + 1, links := layout.links + 8 * links }

/-- Repeats a step until the layout is too large. -/
def repeatStep (step : Layout → Layout) : Nat → Layout → Layout
  | 0, layout => layout
  | count + 1, layout =>
    if layout.isTooLarge then layout else repeatStep step count (step layout)

end Layout

section Places

/-- The place of a list of numbers in a table of a given size. -/
def tablePlace (size : Nat) (numbers : List Nat) : Nat :=
  let mix (hash : UInt64) (n : Nat) : UInt64 := (hash ^^^ n.toUInt64) * 1099511628211
  (numbers.foldl mix 14695981039346656037).toNat % size

/-- A table of states that forgets what was at a place when it is taken again. -/
abbrev StateTable := Std.HashMap Nat (List Nat × Nat)

def StateTable.find? (table : StateTable) (place : Nat) (key : List Nat) : Option Nat :=
  match table[place]? with
  | some (known, state) => if known = key then some state else none
  | none => none

end Places

section ForwardSets

/-- A state whose links are not all known yet: those that are, as low and high byte and target, and
the bytes of the one whose target is still being laid down. -/
structure OpenState where
  links : List Nat := []
  last : Option (Nat × Nat) := none

def OpenState.close (state : OpenState) (target : Nat) : List Nat :=
  match state.last with
  | some (low, high) => state.links ++ [low, high, target]
  | none => state.links

/-- A set that is being laid down: its states from the last to the first. -/
structure SetLayout where
  layout : Layout
  table : StateTable := {}
  path : List OpenState := [{}]

/-- Lays down a state with known links, unless the table remembers one with the same links. -/
def SetLayout.addState (s : SetLayout) (links : List Nat) : SetLayout × Nat :=
  let place := tablePlace 10000 links
  match s.table.find? place links with
  | some state => (s, state)
  | none =>
    ({ s with
      layout := s.layout.addSwitch (links.length / 3)
      table := s.table.insert place (links, s.layout.states) }, s.layout.states)

/-- Lays down the states of the path beyond the first `kept` bytes, from the last on. -/
def SetLayout.closePath (s : SetLayout) (kept target : Nat) : List OpenState → SetLayout
  | [] => s
  | state :: rest =>
    if kept < rest.length then
      let (s, target) := s.addState (state.close target)
      s.closePath kept target rest
    else { s with path := { links := state.close target } :: rest }

/-- The number of bytes that a sequence shares with the path, which is given from the first on. -/
def sharedBytes : ByteSequence → List OpenState → Nat
  | range :: ranges, state :: states =>
    if state.last = some range then sharedBytes ranges states + 1 else 0
  | _, _ => 0

def SetLayout.addSequence (target : Nat) (s : SetLayout) (sequence : ByteSequence) : SetLayout :=
  let kept := sharedBytes sequence s.path.reverse
  let s := s.closePath kept target s.path
  match sequence.drop kept, s.path with
  | range :: more, state :: rest =>
    let fresh := more.map fun range => { last := some range : OpenState }
    { s with path := fresh.reverse ++ { state with last := some range } :: rest }
  | _, _ => s

/-- Lays down the byte sequences of a set for reading forward. -/
def forwardSet (sequences : List ByteSequence) (layout : Layout) : Layout :=
  let target := layout.states
  let s := sequences.foldl (SetLayout.addSequence target) { layout := layout.addStates 1 }
  let s := s.closePath 0 target s.path
  match s.path with
  | state :: _ => (s.addState state.links).1.layout
  | [] => s.layout

end ForwardSets

section BackwardSets

/-- Lays down one byte range in front of the state `target`, unless the table remembers it. -/
def backwardByte : (Layout × StateTable) × Nat → Nat × Nat → (Layout × StateTable) × Nat
  | ((layout, table), target), (low, high) =>
    let key := [target, low, high]
    let place := tablePlace 1000 key
    match table.find? place key with
    | some state => ((layout, table), state)
    | none =>
      ((layout.addStates 1, table.insert place (key, layout.states)), layout.states)

/-- Lays down the byte sequences of a set for reading backward: a fork with a link to each. -/
def backwardSet (sequences : List ByteSequence) (layout : Layout) : Layout :=
  let target := layout.states + 1
  let start : Layout × StateTable := (layout.addFork sequences.length |>.addStates 1, {})
  (sequences.foldl (fun state sequence => (sequence.foldl backwardByte (state, target)).1) start).1

end BackwardSets

section Texts

/-- A state of the tree of several texts: the links of its finished parts, and those of the part to
which texts are being added. A part is finished where a text ends. -/
structure TreeState where
  finished : List Nat := []
  active : List (Nat × Nat) := []

namespace TreeState

def isLeaf (state : TreeState) : Bool :=
  state.active.isEmpty && state.finished.all (· == 0)

/-- Marks the end of a text. -/
def finish (state : TreeState) : TreeState :=
  if state.isLeaf && !state.finished.isEmpty then state
  else { finished := state.finished ++ [state.active.length] }

/-- Lays down a state: a fork to its parts, and to the end behind each part but the last. -/
def lay (state : TreeState) (layout : Layout) : Layout :=
  let parts := state.finished ++ [state.active.length]
  let filled := parts.filter (· != 0)
  let layout := filled.foldl (fun layout links =>
    if links = 1 then layout.addStates 1 else layout.addSwitch links) layout
  layout.addFork (filled.length + (parts.length - 1))

end TreeState

/-- The state that a byte leads to, which is made if it is missing. -/
def treeStep : Array TreeState × Nat → Nat → Array TreeState × Nat
  | (tree, at_), byte =>
    let state := tree.getD at_ {}
    match state.active.lookup byte with
    | some next => (tree, next)
    | none =>
      let state := { state with active := (byte, tree.size) :: state.active }
      ((tree.setIfInBounds at_ state).push {}, tree.size)

def addText (tree : Array TreeState) (bytes : List Nat) : Array TreeState :=
  let (tree, at_) := bytes.foldl treeStep (tree, 0)
  tree.setIfInBounds at_ (tree.getD at_ {}).finish

/-- Lays down a choice among texts as a tree of their bytes. -/
def textTree (texts : List (List Nat)) (layout : Layout) : Layout :=
  let tree := texts.foldl addText #[{}]
  tree.foldl (fun layout state => if state.isLeaf then layout else state.lay layout)
    (layout.addStates 1)

end Texts

/-- The bytes of the texts that a choice is among, if it is only among texts. -/
def texts? : Pattern → Option (List (List Nat))
  | text chars => some [chars.flatMap fun c => encode c.toNat]
  | either (text chars) second => (texts? second).map ((chars.flatMap fun c => encode c.toNat) :: ·)
  | _ => none

/-- The place of a pattern in a choice. -/
inductive BranchPlace where
  | whole
  | second
  | later
deriving DecidableEq

/-- A choice is laid down with its fork behind the second branch. -/
def BranchPlace.addFork (place : BranchPlace) (layout : Layout) : Layout :=
  match place with
  | whole => layout
  | second => (layout.addFork 2).addStates 1
  | later => { layout with links := layout.links + 4 }

/-- Lays down a set, unless the layout is too large already. -/
def setLayout (backward : Bool) (set : CharSet) (layout : Layout) : Layout :=
  if layout.isTooLarge then layout
  else if set.ranges.all (·.2 < 0x80) then (layout.addStates 1).addSwitch set.ranges.length
  else
    let sequences := set.ranges.flatMap fun range => byteSequences 32 range.1 range.2
    if backward then backwardSet sequences layout else forwardSet sequences layout

/-- Lays down a group, of which only programs that read forward know. -/
def groupLayout (backward : Bool) (body : Layout → Layout) (l : Layout) : Layout :=
  if backward then body l else (body (l.addStates 1)).addStates 1

/-- Lays down a repetition. A loop over what may be empty needs a second fork, and every optional
copy needs one of its own. -/
def repetitionLayout (body : Layout → Layout) (mayBeEmpty : Bool) (least : Nat) (most : Option Nat)
    (l : Layout) : Layout :=
  match least, most with
  | 0, none =>
    if mayBeEmpty then (((body l).addFork 2).addFork 2).addStates 1 else body (l.addFork 2)
  | least, none => (l.repeatStep body least).addFork 2
  | 0, some 1 => (body (l.addFork 2)).addStates 1
  | least, some most =>
    let l := if least = 0 then l.addStates 1 else l.repeatStep body least
    if least = most then l
    else (l.addStates 1).repeatStep (fun l => body (l.addFork 2)) (most - least)

/-- Lays down a pattern for reading forward or backward. -/
def layout (backward : Bool) : Pattern → BranchPlace → Layout → Layout
  | empty, place, l | anchor _, place, l => place.addFork (l.addStates 1)
  | text chars, place, l =>
    place.addFork (l.addStates (chars.flatMap fun c => encode c.toNat).length)
  | one set, place, l => place.addFork (setLayout backward set l)
  | group _ body, place, l => place.addFork (groupLayout backward (layout backward body .whole) l)
  | times body least most, place, l =>
    let mayBeEmpty := !body.shortest.any (0 < ·)
    place.addFork (repetitionLayout (layout backward body .whole) mayBeEmpty least most l)
  | seq first second, place, l =>
    place.addFork <|
      if backward then layout backward first .whole (layout backward second .whole l)
      else layout backward second .whole (layout backward first .whole l)
  | either first second, .whole, l =>
    match texts? (either first second) with
    | some texts => textTree (if backward then texts.map List.reverse else texts) l
    | none => layout backward second .second (layout backward first .whole l)
  | either first second, place, l =>
    layout backward second .later (place.addFork (layout backward first .whole l))

/-- The program of a pattern. Unless the pattern is bound to where reading begins, the program first
passes over any bytes. -/
def programLayout (backward : Bool) (p : Pattern) : Layout :=
  let start : Layout :=
    if (if backward then p.stopsAtEnd else p.beginsAtStart) then { states := 1 }
    else ((({} : Layout).addFork 2).addStates 1).addSwitch 1
  (groupLayout backward (layout backward p .whole) start).addStates 1

/-- A quick upper bound for the sizes of both programs. A range of characters is spelled by at most
21 byte sequences of at most four bytes. -/
def roughSize : Pattern → Nat
  | empty | anchor _ => 32
  | text chars => 512 * chars.length
  | one set => 4096 * set.ranges.length + 128
  | group _ body => body.roughSize + 64
  | times body least most => (body.roughSize + 64) * max (most.getD least) 1 + 128
  | seq first second => first.roughSize + second.roughSize
  | either first second => first.roughSize + second.roughSize + 128

/-- Whether one of the programs of a pattern is too large. -/
def isTooLarge (p : Pattern) : Bool :=
  largestSize < p.roughSize + 512 &&
    ((programLayout false p).isTooLarge || (programLayout true p).isTooLarge)

end ClassGraph.Pattern
