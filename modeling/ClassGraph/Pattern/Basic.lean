import ClassGraph.Pattern.CharSet

namespace ClassGraph

inductive WordEdge where
  | any
  | none
  | start
  | stop
  | startHalf
  | stopHalf
deriving DecidableEq, Repr

/-- Conditions on a place of a text. -/
inductive Anchor where
  | textStart
  | textEnd
  | lineStart
  | lineEnd
  /-- Lines that end in a carriage return, a line feed, or both. -/
  | returnLineStart
  | returnLineEnd
  | wordEdge (edge : WordEdge) (ascii : Bool)
deriving DecidableEq, Repr

inductive Pattern where
  | empty
  | text (chars : List Char)
  | one (set : CharSet)
  | anchor (anchor : Anchor)
  /-- A group that can be told from others by its number. -/
  | group (number : Nat) (body : Pattern)
  | times (body : Pattern) (least : Nat) (most : Option Nat)
  | seq (first second : Pattern)
  | either (first second : Pattern)
deriving DecidableEq, Repr, Inhabited

namespace Pattern

section Measures

/-- The number of constructors and characters. -/
def size : Pattern → Nat
  | empty | one _ | anchor _ => 1
  | text chars => chars.length + 1
  | group _ body | times body _ _ => body.size + 1
  | seq first second | either first second => first.size + second.size + 1

/-- The length of the shortest match; `none` if a part of the pattern can never match. -/
def shortest : Pattern → Option Nat
  | empty | anchor _ => some 0
  | text chars => some chars.length
  | one set => if set.ranges.isEmpty then none else some 1
  | group _ body => body.shortest
  | times body least _ => body.shortest.map (· * least)
  | seq first second => do return (← first.shortest) + (← second.shortest)
  | either first second => do return min (← first.shortest) (← second.shortest)

/-- The length of the longest match; `none` if there is no such bound. -/
def longest : Pattern → Option Nat
  | empty | anchor _ => some 0
  | text chars => some chars.length
  | one set => if set.ranges.isEmpty then none else some 1
  | group _ body => body.longest
  | times body _ most => do return (← body.longest) * (← most)
  | seq first second => do return (← first.longest) + (← second.longest)
  | either first second => do return max (← first.longest) (← second.longest)

/-- Whether every match begins at the start of the text. -/
def beginsAtStart : Pattern → Bool
  | anchor .textStart => true
  | group _ body => body.beginsAtStart
  | times body least _ => least != 0 && body.beginsAtStart
  | seq first second => first.beginsAtStart || (first.longest == some 0 && second.beginsAtStart)
  | either first second => first.beginsAtStart && second.beginsAtStart
  | _ => false

/-- Whether every match stops at the end of the text. -/
def stopsAtEnd : Pattern → Bool
  | anchor .textEnd => true
  | group _ body => body.stopsAtEnd
  | times body least _ => least != 0 && body.stopsAtEnd
  | seq first second => second.stopsAtEnd || (second.longest == some 0 && first.stopsAtEnd)
  | either first second => first.stopsAtEnd && second.stopsAtEnd
  | _ => false

end Measures

section Sequences

/-- The parts of a sequence. -/
def items : Pattern → List Pattern
  | empty => []
  | seq first second => first :: second.items
  | p => [p]

def ofItems : List Pattern → Pattern
  | [] => empty
  | [p] => p
  | p :: rest => seq p (ofItems rest)

/-- Makes one text of texts that stand side by side. -/
def joinTexts : List Pattern → List Pattern
  | [] => []
  | text chars :: rest =>
    match joinTexts rest with
    | text more :: rest => text (chars ++ more) :: rest
    | rest => text chars :: rest
  | p :: rest => p :: joinTexts rest

def sequence (parts : List Pattern) : Pattern :=
  ofItems (joinTexts (parts.flatMap items))

end Sequences

section Sets

/-- A set as a pattern; a set of one character is a text. -/
def ofSet (set : CharSet) : Pattern :=
  match set.ranges with
  | [(low, high)] => if low = high then text [Char.ofNat low] else one set
  | _ => one set

/-- The set of characters that stand alone as patterns, if they all do. -/
def singles? : List Pattern → Option CharSet
  | [] => some .empty
  | text [c] :: rest => (singles? rest).map (CharSet.union (.single c))
  | _ => none

/-- The union of sets that stand alone as patterns, if they all do. -/
def sets? : List Pattern → Option CharSet
  | [] => some .empty
  | one set :: rest => (sets? rest).map set.union
  | _ => none

end Sets

section Choices

/-- The branches of a choice. -/
def branches : Pattern → List Pattern
  | either first second => first :: second.branches
  | p => [p]

def ofBranches : List Pattern → Pattern
  | [] => one .empty
  | [p] => p
  | p :: rest => either p (ofBranches rest)

/-- What two lists have in common at the front. -/
def sharedFront : List Pattern → List Pattern → List Pattern
  | p :: ps, q :: qs => if p = q then p :: sharedFront ps qs else []
  | _, _ => []

/-- The beginning that all branches share, if each is a sequence. -/
def sharedStart : List Pattern → List Pattern
  | [] => []
  | [seq first second] => (seq first second).items
  | seq first second :: rest => sharedFront (seq first second).items (sharedStart rest)
  | _ => []

/-- A choice whose branches are brought together as far as `fuel` allows. -/
def choose : Nat → List Pattern → Pattern
  | 0, parts => ofBranches (parts.flatMap branches)
  | fuel + 1, parts =>
    let parts := parts.flatMap branches
    match parts with
    | [p] => p
    | _ =>
      match singles? parts, sets? parts with
      | some set, _ | _, some set => ofSet set
      | none, none =>
        match sharedStart parts with
        | [] => ofBranches parts
        | start =>
          let ends := parts.map fun p => sequence (p.items.drop start.length)
          sequence (start ++ [choose fuel ends])

/-- A choice. Every beginning that is brought together makes the branches smaller. -/
def choice (parts : List Pattern) : Pattern :=
  choose (parts.foldl (fun total p => total + p.size) 1) parts

end Choices

/-- A repetition. What can only match the empty text need not be repeated. -/
def repetition (body : Pattern) (least : Nat) (most : Option Nat) : Pattern :=
  let (least, most) :=
    if body.longest = some 0 then (min least 1, some (min (most.getD 1) 1)) else (least, most)
  if most = some 0 then empty
  else if least = 1 ∧ most = some 1 then body
  else times body least most

end Pattern

end ClassGraph
