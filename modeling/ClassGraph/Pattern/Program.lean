import ClassGraph.Pattern.Basic

namespace ClassGraph

/-- The characters on the two sides of a place in a text. -/
structure Sides where
  before : Option Char
  after : Option Char

namespace Anchor

def sideIsWord (ascii : Bool) (side : Option Char) : Bool :=
  side.any (if ascii then Pattern.isAsciiWord else Pattern.isWord)

def edgeHolds (edge : WordEdge) (before after : Bool) : Bool :=
  match edge with
  | .any => before != after
  | .none => before == after
  | .start => !before && after
  | .stop => before && !after
  | .startHalf => !before
  | .stopHalf => !after

def holds (anchor : Anchor) (sides : Sides) : Bool :=
  match anchor with
  | textStart => sides.before.isNone
  | textEnd => sides.after.isNone
  | lineStart => sides.before.all (· == '\n')
  | lineEnd => sides.after.all (· == '\n')
  | returnLineStart =>
    sides.before.all fun c => c == '\n' || (c == '\r' && sides.after != some '\n')
  | returnLineEnd =>
    sides.after.all fun c => c == '\r' || (c == '\n' && sides.before != some '\r')
  | wordEdge edge ascii =>
    edgeHolds edge (sideIsWord ascii sides.before) (sideIsWord ascii sides.after)

end Anchor

namespace Pattern

/-- One step of a program, with the numbers of the steps behind it. -/
inductive Instruction where
  | accept
  /-- Reads a character in one of the ranges, which are in increasing order. -/
  | read (ranges : Array (Nat × Nat)) (next : Nat)
  | test (anchor : Anchor) (next : Nat)
  | fork (first second : Nat)
deriving Inhabited

abbrev Program := Array Instruction

section Laying

/-- Applies a map `n` times. -/
def iterate {α : Type} (f : α → α) : Nat → α → α
  | 0, a => a
  | n + 1, a => iterate f n (f a)

/-- A program with an instruction more, and the number of that instruction. -/
def push (instruction : Instruction) (program : Program) : Nat × Program :=
  (program.size, program.push instruction)

def pushRead (ranges : List (Nat × Nat)) (next : Nat) (program : Program) : Nat × Program :=
  push (.read ranges.toArray next) program

/-- Lays a pattern down in front of the instruction `next`. Gives the number it begins at. -/
def lay : Pattern → Nat → Program → Nat × Program
  | empty, next, program => (next, program)
  | text chars, next, program =>
    chars.foldr (fun c (next, program) => pushRead [(c.toNat, c.toNat)] next program) (next, program)
  | one set, next, program => pushRead set.ranges next program
  | anchor a, next, program => push (.test a next) program
  | group _ body, next, program => lay body next program
  | seq first second, next, program =>
    let (next, program) := lay second next program
    lay first next program
  | either first second, next, program =>
    let (a, program) := lay first next program
    let (b, program) := lay second next program
    push (.fork a b) program
  | times body least (some most), next, program =>
    let optional := iterate (fun (enter, program) =>
      let (a, program) := lay body enter program
      push (.fork a next) program) (most - least) (next, program)
    iterate (fun (enter, program) => lay body enter program) least optional
  | times body least none, next, program =>
    let (loop, program) := push .accept program
    let (a, program) := lay body loop program
    let program := program.setIfInBounds loop (.fork a next)
    if least = 0 then (loop, program)
    else iterate (fun (enter, program) => lay body enter program) (least - 1) (a, program)

end Laying

section Running

/-- Whether a code point is in one of several ranges in increasing order, of which those from `low`
to before `high` come into question. Every step halves them. -/
def isWithin (ranges : Array (Nat × Nat)) (code : Nat) : (steps low high : Nat) → Bool
  | 0, _, _ => false
  | steps + 1, low, high =>
    if low < high then
      let middle := (low + high) / 2
      let range := ranges.getD middle (0, 0)
      if code < range.1 then isWithin ranges code steps low middle
      else if range.2 < code then isWithin ranges code steps (middle + 1) high
      else true
    else false

/-- Whether a character is in one of several ranges. There are fewer ranges than code points, so
that they are told apart in 21 steps. -/
def covers (ranges : Array (Nat × Nat)) (c : Char) : Bool :=
  isWithin ranges c.toNat 22 0 ranges.size

/-- Follows a program at one place from the instructions `todo`. Gives the instructions that wait to
read there, or `none` if the program accepts. `seen` tells the round in which each instruction was
last reached. -/
def explore (program : Program) (sides : Sides) (round : Nat) : (fuel : Nat) → (todo : List Nat) →
    (seen : Array Nat) → (waiting : List Nat) → Option (Array Nat × List Nat)
  | 0, _, seen, waiting => some (seen, waiting)
  | _, [], seen, waiting => some (seen, waiting)
  | fuel + 1, i :: todo, seen, waiting =>
    if seen.getD i round = round then explore program sides round fuel todo seen waiting
    else
      let seen := seen.setIfInBounds i round
      match program.getD i .accept with
      | .accept => none
      | .read _ _ => explore program sides round fuel todo seen (i :: waiting)
      | .test a next =>
        explore program sides round fuel (if a.holds sides then next :: todo else todo) seen waiting
      | .fork a b => explore program sides round fuel (a :: b :: todo) seen waiting

/-- Where the instructions that wait lead when a character is read. -/
def readAll (program : Program) (c : Char) (waiting : List Nat) : List Nat :=
  waiting.foldl (fun todo i =>
    match program.getD i .accept with
    | .read ranges next => if covers ranges c then next :: todo else todo
    | _ => todo) []

/-- Follows a program from the place before a text, where it may also begin, to the end. Every
instruction puts at most two others on the list, which bounds the steps at a place. -/
def run (program : Program) (start : Nat) (before : Option Char) (round : Nat) (todo : List Nat)
    (seen : Array Nat) : List Char → Bool
  | [] => (explore program ⟨before, none⟩ round (2 * program.size + todo.length + 2) (start :: todo)
      seen []).isNone
  | c :: rest =>
    match explore program ⟨before, some c⟩ round (2 * program.size + todo.length + 2)
        (start :: todo) seen [] with
    | none => true
    | some (seen, waiting) =>
      run program start (some c) (round + 1) (readAll program c waiting) seen rest

end Running

/-- Whether some part of a text matches. -/
def search (p : Pattern) (text : String) : Bool :=
  let (start, program) := p.lay 0 #[.accept]
  run program start none 1 [] (Array.replicate program.size 0) text.toList

end Pattern

end ClassGraph
