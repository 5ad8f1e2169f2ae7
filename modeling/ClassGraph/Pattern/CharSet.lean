import ClassGraph.Pattern.Folding
import ClassGraph.Pattern.Word

namespace ClassGraph

structure CharSet where
  /-- Inclusive ranges in increasing order; no two of them touch. -/
  ranges : List (Nat × Nat)
deriving DecidableEq, Repr, Inhabited

namespace CharSet

/-- The largest code point. -/
def topCode : Nat :=
  0x10FFFF

/-- The character behind a code point; surrogates are skipped. -/
def succCode (code : Nat) : Nat :=
  if code = 0xD7FF then 0xE000 else code + 1

/-- The character before a code point; surrogates are skipped. -/
def predCode (code : Nat) : Nat :=
  if code = 0xE000 then 0xD7FF else code - 1

def empty : CharSet :=
  ⟨[]⟩

def range (low high : Nat) : CharSet :=
  ⟨[(low, high)]⟩

def single (c : Char) : CharSet :=
  range c.toNat c.toNat

def all : CharSet :=
  range 0 topCode

def contains (set : CharSet) (c : Char) : Bool :=
  Text.inRanges set.ranges c

section Combination

/-- Puts ranges that overlap or touch the one in hand together with it. -/
def absorb (range : Nat × Nat) : List (Nat × Nat) → List (Nat × Nat)
  | [] => [range]
  | next :: rest =>
    if next.1 ≤ range.2 + 1 then absorb (range.1, max range.2 next.2) rest
    else range :: absorb next rest

/-- Ranges in increasing order, those that overlap or touch made one. -/
def coalesce : List (Nat × Nat) → List (Nat × Nat)
  | [] => []
  | range :: rest => absorb range rest

/-- Puts a range where it belongs in an increasing list; `behind` merges what follows it. -/
def place (range : Nat × Nat) (behind : List (Nat × Nat) → List (Nat × Nat)) :
    List (Nat × Nat) → List (Nat × Nat)
  | [] => range :: behind []
  | next :: rest =>
    if range.1 ≤ next.1 then range :: behind (next :: rest)
    else next :: place range behind rest

/-- Two increasing lists of ranges as one. -/
def merge : List (Nat × Nat) → List (Nat × Nat) → List (Nat × Nat)
  | [], others => others
  | range :: rest, others => place range (merge rest) others

def union (a b : CharSet) : CharSet :=
  ⟨coalesce (merge a.ranges b.ranges)⟩

/-- Merges lists two by two. -/
def mergePairs : List (List (Nat × Nat)) → List (List (Nat × Nat))
  | a :: b :: rest => merge a b :: mergePairs rest
  | lists => lists

/-- Merges lists in rounds, each of which halves their number. -/
def mergeAll : (rounds : Nat) → List (List (Nat × Nat)) → List (Nat × Nat)
  | _, [] => []
  | _, [list] => list
  | 0, lists => lists.foldl merge []
  | rounds + 1, lists => mergeAll rounds (mergePairs lists)

/-- The union of increasing lists of ranges. -/
def ofLists (lists : List (List (Nat × Nat))) : CharSet :=
  ⟨coalesce (mergeAll lists.length lists)⟩

/-- The union of ranges in any order. -/
def ofRanges (ranges : List (Nat × Nat)) : CharSet :=
  ofLists (ranges.map fun range => [range])

/-- The ranges from behind one end to before the next range, and at last to the top. -/
def gapsFrom (stop : Nat) : List (Nat × Nat) → List (Nat × Nat)
  | [] => if stop < topCode then [(succCode stop, topCode)] else []
  | next :: rest =>
    let low := succCode stop
    let high := predCode next.1
    (min low high, max low high) :: gapsFrom next.2 rest

/-- What lies between the ranges. A gap of surrogates alone has its ends upside down; they are put
in order, so that the gap holds the two characters beside it. -/
def complement (set : CharSet) : CharSet :=
  match set.ranges with
  | [] => all
  | first :: rest =>
    ⟨(if 0 < first.1 then [(0, predCode first.1)] else []) ++ gapsFrom first.2 rest⟩

/-- Takes a list of ranges away from a range; `behind` takes what is left of the list from the
ranges that follow. -/
def cut (range : Nat × Nat) (behind : List (Nat × Nat) → List (Nat × Nat)) :
    List (Nat × Nat) → List (Nat × Nat)
  | [] => range :: behind []
  | other :: rest =>
    if other.2 < range.1 then cut range behind rest
    else if range.2 < other.1 then range :: behind (other :: rest)
    else
      (if range.1 < other.1 then [(range.1, predCode other.1)] else []) ++
        if other.2 < range.2 then cut (succCode other.2, range.2) behind rest
        else behind (other :: rest)

/-- The first ranges without the second ones. -/
def without : List (Nat × Nat) → List (Nat × Nat) → List (Nat × Nat)
  | [], _ => []
  | range :: rest, others => cut range (without rest) others

def diff (a b : CharSet) : CharSet :=
  ⟨without a.ranges b.ranges⟩

/-- What a range shares with a list of ranges; `behind` goes on with the ranges that follow. -/
def share (range : Nat × Nat) (behind : List (Nat × Nat) → List (Nat × Nat)) :
    List (Nat × Nat) → List (Nat × Nat)
  | [] => []
  | other :: rest =>
    if other.2 < range.1 then share range behind rest
    else if range.2 < other.1 then behind (other :: rest)
    else
      (max range.1 other.1, min range.2 other.2) ::
        if other.2 < range.2 then share range behind rest else behind (other :: rest)

/-- What two lists of ranges have in common. -/
def common : List (Nat × Nat) → List (Nat × Nat) → List (Nat × Nat)
  | [], _ => []
  | range :: rest, others => share range (common rest) others

def inter (a b : CharSet) : CharSet :=
  ⟨common a.ranges b.ranges⟩

/-- What is in exactly one of two sets. -/
def symmDiff (a b : CharSet) : CharSet :=
  (a.union b).diff (a.inter b)

end Combination

section Case

/-- The ranges within bounds. -/
def clip (low high : Nat) : List (Nat × Nat) → List (Nat × Nat)
  | [] => []
  | range :: rest =>
    if range.2 < low then clip low high rest
    else if high < range.1 then []
    else (max low range.1, min high range.2) :: clip low high rest

/-- The members of a run among the code points of a range. -/
def onRun (run : Pattern.FoldRun) (range : Nat × Nat) : List (Nat × Nat) :=
  if run.step = 1 then [range]
  else
    let first := range.1 + (run.step - (range.1 - run.first) % run.step) % run.step
    (List.range ((range.2 + run.step - first) / run.step)).map fun i =>
      (first + run.step * i, first + run.step * i)

def shift (offset : Int) (range : Nat × Nat) : Nat × Nat :=
  ((range.1 + offset : Int).toNat, (range.2 + offset : Int).toNat)

/-- The ranges that each of several runs makes of those within its window. The windows begin in
increasing order. -/
def sweep (window : Pattern.FoldRun → Nat × Nat)
    (make : Pattern.FoldRun → Nat × Nat → List (Nat × Nat)) :
    List Pattern.FoldRun → List (Nat × Nat) → List (List (Nat × Nat))
  | [], _ => []
  | run :: runs, ranges =>
    let (low, high) := window run
    let ranges := ranges.dropWhile (·.2 < low)
    (clip low high ranges).flatMap (make run) :: sweep window make runs ranges

/-- Where the members of a run fold to. -/
def targetWindow (run : Pattern.FoldRun) : Nat × Nat :=
  shift run.offset (run.first, run.last)

/-- What the members of a set on runs fold to. -/
def targets (runs : List Pattern.FoldRun) (set : CharSet) : CharSet :=
  ofLists (sweep (fun run => (run.first, run.last))
    (fun run range => (onRun run range).map (shift run.offset)) runs set.ranges)

/-- The characters on runs that fold to members of a set. -/
def sources (runs : List Pattern.FoldRun) (set : CharSet) : CharSet :=
  ofLists (sweep targetWindow (fun run range => onRun run (shift (-run.offset) range)) runs
    set.ranges)

/-- The runs in the order of where they fold to. -/
def runsByTarget : List Pattern.FoldRun :=
  Pattern.foldRuns.foldr (fun run runs =>
    let isBefore (other : Pattern.FoldRun) := (targetWindow other).1 < (targetWindow run).1
    runs.takeWhile isBefore ++ run :: runs.dropWhile isBefore) []

/-- All variants in case of the members. -/
def folded (set : CharSet) : CharSet :=
  let closed := set.union (targets Pattern.foldRuns set)
  closed.union (sources runsByTarget closed)

/-- The members and their variants among the ASCII letters. -/
def foldedAscii (set : CharSet) : CharSet :=
  let upper : List Pattern.FoldRun := [⟨0x41, 0x5A, 1, 32⟩]
  (set.union (targets upper set)).union (sources upper set)

end Case

end CharSet

end ClassGraph
