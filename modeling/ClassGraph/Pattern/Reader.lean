import ClassGraph.Pattern.Size
import ClassGraph.Text.Letter

namespace ClassGraph.Pattern

/-- The settings that hold at a place of a pattern's text. -/
structure Flags where
  ignoresCase : Bool := false
  multiLine : Bool := false
  dotMatchesAll : Bool := false
  returns : Bool := false
  verbose : Bool := false
  unicode : Bool := true
deriving DecidableEq, Repr

namespace Flags

/-- Changes the setting that a letter stands for; the letter that swaps greed changes no search. -/
def set? (flags : Flags) (letter : Char) (value : Bool) : Option Flags :=
  match letter with
  | 'i' => some { flags with ignoresCase := value }
  | 'm' => some { flags with multiLine := value }
  | 's' => some { flags with dotMatchesAll := value }
  | 'R' => some { flags with returns := value }
  | 'x' => some { flags with verbose := value }
  | 'u' => some { flags with unicode := value }
  | 'U' => some flags
  | _ => none

end Flags

section Blanks

/-- In verbose patterns, drops blanks and comments up to the line's end. -/
def skipVerbose (inComment : Bool) : List Char → List Char
  | [] => []
  | c :: rest =>
    if inComment then skipVerbose (c != '\n') rest
    else if Text.isBlank c then skipVerbose false rest
    else if c = '#' then skipVerbose true rest
    else c :: rest

def skip (flags : Flags) (cs : List Char) : List Char :=
  if flags.verbose then skipVerbose false cs else cs

/-- The character that stands next if blanks and the first hash in front of it do not count. A line
feed is a blank like others here, so that what follows on the next line of a comment does count. -/
def peekBeyond (inComment : Bool) : List Char → Option Char
  | [] => none
  | c :: rest =>
    if Text.isBlank c then peekBeyond inComment rest
    else if !inComment && c = '#' then peekBeyond true rest
    else some c

/-- The character next to come. In verbose patterns blanks do not count unless there is nothing
else. -/
def peek (flags : Flags) (cs : List Char) : Option Char :=
  if flags.verbose then (peekBeyond false cs).or cs.head? else cs.head?

end Blanks

section Sets

/-- A set with the variants in case of its members, where case is ignored. -/
def foldSet (flags : Flags) (set : CharSet) : CharSet :=
  if !flags.ignoresCase then set
  else if flags.unicode then set.folded
  else set.foldedAscii

/-- A character as a pattern; where case is ignored, any of its variants. -/
def ofChar (flags : Flags) (c : Char) : Pattern :=
  if !flags.ignoresCase then text [c]
  else if flags.unicode then ofSet (.ofRanges ((variants c).map fun v => (v.toNat, v.toNat)))
  else ofSet (CharSet.single c).foldedAscii

/-- A set or its complement; complements are only taken among all characters. -/
def negateSet? (flags : Flags) (negated : Bool) (set : CharSet) : Option CharSet :=
  if !negated then some set
  else if flags.unicode then some set.complement
  else none

/-- The set of one character as the member of a class. Without Unicode only ASCII is allowed. -/
def charSet? (flags : Flags) (c : Char) : Option CharSet :=
  if flags.unicode || c.toNat < 0x80 then some (.single c) else none

/-- The union of several ranges of characters. -/
def charRanges (ranges : List (Char × Char)) : CharSet :=
  .ofRanges (ranges.map fun range => (range.1.toNat, range.2.toNat))

def digitSet (flags : Flags) : CharSet :=
  if flags.unicode then ⟨digitRanges⟩ else charRanges [('0', '9')]

def blankSet (flags : Flags) : CharSet :=
  if flags.unicode then ⟨Text.blankRanges⟩ else charRanges [('\t', '\r'), (' ', ' ')]

def wordSet (flags : Flags) : CharSet :=
  if flags.unicode then ⟨wordRanges⟩
  else charRanges [('0', '9'), ('A', 'Z'), ('_', '_'), ('a', 'z')]

/-- The named sets of ASCII characters. -/
def namedSet? (name : String) : Option CharSet :=
  match name with
  | "alnum" => some (charRanges [('0', '9'), ('A', 'Z'), ('a', 'z')])
  | "alpha" => some (charRanges [('A', 'Z'), ('a', 'z')])
  | "ascii" => some (.range 0 0x7F)
  | "blank" => some (charRanges [('\t', '\t'), (' ', ' ')])
  | "cntrl" => some (.ofRanges [(0, 0x1F), (0x7F, 0x7F)])
  | "digit" => some (charRanges [('0', '9')])
  | "graph" => some (.range 0x21 0x7E)
  | "lower" => some (charRanges [('a', 'z')])
  | "print" => some (.range 0x20 0x7E)
  | "punct" => some (charRanges [('!', '/'), (':', '@'), ('[', Char.ofNat 0x60), ('\x7b', '~')])
  | "space" => some (charRanges [('\t', '\r'), (' ', ' ')])
  | "upper" => some (charRanges [('A', 'Z')])
  | "word" => some (charRanges [('0', '9'), ('A', 'Z'), ('_', '_'), ('a', 'z')])
  | "xdigit" => some (charRanges [('0', '9'), ('A', 'F'), ('a', 'f')])
  | _ => none

end Sets

section Escapes

/-- What an escape stands for. -/
inductive Escaped where
  | char (c : Char)
  | set (set : CharSet)
  | anchor (anchor : Anchor)

def hexValue? (c : Char) : Option Nat :=
  if c.isDigit then some (c.toNat - 48)
  else if 'a' ≤ c ∧ c ≤ 'f' then some (c.toNat - 87)
  else if 'A' ≤ c ∧ c ≤ 'F' then some (c.toNat - 55)
  else none

def scalar? (code : Nat) : Option Char :=
  if code < 0xD800 ∨ (0xDFFF < code ∧ code < 0x110000) then some (Char.ofNat code) else none

/-- Reads `count` more hexadecimal digits. -/
def readFixedHex (flags : Flags) : Nat → Nat → List Char → Option (Nat × List Char)
  | 0, value, cs => some (value, cs)
  | count + 1, value, cs =>
    match cs with
    | [] => none
    | c :: rest =>
      match hexValue? c with
      | some digit => readFixedHex flags count (16 * value + digit) (skip flags rest)
      | none => none

/-- Reads hexadecimal digits up to the closing brace. -/
def readBracedHex (flags : Flags) (fuel : Nat) (value : Option Nat) (cs : List Char) :
    Option (Nat × List Char) :=
  match fuel, skip flags cs with
  | 0, _ => none
  | _, [] => none
  | fuel + 1, c :: rest =>
    if c = '\x7d' then value.map (·, skip flags rest)
    else match hexValue? c with
      | some digit => readBracedHex flags fuel (some (16 * value.getD 0 + digit)) rest
      | none => none

/-- A character given by its code behind the letter `x`, `u` or `U`. Two digits behind `x` are a
byte, which without Unicode is a character only in ASCII. -/
def readHex (flags : Flags) (letter : Char) (cs : List Char) : Option (Escaped × List Char) := do
  let count := if letter = 'x' then 2 else if letter = 'u' then 4 else 8
  let (code, rest) ← match skip flags cs with
    | '\x7b' :: rest => readBracedHex flags (rest.length + 1) none rest
    | cs => do
      let (code, rest) ← readFixedHex flags count 0 cs
      if letter = 'x' && !flags.unicode && 0x80 ≤ code then none else some (code, rest)
  let c ← scalar? code
  some (.char c, rest)

def isEdgeLetter (c : Char) : Bool :=
  c.isAlpha || c == '-'

def namedEdge? (name : String) : Option WordEdge :=
  match name with
  | "start" => some .start
  | "end" => some .stop
  | "start-half" => some .startHalf
  | "end-half" => some .stopHalf
  | _ => none

/-- The letters of a named word edge; blanks between them are dropped where patterns are verbose. -/
def edgeName (flags : Flags) (fuel : Nat) (done : List Char) (cs : List Char) :
    List Char × List Char :=
  match fuel, cs with
  | fuel + 1, c :: rest =>
    if isEdgeLetter c then edgeName flags fuel (c :: done) (skip flags rest)
    else (done.reverse, c :: rest)
  | _, cs => (done.reverse, cs)

/-- A word edge, which a name in braces makes special. Braces that do not begin with a letter
are left to be read as a repetition. -/
def readWordEdge (flags : Flags) (cs : List Char) : Option (Escaped × List Char) :=
  let plain := Escaped.anchor (.wordEdge .any !flags.unicode)
  match cs with
  | '\x7b' :: rest =>
    match skip flags rest with
    | [] => none
    | c :: inner =>
      if isEdgeLetter c then
        match edgeName flags (inner.length + 1) [] (c :: inner) with
        | (name, '\x7d' :: rest) =>
          (namedEdge? (String.ofList name)).map fun edge =>
            (.anchor (.wordEdge edge !flags.unicode), rest)
        | _ => none
      else some (plain, cs)
  | _ => some (plain, cs)

/-- ASCII characters that a backslash makes stand for themselves. -/
def isEscapable (c : Char) : Bool :=
  c.toNat < 0x80 && !c.isAlphanum && c != '<' && c != '>'

/-- Reads what follows a backslash. -/
def readEscape (flags : Flags) : List Char → Option (Escaped × List Char)
  | [] => none
  | c :: rest =>
    let edge (edge : WordEdge) : Option (Escaped × List Char) :=
      some (.anchor (.wordEdge edge !flags.unicode), rest)
    if isEscapable c then some (.char c, rest)
    else match c with
      | 'x' | 'u' | 'U' => readHex flags c rest
      | 'd' => some (.set (digitSet flags), rest)
      | 's' => some (.set (blankSet flags), rest)
      | 'w' => some (.set (wordSet flags), rest)
      | 'D' => (negateSet? flags true (digitSet flags)).map (.set ·, rest)
      | 'S' => (negateSet? flags true (blankSet flags)).map (.set ·, rest)
      | 'W' => (negateSet? flags true (wordSet flags)).map (.set ·, rest)
      | 'a' => some (.char (Char.ofNat 7), rest)
      | 'f' => some (.char (Char.ofNat 12), rest)
      | 't' => some (.char '\t', rest)
      | 'n' => some (.char '\n', rest)
      | 'r' => some (.char '\r', rest)
      | 'v' => some (.char (Char.ofNat 11), rest)
      | 'A' => some (.anchor .textStart, rest)
      | 'z' => some (.anchor .textEnd, rest)
      | 'b' => readWordEdge flags rest
      | 'B' => edge .none
      | '<' => edge .start
      | '>' => edge .stop
      | _ => none

end Escapes

section Classes

inductive SetOperator where
  | inter
  | diff
  | symmDiff

/-- A part of a class, and how deep parts are nested in it. -/
structure NestedSet where
  set : CharSet
  depth : Nat := 0

/-- An operation whose right operand is still being read. -/
structure PendingSet where
  operator : SetOperator
  left : NestedSet

/-- Completes a pending operation with its right operand. -/
def PendingSet.combine (flags : Flags) (pending : Option PendingSet) (right : NestedSet) :
    NestedSet :=
  match pending with
  | none => right
  | some ⟨operator, left⟩ =>
    let a := foldSet flags left.set
    let b := foldSet flags right.set
    let set := match operator with
      | .inter => a.inter b
      | .diff => a.diff b
      | .symmDiff => a.symmDiff b
    { set, depth := max left.depth right.depth + 1 }

/-- The members of a class that have been read. -/
structure Members where
  set : CharSet := .empty
  count : Nat := 0
  depth : Nat := 0

namespace Members

def add (members : Members) (part : NestedSet) : Members :=
  { set := members.set.union part.set
    count := members.count + 1
    depth := max members.depth part.depth }

/-- Several members are one level deeper than one. -/
def nested (members : Members) : NestedSet :=
  { set := members.set
    depth := if 2 ≤ members.count then members.depth + 1 else members.depth }

end Members

/-- A named set such as `[:alpha:]`, behind its first bracket. -/
def readNamedSet (flags : Flags) : List Char → Option (Option CharSet × List Char)
  | ':' :: rest =>
    let (negated, rest) := match rest with
      | '^' :: rest => (true, rest)
      | rest => (false, rest)
    let name := rest.takeWhile (· != ':')
    match rest.dropWhile (· != ':'), namedSet? (String.ofList name) with
    | ':' :: ']' :: rest, some set => some (negateSet? flags negated (foldSet flags set), rest)
    | _, _ => none
  | _ => none

/-- One end of a range, or a member on its own. -/
def readMember (flags : Flags) : List Char → Option (Escaped × List Char)
  | [] => none
  | '\\' :: rest => readEscape flags rest
  | c :: rest => some (.char c, rest)

/-- A member as a set; an anchor is none. -/
def memberSet? (flags : Flags) : Escaped → Option CharSet
  | .char c => charSet? flags c
  | .set set => some set
  | .anchor _ => none

/-- Reads a member or a range of characters. -/
def readRange (flags : Flags) (cs : List Char) : Option (CharSet × List Char) := do
  let (low, rest) ← readMember flags cs
  match skip flags rest with
  | [] => none
  | '-' :: behind =>
    if peek flags behind = some ']' || peek flags behind = some '-' then
      let set ← memberSet? flags low
      some (set, '-' :: behind)
    else
      let (high, rest) ← readMember flags (skip flags behind)
      match low, high with
      | .char low, .char high =>
        let _ ← charSet? flags low
        let _ ← charSet? flags high
        if low.toNat ≤ high.toNat then some (.range low.toNat high.toNat, rest) else none
      | _, _ => none
  | rest =>
    let set ← memberSet? flags low
    some (set, rest)

/-- The dashes that a class begins with, and a closing bracket if there are none: both stand for
themselves there. -/
def readClassStart (flags : Flags) (fuel : Nat) (members : Members) (cs : List Char) :
    Option (Members × List Char) :=
  match fuel, skip flags cs with
  | 0, _ => none
  | _, [] => none
  | fuel + 1, '-' :: rest => readClassStart flags fuel (members.add ⟨.single '-', 0⟩) rest
  | _, ']' :: rest =>
    if members.count = 0 then
      match skip flags rest with
      | [] => none
      | rest => some (members.add ⟨.single ']', 0⟩, rest)
    else some (members, ']' :: rest)
  | _, rest => some (members, rest)

mutual

/-- Reads a class behind its opening bracket. -/
def readClass (flags : Flags) (fuel : Nat) (cs : List Char) : Option (NestedSet × List Char) :=
  match fuel with
  | 0 => none
  | fuel + 1 => do
    let (negated, cs) := match skip flags cs with
      | '^' :: rest => (true, rest)
      | cs => (false, cs)
    let (members, rest) ← readClassStart flags (cs.length + 1) {} cs
    let (inner, rest) ← readClassItems flags fuel none members rest
    let set ← negateSet? flags negated (foldSet flags inner.set)
    some ({ set, depth := inner.depth + 1 }, rest)

/-- Reads the items of a class up to its closing bracket. -/
def readClassItems (flags : Flags) (fuel : Nat) (pending : Option PendingSet) (members : Members)
    (cs : List Char) : Option (NestedSet × List Char) :=
  match fuel with
  | 0 => none
  | fuel + 1 =>
    let operation (operator : SetOperator) (rest : List Char) : Option (NestedSet × List Char) :=
      let left := PendingSet.combine flags pending members.nested
      readClassItems flags fuel (some ⟨operator, left⟩) {} rest
    let member (part : NestedSet) (rest : List Char) : Option (NestedSet × List Char) :=
      readClassItems flags fuel pending (members.add part) rest
    match skip flags cs with
    | [] => none
    | '[' :: rest =>
      match readNamedSet flags rest with
      | some (some named, rest) => member { set := named } rest
      | some (none, _) => none
      | none =>
        match readClass flags fuel rest with
        | some (inner, rest) => member inner rest
        | none => none
    | ']' :: rest => some (PendingSet.combine flags pending members.nested, rest)
    | '&' :: '&' :: rest => operation .inter rest
    | '-' :: '-' :: rest => operation .diff rest
    | '~' :: '~' :: rest => operation .symmDiff rest
    | cs =>
      match readRange flags cs with
      | some (range, rest) => member { set := range } rest
      | none => none

end

end Classes

section Repetitions

def dropBlanks (cs : List Char) : List Char :=
  cs.dropWhile Text.isBlank

/-- Digits, with blanks dropped between them where patterns are verbose. -/
def decimalDigits (flags : Flags) (fuel : Nat) (done : List Char) (cs : List Char) :
    List Char × List Char :=
  match fuel, cs with
  | fuel + 1, c :: rest =>
    if c.isDigit then decimalDigits flags fuel (c :: done) (skip flags rest)
    else (done.reverse, c :: rest)
  | _, cs => (done.reverse, cs)

/-- The largest bound of a repetition. -/
def largestBound : Nat :=
  0xFFFFFFFF

/-- A bound of a repetition with blanks around it; the outer `none` is a bound too large, the inner
one an absent bound. -/
def readBound (flags : Flags) (cs : List Char) : Option (Option Nat × List Char) :=
  let (digits, rest) := decimalDigits flags (cs.length + 1) [] (dropBlanks cs)
  let value := digits.foldl (fun value c => 10 * value + (c.toNat - 48)) 0
  let rest := skip flags (dropBlanks rest)
  if digits.isEmpty then some (none, rest)
  else if value ≤ largestBound then some (some value, rest)
  else none

/-- Reads the bounds of a counted repetition behind its opening brace. -/
def readBounds (flags : Flags) (cs : List Char) : Option ((Nat × Option Nat) × List Char) := do
  let (least, rest) ← readBound flags (skip flags cs)
  let (bounds, rest) ← match rest with
    | ',' :: rest =>
      match skip flags rest with
      | '\x7d' :: rest => do
        let least ← least
        some ((least, none), '\x7d' :: rest)
      | rest => do
        let least ← least
        let (most, rest) ← readBound flags rest
        let most ← most
        some ((least, some most), rest)
    | rest => do
      let least ← least
      some ((least, some least), rest)
  match rest with
  | '\x7d' :: rest => if bounds.2.all (bounds.1 ≤ ·) then some (bounds, skip flags rest) else none
  | _ => none

/-- Drops the mark that makes a repetition lazy, which changes no search. -/
def dropLazyMark : List Char → List Char
  | '?' :: rest => rest
  | rest => rest

end Repetitions

section Groups

/-- What an opening parenthesis begins. -/
inductive Opening where
  /-- New settings for the rest of the group around it. -/
  | settings (flags : Flags)
  /-- A group that is only brackets. -/
  | plain (flags : Flags)
  /-- A group that is counted, with its name if it has one. -/
  | counted (name : Option String)

/-- Reads the letters of settings up to a colon or a closing parenthesis. No letter and no dash
may come twice, and a dash may not come last. -/
def readFlags (flags : Flags) (seen : List Char) (negated : Bool) :
    List Char → Option (Flags × Bool × List Char)
  | [] => none
  | c :: rest =>
    if c = ':' || c = ')' then
      if seen.head? = some '-' then none else some (flags, !seen.isEmpty, c :: rest)
    else if seen.contains c then none
    else if c = '-' then readFlags flags (c :: seen) true rest
    else match flags.set? c !negated with
      | some flags => readFlags flags (c :: seen) negated rest
      | none => none

def isNameStart (c : Char) : Bool :=
  c == '_' || Text.isLetter c

def isNamePart (c : Char) : Bool :=
  c == '_' || c == '.' || c == '[' || c == ']' || Text.isLetter c || Text.isNumber c

/-- The name of a group up to the closing angle, other than the names already given. -/
def readGroupName (names : List String) (cs : List Char) : Option (String × List Char) :=
  let name := cs.takeWhile (· != '>')
  match cs.dropWhile (· != '>'), name with
  | '>' :: rest, first :: others =>
    if isNameStart first && others.all isNamePart && !names.contains (String.ofList name) then
      some (String.ofList name, rest)
    else none
  | _, _ => none

/-- Reads what stands behind an opening parenthesis. -/
def readOpening (flags : Flags) (names : List String) (cs : List Char) :
    Option (Opening × List Char) :=
  match skip flags cs with
  | '?' :: '=' :: _ | '?' :: '!' :: _ | '?' :: '<' :: '=' :: _ | '?' :: '<' :: '!' :: _ => none
  | '?' :: 'P' :: '<' :: rest | '?' :: '<' :: rest =>
    (readGroupName names rest).map fun (name, rest) => (.counted (some name), rest)
  | '?' :: rest =>
    match readFlags flags [] false rest with
    | some (flags, _, ':' :: rest) => some (.plain flags, rest)
    | some (flags, true, ')' :: rest) => some (.settings flags, rest)
    | _ => none
  | rest => some (.counted none, rest)

end Groups

/-- A part of a pattern, and how deep parts are nested in it. -/
structure Nested where
  pattern : Pattern
  depth : Nat := 0

/-- Several parts side by side are one level deeper than one. -/
def Nested.join (make : List Pattern → Pattern) (parts : List Nested) : Nested :=
  let depth := parts.foldl (fun depth part => max depth part.depth) 0
  { pattern := make (parts.map Nested.pattern)
    depth := if 2 ≤ parts.length then depth + 1 else depth }

/-- What has been read of a group: its settings now, the names given so far, the number of groups
counted so far, the branches that are finished, and the items of the present branch, both in
reverse. Settings stand among the items as `none`. -/
structure Draft where
  flags : Flags := {}
  names : List String := []
  count : Nat := 0
  branches : List Nested := []
  items : List (Option Nested) := []

namespace Draft

def add (d : Draft) (item : Nested) : Draft :=
  { d with items := some item :: d.items }

def branch (d : Draft) : Nested :=
  .join sequence (d.items.reverse.map fun item => item.getD { pattern := empty })

/-- Ends the present branch. -/
def nextBranch (d : Draft) : Draft :=
  { d with branches := d.branch :: d.branches, items := [] }

def nested (d : Draft) : Nested :=
  .join choice (d.branch :: d.branches).reverse

/-- Repeats the last item, if there is one. -/
def repeatLast? (d : Draft) (least : Nat) (most : Option Nat) : Option Draft :=
  match d.items with
  | some item :: items =>
    let item := { pattern := repetition item.pattern least most, depth := item.depth + 1 }
    some { d with items := some item :: items }
  | _ => none

/-- An empty draft for a group inside, which goes on with names and count. -/
def inside (d : Draft) (opening : Opening) : Draft :=
  match opening with
  | .settings flags | .plain flags => { flags, names := d.names, count := d.count }
  | .counted name =>
    { flags := d.flags, names := name.toList ++ d.names, count := d.count + 1 }

/-- Adds a group that has been read. -/
def addGroup (d : Draft) (opening : Opening) (inner : Draft) : Draft :=
  let body := inner.nested
  let p := match opening with
    | .counted _ => group (d.count + 1) body.pattern
    | _ => body.pattern
  { d.add { pattern := p, depth := body.depth + 1 } with names := inner.names, count := inner.count }

end Draft

def dotSet? (flags : Flags) : Option CharSet :=
  if !flags.unicode then none
  else if flags.dotMatchesAll then some .all
  else if flags.returns then some (CharSet.ofRanges [(10, 10), (13, 13)]).complement
  else some (CharSet.single '\n').complement

def startAnchor (flags : Flags) : Anchor :=
  if !flags.multiLine then .textStart else if flags.returns then .returnLineStart else .lineStart

def endAnchor (flags : Flags) : Anchor :=
  if !flags.multiLine then .textEnd else if flags.returns then .returnLineEnd else .lineEnd

/-- A character or what an escape stands for, as a pattern. -/
def ofEscaped (flags : Flags) : Escaped → Pattern
  | .char c => ofChar flags c
  | .set set => ofSet set
  | .anchor a => anchor a

/-- Reads one item that is neither group nor class nor repetition. -/
def readItem (flags : Flags) : List Char → Option (Pattern × List Char)
  | [] => none
  | '\\' :: rest => (readEscape flags rest).map fun (escaped, rest) => (ofEscaped flags escaped, rest)
  | '.' :: rest => (dotSet? flags).map (one ·, rest)
  | '^' :: rest => some (anchor (startAnchor flags), rest)
  | '$' :: rest => some (anchor (endAnchor flags), rest)
  | c :: rest => some (ofChar flags c, rest)

/-- Reads a group up to its closing parenthesis or the end of the text. -/
def readGroup : Nat → Draft → List Char → Option (Draft × List Char)
  | 0, _, _ => none
  | fuel + 1, d, cs =>
    match skip d.flags cs with
    | [] => some (d, [])
    | ')' :: rest => some (d, ')' :: rest)
    | '|' :: rest => readGroup fuel d.nextBranch rest
    | '(' :: rest =>
      match readOpening d.flags d.names rest with
      | some (.settings flags, rest) =>
        readGroup fuel { d with flags, items := none :: d.items } rest
      | some (opening, rest) =>
        match readGroup fuel (d.inside opening) rest with
        | some (inner, ')' :: rest) => readGroup fuel (d.addGroup opening inner) rest
        | _ => none
      | none => none
    | '[' :: rest =>
      match readClass d.flags (2 * rest.length + 2) rest with
      | some (inner, rest) =>
        readGroup fuel (d.add { pattern := ofSet inner.set, depth := inner.depth }) rest
      | none => none
    | '?' :: rest => (d.repeatLast? 0 (some 1)).bind fun d => readGroup fuel d (dropLazyMark rest)
    | '*' :: rest => (d.repeatLast? 0 none).bind fun d => readGroup fuel d (dropLazyMark rest)
    | '+' :: rest => (d.repeatLast? 1 none).bind fun d => readGroup fuel d (dropLazyMark rest)
    | '\x7b' :: rest =>
      match readBounds d.flags rest with
      | some ((least, most), rest) =>
        (d.repeatLast? least most).bind fun d => readGroup fuel d (dropLazyMark rest)
      | none => none
    | cs =>
      match readItem d.flags cs with
      | some (item, rest) => readGroup fuel (d.add { pattern := item }) rest
      | none => none

/-- How deep parts may be nested in a pattern. -/
def deepestNesting : Nat :=
  250

inductive Fault where
  | malformed
  | tooLarge
deriving DecidableEq, Repr

def Fault.message : Fault → String
  | malformed => "invalid regex"
  | tooLarge => s!"Compiled regex exceeds size limit of {largestSize} bytes."

/-- Reads a pattern, with or without regard to case. -/
def read (ignoresCase : Bool) (text : String) : Except Fault Pattern :=
  match readGroup (text.toList.length + 1) { flags := { ignoresCase } } text.toList with
  | some (d, []) =>
    let whole := d.nested
    if deepestNesting < whole.depth then .error .malformed
    else if whole.pattern.isTooLarge then .error .tooLarge
    else .ok whole.pattern
  | _ => .error .malformed

end ClassGraph.Pattern
