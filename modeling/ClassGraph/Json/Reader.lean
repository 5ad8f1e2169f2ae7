import ClassGraph.Json.Basic

namespace ClassGraph.Json

def isJsonBlank (c : Char) : Bool :=
  c == ' ' || c == '\t' || c == '\n' || c == '\r'

def skipBlanks (cs : List Char) : List Char :=
  cs.dropWhile isJsonBlank

def hexDigit? (c : Char) : Option Nat :=
  if c.isDigit then some (c.toNat - 48)
  else if 'a' ≤ c ∧ c ≤ 'f' then some (c.toNat - 87)
  else if 'A' ≤ c ∧ c ≤ 'F' then some (c.toNat - 55)
  else none

/-- The value of four hexadecimal digits. -/
def unit? (a b c d : Char) : Option Nat := do
  let a ← hexDigit? a
  let b ← hexDigit? b
  let c ← hexDigit? c
  let d ← hexDigit? d
  some (((a * 16 + b) * 16 + c) * 16 + d)

/-- The character of one code unit that is no surrogate. -/
def single? (unit : Nat) : Option Char :=
  if 0xD800 ≤ unit ∧ unit ≤ 0xDFFF then none else some (Char.ofNat unit)

/-- The character of two code units, a leading and a trailing surrogate. -/
def pair? (high low : Nat) : Option Char :=
  if 0xD800 ≤ high ∧ high ≤ 0xDBFF ∧ 0xDC00 ≤ low ∧ low ≤ 0xDFFF then
    some (Char.ofNat (0x10000 + (high - 0xD800) * 0x400 + (low - 0xDC00)))
  else none

/-- The character that stands for itself behind a backslash, or for a control character. -/
def escapedChar? (c : Char) : Option Char :=
  if c = '"' || c = '\\' || c = '/' then some c
  else if c = 'b' then some (Char.ofNat 8)
  else if c = 'f' then some (Char.ofNat 12)
  else if c = 'n' then some '\n'
  else if c = 'r' then some '\r'
  else if c = 't' then some '\t'
  else none

/-- The rest of a string behind its opening quotation mark, and the text behind it. The characters
read so far are kept in reverse. -/
def readString (done : List Char) : List Char → Option (String × List Char)
  | [] => none
  | '"' :: rest => some (String.ofList done.reverse, rest)
  | '\\' :: 'u' :: a :: b :: c :: d :: '\\' :: 'u' :: e :: f :: g :: h :: rest =>
    match unit? a b c d with
    | none => none
    | some high =>
      match single? high with
      | some char => readString (char :: done) ('\\' :: 'u' :: e :: f :: g :: h :: rest)
      | none =>
        match (unit? e f g h).bind (pair? high) with
        | some char => readString (char :: done) rest
        | none => none
  | '\\' :: 'u' :: a :: b :: c :: d :: rest =>
    match (unit? a b c d).bind single? with
    | some char => readString (char :: done) rest
    | none => none
  | '\\' :: c :: rest =>
    match escapedChar? c with
    | some char => readString (char :: done) rest
    | none => none
  | c :: rest => if c.toNat < 0x20 then none else readString (c :: done) rest

/-- The least number that is too large for double precision: halfway between the largest finite
value and the next power of two. -/
def tooLarge : Nat :=
  (1 <<< 1024) - (1 <<< 970)

/-- A number rounded to 53 binary digits; a half goes to the even neighbour. -/
def roundToDouble (n : Nat) : Nat :=
  let cut := n.log2 + 1 - 53
  let kept := n >>> cut
  let rest := n - (kept <<< cut)
  let double := 2 * rest
  if (1 <<< cut) < double || ((1 <<< cut) == double && kept % 2 == 1) then (kept + 1) <<< cut
  else kept <<< cut

/-- Whether a significand times a power of ten stays within double precision. Both are rounded
before they are multiplied, and no power above the largest is taken. -/
def fits (significand : Nat) (exponent : Int) : Bool :=
  if significand = 0 || exponent < 0 then true
  else if 308 < exponent then false
  else roundToDouble significand * roundToDouble (Nat.pow 10 exponent.toNat) < tooLarge

/-- The largest significand, of 64 binary digits. -/
def largestSignificand : Nat :=
  0xFFFFFFFFFFFFFFFF

/-- Takes digits into a significand until one would make it too large. Gives the significand, and
how many digits are left. -/
def takeDigits (significand : Nat) : List Char → Nat × Nat
  | [] => (significand, 0)
  | c :: rest =>
    let next := 10 * significand + (c.toNat - 48)
    if largestSignificand < next then (significand, rest.length + 1) else takeDigits next rest

/-- The significand of a number with its power of ten. Digits that are left of the whole part raise
the power; those of the fraction are dropped. -/
def significand (whole fraction : List Char) : Nat × Int :=
  let (upper, raised) := takeDigits 0 whole
  let (all, dropped) := takeDigits upper fraction
  (all, raised + dropped - fraction.length)

def digitsValue (digits : List Char) : Nat :=
  digits.foldl (fun value c => 10 * value + (c.toNat - 48)) 0

/-- The digits in front of a text, of which there must be one. -/
def someDigits (cs : List Char) : Option (List Char × List Char) :=
  match cs.takeWhile Char.isDigit with
  | [] => none
  | digits => some (digits, cs.dropWhile Char.isDigit)

/-- The whole part of a number: a zero alone, or digits that start with none. -/
def wholePart (cs : List Char) : Option (List Char × List Char) :=
  match someDigits cs with
  | some ('0' :: _ :: _, _) => none
  | found => found

/-- The fraction of a number, if a point follows. -/
def fractionPart : List Char → Option (List Char × List Char)
  | '.' :: rest => someDigits rest
  | cs => some ([], cs)

/-- The exponent of a number with its text, if the letter for it follows. -/
def exponentPart : List Char → Option (Int × List Char × List Char)
  | c :: rest =>
    if c = 'e' || c = 'E' then
      match rest with
      | '-' :: rest =>
        (someDigits rest).map fun (ds, rest) => (-(digitsValue ds : Int), c :: '-' :: ds, rest)
      | '+' :: rest =>
        (someDigits rest).map fun (ds, rest) => ((digitsValue ds : Int), c :: '+' :: ds, rest)
      | rest => (someDigits rest).map fun (ds, rest) => ((digitsValue ds : Int), c :: ds, rest)
    else some (0, [], c :: rest)
  | [] => some (0, [], [])

def readNumber (cs : List Char) : Option (Json × List Char) := do
  let (sign, cs) := match cs with
    | '-' :: rest => ("-", rest)
    | cs => ("", cs)
  let (whole, cs) ← wholePart cs
  let (fraction, cs) ← fractionPart cs
  let (exponent, letters, cs) ← exponentPart cs
  let point := if fraction.isEmpty then [] else '.' :: fraction
  let (significand, power) := significand whole fraction
  if fits significand (exponent + power) then
    some (number (sign ++ String.ofList (whole ++ point ++ letters)), cs)
  else none

mutual

/-- Reads a value with at most `depth` arrays and objects inside each other. Every step takes one
unit of fuel and consumes a character. -/
def readValue : Nat → Nat → List Char → Option (Json × List Char)
  | 0, _, _ => none
  | fuel + 1, depth, cs =>
    match skipBlanks cs with
    | 'n' :: 'u' :: 'l' :: 'l' :: rest => some (null, rest)
    | 't' :: 'r' :: 'u' :: 'e' :: rest => some (bool true, rest)
    | 'f' :: 'a' :: 'l' :: 's' :: 'e' :: rest => some (bool false, rest)
    | '"' :: rest => (readString [] rest).map fun (value, rest) => (string value, rest)
    | '[' :: rest =>
      match depth, skipBlanks rest with
      | 0, _ => none
      | _, ']' :: rest => some (array [], rest)
      | depth + 1, rest => readItems fuel depth [] rest
    | '\x7b' :: rest =>
      match depth, skipBlanks rest with
      | 0, _ => none
      | _, '\x7d' :: rest => some (object [], rest)
      | depth + 1, rest => readMembers fuel depth [] rest
    | cs => readNumber cs

/-- Reads the items of an array, of which there is at least one more. -/
def readItems : Nat → Nat → List Json → List Char → Option (Json × List Char)
  | 0, _, _, _ => none
  | fuel + 1, depth, done, cs =>
    match readValue fuel depth cs with
    | none => none
    | some (item, rest) =>
      match skipBlanks rest with
      | ',' :: rest => readItems fuel depth (item :: done) rest
      | ']' :: rest => some (array (item :: done).reverse, rest)
      | _ => none

/-- Reads the members of an object, of which there is at least one more. -/
def readMembers : Nat → Nat → List (String × Json) → List Char → Option (Json × List Char)
  | 0, _, _, _ => none
  | fuel + 1, depth, done, cs =>
    match skipBlanks cs with
    | '"' :: rest =>
      match readString [] rest with
      | none => none
      | some (key, rest) =>
        match skipBlanks rest with
        | ':' :: rest =>
          match readValue fuel depth rest with
          | none => none
          | some (value, rest) =>
            match skipBlanks rest with
            | ',' :: rest => readMembers fuel depth ((key, value) :: done) rest
            | '\x7d' :: rest => some (object ((key, value) :: done).reverse, rest)
            | _ => none
        | _ => none
    | _ => none

end

/-- Reads a whole text as one value, nested at most `depth` deep. -/
def read? (depth : Nat) (text : String) : Option Json :=
  match readValue (text.toList.length + 1) depth text.toList with
  | some (value, rest) => if (skipBlanks rest).isEmpty then some value else none
  | none => none

end ClassGraph.Json
