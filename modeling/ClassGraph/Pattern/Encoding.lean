namespace ClassGraph.Pattern

/-- Inclusive ranges of bytes, one for every byte of a character. -/
abbrev ByteSequence := List (Nat × Nat)

/-- The bytes that encode a code point. -/
def encode (code : Nat) : List Nat :=
  if code < 0x80 then [code]
  else if code < 0x800 then [0xC0 + code / 0x40, 0x80 + code % 0x40]
  else if code < 0x10000 then
    [0xE0 + code / 0x1000, 0x80 + code / 0x40 % 0x40, 0x80 + code % 0x40]
  else
    [0xF0 + code / 0x40000, 0x80 + code / 0x1000 % 0x40, 0x80 + code / 0x40 % 0x40,
      0x80 + code % 0x40]

/-- Where a range has to be cut because its ends are encoded with different numbers of bytes: the
last code point of the first part. -/
def lengthCut? (low high : Nat) : Option Nat :=
  [0x7F, 0x7FF, 0xFFFF].find? fun top => low ≤ top && top < high

/-- Where a range of code points of one length has to be cut, so that the last bytes run through all
values whenever the bytes before them change: the last code point of the first part. -/
def blockCut? (low high : Nat) : Option Nat :=
  [0x40, 0x1000, 0x40000].findSome? fun block =>
    if low / block = high / block then none
    else if low % block ≠ 0 then some (low / block * block + block - 1)
    else if high % block ≠ block - 1 then some (high / block * block - 1)
    else none

/-- The byte sequences of a range in increasing order. A range is cut at the surrogates, then where
the length changes, then at blocks of bytes; no range needs more than a dozen cuts in a row. -/
def byteSequences : (fuel : Nat) → (low high : Nat) → List ByteSequence
  | 0, _, _ => []
  | fuel + 1, low, high =>
    let cutAt (top next : Nat) := byteSequences fuel low top ++ byteSequences fuel next high
    if high < low then []
    else if low < 0xE000 ∧ 0xD7FF < high then cutAt 0xD7FF 0xE000
    else match lengthCut? low high with
      | some top => cutAt top (top + 1)
      | none =>
        if high < 0x80 then [[(low, high)]]
        else match blockCut? low high with
          | some top => cutAt top (top + 1)
          | none => [(encode low).zip (encode high)]

end ClassGraph.Pattern
