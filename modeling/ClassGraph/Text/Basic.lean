import ClassGraph.Text.Blank

namespace ClassGraph.Text

/-- Drops the characters satisfying `p` from the end. -/
def dropEnd (p : Char → Bool) (cs : List Char) : List Char :=
  (cs.reverse.dropWhile p).reverse

/-- Drops the characters satisfying `p` from both ends. -/
def strip (p : Char → Bool) (cs : List Char) : List Char :=
  dropEnd p (cs.dropWhile p)

/-- The pieces of a text between the characters satisfying `p`; there is always one more piece
than there are such characters. -/
def pieces (p : Char → Bool) : List Char → List (List Char)
  | [] => [[]]
  | c :: cs =>
    if p c then [] :: pieces p cs
    else match pieces p cs with
      | [] => [[c]]
      | piece :: rest => (c :: piece) :: rest

theorem pieces_ne_nil (p : Char → Bool) (cs : List Char) : pieces p cs ≠ [] := by
  cases cs with
  | nil => simp [pieces]
  | cons c cs =>
    rw [pieces]
    split
    · simp
    · split <;> simp

/-- Lower case for the ASCII letters; every other character stays as it is. -/
def lower (s : String) : String :=
  String.ofList (s.toList.map Char.toLower)

def sameIgnoringCase (s t : String) : Bool :=
  lower s == lower t

end ClassGraph.Text
