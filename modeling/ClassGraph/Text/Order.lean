namespace ClassGraph

/-- Dictionary order on lists, over a strict order of their entries. -/
def lexBefore {α : Type} (before : α → α → Bool) : List α → List α → Bool
  | [], [] => false
  | [], _ :: _ => true
  | _ :: _, [] => false
  | a :: as, b :: bs => before a b || (!before b a && lexBefore before as bs)

/-- Puts an entry into an increasing list, in the place of one that is neither before nor after it,
if there is one. -/
def insertInOrder {α : Type} (before : α → α → Bool) (a : α) : List α → List α
  | [] => [a]
  | b :: bs =>
    if before a b then a :: b :: bs
    else if before b a then b :: insertInOrder before a bs
    else a :: bs

/-- The entries of a list in increasing order; of those that share a place the first stays. -/
def inOrder {α : Type} (before : α → α → Bool) (as : List α) : List α :=
  as.foldr (insertInOrder before) []

theorem mem_insertInOrder {α : Type} {before : α → α → Bool} {a b : α} {bs : List α}
    (member : b ∈ insertInOrder before a bs) : b = a ∨ b ∈ bs := by
  induction bs with
  | nil => exact .inl (List.mem_singleton.mp member)
  | cons c cs ih =>
    rw [insertInOrder] at member
    split at member
    · exact List.mem_cons.mp member
    · split at member
      · rcases List.mem_cons.mp member with rfl | later
        · exact .inr List.mem_cons_self
        · exact (ih later).imp_right (List.mem_cons_of_mem c)
      · exact (List.mem_cons.mp member).imp_right (List.mem_cons_of_mem c)

namespace Text

/-- Strict order of texts by code points. -/
def before (s t : String) : Bool :=
  lexBefore (fun c d : Char => c.toNat < d.toNat) s.toList t.toList

end Text

end ClassGraph
