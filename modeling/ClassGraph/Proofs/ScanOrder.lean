import ClassGraph.File.Pathname
import Mathlib.Data.List.Lex
import Mathlib.Data.Prod.Lex

namespace ClassGraph

section Keys

variable {α κ : Type} [LinearOrder κ] {before : α → α → Bool} {key : α → κ}

theorem lexBefore_iff (compares : ∀ a b, before a b = true ↔ key a < key b) (as bs : List α) :
    lexBefore before as bs = true ↔ as.map key < bs.map key := by
  induction as generalizing bs with
  | nil => cases bs <;> simp [lexBefore]
  | cons a as ih =>
    cases bs with
    | nil => simp [lexBefore]
    | cons b bs =>
      have notBefore : before b a = false ↔ key a ≤ key b := by
        rw [← Bool.not_eq_true, compares, not_lt]
      simp only [lexBefore, Bool.or_eq_true, Bool.and_eq_true, Bool.not_eq_true', compares,
        notBefore, ih, List.map_cons, List.cons_lt_cons_iff]
      constructor
      · rintro (less | ⟨atMost, later⟩)
        · exact .inl less
        · exact atMost.lt_or_eq.imp_right fun same => ⟨same, later⟩
      · rintro (less | ⟨same, later⟩)
        · exact .inl less
        · exact .inr ⟨same.le, later⟩

theorem increasing_insertInOrder (compares : ∀ a b, before a b = true ↔ key a < key b) (a : α)
    {bs : List α} (increasing : bs.Pairwise (key · < key ·)) :
    (insertInOrder before a bs).Pairwise (key · < key ·) := by
  induction bs with
  | nil => exact List.pairwise_singleton _ a
  | cons b bs ih =>
    obtain ⟨first, rest⟩ := List.pairwise_cons.mp increasing
    rw [insertInOrder]
    split
    · rename_i less
      have smaller := (compares a b).mp less
      refine List.pairwise_cons.mpr ⟨?_, increasing⟩
      intro c member
      rcases List.mem_cons.mp member with rfl | later
      · exact smaller
      · exact smaller.trans (first c later)
    · rename_i notLess
      split
      · rename_i greater
        refine List.pairwise_cons.mpr ⟨?_, ih rest⟩
        intro c member
        rcases mem_insertInOrder member with rfl | later
        · exact (compares b c).mp greater
        · exact first c later
      · rename_i notGreater
        -- Neither is before the other, so they share a key and the new entry takes the place.
        rw [compares, not_lt] at notLess notGreater
        have same : key a = key b := le_antisymm notGreater notLess
        refine List.pairwise_cons.mpr ⟨?_, rest⟩
        intro c later
        rw [same]
        exact first c later

theorem increasing_inOrder (compares : ∀ a b, before a b = true ↔ key a < key b) (as : List α) :
    (inOrder before as).Pairwise (key · < key ·) := by
  induction as with
  | nil => exact .nil
  | cons a as ih => exact increasing_insertInOrder compares a ih

/-- Sorting keeps every entry and lets no key decrease, so that keys that are all different increase. -/
theorem increasing_mergeSort (compares : ∀ a b, before a b = true ↔ key a < key b) {as : List α}
    (distinct : as.Pairwise (key · ≠ key ·)) :
    (as.mergeSort fun a b => !before b a).Pairwise (key · < key ·) := by
  have atMost : ∀ a b, (!before b a) = true ↔ key a ≤ key b := by
    intro a b
    rw [Bool.not_eq_true', ← Bool.not_eq_true, compares, not_lt]
  have sorted : (as.mergeSort fun a b => !before b a).Pairwise (key · ≤ key ·) := by
    refine (List.pairwise_mergeSort ?_ ?_ as).imp (atMost _ _).mp
    · intro a b c first second
      exact (atMost a c).mpr (((atMost a b).mp first).trans ((atMost b c).mp second))
    · intro a b
      rw [Bool.or_eq_true, atMost, atMost]
      exact le_total (key a) (key b)
  have apart : (as.mergeSort fun a b => !before b a).Pairwise (key · ≠ key ·) :=
    (List.mergeSort_perm as _).symm.pairwise distinct fun different => different.symm
  exact sorted.imp₂ (fun _ _ => lt_of_le_of_ne) apart

/-- Only one arrangement of a list has increasing keys, and sorting finds it. -/
theorem mergeSort_eq_of_perm (compares : ∀ a b, before a b = true ↔ key a < key b) {as bs : List α}
    (perm : as.Perm bs) (increasing : bs.Pairwise (key · < key ·)) :
    (as.mergeSort fun a b => !before b a) = bs := by
  have distinct : as.Pairwise (key · ≠ key ·) :=
    perm.symm.pairwise (increasing.imp fun less => less.ne) fun different => different.symm
  refine List.Perm.eq_of_pairwise ?_ (increasing_mergeSort compares distinct) increasing
    ((List.mergeSort_perm as _).trans perm)
  intro a b _ _ less greater
  exact absurd greater less.asymm

end Keys

/-- What texts are compared by. -/
def Text.key (s : String) : List Nat :=
  s.toList.map Char.toNat

theorem Text.before_iff (s t : String) : before s t = true ↔ key s < key t :=
  lexBefore_iff (by simp) s.toList t.toList

/-- What components are compared by. -/
def Component.key (c : Component) : Nat ×ₗ List Nat :=
  toLex (c.rank, Text.key c.label)

theorem Component.before_iff (a b : Component) : a.before b = true ↔ a.key < b.key := by
  simp only [before, key, Prod.Lex.toLex_lt_toLex, Bool.or_eq_true, Bool.and_eq_true,
    decide_eq_true_eq, beq_iff_eq, Text.before_iff]

/-- What pathnames are compared by. -/
def Pathname.key (p : Pathname) : List (Nat ×ₗ List Nat) :=
  p.components.map Component.key

theorem Pathname.before_iff (p q : Pathname) : p.before q = true ↔ p.key < q.key :=
  lexBefore_iff Component.before_iff p.components q.components

end ClassGraph
