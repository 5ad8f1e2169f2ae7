import Mathlib.Data.List.Sort
import ClassGraph.Proofs.ScanOrder

namespace ClassGraph

section Keys

variable {α κ : Type} [LinearOrder κ] {before : α → α → Bool} {key : α → κ}

theorem mem_insertInOrder_iff (compares : ∀ a b, before a b = true ↔ key a < key b) {a b : α}
    {bs : List α} (increasing : bs.Pairwise (key · < key ·)) :
    b ∈ insertInOrder before a bs ↔ b = a ∨ b ∈ bs ∧ key b ≠ key a := by
  induction bs with
  | nil => simp [insertInOrder]
  | cons c cs ih =>
    obtain ⟨above, rest⟩ := List.pairwise_cons.mp increasing
    rw [insertInOrder, List.mem_cons]
    split
    · rename_i less
      have smaller := (compares a c).mp less
      have larger (member : b = c ∨ b ∈ cs) : key b ≠ key a := by
        rcases member with rfl | later
        · exact smaller.ne'
        · exact (smaller.trans (above b later)).ne'
      rw [List.mem_cons, List.mem_cons]
      exact or_congr_right ⟨fun member => ⟨member, larger member⟩, And.left⟩
    · rename_i notLess
      split
      · rename_i greater
        have smaller := (compares c a).mp greater
        rw [List.mem_cons, ih rest]
        constructor
        · rintro (rfl | rfl | ⟨later, differs⟩)
          · exact .inr ⟨.inl rfl, smaller.ne⟩
          · exact .inl rfl
          · exact .inr ⟨.inr later, differs⟩
        · rintro (rfl | ⟨rfl | later, differs⟩)
          · exact .inr (.inl rfl)
          · exact .inl rfl
          · exact .inr (.inr ⟨later, differs⟩)
      · rename_i notGreater
        rw [compares, not_lt] at notLess notGreater
        have same : key a = key c := le_antisymm notGreater notLess
        rw [List.mem_cons, same]
        constructor
        · rintro (rfl | later)
          · exact .inl rfl
          · exact .inr ⟨.inr later, (above b later).ne'⟩
        · rintro (rfl | ⟨rfl | later, differs⟩)
          · exact .inl rfl
          · exact absurd rfl differs
          · exact .inr later

/-- An arranged list has the first entry of each key. -/
theorem mem_inOrder_iff (compares : ∀ a b, before a b = true ↔ key a < key b) {a : α}
    {test : α → Bool} (tests : ∀ b, test b = true ↔ key b = key a) {as : List α} :
    a ∈ inOrder before as ↔ as.find? test = some a := by
  induction as with
  | nil => exact ⟨fun impossible => absurd impossible List.not_mem_nil, fun none => by cases none⟩
  | cons b bs ih =>
    have inserted : a ∈ inOrder before (b :: bs) ↔ a = b ∨ a ∈ inOrder before bs ∧ key a ≠ key b :=
      mem_insertInOrder_iff compares (increasing_inOrder compares bs)
    rw [inserted, ih, List.find?_cons]
    by_cases same : key b = key a
    · rw [(tests b).mpr same]
      simp only [same, ne_eq, not_true_eq_false, and_false, or_false, Option.some.injEq]
      exact eq_comm
    · have apart : a ≠ b := fun equal => same (by rw [equal])
      rw [Bool.eq_false_iff.mpr fun holds => same ((tests b).mp holds)]
      simp only [apart, false_or, ne_eq, Ne.symm same, not_false_eq_true, and_true]

/-- Where no two entries share a key, an arranged list has them all. -/
theorem mem_inOrder_of_distinct (compares : ∀ a b, before a b = true ↔ key a < key b) {as : List α}
    (distinct : ∀ a ∈ as, ∀ b ∈ as, key a = key b → a = b) {a : α} :
    a ∈ inOrder before as ↔ a ∈ as := by
  have tests : ∀ b, decide (key b = key a) = true ↔ key b = key a := fun b => decide_eq_true_iff
  rw [mem_inOrder_iff compares tests]
  refine ⟨List.mem_of_find?_eq_some, fun member => ?_⟩
  cases found : as.find? fun b => decide (key b = key a) with
  | none => exact absurd ((tests a).mpr rfl) (List.find?_eq_none.mp found a member)
  | some b =>
    have same : key b = key a := by simpa using List.find?_some found
    rw [distinct b (List.mem_of_find?_eq_some found) a member same]

/-- Arranged lists with the same members are the same. -/
theorem inOrder_eq_of_mem_iff (compares : ∀ a b, before a b = true ↔ key a < key b) {as bs : List α}
    (same : ∀ a, a ∈ inOrder before as ↔ a ∈ inOrder before bs) :
    inOrder before as = inOrder before bs := by
  have irreflexive : Std.Irrefl fun a b : α => key a < key b := ⟨fun _ => lt_irrefl _⟩
  have antisymmetric : Std.Antisymm fun a b : α => key a < key b :=
    ⟨fun _ _ less greater => absurd greater less.asymm⟩
  exact (increasing_inOrder compares as).eq_of_mem_iff (increasing_inOrder compares bs) same

end Keys

namespace Text

theorem key_injective : Function.Injective key := by
  intro s t same
  have characters : s.toList = t.toList :=
    List.map_injective_iff.mpr (fun _ _ => Char.toNat_inj.mp) same
  exact String.toList_inj.mp characters

section Labels

variable {α : Type} {label : α → String} {as bs : List α}

theorem increasing_inOrder_label : (inOrder (fun a b => before (label a) (label b)) as).Pairwise
    fun a b => before (label a) (label b) = true :=
  (increasing_inOrder (fun a b => before_iff (label a) (label b)) as).imp (before_iff _ _).mpr

theorem mem_inOrder_label {a : α} : a ∈ inOrder (fun a b => before (label a) (label b)) as ↔
    as.find? (label · == label a) = some a := by
  refine mem_inOrder_iff (fun a b => before_iff (label a) (label b)) fun b => ?_
  rw [beq_iff_eq, key_injective.eq_iff]

theorem find?_inOrder_label (text : String) :
    (inOrder (fun a b => before (label a) (label b)) as).find? (label · == text) =
      as.find? (label · == text) := by
  cases found : (inOrder (fun a b => before (label a) (label b)) as).find? (label · == text) with
  | some a =>
    have labelled : label a = text := by
      have tested := List.find?_some found
      exact beq_iff_eq.mp tested
    rw [← labelled, mem_inOrder_label.mp (List.mem_of_find?_eq_some found)]
  | none =>
    cases first : as.find? (label · == text) with
    | none => rfl
    | some a =>
      have tested := List.find?_some first
      have labelled : label a = text := beq_iff_eq.mp tested
      rw [← labelled] at first
      exact absurd tested (List.find?_eq_none.mp found a (mem_inOrder_label.mpr first))

/-- Lists in which the same is found first for each text are arranged to the same list. -/
theorem inOrder_congr (same : ∀ text, as.find? (label · == text) = bs.find? (label · == text)) :
    inOrder (fun a b => before (label a) (label b)) as =
      inOrder (fun a b => before (label a) (label b)) bs := by
  refine inOrder_eq_of_mem_iff (fun a b => before_iff (label a) (label b)) fun a => ?_
  rw [mem_inOrder_label, mem_inOrder_label, same]

end Labels

theorem mem_inOrder {s : String} {texts : List String} : s ∈ inOrder before texts ↔ s ∈ texts :=
  mem_inOrder_of_distinct before_iff fun _ _ _ _ same => key_injective same

theorem inOrder_congr_mem {texts texts' : List String} (same : ∀ s, s ∈ texts ↔ s ∈ texts') :
    inOrder before texts = inOrder before texts' :=
  inOrder_eq_of_mem_iff before_iff fun s => mem_inOrder.trans ((same s).trans mem_inOrder.symm)

/-- The UTF-8 bytes of a text. -/
def bytes (s : String) : List UInt8 :=
  s.toUTF8.data.toList

theorem bytes_eq_flatMap (s : String) : bytes s = s.toList.flatMap String.utf8EncodeChar := by
  have encoded : s.toByteArray = s.toList.utf8Encode := by
    rw [← String.toByteArray_ofList, String.ofList_toList]
  rw [bytes, String.toUTF8_eq_toByteArray, encoded, List.utf8Encode, List.data_toByteArray,
    List.toList_toArray]

/-- Bytes are compared digit by digit, the next ones only if these are the same. -/
theorem ofNat_cons_lt {m n : Nat} {as bs : List UInt8} (bound : n < 256) (le : m ≤ n)
    (rest : m = n → as < bs) : UInt8.ofNat m :: as < UInt8.ofNat n :: bs := by
  rw [List.cons_lt_cons_iff]
  rcases Nat.lt_or_eq_of_le le with less | same
  · refine .inl (UInt8.lt_iff_toNat_lt.mpr ?_)
    rw [UInt8.toNat_ofNat', UInt8.toNat_ofNat']
    omega
  · exact .inr ⟨by rw [same], rest same⟩

theorem utf8EncodeChar_lt {c d : Char} (less : c.toNat < d.toNat) (as bs : List UInt8) :
    String.utf8EncodeChar c ++ as < String.utf8EncodeChar d ++ bs := by
  have bound : d.val.toNat < 0x110000 := by
    have valid := d.valid
    unfold UInt32.isValidChar Nat.isValidChar at valid
    omega
  change c.val.toNat < d.val.toNat at less
  unfold String.utf8EncodeChar
  dsimp only
  generalize c.val.toNat = v at *
  generalize d.val.toNat = w at *
  -- No form is longer than that of a greater character; the first bytes tell the lengths apart.
  split_ifs <;> try omega
  · exact ofNat_cons_lt (by omega) (by omega) (by omega)
  · exact ofNat_cons_lt (by omega) (by omega) (by omega)
  · exact ofNat_cons_lt (by omega) (by omega) (by omega)
  · exact ofNat_cons_lt (by omega) (by omega) (by omega)
  · exact ofNat_cons_lt (by omega) (by omega) fun high =>
      ofNat_cons_lt (by omega) (by omega) (by omega)
  · exact ofNat_cons_lt (by omega) (by omega) (by omega)
  · exact ofNat_cons_lt (by omega) (by omega) (by omega)
  · exact ofNat_cons_lt (by omega) (by omega) fun high =>
      ofNat_cons_lt (by omega) (by omega) fun middle =>
        ofNat_cons_lt (by omega) (by omega) (by omega)
  · exact ofNat_cons_lt (by omega) (by omega) (by omega)
  · exact ofNat_cons_lt (by omega) (by omega) fun highest =>
      ofNat_cons_lt (by omega) (by omega) fun high =>
        ofNat_cons_lt (by omega) (by omega) fun middle =>
          ofNat_cons_lt (by omega) (by omega) (by omega)

/-- The order of texts is that of their bytes. -/
theorem bytes_lt_of_before {s t : String} (less : before s t = true) : bytes s < bytes t := by
  rw [before_iff, key, key] at less
  rw [bytes_eq_flatMap, bytes_eq_flatMap]
  generalize s.toList = cs at less
  generalize t.toList = ds at less
  induction cs generalizing ds with
  | nil =>
    cases ds with
    | nil => exact absurd less (lt_irrefl _)
    | cons d ds =>
      obtain ⟨first, rest, form⟩ := List.exists_cons_of_ne_nil (@String.utf8EncodeChar_ne_nil d)
      rw [List.flatMap_cons, form]
      exact List.nil_lt_cons ..
  | cons c cs ih =>
    cases ds with
    | nil => exact absurd less (List.not_lt_nil _)
    | cons d ds =>
      rw [List.flatMap_cons, List.flatMap_cons]
      rcases List.cons_lt_cons_iff.mp less with smaller | ⟨same, later⟩
      · exact utf8EncodeChar_lt smaller _ _
      · rw [Char.toNat_inj.mp same]
        exact List.append_left_lt (ih ds later)

end Text

end ClassGraph
