import Mathlib.Data.List.TakeWhile
import ClassGraph.Proofs.QualifiedNames
import ClassGraph.Proofs.TextOrder

namespace ClassGraph

namespace Pathname

/-- Whether a text can name an entry of a folder. -/
def IsEntryName (name : String) : Prop :=
  name ≠ "" ∧ '/' ∉ name.toList ∧ name ≠ "." ∧ name ≠ ".."

instance (name : String) : Decidable (IsEntryName name) :=
  inferInstanceAs (Decidable (_ ∧ _ ∧ _ ∧ _))

/-- The path of what is reached from `p` through entries of the given names. -/
def below (p : Pathname) (names : List String) : Pathname :=
  names.foldl join p

theorem below_cons (p : Pathname) (name : String) (names : List String) :
    p.below (name :: names) = (p.join name).below names :=
  rfl

section Joining

variable {name : String} {p : Pathname}

/-- The segments of a text that is given by its characters. -/
def segmentsOf (cs : List Char) : List String :=
  ((Text.pieces isSeparator cs).filter (!·.isEmpty)).map String.ofList

theorem segmentsOf_append (cs ds : List Char) :
    segmentsOf (cs ++ '/' :: ds) = segmentsOf cs ++ segmentsOf ds := by
  rw [segmentsOf, Text.pieces_append rfl, List.filter_append, List.map_append]
  rfl

theorem segmentsOf_name (proper : IsEntryName name) : segmentsOf name.toList = [name] := by
  obtain ⟨nonempty, unseparated, -⟩ := proper
  have free : ∀ c ∈ name.toList, isSeparator c = false := by
    intro c member
    refine beq_eq_false_iff_ne.mpr ?_
    rintro rfl
    exact unseparated member
  have kept : (!name.toList.isEmpty) = true := by simpa using nonempty
  rw [segmentsOf, Text.pieces_of_free free, List.filter_singleton, kept]
  simp

/-- How a path is joined with a name: a separator is written unless the path is empty or ends in
one. -/
theorem join_cases (p : Pathname) (name : String) :
    p.text.toList = [] ∧ (p.join name).text.toList = name.toList ∨
    ∃ cs, (p.text.toList = cs ++ ['/'] ∨ p.text.toList = cs ∧ cs ≠ []) ∧
      (p.join name).text.toList = cs ++ '/' :: name.toList := by
  rw [join]
  by_cases ends : p.text.toList.getLast? = some '/'
  · obtain ⟨cs, whole⟩ := List.getLast?_eq_some_iff.mp ends
    exact .inr ⟨cs, .inl whole, by simp [whole]⟩
  · by_cases empty : p.text = ""
    · exact .inl ⟨by simp [empty], by simp [empty]⟩
    · exact .inr ⟨p.text.toList, .inr ⟨rfl, by simpa using empty⟩, by simp [ends, empty]⟩

theorem segments_join (proper : IsEntryName name) (p : Pathname) :
    (p.join name).segments = p.segments ++ [name] := by
  change segmentsOf (p.join name).text.toList = segmentsOf p.text.toList ++ [name]
  rcases p.join_cases name with ⟨empty, joined⟩ | ⟨cs, whole | ⟨whole, -⟩, joined⟩
  · rw [joined, empty, segmentsOf_name proper]
    rfl
  · rw [joined, whole, segmentsOf_append, segmentsOf_append, segmentsOf_name proper]
    simp [segmentsOf, Text.pieces]
  · rw [joined, whole, segmentsOf_append, segmentsOf_name proper]

theorem isAbsolute_join (proper : IsEntryName name) (p : Pathname) :
    (p.join name).isAbsolute = p.isAbsolute := by
  rw [isAbsolute, isAbsolute]
  rcases p.join_cases name with ⟨empty, joined⟩ | ⟨cs, whole | ⟨whole, nonempty⟩, joined⟩
  · have relative : name.toList.head? ≠ some '/' := by
      intro first
      exact proper.2.1 (List.mem_of_head? first)
    rw [joined, empty, beq_eq_false_iff_ne.mpr relative]
    rfl
  · rw [joined, whole]
    cases cs <;> rfl
  · obtain ⟨c, rest, rfl⟩ := List.exists_cons_of_ne_nil nonempty
    rw [joined, whole]
    rfl

theorem innerComponent_name (proper : IsEntryName name) : innerComponent name = some (.entry name) := by
  rw [innerComponent, if_neg proper.2.2.1, if_neg proper.2.2.2]

/-- Joining adds one component, however the path is written. -/
theorem components_join (proper : IsEntryName name) (p : Pathname) :
    (p.join name).components = p.components ++ [.entry name] := by
  have last : [name].filterMap innerComponent = [.entry name] := by
    rw [List.filterMap_cons, innerComponent_name proper, List.filterMap_nil]
  rw [components, components, isAbsolute_join proper, segments_join proper]
  split
  · rw [List.filterMap_append, last, List.cons_append]
  · cases p.segments with
    | nil =>
      rw [List.nil_append]
      simp only [if_neg proper.2.2.1, last, List.nil_append]
    | cons first rest =>
      rw [List.cons_append]
      dsimp only
      split
      · rw [List.filterMap_append, last, List.cons_append]
      · rw [← List.cons_append, List.filterMap_append, last]

theorem components_below {names : List String} (proper : ∀ name ∈ names, IsEntryName name)
    (p : Pathname) : (p.below names).components = p.components ++ names.map .entry := by
  induction names generalizing p with
  | nil => exact (List.append_nil _).symm
  | cons name names ih =>
    obtain ⟨first, rest⟩ := List.forall_mem_cons.mp proper
    rw [below_cons, ih rest, components_join first, List.append_assoc]
    rfl

theorem fileName?_below {names : List String} (proper : ∀ entry ∈ names ++ [name], IsEntryName entry)
    (p : Pathname) : (p.below (names ++ [name])).fileName? = some name := by
  rw [fileName?, components_below proper, List.map_append, List.map_singleton, ← List.append_assoc,
    List.getLast?_concat]

end Joining

section Extensions

/-- What a name ends in: it follows the last dot, in front of which there is something. -/
def HasExtension (name extension : String) : Prop :=
  ∃ stem, stem ≠ "" ∧ name = stem ++ "." ++ extension ∧ '.' ∉ extension.toList

variable {p : Pathname} {name : String}

theorem extension?_of_dot (named : p.fileName? = some name) {front back : List Char}
    (whole : name.toList = front ++ '.' :: back) (free : '.' ∉ back) :
    p.extension? = if front = [] then none else some (String.ofList back) := by
  have tail : (name.toList.reverse.takeWhile (· != '.')).reverse = back := by
    have passed : ∀ c ∈ back.reverse, (c != '.') = true := by
      intro c member
      refine bne_iff_ne.mpr ?_
      rintro rfl
      exact free (List.mem_reverse.mp member)
    rw [whole, List.reverse_append, List.reverse_cons, List.append_assoc,
      List.takeWhile_append_of_pos passed]
    simp
  have length : name.toList.length = front.length + 1 + back.length := by
    rw [whole, List.length_append, List.length_cons]
    omega
  have stem : name.toList.take (name.toList.length - back.length - 1) = front := by
    rw [length, whole]
    exact List.take_left' (by omega)
  have shorter : ¬ back.length = name.toList.length := by omega
  rw [extension?, named]
  simp only [bind, Option.bind, tail, stem, shorter, decide_false, Bool.or_false, List.isEmpty_iff]

theorem extension?_of_undotted (named : p.fileName? = some name) (free : '.' ∉ name.toList) :
    p.extension? = none := by
  have tail : (name.toList.reverse.takeWhile (· != '.')).reverse = name.toList := by
    rw [List.takeWhile_eq_self_iff.mpr, List.reverse_reverse]
    intro c member
    refine bne_iff_ne.mpr ?_
    rintro rfl
    exact free (List.mem_reverse.mp member)
  rw [extension?, named]
  simp only [bind, Option.bind, tail, decide_true, Bool.or_true, if_true]

/-- A list with an entry has a last occurrence of it. -/
theorem exists_last_of_mem {α : Type} {a : α} {l : List α} (member : a ∈ l) :
    ∃ front back, l = front ++ a :: back ∧ a ∉ back := by
  obtain ⟨back, front, whole, free⟩ := List.eq_append_cons_of_mem (List.mem_reverse.mpr member)
  refine ⟨front.reverse, back.reverse, ?_, fun inBack => free (List.mem_reverse.mp inBack)⟩
  rw [← List.reverse_reverse l, whole, List.reverse_append, List.reverse_cons, List.append_assoc]
  rfl

theorem extension?_eq_some_iff (named : p.fileName? = some name) {extension : String} :
    p.extension? = some extension ↔ HasExtension name extension := by
  constructor
  · intro found
    by_cases dotted : '.' ∈ name.toList
    · obtain ⟨front, back, whole, free⟩ := exists_last_of_mem dotted
      rw [extension?_of_dot named whole free] at found
      split at found
      · cases found
      · rename_i nonempty
        cases found
        refine ⟨String.ofList front, ?_, ?_, by rwa [String.toList_ofList]⟩
        · simpa using nonempty
        · rw [← String.toList_inj, whole]
          simp
    · rw [extension?_of_undotted named dotted] at found
      cases found
  · rintro ⟨stem, nonempty, rfl, free⟩
    have whole : (stem ++ "." ++ extension).toList = stem.toList ++ '.' :: extension.toList := by
      simp
    rw [extension?_of_dot named whole free, if_neg (by simpa using nonempty), String.ofList_toList]

end Extensions

end Pathname

section Order

/-- What is before in dictionary order is so by the first entries that differ. -/
theorem lex_of_lexBefore {α : Type} {before : α → α → Bool} {R : α → α → Prop}
    (less : ∀ a b, before a b = true → R a b)
    (same : ∀ a b, before a b = false → before b a = false → a = b) {as bs : List α}
    (first : lexBefore before as bs = true) : List.Lex R as bs := by
  induction as generalizing bs with
  | nil =>
    cases bs with
    | nil => cases first
    | cons b bs => exact .nil
  | cons a as ih =>
    cases bs with
    | nil => cases first
    | cons b bs =>
      rw [lexBefore, Bool.or_eq_true, Bool.and_eq_true, Bool.not_eq_true'] at first
      cases isBefore : before a b with
      | true => exact .rel (less a b isBefore)
      | false =>
        rw [isBefore] at first
        obtain ⟨notAfter, later⟩ := first.resolve_left Bool.false_ne_true
        rw [same a b isBefore notAfter]
        exact .cons (ih later)

namespace Component

/-- The order of components: the root, the leading dot, the parent, then the names by their bytes. -/
def Precedes (a b : Component) : Prop :=
  a.rank < b.rank ∨ ∃ s t, a = entry s ∧ b = entry t ∧ Text.bytes s < Text.bytes t

theorem eq_of_rank_of_label {a b : Component} (rank : a.rank = b.rank) (label : a.label = b.label) :
    a = b := by
  cases a <;> cases b <;> simp_all [Component.rank, Component.label]

theorem key_injective : Function.Injective key := by
  intro a b same
  have both := Prod.mk.inj (toLex.injective same)
  exact eq_of_rank_of_label both.1 (Text.key_injective both.2)

theorem precedes_of_before {a b : Component} (isBefore : a.before b = true) : a.Precedes b := by
  rw [before, Bool.or_eq_true, Bool.and_eq_true, decide_eq_true_eq, beq_iff_eq] at isBefore
  rcases isBefore with lower | ⟨sameRank, label⟩
  · exact .inl lower
  · cases a with
    | entry s =>
      cases b with
      | entry t => exact .inr ⟨s, t, rfl, rfl, Text.bytes_lt_of_before label⟩
      | _ => cases sameRank
    | _ =>
      cases b with
      | entry t => cases sameRank
      | _ => cases label

theorem eq_of_not_before {a b : Component} (notBefore : a.before b = false)
    (notAfter : b.before a = false) : a = b := by
  rw [← Bool.not_eq_true, before_iff, not_lt] at notBefore notAfter
  exact key_injective (le_antisymm notAfter notBefore)

end Component

namespace Pathname

/-- The order of paths, by the first components that differ. -/
def Precedes (p q : Pathname) : Prop :=
  List.Lex Component.Precedes p.components q.components

theorem precedes_of_before {p q : Pathname} (isBefore : p.before q = true) : p.Precedes q :=
  lex_of_lexBefore (fun _ _ => Component.precedes_of_before)
    (fun _ _ => Component.eq_of_not_before) isBefore

theorem components_of_key {p q : Pathname} (same : p.key = q.key) : p.components = q.components :=
  List.map_injective_iff.mpr Component.key_injective same

end Pathname

end Order

end ClassGraph
