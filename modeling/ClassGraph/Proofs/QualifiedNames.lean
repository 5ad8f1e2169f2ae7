import ClassGraph.Name.Resolve

namespace ClassGraph

namespace Text

variable {p : Char → Bool}

theorem pieces_append {c : Char} (separates : p c = true) (first second : List Char) :
    pieces p (first ++ c :: second) = pieces p first ++ pieces p second := by
  induction first with
  | nil => simp [pieces, separates]
  | cons d first ih =>
    rw [List.cons_append, pieces, pieces, ih]
    split
    · rfl
    · obtain ⟨piece, rest, found⟩ := List.exists_cons_of_ne_nil (pieces_ne_nil p first)
      rw [found]
      rfl

theorem pieces_cons {c : Char} (inside : p c = false) (cs : List Char) :
    pieces p (c :: cs) = (pieces p cs).modifyHead (c :: ·) := by
  obtain ⟨piece, rest, found⟩ := List.exists_cons_of_ne_nil (pieces_ne_nil p cs)
  rw [pieces, if_neg (by simp [inside]), found]
  rfl

theorem pieces_of_free {cs : List Char} (free : ∀ c ∈ cs, p c = false) : pieces p cs = [cs] := by
  induction cs with
  | nil => rfl
  | cons d cs ih =>
    obtain ⟨first, others⟩ := List.forall_mem_cons.mp free
    rw [pieces_cons first, ih others]
    rfl

/-- What holds of the separators and inside the pieces holds of the whole text. -/
theorem forall_of_pieces {q : Char → Prop} {cs : List Char} (separators : ∀ c, p c = true → q c)
    (each : ∀ piece ∈ pieces p cs, ∀ c ∈ piece, q c) : ∀ c ∈ cs, q c := by
  induction cs with
  | nil => simp
  | cons d cs ih =>
    rw [pieces] at each
    split at each
    · rename_i separates
      have rest := ih fun piece member => each piece (List.mem_cons_of_mem _ member)
      exact List.forall_mem_cons.mpr ⟨separators d separates, rest⟩
    · obtain ⟨piece, others, found⟩ := List.exists_cons_of_ne_nil (pieces_ne_nil p cs)
      rw [found] at each ih
      have first : ∀ c ∈ d :: piece, q c := each (d :: piece) List.mem_cons_self
      refine List.forall_mem_cons.mpr ⟨first d List.mem_cons_self, ih ?_⟩
      intro other member c inside
      rcases List.mem_cons.mp member with rfl | later
      · exact first c (List.mem_cons_of_mem d inside)
      · exact each other (List.mem_cons_of_mem _ later) c inside

theorem dropWhile_of_head {c : Char} (kept : p c = false) (cs : List Char) :
    (c :: cs).dropWhile p = c :: cs := by
  rw [List.dropWhile_cons, if_neg (by simp [kept])]

/-- Nothing is cut off a text that begins and ends with characters to be kept. -/
theorem strip_of_ends {cs : List Char} (first : ∀ c ∈ cs.head?, p c = false)
    (last : ∀ c ∈ cs.getLast?, p c = false) : strip p cs = cs := by
  have front : cs.dropWhile p = cs := by
    cases cs with
    | nil => rfl
    | cons c cs => exact dropWhile_of_head (first c rfl) cs
  have back : cs.reverse.dropWhile p = cs.reverse := by
    cases reversed : cs.reverse with
    | nil => rfl
    | cons c rest =>
      refine dropWhile_of_head (last c ?_) rest
      rw [← List.head?_reverse, reversed]
      rfl
  rw [strip, dropEnd, front, back, List.reverse_reverse]

theorem strip_of_free {cs : List Char} (free : ∀ c ∈ cs, p c = false) : strip p cs = cs :=
  strip_of_ends (fun c found => free c (List.mem_of_mem_head? found))
    fun c found => free c (List.mem_of_mem_getLast? found)

end Text

theorem dropLeadingBackslashes_of_head {name : String}
    (first : ∀ c ∈ name.toList.head?, isBackslash c = false) : dropLeadingBackslashes name = name := by
  have kept : name.toList.dropWhile isBackslash = name.toList := by
    cases shape : name.toList with
    | nil => rfl
    | cons c rest => exact Text.dropWhile_of_head (first c (by rw [shape]; rfl)) rest
  rw [dropLeadingBackslashes, kept, String.ofList_toList]

/-- A name whose segments are all there and free of blanks; such a name is not empty. -/
def WellFormedName (name : String) : Prop :=
  ∀ segment ∈ Text.pieces isBackslash name.toList,
    segment ≠ [] ∧ ∀ c ∈ segment, Text.isBlank c = false

instance (name : String) : Decidable (WellFormedName name) :=
  decidable_of_iff ((Text.pieces isBackslash name.toList).all fun segment =>
    !segment.isEmpty && segment.all (!Text.isBlank ·)) (by simp [WellFormedName])

/-- A well-formed name, or one behind a single backslash. -/
def IsReference (text : String) : Prop :=
  WellFormedName text ∨
    text.toList.head? = some '\\' ∧ WellFormedName (String.ofList text.toList.tail)

instance (text : String) : Decidable (IsReference text) :=
  inferInstanceAs (Decidable (_ ∨ _ ∧ _))

namespace WellFormedName

theorem append {first second : String} (wellFirst : WellFormedName first)
    (wellSecond : WellFormedName second) : WellFormedName (first ++ "\\" ++ second) := by
  intro segment member
  have joined : (first ++ "\\" ++ second).toList = first.toList ++ '\\' :: second.toList := by simp
  rw [joined, Text.pieces_append rfl] at member
  rcases List.mem_append.mp member with inFirst | inSecond
  · exact wellFirst segment inFirst
  · exact wellSecond segment inSecond

/-- The parts of a well-formed name around one of its backslashes are well formed. -/
theorem parts {name : String} {c : Char} {first second : List Char} (well : WellFormedName name)
    (parted : name.toList = first ++ c :: second) (separates : isBackslash c = true) :
    WellFormedName (String.ofList first) ∧ WellFormedName (String.ofList second) := by
  have segments : Text.pieces isBackslash name.toList =
      Text.pieces isBackslash first ++ Text.pieces isBackslash second := by
    rw [parted, Text.pieces_append separates]
  constructor
  · intro segment member
    rw [String.toList_ofList] at member
    exact well segment (segments ▸ List.mem_append_left _ member)
  · intro segment member
    rw [String.toList_ofList] at member
    exact well segment (segments ▸ List.mem_append_right _ member)

variable {name : String} (well : WellFormedName name)
include well

theorem ne_empty : name ≠ "" := by
  rintro rfl
  exact (well [] (by decide)).1 rfl

theorem blankless : ∀ c ∈ name.toList, Text.isBlank c = false := by
  refine Text.forall_of_pieces ?_ fun segment listed => (well segment listed).2
  intro c separates
  rw [show c = '\\' from eq_of_beq separates]
  decide

theorem backslashless_ends :
    (∀ c ∈ name.toList.head?, isBackslash c = false) ∧
      ∀ c ∈ name.toList.getLast?, isBackslash c = false := by
  have notEmpty : ¬WellFormedName (String.ofList []) := fun empty => empty.ne_empty rfl
  constructor
  · intro c found
    obtain ⟨rest, shape⟩ := List.head?_eq_some_iff.mp found
    refine Bool.eq_false_iff.mpr fun separates => notEmpty ?_
    exact (well.parts (shape.trans (List.nil_append _).symm) separates).1
  · intro c found
    obtain ⟨rest, shape⟩ := List.getLast?_eq_some_iff.mp found
    refine Bool.eq_false_iff.mpr fun separates => notEmpty ?_
    exact (well.parts shape separates).2

theorem dropLeadingBackslashes_eq : dropLeadingBackslashes name = name :=
  dropLeadingBackslashes_of_head well.backslashless_ends.1

theorem stripBackslashes_eq : stripBackslashes name = name := by
  obtain ⟨first, last⟩ := well.backslashless_ends
  rw [stripBackslashes, Text.strip_of_ends first last, String.ofList_toList]

end WellFormedName

namespace IsReference

variable {text : String} (reference : IsReference text)
include reference

theorem cases_shape : WellFormedName text ∨
    ∃ name, text = "\\" ++ name ∧ WellFormedName name := by
  rcases reference with well | ⟨rooted, well⟩
  · exact .inl well
  · obtain ⟨rest, shape⟩ := List.head?_eq_some_iff.mp rooted
    rw [shape] at well
    refine .inr ⟨String.ofList rest, String.toList_injective ?_, well⟩
    simp [shape]

theorem blankless : ∀ c ∈ text.toList, Text.isBlank c = false := by
  rcases reference.cases_shape with well | ⟨name, rfl, well⟩
  · exact well.blankless
  · intro c member
    rw [String.toList_append] at member
    rcases List.mem_append.mp member with isRoot | inName
    · cases List.mem_singleton.mp isRoot
      decide
    · exact well.blankless c inName

theorem dropLeadingBackslashes_wellFormed : WellFormedName (dropLeadingBackslashes text) := by
  rcases reference.cases_shape with well | ⟨name, rfl, well⟩
  · rwa [well.dropLeadingBackslashes_eq]
  · have cut : dropLeadingBackslashes ("\\" ++ name) = dropLeadingBackslashes name := by
      simp [dropLeadingBackslashes, isBackslash]
    rwa [cut, well.dropLeadingBackslashes_eq]

theorem stripBackslashes_wellFormed : WellFormedName (stripBackslashes text) := by
  rcases reference.cases_shape with well | ⟨name, rfl, well⟩
  · rwa [well.stripBackslashes_eq]
  · have cut : stripBackslashes ("\\" ++ name) = stripBackslashes name := by
      simp [stripBackslashes, Text.strip, isBackslash]
    rwa [cut, well.stripBackslashes_eq]

end IsReference

theorem fullNameIn_wellFormed {space name : String} (wellSpace : space = "" ∨ WellFormedName space)
    (wellName : WellFormedName name) : WellFormedName (fullNameIn space name) := by
  unfold fullNameIn
  split
  · exact wellName
  · rename_i occupied
    rcases wellSpace with rfl | wellSpace
    · exact absurd rfl occupied
    · exact wellSpace.append wellName

theorem sameIgnoringCase_rooted {word : String} (name : String)
    (unrooted : (Text.lower word).toList.head? ≠ some '\\') :
    Text.sameIgnoringCase ("\\" ++ name) word = false := by
  refine beq_eq_false_iff_ne.mpr fun same => unrooted ?_
  rw [← same]
  simp [Text.lower]

namespace Scope

/-- Behind a backslash a name stands for itself, in every scope. -/
theorem wordMeaning_rooted (s : Scope) (name : String) :
    s.wordMeaning ("\\" ++ name) = some (.named name) := by
  have noSelf : isSelfWord ("\\" ++ name) = false := by
    rw [isSelfWord, sameIgnoringCase_rooted name (by decide), sameIgnoringCase_rooted name (by decide)]
    rfl
  have noParent : isParentWord ("\\" ++ name) = false :=
    sameIgnoringCase_rooted name (by decide)
  have notEmpty : ("\\" ++ name).isEmpty = false := by
    rw [← Bool.not_eq_true, String.isEmpty_iff]
    simp
  simp [wordMeaning, noSelf, noParent, notEmpty, isBackslash]

theorem meaning_eq_wordMeaning (s : Scope) {text : String} (reference : IsReference text) :
    s.meaning text = s.wordMeaning text := by
  rw [meaning, Text.strip_of_free reference.blankless, String.ofList_toList]

theorem meaning_rooted (s : Scope) {name : String} (well : WellFormedName name) :
    s.meaning ("\\" ++ name) = some (.named name) := by
  have reference : IsReference ("\\" ++ name) := .inr ⟨by simp, by simpa using well⟩
  rw [s.meaning_eq_wordMeaning reference, s.wordMeaning_rooted]

end Scope

structure EnclosingClass.WellFormed (c : EnclosingClass) : Prop where
  name : ∀ name ∈ c.name, WellFormedName name
  parent : ∀ parent ∈ c.parent, WellFormedName parent

/-- A scope that has only well-formed names to give. -/
structure Scope.WellFormed (s : Scope) : Prop where
  space : s.space = "" ∨ WellFormedName s.space
  imports : ∀ entry ∈ s.imports.entries, WellFormedName entry.2
  enclosing : ∀ c ∈ s.enclosing, c.WellFormed

namespace Scope.WellFormed

variable {s : Scope} (scope : s.WellFormed)
include scope

theorem fullName {name : String} (well : WellFormedName name) : WellFormedName (s.fullName name) :=
  fullNameIn_wellFormed scope.space well

theorem find? {shortName target : String} (found : s.imports.find? shortName = some target) :
    WellFormedName target := by
  obtain ⟨before, after, shape, -⟩ := List.lookup_eq_some_iff.mp found
  refine scope.imports (Text.lower shortName, target) ?_
  rw [shape]
  simp

theorem resolvePlain {name : String} (well : WellFormedName name) :
    WellFormedName (s.resolvePlain name) := by
  unfold Scope.resolvePlain
  cases found : s.imports.find? name with
  | none => exact scope.fullName well
  | some target => exact scope.find? found

theorem resolveQualified {head rest : String} (wellHead : WellFormedName head)
    (wellRest : WellFormedName rest) : WellFormedName (s.resolveQualified head rest) := by
  unfold Scope.resolveQualified
  split
  · exact scope.fullName wellRest
  · cases found : s.imports.find? head with
    | none => exact scope.fullName (wellHead.append wellRest)
    | some target => exact (scope.find? found).append wellRest

theorem wordMeaning_named {text name : String} (well : WellFormedName text)
    (means : s.wordMeaning text = some (.named name)) : WellFormedName name := by
  have named {source : Option String} (same : source.map Referent.named = some (.named name)) :
      source = some name := by
    obtain ⟨other, found, equal⟩ := Option.map_eq_some_iff.mp same
    cases equal
    exact found
  unfold Scope.wordMeaning at means
  split at means
  · cases means
  split at means
  · obtain ⟨c, inScope, hasName⟩ := Option.bind_eq_some_iff.mp (named means)
    exact (scope.enclosing c inScope).name name hasName
  split at means
  · obtain ⟨c, inScope, hasParent⟩ := Option.bind_eq_some_iff.mp (named means)
    exact (scope.enclosing c inScope).parent name hasParent
  dsimp only at means
  split at means
  · rename_i c rest behind
    have parted : text.toList = text.toList.takeWhile (!isBackslash ·) ++ c :: rest := by
      rw [← behind, List.takeWhile_append_dropWhile]
    have separates : isBackslash c = true := by
      simpa [behind] using List.head?_dropWhile_not (!isBackslash ·) text.toList
    obtain ⟨wellHead, wellRest⟩ := well.parts parted separates
    split at means
    · rw [← Referent.named.inj (Option.some.inj means)]
      exact wellRest
    · rw [← Referent.named.inj (Option.some.inj means)]
      exact scope.resolveQualified wellHead wellRest
  · split at means
    · cases means
    · rw [← Referent.named.inj (Option.some.inj means)]
      exact scope.resolvePlain well

/-- Whatever class a reference means, its name is well formed. -/
theorem meaning_named {text name : String} (reference : IsReference text)
    (means : s.meaning text = some (.named name)) : WellFormedName name := by
  rw [s.meaning_eq_wordMeaning reference] at means
  rcases reference.cases_shape with well | ⟨inner, rfl, well⟩
  · exact scope.wordMeaning_named well means
  · rw [s.wordMeaning_rooted] at means
    cases means
    exact well

theorem name?_meaning {text name : String} (reference : IsReference text)
    (means : (s.meaning text).bind Referent.name? = some name) : WellFormedName name := by
  obtain ⟨referent, found, named⟩ := Option.bind_eq_some_iff.mp means
  cases referent with
  | builtin => cases named
  | named other =>
    cases named
    exact scope.meaning_named reference found

theorem namesOfReference {text : String} (reference : IsReference text) :
    ∀ name ∈ s.namesOfReference text, WellFormedName name := by
  intro name member
  exact scope.name?_meaning reference (Option.mem_toList.mp member)

theorem namesOfType {text : String} (members : ∀ member ∈ typeMembers text, IsReference member) :
    ∀ name ∈ s.namesOfType text, WellFormedName name := by
  intro name member
  rw [Scope.namesOfType, Scope.typeMeanings, List.filterMap_filterMap] at member
  obtain ⟨written, listed, means⟩ := List.mem_filterMap.mp member
  exact scope.name?_meaning (members written listed) means

end Scope.WellFormed

end ClassGraph
