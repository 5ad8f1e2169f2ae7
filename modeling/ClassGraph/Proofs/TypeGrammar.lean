import Mathlib.Data.List.TakeWhile
import ClassGraph.Proofs.QualifiedNames
import ClassGraph.Proofs.Visits

namespace ClassGraph

namespace Text

variable {p : Char → Bool} {c : Char}

theorem pieces_concat (inside : p c = false) (cs : List Char) :
    ∃ front last, pieces p cs = front ++ [last] ∧ pieces p (cs ++ [c]) = front ++ [last ++ [c]] := by
  induction cs with
  | nil => exact ⟨[], [], rfl, pieces_cons inside []⟩
  | cons d cs ih =>
    obtain ⟨front, last, whole, longer⟩ := ih
    cases separates : p d with
    | true =>
      refine ⟨[] :: front, last, ?_, ?_⟩
      · rw [pieces, if_pos separates, whole]
        rfl
      · rw [List.cons_append, pieces, if_pos separates, longer]
        rfl
    | false =>
      rw [List.cons_append, pieces_cons separates, pieces_cons separates, whole, longer]
      cases front with
      | nil => exact ⟨[], d :: last, rfl, rfl⟩
      | cons piece front => exact ⟨(d :: piece) :: front, last, rfl, rfl⟩

theorem dropWhile_of_free {cs : List Char} (free : ∀ c ∈ cs, p c = false) : cs.dropWhile p = cs := by
  cases cs with
  | nil => rfl
  | cons c cs => exact dropWhile_of_head (free c List.mem_cons_self) cs

theorem strip_append_left {front : List Char} (dropped : ∀ c ∈ front, p c = true) (cs : List Char) :
    strip p (front ++ cs) = strip p cs := by
  rw [strip, strip, List.dropWhile_append_of_pos dropped]

theorem strip_cons (dropped : p c = true) (cs : List Char) : strip p (c :: cs) = strip p cs := by
  rw [strip, strip, List.dropWhile_cons, if_pos dropped]

theorem strip_concat (dropped : p c = true) (cs : List Char) : strip p (cs ++ [c]) = strip p cs := by
  have atEnd (cs : List Char) : dropEnd p (cs ++ [c]) = dropEnd p cs := by
    rw [dropEnd, dropEnd, List.reverse_append, List.reverse_singleton, List.singleton_append,
      List.dropWhile_cons, if_pos dropped]
  rw [strip, strip, List.dropWhile_append]
  split
  · rename_i nothing
    rw [List.isEmpty_iff.mp nothing, List.dropWhile_cons, if_pos dropped, List.dropWhile_nil]
  · exact atEnd _

end Text

section Parts

/-- The members of a type, as characters. -/
def typeParts (cs : List Char) : List (List Char) :=
  ((Text.pieces isTypeSeparator cs).map typeMember).filter (!·.isEmpty)

theorem typeMembers_eq (text : String) :
    typeMembers text = (typeParts text.toList).map String.ofList :=
  rfl

variable {c : Char}

theorem inside_of_padding (padding : isTypePadding c = true) : isTypeSeparator c = false := by
  refine Bool.eq_false_iff.mpr fun separates => ?_
  rcases Bool.or_eq_true_iff.mp separates with bar | ampersand
  · rw [eq_of_beq bar] at padding
    revert padding
    decide
  · rw [eq_of_beq ampersand] at padding
    revert padding
    decide

theorem padding_of_blank (blank : Text.isBlank c = true) : isTypePadding c = true := by
  rw [isTypePadding, blank]
  rfl

theorem padding_of_blanks {cs : List Char} (blank : ∀ c ∈ cs, Text.isBlank c = true) :
    ∀ c ∈ cs, isTypePadding c = true :=
  fun c member => padding_of_blank (blank c member)

theorem typeParts_join (separates : isTypeSeparator c = true) (first second : List Char) :
    typeParts (first ++ c :: second) = typeParts first ++ typeParts second := by
  rw [typeParts, Text.pieces_append separates, List.map_append, List.filter_append]
  rfl

theorem typeParts_cons (padding : isTypePadding c = true) (cs : List Char) :
    typeParts (c :: cs) = typeParts cs := by
  obtain ⟨piece, rest, found⟩ :=
    List.exists_cons_of_ne_nil (Text.pieces_ne_nil isTypeSeparator cs)
  rw [typeParts, typeParts, Text.pieces_cons (inside_of_padding padding), found]
  simp only [List.modifyHead, List.map_cons, typeMember, Text.strip_cons padding]

theorem typeParts_concat (padding : isTypePadding c = true) (cs : List Char) :
    typeParts (cs ++ [c]) = typeParts cs := by
  obtain ⟨front, last, whole, longer⟩ := Text.pieces_concat (inside_of_padding padding) cs
  rw [typeParts, typeParts, whole, longer]
  simp only [List.map_append, List.map_cons, List.map_nil, typeMember, Text.strip_concat padding]

/-- Padding around a type changes nothing. -/
theorem typeParts_padded {before after : List Char} (front : ∀ c ∈ before, isTypePadding c = true)
    (back : ∀ c ∈ after, isTypePadding c = true) (cs : List Char) :
    typeParts (before ++ cs ++ after) = typeParts cs := by
  have leading : typeParts (before ++ cs ++ after) = typeParts (cs ++ after) := by
    rw [List.append_assoc]
    induction before with
    | nil => rfl
    | cons d before ih =>
      obtain ⟨first, others⟩ := List.forall_mem_cons.mp front
      exact (typeParts_cons first _).trans (ih others)
  rw [leading]
  clear leading
  induction after using List.reverseRecOn with
  | nil => rw [List.append_nil]
  | append_singleton after d ih =>
    rw [← List.append_assoc, typeParts_concat (back d (by simp))]
    exact ih fun c member => back c (List.mem_append_left _ member)

end Parts

/-- A character that is no part of a name. -/
def isTypeMark (c : Char) : Bool :=
  isTypePadding c || isTypeSeparator c || c == '?'

/-- A name as it stands in a type. -/
structure TypeName where
  text : String
  nonempty : text ≠ ""
  unmarked : ∀ c ∈ text.toList, isTypeMark c = false

/-- The name with a text that can be one. -/
def TypeName.ofText (text : String)
    (isName : (text != "" && text.toList.all (!isTypeMark ·)) = true) : TypeName where
  text
  nonempty := bne_iff_ne.mp (Bool.and_eq_true_iff.mp isName).1
  unmarked c member := by
    simpa using List.all_eq_true.mp (Bool.and_eq_true_iff.mp isName).2 c member

inductive TypeToken where
  | word (name : TypeName)
  | bar
  | ampersand
  | question
  | opening
  | closing

def TypeToken.chars : TypeToken → List Char
  | .word name => name.text.toList
  | .bar => ['|']
  | .ampersand => ['&']
  | .question => ['?']
  | .opening => ['(']
  | .closing => [')']

/-- A text of tokens in order, with any blanks between and around them. -/
def Spells : List TypeToken → List Char → Prop
  | [], cs => ∀ c ∈ cs, Text.isBlank c = true
  | token :: tokens, cs => ∃ blanks rest, cs = blanks ++ (token.chars ++ rest) ∧
    (∀ c ∈ blanks, Text.isBlank c = true) ∧ Spells tokens rest

/-- A part of a union: a name, or an intersection in parentheses. -/
inductive TypeClause where
  | single (name : TypeName)
  | group (names : List TypeName)

inductive TypeExpression where
  | single (name : TypeName)
  | nullable (name : TypeName)
  | union (names : List TypeName)
  | intersection (names : List TypeName)
  | normalForm (clauses : List TypeClause)

/-- The tokens of several parts with a separator between them. -/
def TypeToken.join {α : Type} (separator : TypeToken) (tokens : α → List TypeToken)
    (parts : List α) : List TypeToken :=
  [separator].intercalate (parts.map tokens)

namespace TypeClause

def tokens : TypeClause → List TypeToken
  | .single name => [.word name]
  | .group names => .opening :: (TypeToken.join .ampersand ([.word ·]) names ++ [.closing])

def names : TypeClause → List TypeName
  | .single name => [name]
  | .group names => names

end TypeClause

namespace TypeExpression

def tokens : TypeExpression → List TypeToken
  | .single name => [.word name]
  | .nullable name => [.question, .word name]
  | .union names => TypeToken.join .bar ([.word ·]) names
  | .intersection names => TypeToken.join .ampersand ([.word ·]) names
  | .normalForm clauses => TypeToken.join .bar TypeClause.tokens clauses

/-- The names of a type, from left to right. -/
def names : TypeExpression → List TypeName
  | .single name | .nullable name => [name]
  | .union names | .intersection names => names
  | .normalForm clauses => clauses.flatMap TypeClause.names

end TypeExpression

namespace TypeName

variable (name : TypeName) {c : Char}

theorem unpadded (member : c ∈ name.text.toList) : isTypePadding c = false := by
  have unmarked := name.unmarked c member
  rw [isTypeMark, Bool.or_eq_false_iff, Bool.or_eq_false_iff] at unmarked
  exact unmarked.1.1

theorem inside (member : c ∈ name.text.toList) : isTypeSeparator c = false := by
  have unmarked := name.unmarked c member
  rw [isTypeMark, Bool.or_eq_false_iff, Bool.or_eq_false_iff] at unmarked
  exact unmarked.1.2

theorem unquestioned (member : c ∈ name.text.toList) : (c == '?') = false :=
  (Bool.or_eq_false_iff.mp (name.unmarked c member)).2

theorem blankless (member : c ∈ name.text.toList) : Text.isBlank c = false := by
  refine Bool.eq_false_iff.mpr fun blank => ?_
  have unpadded := name.unpadded member
  rw [padding_of_blank blank] at unpadded
  cases unpadded

theorem toList_ne_nil : name.text.toList ≠ [] := by
  intro empty
  exact name.nonempty (String.toList_injective empty)

/-- A text without separators is a single member. -/
theorem typeParts_of_member {cs : List Char} (inside : ∀ c ∈ cs, isTypeSeparator c = false)
    (member : typeMember cs = name.text.toList) : typeParts cs = [name.text.toList] := by
  rw [typeParts, Text.pieces_of_free inside, List.map_singleton, member, List.filter_singleton,
    List.isEmpty_eq_false_iff.mpr name.toList_ne_nil]
  rfl

theorem typeParts_eq : typeParts name.text.toList = [name.text.toList] := by
  have unquestioned : name.text.toList.dropWhile (· == '?') = name.text.toList :=
    Text.dropWhile_of_free fun _ => name.unquestioned
  refine name.typeParts_of_member (fun _ => name.inside) ?_
  rw [typeMember, Text.strip_of_free fun _ => name.unpadded, unquestioned,
    Text.strip_of_free fun _ => name.blankless]

/-- Blanks may stand between a question mark and the name. -/
theorem typeParts_nullable {blanks : List Char} (blank : ∀ c ∈ blanks, Text.isBlank c = true) :
    typeParts ('?' :: (blanks ++ name.text.toList)) = [name.text.toList] := by
  have unquestioned : ∀ c ∈ blanks ++ name.text.toList, (c == '?') = false := by
    intro c member
    rcases List.mem_append.mp member with isBlank | inName
    · refine beq_eq_false_iff_ne.mpr ?_
      rintro rfl
      exact absurd (blank '?' isBlank) (by decide)
    · exact name.unquestioned inName
  have inside : ∀ c ∈ '?' :: (blanks ++ name.text.toList), isTypeSeparator c = false := by
    refine List.forall_mem_cons.mpr ⟨by decide, fun c member => ?_⟩
    rcases List.mem_append.mp member with isBlank | inName
    · exact inside_of_padding (padding_of_blank (blank c isBlank))
    · exact name.inside inName
  -- The question mark shields the blanks behind it from the first stripping.
  have first : ∀ c ∈ ('?' :: (blanks ++ name.text.toList)).head?, isTypePadding c = false := by
    intro c found
    cases found
    decide
  have last : ∀ c ∈ ('?' :: (blanks ++ name.text.toList)).getLast?, isTypePadding c = false := by
    intro c found
    rw [← List.cons_append, List.getLast?_append_of_ne_nil _ name.toList_ne_nil] at found
    exact name.unpadded (List.mem_of_mem_getLast? found)
  refine name.typeParts_of_member inside ?_
  rw [typeMember, Text.strip_of_ends first last, List.dropWhile_cons, if_pos (beq_self_eq_true _),
    Text.dropWhile_of_free unquestioned, Text.strip_append_left blank,
    Text.strip_of_free fun _ => name.blankless]

end TypeName

/-- The tokens before and behind one token are spelled by the texts before and behind it. -/
theorem Spells.split {first second : List TypeToken} {token : TypeToken} {cs : List Char}
    (spelled : Spells (first ++ token :: second) cs) :
    ∃ before after, cs = before ++ (token.chars ++ after) ∧ Spells first before ∧
      Spells second after := by
  induction first generalizing cs with
  | nil =>
    obtain ⟨blanks, rest, rfl, blank, inSecond⟩ := spelled
    exact ⟨blanks, rest, rfl, blank, inSecond⟩
  | cons other first ih =>
    obtain ⟨blanks, rest, rfl, blank, spelledRest⟩ := spelled
    obtain ⟨before, after, rfl, inFirst, inSecond⟩ := ih spelledRest
    refine ⟨blanks ++ (other.chars ++ before), after, ?_, ⟨blanks, before, rfl, blank, inFirst⟩,
      inSecond⟩
    simp only [List.append_assoc]

/-- Every text of the tokens has the names as its members. -/
def Reads (tokens : List TypeToken) (names : List TypeName) : Prop :=
  ∀ cs, Spells tokens cs → typeParts cs = names.map (·.text.toList)

namespace Reads

theorem nil : Reads [] [] := by
  intro cs blank
  have padding := typeParts_padded (padding_of_blanks blank) (List.forall_mem_nil _) []
  rwa [List.append_nil, List.append_nil] at padding

theorem single (name : TypeName) : Reads [.word name] [name] := by
  rintro cs ⟨before, after, rfl, front, back⟩
  rw [← List.append_assoc, typeParts_padded (padding_of_blanks front) (padding_of_blanks back)]
  exact name.typeParts_eq

theorem nullable (name : TypeName) : Reads [.question, .word name] [name] := by
  rintro cs ⟨before, rest, rfl, front, blanks, after, rfl, between, back⟩
  have shape : before ++ (TypeToken.question.chars ++
      (blanks ++ ((TypeToken.word name).chars ++ after))) =
      before ++ ('?' :: (blanks ++ name.text.toList)) ++ after := by
    simp [TypeToken.chars]
  rw [shape, typeParts_padded (padding_of_blanks front) (padding_of_blanks back)]
  exact name.typeParts_nullable between

theorem group {tokens : List TypeToken} {names : List TypeName} (reads : Reads tokens names) :
    Reads (.opening :: (tokens ++ [.closing])) names := by
  rintro cs ⟨before, rest, rfl, front, inside⟩
  obtain ⟨inner, after, rfl, spelledInner, back⟩ := inside.split
  have shape : before ++ (TypeToken.opening.chars ++ (inner ++ (TypeToken.closing.chars ++ after))) =
      (before ++ ['(']) ++ inner ++ (')' :: after) := by
    simp [TypeToken.chars]
  have opening : ∀ c ∈ before ++ ['('], isTypePadding c = true :=
    List.forall_mem_append.mpr ⟨padding_of_blanks front, List.forall_mem_singleton.mpr (by decide)⟩
  have closing : ∀ c ∈ ')' :: after, isTypePadding c = true :=
    List.forall_mem_cons.mpr ⟨by decide, padding_of_blanks back⟩
  rw [shape, typeParts_padded opening closing, reads inner spelledInner]

theorem join {α : Type} {separator : TypeToken} {c : Char} (sign : separator.chars = [c])
    (separates : isTypeSeparator c = true) {tokens : α → List TypeToken} {names : α → List TypeName}
    (each : ∀ part, Reads (tokens part) (names part)) (parts : List α) :
    Reads (TypeToken.join separator tokens parts) (parts.flatMap names) := by
  induction parts with
  | nil => exact nil
  | cons part parts ih =>
    cases parts with
    | nil =>
      rw [TypeToken.join, List.map_singleton, List.intercalate_singleton, List.flatMap_singleton]
      exact each part
    | cons next parts =>
      intro cs spelled
      have joined : TypeToken.join separator tokens (part :: next :: parts) =
          tokens part ++ separator :: TypeToken.join separator tokens (next :: parts) := by
        rw [TypeToken.join, List.map_cons, List.map_cons, List.intercalate_cons_cons,
          List.append_assoc]
        rfl
      rw [joined] at spelled
      obtain ⟨before, after, rfl, front, back⟩ := Spells.split spelled
      rw [sign, List.singleton_append, typeParts_join separates, each part before front,
        ih after back, ← List.map_append]
      rfl

theorem names {separator : TypeToken} {c : Char} (sign : separator.chars = [c])
    (separates : isTypeSeparator c = true) (names : List TypeName) :
    Reads (TypeToken.join separator ([.word ·]) names) names := by
  have each := join sign separates single names
  rwa [List.flatMap_singleton'] at each

theorem clause (clause : TypeClause) : Reads clause.tokens clause.names := by
  cases clause with
  | single name => exact single name
  | group names => exact group (Reads.names rfl (by decide) names)

/-- Every text of a type has its names as members, in order. -/
theorem type (type : TypeExpression) : Reads type.tokens type.names := by
  cases type with
  | single name => exact single name
  | nullable name => exact nullable name
  | union names => exact Reads.names rfl (by decide) names
  | intersection names => exact Reads.names rfl (by decide) names
  | normalForm clauses => exact join rfl (by decide) clause clauses

end Reads

/-- A type word in any case is a type word, and no reference to a class in any scope. -/
theorem Scope.meaning_typeWord (s : Scope) (name : TypeName)
    (isWord : Text.lower name.text ∈ typeWords) : s.meaning name.text = some .builtin := by
  have words : ∀ word ∈ typeWords, Text.lower word = word ∧ word ≠ "self" ∧ word ≠ "static" ∧
      word ≠ "parent" ∧ '\\' ∉ word.toList := by decide
  obtain ⟨-, noSelf, noStatic, noParent, noBackslash⟩ := words _ isWord
  have other {word : String} (lower : Text.lower word = word)
      (differs : Text.lower name.text ≠ word) : Text.sameIgnoringCase name.text word = false := by
    rw [Text.sameIgnoringCase, lower]
    exact beq_eq_false_iff_ne.mpr differs
  have isTypeWord : isTypeWord name.text = true := by
    refine List.any_eq_true.mpr ⟨_, isWord, ?_⟩
    rw [Text.sameIgnoringCase, (words _ isWord).1]
    exact beq_self_eq_true _
  have unqualified : name.text.toList.dropWhile (!isBackslash ·) = [] := by
    refine List.dropWhile_eq_nil_iff.mpr fun c member => ?_
    rw [Bool.not_eq_true', ← Bool.not_eq_true]
    intro backslash
    rw [eq_of_beq backslash] at member
    refine noBackslash ?_
    rw [Text.lower, String.toList_ofList]
    exact List.mem_map.mpr ⟨'\\', member, rfl⟩
  have notEmpty : name.text.isEmpty = false := by
    rw [← Bool.not_eq_true, String.isEmpty_iff]
    exact name.nonempty
  rw [meaning, Text.strip_of_free fun _ => name.blankless, String.ofList_toList, wordMeaning]
  simp [notEmpty, isSelfWord, isParentWord, other (by decide) noSelf, other (by decide) noStatic,
    other (by decide) noParent, unqualified, isTypeWord]

section Silence

theorem edgesTo_unnamed {t : ResolvedTree} (unnamed : t.value.names = []) (kind : EdgeKind) :
    edgesTo kind t = [] := by
  rw [edgesTo, unnamed, List.map_nil]

/-- A rule records nothing at a node without names and imports whose children have no names. -/
theorem Rule.events_unnamed {n : ResolvedNode} {children : List ResolvedTree} (own : n.names = [])
    (noImports : n.imports = []) (below : ∀ child ∈ children, child.value.names = [])
    (rule : Rule) : rule.events (.node n children) = [] := by
  have each {ts : List ResolvedTree} (parts : ∀ t ∈ ts, t ∈ children) (kind : EdgeKind) :
      ts.flatMap (edgesTo kind) = [] :=
    List.flatMap_eq_nil_iff.mpr fun t member => edgesTo_unnamed (below t (parts t member)) kind
  have listed : ∀ t ∈ listedNames children, t ∈ children := fun t => List.mem_of_mem_filter
  have found {p : ResolvedTree → Bool} : ∀ t ∈ (children.find? p).toList, t ∈ children :=
    fun t member => List.mem_of_find?_eq_some (Option.mem_toList.mp member)
  simp only [Rule.events]
  split
  case h_4 =>
    have root : (Tree.node n children).value.names = [] := own
    exact edgesTo_unnamed root .typeHint
  case h_9 =>
    split
    · exact each found .classTest
    · rfl
  case h_10 => rw [noImports, List.map_nil]
  case h_11 => rfl
  all_goals first | exact each listed _ | exact each found _

namespace Tree

theorem events_unnamed {n : ResolvedNode} {children : List ResolvedTree} (own : n.names = [])
    (undeclared : n.declares = none) (noImports : n.imports = [])
    (below : ∀ child ∈ children, child.value.names = []) (rules : List Rule) :
    (node n children).events rules = children.flatMap (events rules) := by
  have nothing : rules.flatMap (·.events (node n children)) = [] :=
    List.flatMap_eq_nil_iff.mpr fun rule _ => rule.events_unnamed own noImports below
  rw [events_node, undeclared, nothing]
  exact List.append_nil _

theorem names_leave (t : SyntaxTree) : (t.leave []).value.names = [] := by
  cases t
  rfl

theorem names_leaveAll (ts : List SyntaxTree) :
    ∀ child ∈ ts.map (leave []), child.value.names = [] := by
  intro child member
  obtain ⟨t, -, rfl⟩ := List.mem_map.mp member
  exact t.names_leave

/-- A walk through a tree that the pass does not enter records nothing. -/
theorem events_leave (rules : List Rule) (t : SyntaxTree) : (t.leave []).events rules = [] := by
  induction t using Tree.induction with
  | node n children ih =>
    rw [leave, leaveAll_eq_map, events_unnamed rfl rfl rfl (names_leaveAll children),
      List.flatMap_map]
    exact List.flatMap_eq_nil_iff.mpr ih

theorem resolveAllIn_skipped (s : Scope) (ts : List SyntaxTree) :
    (resolveAllIn s (ts.map fun _ => .skipped) ts).1 = ts.map (leave []) := by
  induction ts generalizing s with
  | nil => rfl
  | cons t ts ih =>
    rw [List.map_cons, resolveAllIn_cons, ih]
    rfl

/-- A walk through a type without names records nothing. -/
theorem events_type {s : Scope} {n : Node} {children : List SyntaxTree} {form : TypeForm}
    (kind : n.kind = .typeExpression form) (unnamed : s.namesOfType n.text = []) :
    let u := ((node n children).resolveIn s []).1
    u.value.names = [] ∧ ∀ rules, u.events rules = [] := by
  have marks : Mark.ofChildren s n children = children.map fun _ => .skipped := by
    rw [Mark.ofChildren, kind]
    rfl
  have names : (s.resolveNode [] n children).names = [] := by
    rw [Scope.resolveNode, Scope.ownNames, kind]
    exact unnamed
  have undeclared : (s.resolveNode [] n children).declares = none := by
    rw [Scope.resolveNode, Scope.declared, kind]
  have noImports : (s.resolveNode [] n children).imports = [] := by
    rw [Scope.resolveNode, kind]
    rfl
  intro u
  have made : u = node (s.resolveNode [] n children) (children.map (leave [])) := by
    rw [← resolveAllIn_skipped (s.inside n children) children, ← marks]
    rfl
  rw [made]
  refine ⟨names, fun rules => ?_⟩
  rw [events_unnamed names undeclared noImports (names_leaveAll children), List.flatMap_map]
  exact List.flatMap_eq_nil_iff.mpr fun child _ => events_leave rules child

/-- A type that refers to no class has no names wherever it stands, and nothing is recorded at it or
below it. -/
theorem type_silent {t : SyntaxTree} {p : Place} {u : ResolvedTree} {form : TypeForm}
    (here : t.resolve.at? p = some u) (kind : u.value.kind = .typeExpression form)
    (unnamed : ∀ s : Scope, s.namesOfType u.value.text = []) :
    u.value.names = [] ∧ ∀ rules, u.events rules = [] := by
  rw [resolve_at?] at here
  obtain ⟨⟨⟨n, children⟩, s, mark⟩, visited, rfl⟩ := Option.map_eq_some_iff.mp here
  rw [Visit.toNode_resolved] at kind unnamed
  have given : mark.names = [] := by
    by_contra named
    have isName := isName_of_given visited named
    rw [Node.isName, kind] at isName
    cases isName
  rw [Visit.resolved, resolveMarked, given]
  split
  · exact events_type kind (unnamed s)
  · exact ⟨names_leave _, fun rules => events_leave rules _⟩

end Tree

end Silence

/-- Whatever blanks stand in the text of a type, its meanings in any scope are those of its names,
from left to right, without the names that have none. So a type of type words, in any case, refers to no
class in any scope, and wherever it stands in a file no edge comes of it. -/
theorem TypeExpression.typeMeanings_eq (type : TypeExpression) (text : String)
    (spelled : Spells type.tokens text.toList) :
    (∀ s : Scope, s.typeMeanings text = type.names.filterMap fun name => s.meaning name.text) ∧
    ((∀ name ∈ type.names, Text.lower name.text ∈ typeWords) →
      (∀ s : Scope, s.namesOfType text = []) ∧
      ∀ (t : SyntaxTree) (p : Place) (u : ResolvedTree) (form : TypeForm),
        t.resolve.at? p = some u → u.value.kind = .typeExpression form → u.value.text = text →
        u.value.names = [] ∧ ∀ rules, u.events rules = []) := by
  have meanings : ∀ s : Scope, s.typeMeanings text =
      type.names.filterMap fun name => s.meaning name.text := by
    intro s
    rw [Scope.typeMeanings, typeMembers_eq, Reads.type type _ spelled, List.map_map,
      List.filterMap_map]
    simp only [Function.comp_def, String.ofList_toList]
  refine ⟨meanings, fun words => ?_⟩
  have unnamed : ∀ s : Scope, s.namesOfType text = [] := by
    intro s
    rw [Scope.namesOfType, meanings, List.filterMap_filterMap]
    refine List.filterMap_eq_nil_iff.mpr fun name member => ?_
    rw [s.meaning_typeWord name (words name member)]
    rfl
  refine ⟨unnamed, ?_⟩
  rintro t p u form here kind rfl
  exact Tree.type_silent here kind unnamed

namespace TypeExpression

/-- Type words in a union with an intersection. -/
def sampleWords : TypeExpression :=
  .normalForm [.group [.ofText "Int" (by decide), .ofText "STRING" (by decide)],
    .single (.ofText "null" (by decide))]

/-- An import under the name of a type word, and a type with blanks of several kinds. -/
def sampleFile : SyntaxTree :=
  .node { kind := .other "program" }
    [.node { kind := .importDeclaration }
      [.node { kind := .importClause } [.node { kind := .name .qualified, text := "App\\Int" } []]],
     .node { kind := .typeExpression .normalForm, text := "( Int\u3000&STRING\t)| null" } []]

theorem typeMeanings_eq_sampleWords :
    (∀ name ∈ sampleWords.names, Text.lower name.text ∈ typeWords) ∧
    (∀ s : Scope, s.typeMeanings "( Int\u3000&STRING\t)| null" = [.builtin, .builtin, .builtin]) ∧
    ∃ u, sampleFile.resolve.at? [1] = some u ∧ ∀ rules, u.events rules = [] := by
  have blank {cs : List Char} (all : cs.all Text.isBlank = true) :
      ∀ c ∈ cs, Text.isBlank c = true := List.all_eq_true.mp all
  have spelled : Spells sampleWords.tokens "( Int\u3000&STRING\t)| null".toList :=
    ⟨"".toList, " Int\u3000&STRING\t)| null".toList, by decide, blank (by decide),
     " ".toList, "\u3000&STRING\t)| null".toList, by decide, blank (by decide),
     "\u3000".toList, "STRING\t)| null".toList, by decide, blank (by decide),
     "".toList, "\t)| null".toList, by decide, blank (by decide),
     "\t".toList, "| null".toList, by decide, blank (by decide),
     "".toList, " null".toList, by decide, blank (by decide),
     " ".toList, "".toList, by decide, blank (by decide), blank (by decide)⟩
  have words : ∀ name ∈ sampleWords.names, Text.lower name.text ∈ typeWords := by decide
  obtain ⟨meanings, silent⟩ := typeMeanings_eq sampleWords _ spelled
  refine ⟨words, fun s => ?_, _, rfl, ((silent words).2 sampleFile [1] _ _ rfl rfl rfl).2⟩
  rw [meanings, List.filterMap_congr fun name member => s.meaning_typeWord name (words name member)]
  rfl

end TypeExpression

end ClassGraph
