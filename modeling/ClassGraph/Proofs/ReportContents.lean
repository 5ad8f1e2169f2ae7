import Std.Data.String.ToNat
import ClassGraph.Proofs.FileOrder
import ClassGraph.Proofs.QualifiedNames

namespace ClassGraph

namespace Json

/-- The entries of the array under a key, read one by one. -/
def listed? {α : Type} (read : Json → Option α) (key : String) (value : Json) : Option (List α) :=
  ((value.get? key).bind array?).bind (·.mapM read)

theorem nat?_nat (n : Nat) : (nat n).nat? = some n := by
  have digits : (toString n).toList.all Char.isDigit = true := by
    refine List.all_eq_true.mpr fun c member => ?_
    rw [Nat.toString_eq_repr, Nat.repr, String.toList_ofList] at member
    exact Nat.isDigit_of_mem_toDigits (by decide) (by decide) member
  rw [nat, nat?, if_pos digits, Nat.toString_eq_repr, Nat.toNat?_repr]

/-- An array whose entries were written one by one is read back whole. -/
theorem listed?_of_written {α β : Type} {write : α → Json} {read : Json → Option β} {told : α → β}
    (readBack : ∀ a, read (write a) = some (told a)) {key : String} {value : Json} {items : List α}
    (found : value.get? key = some (.array (items.map write))) :
    value.listed? read key = some (items.map told) := by
  have each (items : List α) : (items.map write).mapM read = some (items.map told) := by
    induction items with
    | nil => rfl
    | cons a items ih =>
      rw [List.map_cons, List.mapM_cons, readBack, ih]
      rfl
  rw [listed?, found]
  exact each items

theorem find?_eq_some_iff {members : List (String × Json)} (nodup : (members.map (·.1)).Nodup)
    {key : String} {a : String × Json} :
    members.find? (·.1 == key) = some a ↔ a ∈ members ∧ a.1 = key := by
  constructor
  · intro found
    have named := List.find?_some found
    exact ⟨List.mem_of_find?_eq_some found, beq_iff_eq.mp named⟩
  · rintro ⟨isMember, named⟩
    cases found : members.find? (·.1 == key) with
    | none => exact absurd (beq_iff_eq.mpr named) (List.find?_eq_none.mp found a isMember)
    | some b =>
      have isMember' := List.mem_of_find?_eq_some found
      have named' := List.find?_some found
      have same : b.1 = a.1 := (beq_iff_eq.mp named').trans named.symm
      rw [List.inj_on_of_nodup_map nodup isMember' isMember same]

/-- Where no key is repeated the last value of a key is the first. -/
theorem get?_of_nodup {members : List (String × Json)} (nodup : (members.map (·.1)).Nodup)
    (key : String) : (object members).get? key = (members.find? (·.1 == key)).map (·.2) := by
  have nodup' : (members.reverse.map (·.1)).Nodup := by
    rw [List.map_reverse, List.nodup_reverse]
    exact nodup
  have first : members.reverse.find? (·.1 == key) = members.find? (·.1 == key) := by
    refine Option.ext fun a => ?_
    rw [find?_eq_some_iff nodup', find?_eq_some_iff nodup, List.mem_reverse]
  rw [get?, first]

end Json

namespace Report

/-- The edge that an entry of a report describes; its kind is told by its text. -/
def edge? (entry : Json) : Option Edge := do
  let target ← (entry.get? "target").bind Json.string?
  let kind ← ((entry.get? "type").bind Json.string?).bind EdgeKind.ofText?
  let line ← (entry.get? "line").bind Json.nat?
  some ⟨target, kind, line⟩

/-- The path and the message of a failure that a report describes. -/
def fault? (entry : Json) : Option (String × String) := do
  let path ← (entry.get? "path").bind Json.string?
  let message ← (entry.get? "error").bind Json.string?
  some (path, message)

theorem edge?_edgeJson (e : Edge) : edge? (edgeJson e) = some e := by
  have target : (edgeJson e).get? "target" = some (.string e.target) := rfl
  have kind : (edgeJson e).get? "type" = some (.string e.kind.text) := rfl
  have line : (edgeJson e).get? "line" = some (.nat e.line) := rfl
  rw [edge?, target, kind, line]
  simp only [Option.bind_some, Json.string?, EdgeKind.ofText?_text, Json.nat?_nat, bind]

theorem fault?_failureJson (e : SourceError) :
    fault? (failureJson e) = some (e.path.text, e.message) :=
  rfl

/-- The members of the object of classes. -/
def classMembers (m : CodeMap) : List (String × Json) :=
  inOrder (fun a b => Text.before a.1 b.1) (m.classes.map classMember)

variable (m : CodeMap)

theorem find?_classMembers (name : String) :
    (classMembers m).find? (·.1 == name) = (m.classes.find? (·.name == name)).map classMember := by
  rw [classMembers, Text.find?_inOrder_label, List.find?_map]
  rfl

theorem nodup_keys : ((classMembers m).map (·.1)).Nodup := by
  refine List.pairwise_map.mpr (Text.increasing_inOrder_label.imp ?_)
  intro a b before same
  have less := (Text.before_iff a.1 b.1).mp before
  rw [same] at less
  exact lt_irrefl _ less

theorem mem_keys {name : String} :
    name ∈ (classMembers m).map (·.1) ↔ ∃ c ∈ m.classes, c.name = name := by
  have found : name ∈ (classMembers m).map (·.1) ↔
      ((classMembers m).find? (·.1 == name)).isSome = true := by
    rw [List.find?_isSome, List.mem_map]
    simp only [beq_iff_eq]
  rw [found, find?_classMembers, Option.isSome_map, List.find?_isSome]
  simp only [beq_iff_eq]

theorem length_classMembers : (classMembers m).length = m.classCount := by
  have sameNames : ((classMembers m).map (·.1)).Perm (m.classes.map (·.name)).dedup := by
    refine (List.perm_ext_iff_of_nodup (nodup_keys m) (List.nodup_dedup _)).mpr fun name => ?_
    rw [mem_keys, List.mem_dedup, List.mem_map]
  rw [CodeMap.classCount_eq, ← sameNames.length_eq, List.length_map]

/-- Under a name stand the edges of the first class that has it. -/
theorem edges_under (name : String) : (Json.object (classMembers m)).listed? edge? name =
    (m.classes.find? (·.name == name)).map (·.edges) := by
  have under : (Json.object (classMembers m)).get? name =
      (m.classes.find? (·.name == name)).map fun c => .array (c.edges.map edgeJson) := by
    rw [Json.get?_of_nodup (nodup_keys m), find?_classMembers, Option.map_map]
    rfl
  cases first : m.classes.find? (·.name == name) with
  | none =>
    rw [first] at under
    rw [Json.listed?, under]
    rfl
  | some c =>
    rw [first] at under
    rw [Json.listed?_of_written edge?_edgeJson under]
    exact congrArg some (List.map_id _)

end Report

theorem CodeMap.class?_of_unprefixed (m : CodeMap) {name : String}
    (unprefixed : name.toList.head? ≠ some '\\') :
    m.class? name = m.classes.find? (·.name == name) := by
  have first : ∀ c ∈ name.toList.head?, isBackslash c = false := by
    intro c found
    refine Bool.eq_false_iff.mpr fun separates => unprefixed ?_
    rw [← beq_iff_eq.mp separates]
    exact found
  rw [class?_eq_find?, dropLeadingBackslashes_of_head first]

/-- A report tells all of its map, and nothing else of it. The keys of its object of classes are the
names of the classes, each once, so that there are as many as the map counts. A name that does not begin
with a backslash has the edges of the class that the map finds by it, which is the first of that name,
in order. All files and all failures are listed in order, and there are groups if and only if there is
a classification. -/
theorem Report.toJson_faithful (r : Report) (classification : Option Classification) :
    let value := r.toJson classification
    ∃ classes, value.get? "classes" = some (.object classes) ∧
      (classes.map (·.1)).Nodup ∧
      (∀ name, name ∈ classes.map (·.1) ↔ ∃ c ∈ r.map.classes, c.name = name) ∧
      classes.length = r.map.classCount ∧
      (∀ name, name.toList.head? ≠ some '\\' →
        r.map.class? name = r.map.classes.find? (·.name == name) ∧
        (Json.object classes).listed? edge? name = (r.map.class? name).map (·.edges)) ∧
      value.listed? Json.string? "files" = some (r.map.files.map (·.path.text)) ∧
      value.listed? fault? "failures" = some (r.failures.map fun e => (e.path.text, e.message)) ∧
      value.get? "groups" = classification.map (·.toJson) := by
  intro value
  have files : value.get? "files" =
      some (.array (r.map.files.map fun file => .string file.path.text)) := by
    cases classification <;> rfl
  have paths (file : FileRecord) : (Json.string file.path.text).string? = some file.path.text := rfl
  have failures : value.get? "failures" = some (.array (r.failures.map failureJson)) := by
    cases classification <;> rfl
  refine ⟨classMembers r.map, r.get?_classes classification, nodup_keys r.map,
    fun name => mem_keys r.map, length_classMembers r.map, ?_,
    Json.listed?_of_written paths files,
    Json.listed?_of_written fault?_failureJson failures, ?_⟩
  · intro name unprefixed
    have first := r.map.class?_of_unprefixed unprefixed
    exact ⟨first, by rw [edges_under, first]⟩
  · cases classification <;> rfl

/-- A class that is declared again in its own file and in another one. -/
theorem Report.toJson_faithful_redeclared :
    let first : FileRecord :=
      { path := ⟨"A.php"⟩, classes := [CodeMap.sampleHeir "A" "B", CodeMap.sampleHeir "A" "C"] }
    let second : FileRecord :=
      { path := ⟨"B.php"⟩, classes := [CodeMap.sampleHeir "A" "D", CodeMap.sampleHeir "B" "A"] }
    let r : Report := { map := ⟨[first, second]⟩, failures := [.malformed ⟨"C.php"⟩ 3] }
    "A".toList.head? ≠ some '\\' ∧
      ∃ classes, (r.toJson none).get? "classes" = some (.object classes) ∧ classes.length = 2 ∧
        (Json.object classes).listed? edge? "A" = some [⟨"B", .inherits, 1⟩] ∧
        (r.toJson none).listed? Json.string? "files" = some ["A.php", "B.php"] ∧
        (r.toJson none).listed? fault? "failures" =
          some [("C.php", "Syntax error in C.php on line 3")] := by
  intro first second r
  have unprefixed : "A".toList.head? ≠ some '\\' := by decide
  have count : r.map.classCount = 2 := r.map.classCount_eq.trans (by decide)
  have found : r.map.class? "A" = some (CodeMap.sampleHeir "A" "B") :=
    (r.map.class?_eq_find? "A").trans (by decide)
  obtain ⟨classes, told, -, -, length, edges, files, failures, -⟩ := r.toJson_faithful none
  refine ⟨unprefixed, classes, told, length.trans count, ?_, files, failures⟩
  rw [(edges "A" unprefixed).2, found]
  rfl

end ClassGraph
