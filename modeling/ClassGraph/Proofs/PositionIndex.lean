import Mathlib.Data.List.Dedup
import ClassGraph.Map.Basic

namespace ClassGraph

namespace PositionIndex

theorem getElem?_addClasses (index : PositionIndex) (file place : Nat) (classes : List ClassRecord)
    (name : String) : (index.addClasses file place classes)[name]? =
      index[name]?.or ((classes.findIdx? (·.name == name)).map fun i => ⟨file, place + i⟩) := by
  induction classes generalizing index place with
  | nil => simp [addClasses]
  | cons c rest ih =>
    rw [addClasses, ih, Std.HashMap.getElem?_insertIfNew, List.findIdx?_cons]
    by_cases same : c.name = name
    · subst same
      by_cases known : c.name ∈ index
      · simp [known]
      · simp [known]
    · have later (i : Nat) : place + 1 + i = place + (i + 1) := by omega
      simp [same, Option.map_map, Function.comp_def, later]

/-- The first file that has a class of a name gives the position. -/
theorem getElem?_addFiles (index : PositionIndex) (number : Nat) (files : List FileRecord)
    (name : String) : (index.addFiles number files)[name]? =
      index[name]?.or ((files.zipIdx number).findSome? fun entry =>
        (entry.1.classes.findIdx? (·.name == name)).map fun i => ⟨entry.2, i⟩) := by
  induction files generalizing index number with
  | nil => simp [addFiles]
  | cons file rest ih =>
    rw [addFiles, ih, getElem?_addClasses, List.zipIdx_cons, List.findSome?_cons, Option.or_assoc]
    cases file.classes.findIdx? (·.name == name) with
    | none => rfl
    | some i => simp

theorem mem_addClasses {index : PositionIndex} {file place : Nat} {classes : List ClassRecord}
    {name : String} :
    name ∈ index.addClasses file place classes ↔ name ∈ index ∨ name ∈ classes.map (·.name) := by
  induction classes generalizing index place with
  | nil => simp [addClasses]
  | cons c rest ih =>
    rw [addClasses, ih, Std.HashMap.mem_insertIfNew, beq_iff_eq, List.map_cons, List.mem_cons,
      eq_comm, or_assoc, or_left_comm]

theorem mem_addFiles {index : PositionIndex} {number : Nat} {files : List FileRecord}
    {name : String} : name ∈ index.addFiles number files ↔
      name ∈ index ∨ name ∈ files.flatMap fun file => file.classes.map (·.name) := by
  induction files generalizing index number with
  | nil => simp [addFiles]
  | cons file rest ih =>
    rw [addFiles, ih, mem_addClasses, List.flatMap_cons, List.mem_append, or_assoc]

end PositionIndex

namespace CodeMap

/-- What stands at the position of a name in the rest of the files is the first class of the name
there. -/
theorem bind_at?_findSome? (m : CodeMap) (name : String) {front rest : List FileRecord}
    (split : m.files = front ++ rest) :
    ((rest.zipIdx front.length).findSome? fun entry =>
      (entry.1.classes.findIdx? (·.name == name)).map fun i => ⟨entry.2, i⟩).bind m.at? =
      rest.findSome? fun file => (file.classes.find? (·.name == name)).map (file, ·) := by
  induction rest generalizing front with
  | nil => rfl
  | cons file rest ih =>
    rw [List.zipIdx_cons, List.findSome?_cons, List.findSome?_cons,
      List.find?_eq_bind_findIdx?_getElem?]
    cases found : file.classes.findIdx? (·.name == name) with
    | none =>
      have split' : m.files = (front ++ [file]) ++ rest := by rw [split, List.append_assoc]; rfl
      have behind := ih split'
      rw [List.length_append, List.length_singleton] at behind
      exact behind
    | some i =>
      have inside : i < file.classes.length := (List.findIdx?_eq_some_iff_findIdx_eq.mp found).1
      simp [at?, split, inside]

/-- The index has the first class of every name. -/
theorem find?_eq (m : CodeMap) (name : String) :
    m.find? name = m.entries.find? (·.2.name == dropLeadingBackslashes name) := by
  have positions := PositionIndex.getElem?_addFiles {} 0 m.files (dropLeadingBackslashes name)
  rw [Std.HashMap.getElem?_empty, Option.none_or] at positions
  rw [entries, List.find?_flatMap]
  simp only [List.find?_map]
  refine Eq.trans ?_ (m.bind_at?_findSome? (dropLeadingBackslashes name) (List.nil_append _).symm)
  exact congrArg (Option.bind · m.at?) positions

theorem classes_eq_map_entries (m : CodeMap) : m.classes = m.entries.map (·.2) := by
  rw [classes, entries, List.map_flatMap]
  refine List.flatMap_congr fun file _ => ?_
  rw [List.map_map]
  exact (List.map_id _).symm

theorem class?_eq_find? (m : CodeMap) (name : String) :
    m.class? name = m.classes.find? (·.name == dropLeadingBackslashes name) := by
  rw [class?, find?_eq, classes_eq_map_entries, List.find?_map]
  rfl

theorem mem_index {m : CodeMap} {name : String} :
    name ∈ m.index ↔ name ∈ m.classes.map (·.name) := by
  rw [index, PositionIndex.mem_addFiles, classes, List.map_flatMap]
  simp

/-- The index has one position for each name. -/
theorem classCount_eq (m : CodeMap) :
    m.classCount = (m.classes.map (·.name)).dedup.length := by
  rw [classCount, ← Std.HashMap.length_keys]
  refine ((List.perm_ext_iff_of_nodup Std.HashMap.nodup_keys (List.nodup_dedup _)).mpr ?_).length_eq
  intro name
  rw [Std.HashMap.mem_keys, List.mem_dedup, mem_index]

end CodeMap

end ClassGraph
