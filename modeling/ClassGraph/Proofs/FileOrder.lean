import ClassGraph.Proofs.ExactGroups
import ClassGraph.Proofs.FaithfulCache
import ClassGraph.Proofs.LabelledLinks
import ClassGraph.Report.Basic

namespace ClassGraph

namespace FileRecord

/-- Files that differ have no class name in common; within a file a name may be repeated. -/
def Apart (files : List FileRecord) : Prop :=
  ∀ a ∈ files, ∀ b ∈ files, a.same b = false →
    ∀ c ∈ a.classes, ∀ d ∈ b.classes, c.name ≠ d.name

theorem name_of_class? {file : FileRecord} {name : String} {c : ClassRecord}
    (found : file.class? name = some c) : c ∈ file.classes ∧ c.name = name := by
  have tested := List.find?_some found
  exact ⟨List.mem_of_find?_eq_some found, beq_iff_eq.mp tested⟩

/-- All files that have a class of a name have the same first one. -/
theorem Apart.class?_eq {files : List FileRecord} (apart : Apart files) {a b : FileRecord}
    (isFile : a ∈ files) (isFile' : b ∈ files) {name : String} {c d : ClassRecord}
    (found : a.class? name = some c) (found' : b.class? name = some d) : c = d := by
  cases same : a.same b with
  | true =>
    obtain ⟨-, classes, -⟩ := same_iff.mp same
    rw [class?, classes] at found
    exact Option.some.inj (found.symm.trans found')
  | false =>
    obtain ⟨member, named⟩ := name_of_class? found
    obtain ⟨member', named'⟩ := name_of_class? found'
    exact absurd (named.trans named'.symm) (apart a isFile b isFile' same c member d member')

end FileRecord

/-- What all members of a list that answer agree on is found in every order of the list. -/
theorem findSome?_perm {α β : Type} {f : α → Option β} {l l' : List α}
    (agree : ∀ a ∈ l, ∀ b ∈ l, ∀ x y, f a = some x → f b = some y → x = y) (perm : l.Perm l') :
    l.findSome? f = l'.findSome? f := by
  cases found : l.findSome? f with
  | none =>
    symm
    refine List.findSome?_eq_none_iff.mpr fun a member => ?_
    exact List.findSome?_eq_none_iff.mp found a (perm.mem_iff.mpr member)
  | some x =>
    obtain ⟨a, member, told⟩ := List.exists_of_findSome?_eq_some found
    cases found' : l'.findSome? f with
    | none =>
      have silent := List.findSome?_eq_none_iff.mp found' a (perm.mem_iff.mp member)
      cases told.symm.trans silent
    | some y =>
      obtain ⟨b, member', told'⟩ := List.exists_of_findSome?_eq_some found'
      rw [agree a member b (perm.mem_iff.mpr member') x y told told']

namespace Registry

theorem combined_congr {μ : Type → Type} [Monad μ] {f g : Config → μ Bool} {clauses : Config.Clauses}
    (same : ∀ inner ∈ clauses.all, f inner = g inner) : combined f clauses = combined g clauses := by
  have must : (fun a : { a // a ∈ clauses.must } => f a.1) = fun a => g a.1 :=
    funext fun a => same a.1 (List.mem_append_left _ a.2)
  have mustNot : (fun a : { a // a ∈ clauses.mustNot } => f a.1) = fun a => g a.1 :=
    funext fun a => same a.1 (List.mem_append_right _ a.2)
  rw [combined, combined, ← allM_attach f, ← anyM_attach f, must, mustNot, allM_attach, anyM_attach]

/-- Of a map collectors see only the ancestors. -/
theorem satisfies_congr (engine : PatternEngine) (registry : Registry) {m m' : CodeMap}
    (same : m.ancestors = m'.ancestors) (subject : Subject) (config : Config) :
    registry.satisfies engine config m subject = registry.satisfies engine config m' subject := by
  induction config using Config.induction with
  | step config ih =>
    rw [satisfies_eq, satisfies_eq, same]
    refine congrArg _ (funext fun collector => ?_)
    cases collector with
    | combination =>
      cases read : config.clauses with
      | error e => simp only [bind, Except.bind]
      | ok clauses =>
        simp only [bind, Except.bind]
        exact combined_congr (ih clauses read)
    | _ => dsimp only

end Registry

namespace GroupDefinition

/-- Maps with the same classes, in whatever order, and the same ancestors have the same groups. -/
theorem answer_members_congr (engine : PatternEngine) (registry : Registry) {m m' : CodeMap}
    (classes : ∀ entry, entry ∈ m.entries ↔ entry ∈ m'.entries) (same : m.ancestors = m'.ancestors)
    (configs : List Config) :
    (members engine registry m configs).answer = (members engine registry m' configs).answer := by
  rcases members_cases engine registry m configs with
    ⟨e, fault, failed⟩ | ⟨faultless, names, told, selected⟩
  · rcases members_cases engine registry m' configs with ⟨e', fault', failed'⟩ | ⟨faultless', -⟩
    · cases fault.symm.trans fault'
      rw [failed, failed']
    · cases fault.symm.trans faultless'
  · rcases members_cases engine registry m' configs with
      ⟨e', fault', -⟩ | ⟨-, names', told', selected'⟩
    · cases faultless.symm.trans fault'
    · rw [told, told', Text.inOrder_congr_mem fun name => ?_]
      rw [selected, selected', Selects, Selects]
      simp only [classes, registry.satisfies_congr engine same]

end GroupDefinition

namespace CodeMap

variable {files files' : List FileRecord}

theorem perm_classes (perm : files.Perm files') :
    (CodeMap.mk files).classes.Perm (CodeMap.mk files').classes :=
  perm.flatMap_right _

theorem perm_entries (perm : files.Perm files') :
    (CodeMap.mk files).entries.Perm (CodeMap.mk files').entries :=
  perm.flatMap_right _

theorem classCount_perm (perm : files.Perm files') :
    (CodeMap.mk files).classCount = (CodeMap.mk files').classCount := by
  have names := (perm_classes perm).map (·.name)
  rw [classCount_eq, classCount_eq, names.dedup.length_eq]

section Apart

variable (apart : FileRecord.Apart files) (perm : files.Perm files')
include apart perm

theorem find?_classes_perm (name : String) :
    (CodeMap.mk files).classes.find? (·.name == name) =
      (CodeMap.mk files').classes.find? (·.name == name) := by
  rw [classes, classes, List.find?_flatMap, List.find?_flatMap]
  exact findSome?_perm (fun a isFile b isFile' c d => apart.class?_eq isFile isFile') perm

theorem class?_perm (name : String) :
    (CodeMap.mk files).class? name = (CodeMap.mk files').class? name := by
  rw [class?_eq_find?, class?_eq_find?, find?_classes_perm apart perm]

theorem ancestors_perm : (CodeMap.mk files).ancestors = (CodeMap.mk files').ancestors := by
  have next : (CodeMap.mk files).nextNames (CodeMap.mk files).index =
      (CodeMap.mk files').nextNames (CodeMap.mk files').index := by
    funext name
    rw [nextNames_eq, nextNames_eq, class?_perm apart perm]
  have edges := ((perm_classes perm).flatMap_right ancestralTargets).length_eq
  funext name
  simp only [ancestors, next, edges]

theorem classification_perm (engine : PatternEngine) (registry : Registry)
    (definitions : List GroupDefinition) :
    Classification.ofDefinitions engine registry (CodeMap.mk files) definitions =
      Classification.ofDefinitions engine registry (CodeMap.mk files') definitions := by
  have answers := GroupDefinition.answer_members_congr engine registry
    (fun _ => (perm_entries perm).mem_iff) (ancestors_perm apart perm)
  simp only [Classification.ofDefinitions, Classification.result_evaluating, answers]

theorem classMembers_perm : Json.sortedObject ((CodeMap.mk files).classes.map Report.classMember) =
    Json.sortedObject ((CodeMap.mk files').classes.map Report.classMember) := by
  refine congrArg Json.object (Text.inOrder_congr fun name => ?_)
  rw [List.find?_map, List.find?_map]
  exact congrArg _ (find?_classes_perm apart perm name)

end Apart

end CodeMap

theorem Report.get?_classes (r : Report) (classification : Option Classification) :
    (r.toJson classification).get? "classes" =
      some (.sortedObject (r.map.classes.map classMember)) := by
  cases classification <;> rfl

namespace CodeMap

/-- If files that differ share no class name, their order does not show. Every name has the same first
class and the same ancestors in the same order, there are as many names, every classification has the
same groups and errors, a report has the same object of classes, and the graph has the same links
between labels, each as often. -/
theorem file_order_hidden {files files' : List FileRecord} (apart : FileRecord.Apart files)
    (perm : files.Perm files') :
    let m := CodeMap.mk files
    let m' := CodeMap.mk files'
    (∀ name, m.class? name = m'.class? name ∧ m.ancestors name = m'.ancestors name) ∧
    m.classCount = m'.classCount ∧
    (∀ engine registry definitions, Classification.ofDefinitions engine registry m definitions =
      Classification.ofDefinitions engine registry m' definitions) ∧
    (∀ failures failures' classification classification', ∃ members,
      ((Report.mk m failures).toJson classification).get? "classes" = some (.object members) ∧
      ((Report.mk m' failures').toJson classification').get? "classes" = some (.object members)) ∧
    m.graph.arrows.Perm m'.graph.arrows := by
  intro m m'
  refine ⟨fun name => ⟨class?_perm apart perm name, congrFun (ancestors_perm apart perm) name⟩,
    classCount_perm perm, classification_perm apart perm, ?_, ?_⟩
  · intro failures failures' classification classification'
    refine ⟨_, Report.get?_classes ⟨m, failures⟩ classification, ?_⟩
    rw [Report.get?_classes, ← classMembers_perm apart perm]
    rfl
  · rw [m.arrows_graph.2, m'.arrows_graph.2]
    exact (perm_classes perm).flatMap_right _

/-- A file that declares a class twice, and one that leads back to it. -/
theorem file_order_hidden_repeated :
    let first : FileRecord :=
      { path := ⟨"A.php"⟩, classes := [sampleHeir "A" "B", sampleHeir "A" "C"] }
    let second : FileRecord := { path := ⟨"B.php"⟩, classes := [sampleHeir "B" "A"] }
    FileRecord.Apart [first, second] ∧
      (CodeMap.mk [first, second]).class? "A" = (CodeMap.mk [second, first]).class? "A" ∧
      (CodeMap.mk [first, second]).ancestors "A" = (CodeMap.mk [second, first]).ancestors "A" ∧
      (CodeMap.mk [first, second]).graph.arrows.Perm (CodeMap.mk [second, first]).graph.arrows := by
  intro first second
  have names (c : ClassRecord) (member : c ∈ first.classes) : c.name = "A" := by
    rcases List.mem_cons.mp member with rfl | later
    · rfl
    · rw [List.mem_singleton.mp later]
      rfl
  have names' (c : ClassRecord) (member : c ∈ second.classes) : c.name = "B" := by
    rw [List.mem_singleton.mp member]
    rfl
  have apart : FileRecord.Apart [first, second] := by
    intro a isFile b isFile' differs c member d member'
    rcases List.mem_pair.mp isFile with rfl | rfl <;> rcases List.mem_pair.mp isFile' with rfl | rfl
    · cases (FileRecord.same_refl first).symm.trans differs
    · rw [names c member, names' d member']
      decide
    · rw [names' c member, names d member']
      decide
    · cases (FileRecord.same_refl second).symm.trans differs
  obtain ⟨found, -, -, -, linked⟩ := file_order_hidden apart (.swap second first [])
  exact ⟨apart, (found "A").1, (found "A").2, linked⟩

end CodeMap

end ClassGraph
