import Mathlib.Data.List.Perm.Basic
import ClassGraph.Proofs.Annotation

namespace ClassGraph

namespace Tree

/-- The annotated places whose names the node at a place reads. -/
def readFrom (t : ResolvedTree) (q : Place) : List Place :=
  (((t.at? q).elim [] reads).map (q ++ ·)).filter (· ∈ t.annotated)

theorem mem_readFrom {t : ResolvedTree} {q x : Place} : x ∈ t.readFrom q ↔
    x ∈ t.annotated ∧ ∃ u r, t.at? q = some u ∧ r ∈ u.reads ∧ x = q ++ r := by
  rw [readFrom, List.mem_filter, List.mem_map, decide_eq_true_iff, and_comm]
  cases here : t.at? q with
  | none => simp
  | some u => simp [eq_comm]

theorem nodup_readFrom (t : ResolvedTree) (q : Place) : (t.readFrom q).Nodup := by
  refine List.Nodup.filter _ (List.Nodup.map (List.append_right_injective q) ?_)
  cases t.at? q with
  | none => exact List.nodup_nil
  | some u => exact nodup_reads u

theorem flatMap_filter {α β : Type} {p : α → Bool} {f : α → List β} {l : List α}
    (rest : ∀ a ∈ l, p a = false → f a = []) : (l.filter p).flatMap f = l.flatMap f := by
  induction l with
  | nil => rfl
  | cons a l ih =>
    have later := ih fun b member => rest b (List.mem_cons_of_mem a member)
    rw [List.filter_cons, List.flatMap_cons]
    split
    · rw [List.flatMap_cons, later]
    · rename_i failed
      rw [rest a List.mem_cons_self (Bool.eq_false_iff.mpr failed), later, List.nil_append]

theorem edgesAs_unnamed {u : ResolvedTree} (unnamed : u.value.names = []) (kind : Option EdgeKind) :
    edgesAs kind u = [] := by
  cases kind with
  | none => rfl
  | some kind => rw [edgesAs, Option.elim_some, unnamed, List.map_nil]

theorem edgesOf_unannotated {t : ResolvedTree} {x : Place} (unannotated : x ∉ t.annotated) :
    t.edgesOf x = [] := by
  rw [edgesOf]
  cases here : t.at? x with
  | none => rfl
  | some u =>
    by_cases named : u.value.names = []
    · exact edgesAs_unnamed named _
    · exact absurd (mem_annotated.mpr ⟨u, here, named⟩) unannotated

section Resolved

variable {t : SyntaxTree} {q x : Place}

theorem declaredAt_of_annotated (isAnnotated : x ∈ t.resolve.annotated) :
    t.resolve.declaredAt x = none := by
  obtain ⟨u, here, named⟩ := mem_annotated.mp isAnnotated
  rw [declaredAt, here, Option.bind_some]
  refine undeclared_of_kind here ?_
  rcases read_of_names here named with isType | ⟨isName, -⟩
  · cases kind : u.value.kind with
    | declaration form =>
      rw [kind] at isType
      cases isType
    | _ => rfl
  · cases kind : u.value.kind with
    | declaration form =>
      rw [Node.isName, kind] at isName
      cases isName
    | _ => rfl

/-- Every annotation is read somewhere. -/
theorem exists_readFrom (isAnnotated : x ∈ t.resolve.annotated) : ∃ q, x ∈ t.resolve.readFrom q := by
  obtain ⟨u, here, named⟩ := mem_annotated.mp isAnnotated
  rcases read_of_names here named with isType | ⟨-, q, i, parent, rfl, above, read⟩
  · exact ⟨x, mem_readFrom.mpr
      ⟨isAnnotated, u, [], here, nil_mem_reads.mpr isType, (List.append_nil x).symm⟩⟩
  · exact ⟨q, mem_readFrom.mpr ⟨isAnnotated, parent, [i], above, read, rfl⟩⟩

/-- An annotation is read in the class that owns it. -/
theorem owner?_of_readFrom (read : x ∈ t.resolve.readFrom q) :
    t.resolve.owner? x = t.resolve.owner? q := by
  obtain ⟨isAnnotated, u, r, -, inReads, rfl⟩ := mem_readFrom.mp read
  rcases read_shape inReads with rfl | ⟨i, rfl⟩
  · rw [List.append_nil]
  · rw [owner?_concat, declaredAt_of_annotated isAnnotated]
    rfl

theorem not_type_of_read (apart : t.KeepsTypesApart) {u v : ResolvedTree} {i : Nat}
    (here : t.resolve.at? q = some u) (read : [i] ∈ u.reads) (below : u.children[i]? = some v) :
    v.value.kind.isType = false := by
  rcases singleton_mem_reads.mp read with ⟨-, v', below', listed⟩ | part
  · rw [below] at below'
    cases below'
    rw [Node.isListedName, Bool.and_eq_true, Node.isName] at listed
    cases kind : v.value.kind with
    | typeExpression form =>
      rw [kind] at listed
      cases listed.2
    | _ => rfl
  · obtain ⟨source, s, mark, place, rfl⟩ := at?_resolve here
    obtain ⟨child, at_i, rfl⟩ := child_resolveMarked below
    rw [nodes_resolveMarked, toNode_resolveMarked] at part
    rw [toNode_resolveMarked]
    exact apart q (mem_places.mpr (place ▸ rfl)) source place i part child at_i

/-- An annotation is read at one place only. -/
theorem readAt_of_readFrom (apart : t.KeepsTypesApart) (read : x ∈ t.resolve.readFrom q) :
    t.resolve.readAt x = q := by
  obtain ⟨isAnnotated, u, r, here, inReads, rfl⟩ := mem_readFrom.mp read
  rcases read_shape inReads with rfl | ⟨i, rfl⟩
  · rw [readAt, List.append_nil, here, Option.any_some, if_pos (nil_mem_reads.mp inReads)]
  · obtain ⟨v, below, -⟩ := mem_annotated.mp isAnnotated
    have inParent := below
    rw [at?_append, here, Option.bind_some, at?_singleton] at inParent
    have noType := not_type_of_read apart here inReads inParent
    rw [readAt, below, if_neg (by simp [noType]), List.dropLast_concat]

/-- What the standard rules record at a node are the annotations it reads. -/
theorem edgesAt_eq_readFrom (apart : t.KeepsTypesApart) {u : ResolvedTree}
    (here : t.resolve.at? q = some u) :
    Rule.edgesAt Rule.standard u = (t.resolve.readFrom q).flatMap t.resolve.edgesOf := by
  rw [edgesAt_standard, readFrom, here, Option.elim_some, flatMap_filter, List.flatMap_map]
  · refine List.flatMap_congr fun r inReads => ?_
    have place : t.resolve.at? (q ++ r) = u.at? r := by rw [at?_append, here, Option.bind_some]
    rw [edgesOf, place]
    cases below : u.at? r with
    | none => rfl
    | some v =>
      by_cases named : v.value.names = []
      · rw [Option.elim_some, Option.elim_some, edgesAs_unnamed named, edgesAs_unnamed named]
      · have isAnnotated := mem_annotated.mpr ⟨v, place.trans below, named⟩
        have read := mem_readFrom.mpr ⟨isAnnotated, u, r, here, inReads, rfl⟩
        rw [edgeKindAt?, readAt_of_readFrom apart read, here, Option.bind_some]
  · intro x _ unannotated
    exact edgesOf_unannotated (of_decide_eq_false unannotated)

theorem gather_eq_readings (apart : t.KeepsTypesApart) (owner : Option Place) :
    t.resolve.gather (Rule.edgesAt Rule.standard) owner =
      ((t.resolve.owned owner).flatMap t.resolve.readFrom).flatMap t.resolve.edgesOf := by
  rw [gather, List.flatMap_assoc]
  refine List.flatMap_congr fun q inOwned => ?_
  obtain ⟨u, here⟩ := Option.isSome_iff_exists.mp (mem_places.mp (List.mem_filter.mp inOwned).1)
  rw [here, Option.elim_some]
  exact edgesAt_eq_readFrom apart here

/-- What is read at the nodes that a class owns are the annotations that it owns. -/
theorem readings_perm (apart : t.KeepsTypesApart) (owner : Option Place) :
    ((t.resolve.owned owner).flatMap t.resolve.readFrom).Perm
      (t.resolve.annotated.filter fun x => t.resolve.owner? x = owner) := by
  have nodup : ((t.resolve.owned owner).flatMap t.resolve.readFrom).Nodup := by
    refine List.nodup_flatMap.mpr ⟨fun q _ => nodup_readFrom _ q, ?_⟩
    refine (t.resolve.nodup_places.filter _).imp ?_
    intro q q' different x read read'
    exact different ((readAt_of_readFrom apart read).symm.trans (readAt_of_readFrom apart read'))
  have nodup' : (t.resolve.annotated.filter fun x => t.resolve.owner? x = owner).Nodup :=
    (t.resolve.nodup_places.filter _).filter _
  refine (List.perm_ext_iff_of_nodup nodup nodup').mpr fun x => ?_
  rw [List.mem_flatMap, List.mem_filter, decide_eq_true_iff]
  constructor
  · rintro ⟨q, inOwned, read⟩
    refine ⟨(mem_readFrom.mp read).1, ?_⟩
    rw [owner?_of_readFrom read]
    exact of_decide_eq_true (List.mem_filter.mp inOwned).2
  · rintro ⟨isAnnotated, owned⟩
    obtain ⟨q, read⟩ := exists_readFrom isAnnotated
    obtain ⟨-, u, r, here, -⟩ := mem_readFrom.mp read
    refine ⟨q, List.mem_filter.mpr ⟨mem_places.mpr (here ▸ rfl), ?_⟩, read⟩
    rw [decide_eq_true_iff, ← owner?_of_readFrom read]
    exact owned

theorem edgesOf_annotated (apart : t.KeepsTypesApart) (isAnnotated : x ∈ t.resolve.annotated) :
    ∃ u kind, t.resolve.at? x = some u ∧ t.resolve.edgeKindAt? x = some kind ∧
      t.resolve.edgesOf x = u.value.names.map fun target => ⟨target, kind, u.value.line⟩ := by
  obtain ⟨u, here, -⟩ := mem_annotated.mp isAnnotated
  obtain ⟨q, read⟩ := exists_readFrom isAnnotated
  obtain ⟨-, reader, r, above, inReads, -⟩ := mem_readFrom.mp read
  obtain ⟨kind, known⟩ := edgeKind?_of_read inReads
  have kindAt : t.resolve.edgeKindAt? x = some kind := by
    rw [edgeKindAt?, readAt_of_readFrom apart read, above, Option.bind_some, known]
  exact ⟨u, kind, here, kindAt, by rw [edgesOf, here, kindAt]; rfl⟩

end Resolved

end Tree

/-- Where no expression reads a type as a class, the edges of a class, imports aside, are the names
of the annotated nodes that it owns, node by node, each node once and with edges of one kind. Nodes
inside a type or an import and what a clause does not list are not annotated. -/
theorem FileRecord.edges_of_annotations (path : Pathname) (countsImports : Bool) {t : SyntaxTree}
    (apart : t.KeepsTypesApart) :
    let file := FileRecord.ofTree Rule.standard path countsImports t
    (∀ x ∈ t.resolve.annotated, ∃ u kind, t.resolve.at? x = some u ∧
      t.resolve.edgeKindAt? x = some kind ∧
      t.resolve.edgesOf x = u.value.names.map fun target => ⟨target, kind, u.value.line⟩) ∧
    file.classes.length = t.resolve.declaring.length ∧
    (∀ (i : Nat) p name, t.resolve.declaring[i]? = some (p, name) →
      ∃ (c : ClassRecord) (order : List Place), file.classes[i]? = some c ∧ c.name = name ∧
      order.Perm (t.resolve.annotated.filter fun x => t.resolve.owner? x = some p) ∧
      c.edges.filter (·.kind ≠ .importStatement) = order.flatMap t.resolve.edgesOf) ∧
    ∀ p u q v, t.resolve.at? p = some u → q ≠ [] → t.resolve.at? (p ++ q) = some v →
      v.value.names ≠ [] → u.value.kind.isType = false ∧ u.value.kind ≠ .importDeclaration ∧
        ∀ form, u.value.kind = .clause form → q.length = 1 ∧ v.value.isListedName = true := by
  refine ⟨?_, length_classes _ _ _ _, ?_, ?_⟩
  · intro x isAnnotated
    exact Tree.edgesOf_annotated apart isAnnotated
  · intro i p name declared
    obtain ⟨c, here, sameName, edges⟩ :=
      getElem?_classes Rule.standard path countsImports t declared
    refine ⟨c, _, here, sameName, Tree.readings_perm apart (some p), ?_⟩
    rw [edges, Tree.gather_eq_readings apart]
  · intro p u q v here nonempty below named
    exact Tree.kind_above_names here nonempty below named

theorem FileRecord.edges_of_annotations_sampleClass :
    Tree.sampleClass.KeepsTypesApart ∧
      Tree.sampleClass.resolve.annotated = [[0, 1, 0], [0, 2, 0, 0], [0, 2, 1, 0],
        [0, 2, 1, 1, 0, 0, 0], [0, 2, 1, 1, 0, 1, 0], [0, 2, 1, 2, 0, 0], [0, 2, 1, 2, 2]] ∧
      ∃ (c : ClassRecord) (order : List Place),
        (ofTree Rule.standard ⟨"A.php"⟩ true Tree.sampleClass).classes[0]? = some c ∧ c.name = "A" ∧
          order.Perm (Tree.sampleClass.resolve.annotated.filter
            fun x => Tree.sampleClass.resolve.owner? x = some [0]) ∧
          c.edges.filter (·.kind ≠ .importStatement) =
            order.flatMap Tree.sampleClass.resolve.edgesOf := by
  have apart : Tree.sampleClass.KeepsTypesApart := by decide
  obtain ⟨-, -, classes, -⟩ := edges_of_annotations ⟨"A.php"⟩ true apart
  exact ⟨apart, by decide +kernel, classes 0 [0] "A" (by decide +kernel)⟩

end ClassGraph
