import ClassGraph.Proofs.Places
import ClassGraph.Syntax.Source

namespace ClassGraph

namespace Tree

/-- Every node is flagged just if it, or a node below it, is faulty. -/
def FlagsFaults (t : SyntaxTree) : Prop :=
  t.Everywhere fun u => u.value.hasFault = true ↔ ∃ n ∈ u.preorder, n.faulty = true

instance (t : SyntaxTree) : Decidable t.FlagsFaults :=
  inferInstanceAs (Decidable (t.Everywhere _))

theorem FlagsFaults.hasFault_eq {t : SyntaxTree} (flagged : t.FlagsFaults) :
    t.value.hasFault = (t.preorder.find? (·.faulty)).isSome := by
  rw [Bool.eq_iff_iff, List.find?_isSome]
  exact Everywhere.here flagged

/-- Among several trees the first flagged one has the first faulty node, and answers for it. -/
theorem faultLineAmong_eq {ts : List SyntaxTree} (flagged : ∀ t ∈ ts, t.FlagsFaults)
    (answers : ∀ t ∈ ts, ∀ n, t.preorder.find? (·.faulty) = some n → t.faultLine = n.line) :
    faultLineAmong ts = ((preorderAll ts).find? (·.faulty)).map (·.line) := by
  induction ts with
  | nil => rfl
  | cons t ts ih =>
    have later := ih (fun u member => flagged u (List.mem_cons_of_mem t member))
      fun u member => answers u (List.mem_cons_of_mem t member)
    rw [faultLineAmong, preorderAll, List.find?_append, (flagged t List.mem_cons_self).hasFault_eq]
    cases first : t.preorder.find? (·.faulty) with
    | none => simpa only [Option.isSome_none, Bool.false_eq_true, if_false, Option.none_or] using later
    | some n =>
      have line := answers t List.mem_cons_self n first
      simp only [Option.isSome_some, if_true, Option.some_or, Option.map_some, line]

/-- The line that is told is that of the first faulty node in preorder. -/
theorem faultLine_eq {t : SyntaxTree} (flagged : t.FlagsFaults) {n : Node}
    (first : t.preorder.find? (·.faulty) = some n) : t.faultLine = n.line := by
  induction t using Tree.induction generalizing n with
  | node value children ih =>
    rw [preorder] at first
    rw [faultLine]
    by_cases faulty : value.faulty = true
    · rw [List.find?_cons_of_pos faulty] at first
      rw [if_pos faulty, Option.some.inj first]
    · rw [List.find?_cons_of_neg faulty] at first
      have inside : ∀ child ∈ children, child.FlagsFaults :=
        fun child member => Everywhere.child flagged member
      have among := faultLineAmong_eq inside fun child member n => ih child member (inside child member)
      rw [if_neg faulty, among, first]
      rfl

end Tree

/-- A source whose tree has right flags is refused just if the tree has a faulty node. The line that
is told is that of the first faulty node in preorder, and a source without one is taken as it is. -/
theorem Grammar.parse_tells_first_fault (grammar : Grammar) (path : Pathname) (bytes : ByteArray)
    {tree : SyntaxTree} (grown : grammar bytes = some tree) (flagged : tree.FlagsFaults) :
    ((∃ line, grammar.parse path bytes = .error (.malformed path line)) ↔
      ∃ n ∈ tree.preorder, n.faulty = true) ∧
    (∀ n, tree.preorder.find? (·.faulty) = some n →
      grammar.parse path bytes = .error (.malformed path n.line)) ∧
    (tree.preorder.find? (·.faulty) = none → grammar.parse path bytes = .ok ⟨path, bytes, tree⟩) := by
  have refused : ∀ n, tree.preorder.find? (·.faulty) = some n →
      grammar.parse path bytes = .error (.malformed path n.line) := by
    intro n first
    have line := Tree.faultLine_eq flagged first
    simp only [parse, grown, flagged.hasFault_eq, first, Option.isSome_some, if_true, line]
  have taken : tree.preorder.find? (·.faulty) = none →
      grammar.parse path bytes = .ok ⟨path, bytes, tree⟩ := by
    intro clean
    simp only [parse, grown, flagged.hasFault_eq, clean, Option.isSome_none, Bool.false_eq_true,
      if_false]
  refine ⟨⟨?_, ?_⟩, refused, taken⟩
  · rintro ⟨line, malformed⟩
    cases first : tree.preorder.find? (·.faulty) with
    | none =>
      rw [taken first] at malformed
      cases malformed
    | some n => exact ⟨n, List.mem_of_find?_eq_some first, List.find?_some first⟩
  · rintro ⟨n, inTree, faulty⟩
    obtain ⟨m, first⟩ := Option.isSome_iff_exists.mp (List.find?_isSome.mpr ⟨n, inTree, faulty⟩)
    exact ⟨m.line, refused m first⟩

namespace Tree

/-- A class with a broken member in its body, and broken text behind the class: three faulty nodes, of
which the first holds the second, below nodes that are only flagged. -/
def sampleFaults : SyntaxTree :=
  .node { kind := .other "program", hasFault := true, stop := 20 }
    [.node { kind := .other "php_tag", stop := 5 } [],
     .node { kind := .declaration .plain, hasFault := true, start := 6, stop := 14, row := 1 }
       [.node { kind := .other "class", named := false, start := 6, stop := 11, row := 1 } [],
        .node { kind := .other "declaration_list", field := some .body, hasFault := true,
                start := 12, stop := 14, row := 2 }
          [.node { kind := .other "ERROR", faulty := true, hasFault := true, start := 13, stop := 14,
                   row := 3 }
            [.node { kind := .name .simple, faulty := true, hasFault := true, start := 14, stop := 14,
                     row := 4 } []]]],
     .node { kind := .other "ERROR", faulty := true, hasFault := true, start := 15, stop := 20,
             row := 5 } []]

end Tree

theorem Grammar.parse_tells_first_fault_sampleFaults :
    let grammar : Grammar := fun _ => some Tree.sampleFaults
    Tree.sampleFaults.FlagsFaults ∧
      (Tree.sampleFaults.preorder.filter (·.faulty)).map (·.line) = [4, 5, 6] ∧
      grammar.parse ⟨"A.php"⟩ ⟨#[]⟩ = .error (.malformed ⟨"A.php"⟩ 4) := by
  intro grammar
  have flagged : Tree.sampleFaults.FlagsFaults := by decide +kernel
  obtain ⟨-, refused, -⟩ := grammar.parse_tells_first_fault ⟨"A.php"⟩ ⟨#[]⟩ rfl flagged
  exact ⟨flagged, by decide +kernel, refused _ rfl⟩

end ClassGraph
