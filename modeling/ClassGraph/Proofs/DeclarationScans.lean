import ClassGraph.Proofs.DeclaredClasses
import ClassGraph.Proofs.LiveRecords
import ClassGraph.Proofs.Transparency

namespace ClassGraph

/-- The declarations of a content under a path; none if it has no sound tree. -/
def Grammar.declarationsOf (grammar : Grammar) (scan : Pathname × ByteArray) : List Declaration :=
  match grammar.parse scan.1 scan.2 with
  | .ok source => source.declarations
  | .error _ => []

theorem Grammar.parse_eq_ok {grammar : Grammar} {path : Pathname} {bytes : ByteArray}
    {source : SourceFile} : grammar.parse path bytes = .ok source ↔
      grammar bytes = some source.tree ∧ source.tree.value.hasFault = false ∧
        source = { path, bytes, tree := source.tree } := by
  unfold Grammar.parse
  constructor
  · intro parsed
    split at parsed
    · cases parsed
    · rename_i tree found
      split at parsed
      · cases parsed
      · rename_i sound
        cases parsed
        exact ⟨found, Bool.eq_false_iff.mpr sound, rfl⟩
  · rintro ⟨found, sound, made⟩
    simp only [found, sound]
    rw [made]
    rfl

theorem SourceFile.source_of_mem {source : SourceFile} {d : Declaration}
    (member : d ∈ source.declarations) : d.source = source := by
  rw [SourceFile.declarations, Tree.declarations_eq_filterMap] at member
  obtain ⟨p, -, found⟩ := List.mem_filterMap.mp member
  obtain ⟨u, -, made⟩ := Option.bind_eq_some_iff.mp found
  unfold Declaration.ofNode? at made
  split at made
  · exact (congrArg Declaration.source (Option.some.inj made)).symm
  · cases made

theorem Grammar.path_of_mem {grammar : Grammar} {scan : Pathname × ByteArray} {d : Declaration}
    (member : d ∈ grammar.declarationsOf scan) : d.source.path = scan.1 := by
  unfold declarationsOf at member
  split at member
  · rename_i source parsed
    rw [SourceFile.source_of_mem member, (parse_eq_ok.mp parsed).2.2]
  · cases member

namespace DeclarationIndex

theorem lookup_filter {entries : List (String × Declaration)} {name other : String}
    (different : other ≠ name) :
    (entries.filter (·.1 != other)).lookup name = entries.lookup name := by
  induction entries with
  | nil => rfl
  | cons entry entries ih =>
    by_cases dropped : entry.1 = other
    · have missed : (name == entry.1) = false := by
        rw [dropped]
        exact beq_false_of_ne different.symm
      rw [List.filter_cons_of_neg (by simp [dropped]), ih, List.lookup_cons, missed]
    · rw [List.filter_cons_of_pos (by simp [dropped]), List.lookup_cons, List.lookup_cons, ih]

theorem get?_enter (index : DeclarationIndex) (d : Declaration) (name : String) :
    (index.enter d).get? name = ([d].find? (·.name == name)).or (index.get? name) := by
  simp only [enter, get?, List.lookup_cons, List.find?_singleton]
  by_cases same : d.name = name
  · simp [same]
  · have missed : (name == d.name) = false := beq_false_of_ne (Ne.symm same)
    rw [missed, if_neg (by simpa using same), Option.none_or, lookup_filter same]

/-- Of several declarations of a name that are entered, the last one is found. -/
theorem get?_foldl (index : DeclarationIndex) (ds : List Declaration) (name : String) :
    (ds.foldl enter index).get? name =
      (ds.reverse.find? (·.name == name)).or (index.get? name) := by
  induction ds generalizing index with
  | nil => rfl
  | cons d ds ih =>
    rw [List.foldl_cons, ih, get?_enter, List.reverse_cons, List.find?_append, Option.or_assoc]

theorem scanned_foldl (index : DeclarationIndex) (ds : List Declaration) :
    (ds.foldl enter index).scanned = index.scanned := by
  induction ds generalizing index with
  | nil => rfl
  | cons d ds ih => exact ih (index.enter d)

/-- How an index follows from the scans that were made, in their order. -/
structure Tells (grammar : Grammar) (scans : List (Pathname × ByteArray))
    (index : DeclarationIndex) : Prop where
  apart : scans.Pairwise fun a b => a.1.same b.1 = false
  scanned : ∀ path, index.hasScanned path = true ↔ ∃ scan ∈ scans, scan.1.same path = true
  get? : ∀ name, index.get? name =
    (scans.flatMap grammar.declarationsOf).reverse.find? (·.name == name)

namespace Tells

variable {grammar : Grammar} {scans : List (Pathname × ByteArray)} {index : DeclarationIndex}

theorem empty (grammar : Grammar) : Tells grammar [] {} :=
  ⟨.nil, by simp [hasScanned], fun _ => rfl⟩

theorem unscanned_iff (tells : index.Tells grammar scans) (path : Pathname) :
    index.hasScanned path = false ↔ ∀ scan ∈ scans, scan.1.same path = false := by
  rw [← Bool.not_eq_true, tells.scanned]
  simp

/-- One scan of a file that was not scanned before. -/
theorem scan (tells : index.Tells grammar scans) {path : Pathname} {bytes : ByteArray}
    {source : SourceFile} (parsed : grammar.parse path bytes = .ok source)
    (new : index.hasScanned path = false) :
    (index.scan source).Tells grammar (scans ++ [(path, bytes)]) where
  apart := by
    refine List.pairwise_append.mpr ⟨tells.apart, List.pairwise_singleton _ _, ?_⟩
    intro scan member last isLast
    rw [List.mem_singleton.mp isLast]
    exact (tells.unscanned_iff path).mp new scan member
  scanned other := by
    have atPath : source.path = path := by rw [(Grammar.parse_eq_ok.mp parsed).2.2]
    have noted : (index.scan source).hasScanned other =
        (other.same path || index.hasScanned other) := by
      rw [DeclarationIndex.scan, hasScanned, List.any_cons, scanned_foldl, atPath, ← hasScanned]
    rw [noted, Bool.or_eq_true, tells.scanned, Pathname.same_comm]
    simp only [List.mem_append, List.mem_singleton, or_and_right, exists_or, exists_eq_left]
    exact or_comm
  get? name := by
    have declared : grammar.declarationsOf (path, bytes) = source.declarations := by
      simp only [Grammar.declarationsOf, parsed]
    rw [List.flatMap_append, List.flatMap_singleton, declared, List.reverse_append,
      List.find?_append, ← tells.get?]
    exact get?_foldl index source.declarations name

/-- A name that some scanned file declares is found, in the last file that declares it. -/
theorem exists_of_mem (tells : index.Tells grammar scans) {scan : Pathname × ByteArray}
    (member : scan ∈ scans) {name : String}
    (declares : name ∈ (grammar.declarationsOf scan).map (·.name)) :
    ∃ d, index.get? name = some d := by
  obtain ⟨d, inScan, named⟩ := List.mem_map.mp declares
  have listed : d ∈ (scans.flatMap grammar.declarationsOf).reverse :=
    List.mem_reverse.mpr (List.mem_flatMap.mpr ⟨scan, member, inScan⟩)
  rw [tells.get?]
  exact Option.isSome_iff_exists.mp (List.find?_isSome.mpr ⟨d, listed, beq_iff_eq.mpr named⟩)

theorem of_get? (tells : index.Tells grammar scans) {name : String} {d : Declaration}
    (found : index.get? name = some d) :
    d.name = name ∧ ∃ scan ∈ scans, d ∈ grammar.declarationsOf scan := by
  rw [tells.get?] at found
  refine ⟨by simpa using List.find?_some found, ?_⟩
  exact List.mem_flatMap.mp (List.mem_reverse.mp (List.mem_of_find?_eq_some found))

end Tells

end DeclarationIndex

namespace Indexer

theorem fileToScan_eq_some {indexer : Indexer} {name : String} {owner : Option Pathname}
    {path : Pathname} : indexer.fileToScan name owner = some path ↔
      indexer.declarations.get? name = none ∧ owner = some path ∧
        indexer.declarations.hasScanned path = false := by
  unfold fileToScan
  split
  · rename_i known
    simp only [reduceCtorEq, false_iff]
    rintro ⟨unknown, -⟩
    rw [unknown] at known
    cases known
  · rename_i unknown
    rw [Option.not_isSome_iff_eq_none] at unknown
    simp [unknown, Option.filter_eq_some_iff]

/-- What looking a declaration up can come to. -/
inductive LookUp (indexer : Indexer) (grammar : Grammar) (read : FileReader) (name : String)
    (owner : Option Pathname) : Except SourceError (Option Declaration) × Indexer → Prop
  | idle : indexer.fileToScan name owner = none →
      LookUp indexer grammar read name owner (.ok (indexer.declarations.get? name), indexer)
  | unreadable {path cause} : indexer.fileToScan name owner = some path →
      read path = .error cause →
      LookUp indexer grammar read name owner (.error (.unreadable path cause), indexer)
  | malformed {path bytes error} : indexer.fileToScan name owner = some path →
      read path = .ok bytes → grammar.parse path bytes = .error error →
      LookUp indexer grammar read name owner
        (.error error, { indexer with parses := indexer.parses + 1 })
  | scanned {path bytes source} : indexer.fileToScan name owner = some path →
      read path = .ok bytes → grammar.parse path bytes = .ok source →
      LookUp indexer grammar read name owner
        (.ok ((indexer.declarations.scan source).get? name),
          { indexer with
            parses := indexer.parses + 1
            declarations := indexer.declarations.scan source })

theorem lookUp_declarationOf (indexer : Indexer) (grammar : Grammar) (read : FileReader)
    (name : String) (owner : Option Pathname) : indexer.LookUp grammar read name owner
      (indexer.declarationOf grammar read name owner) := by
  unfold declarationOf
  split
  · exact .idle ‹_›
  · rename_i path toScan
    simp only [scanFile, readFile]
    cases there : read path with
    | error cause => exact .unreadable toScan there
    | ok bytes =>
      cases parsed : grammar.parse path bytes with
      | error error => simpa only [parsed] using .malformed toScan there parsed
      | ok source => simpa only [parsed] using .scanned toScan there parsed

end Indexer

def Answer.isFailure : Answer → Bool
  | failed _ => true
  | _ => false

def Answer.ofLookUp : Except SourceError (Option Declaration) → Answer
  | .ok (some d) => .declaration d
  | .ok none => .nothing
  | .error error => .failed error

/-- Whether an answer is a declaration of a class in a file. -/
def Answer.Declares (name : String) (path : Pathname) (answer : Answer) : Prop :=
  ∃ d, answer = .declaration d ∧ d.name = name ∧ d.source.path.same path = true

/-- Whether scans hide a class of a file from being looked up: another file declares its name, or the
file had another content when it was scanned. -/
def Grammar.Hidden (grammar : Grammar) (scans : List (Pathname × ByteArray)) (name : String)
    (path : Pathname) (bytes : ByteArray) : Prop :=
  (∃ scan ∈ scans, scan.1.same path = false ∧
    name ∈ (grammar.declarationsOf scan).map (·.name)) ∨
  ∃ scan ∈ scans, scan.1.same path = true ∧ scan.2 ≠ bytes

/-- Whether a record says what a build of a content says. -/
def FileRecord.IsBuiltFrom (grammar : Grammar) (bytes : ByteArray) (file : FileRecord) : Prop :=
  ∃ rules path countsImports built,
    Indexer.build rules grammar path countsImports bytes = .ok built ∧ file.same built = true

theorem FileRecord.IsBuiltFrom.declared {grammar : Grammar} {bytes : ByteArray} {file : FileRecord}
    (isBuilt : file.IsBuiltFrom grammar bytes) {c : ClassRecord} (member : c ∈ file.classes)
    (path : Pathname) : ∃ source, grammar.parse path bytes = .ok source ∧
      c.name ∈ (grammar.declarationsOf (path, bytes)).map (·.name) := by
  obtain ⟨rules, other, countsImports, built, build, same⟩ := isBuilt
  obtain ⟨tree, found, sound, rfl⟩ := Indexer.build_eq_ok.mp build
  have parsed : grammar.parse path bytes = .ok { path, bytes, tree } :=
    Grammar.parse_eq_ok.mpr ⟨found, sound, rfl⟩
  refine ⟨_, parsed, ?_⟩
  simp only [Grammar.declarationsOf, parsed]
  rw [SourceFile.names_declarations, ← FileRecord.names_classes rules other countsImports,
    ← (FileRecord.same_iff.mp same).2.1]
  exact List.mem_map_of_mem member

namespace Session

/-- The file that a step scans, with the content that it has then: the owner of the class that is
looked up, if the grammar is called and nothing fails. -/
def scanBy? (s : Session) (grammar : Grammar) (victim : Nat) :
    Step → Option (Pathname × ByteArray)
  | .declaration choice =>
    let next := s.step grammar victim (.declaration choice)
    if next.2.indexer.parses = s.indexer.parses ∨ next.1.isFailure then none
    else do
      let (_, owner) ← s.choose? choice
      let shared ← owner
      let bytes ← s.content? shared.file.path
      some (shared.file.path, bytes)
  | _ => none

/-- The scans since the declarations were last cleared, behind one more step. -/
def scansAfter (s : Session) (grammar : Grammar) (victim : Nat)
    (scans : List (Pathname × ByteArray)) : Step → List (Pathname × ByteArray)
  | .clearDeclarations | .renew _ => []
  | step => scans ++ (s.scanBy? grammar victim step).toList

/-- The scans since the declarations were last cleared, behind several more steps. -/
def scansBehind (s : Session) (grammar : Grammar) (scans : List (Pathname × ByteArray)) :
    List (Step × Nat) → List (Pathname × ByteArray)
  | [] => scans
  | (step, victim) :: rest => (s.step grammar victim step).2.scansBehind grammar
      (s.scansAfter grammar victim scans step) rest

theorem step_declaration {s : Session} {choice : ClassChoice} {c : ClassRecord}
    {owner : Option Shared} (chosen : s.choose? choice = some (c, owner)) (grammar : Grammar)
    (victim : Nat) :
    let found := s.indexer.declarationOf grammar s.reader c.name (owner.map (·.file.path))
    ∃ reads, s.step grammar victim (.declaration choice) =
      (.ofLookUp found.1, { s with indexer := found.2, reads }) := by
  simp only [step, declaration, chosen]
  exact ⟨_, rfl⟩

theorem reader_eq_ok {s : Session} {path : Pathname} {bytes : ByteArray} :
    s.reader path = .ok bytes ↔ s.content? path = some bytes := by
  unfold reader
  split
  · rename_i there
    simp [there]
  · rename_i absent
    simp [absent]

/-- Looking a declaration up adds its scan, if it makes one. -/
theorem tells_declaration {s : Session} {grammar : Grammar} {scans : List (Pathname × ByteArray)}
    (tells : s.indexer.declarations.Tells grammar scans) (victim : Nat) (choice : ClassChoice) :
    (s.step grammar victim (.declaration choice)).2.indexer.declarations.Tells grammar
      (scans ++ (s.scanBy? grammar victim (.declaration choice)).toList) := by
  cases chosen : s.choose? choice with
  | none =>
    have stays : s.step grammar victim (.declaration choice) = (.nothing, s) := by
      simp only [step, declaration, chosen]
    simpa [scanBy?, stays] using tells
  | some pair =>
    obtain ⟨c, owner⟩ := pair
    obtain ⟨reads, stepped⟩ := step_declaration chosen grammar victim
    have lookUp := s.indexer.lookUp_declarationOf grammar s.reader c.name
      (owner.map (·.file.path))
    simp only [scanBy?, stepped]
    generalize s.indexer.declarationOf grammar s.reader c.name _ = found at lookUp ⊢
    cases lookUp with
    | idle idle => simpa using tells
    | unreadable toScan absent => simpa using tells
    | malformed toScan there failed => simpa [Answer.ofLookUp, Answer.isFailure] using tells
    | @scanned path bytes source toScan there parsed =>
      obtain ⟨-, owned, new⟩ := Indexer.fileToScan_eq_some.mp toScan
      obtain ⟨shared, rfl, rfl⟩ := Option.map_eq_some_iff.mp owned
      have answered : ∀ found, (Answer.ofLookUp (.ok found)).isFailure = false := by
        rintro (_ | d) <;> rfl
      have counted : ¬(s.indexer.parses + 1 = s.indexer.parses ∨
          (Answer.ofLookUp (.ok ((s.indexer.declarations.scan source).get? c.name))).isFailure =
            true) := by
        simp [answered]
      rw [if_neg counted, chosen]
      simp only [Option.bind_eq_bind, Option.bind_some, reader_eq_ok.mp there, Option.toList_some]
      exact tells.scan parsed new

/-- Behind each step, the scans tell the index of declarations. -/
theorem tells_step {s : Session} {grammar : Grammar} {scans : List (Pathname × ByteArray)}
    (tells : s.indexer.declarations.Tells grammar scans) (victim : Nat) (step : Step) :
    (s.step grammar victim step).2.indexer.declarations.Tells grammar
      (s.scansAfter grammar victim scans step) := by
  have unchanged {s' : Session} (same : s'.indexer.declarations = s.indexer.declarations) :
      s'.indexer.declarations.Tells grammar (scans ++ []) := by
    rw [List.append_nil, same]
    exact tells
  cases step with
  | declaration choice => exact tells_declaration tells victim choice
  | clearDeclarations => exact .empty grammar
  | renew setup => exact .empty grammar
  | keep handle className name =>
    rw [Session.step]
    split
    · exact unchanged rfl
    · split
      · exact unchanged rfl
      · exact unchanged rfl
  | _ => exact unchanged (bookkeeping_step s grammar victim rfl).2

theorem tells_behind {s : Session} {grammar : Grammar} {scans : List (Pathname × ByteArray)}
    (tells : s.indexer.declarations.Tells grammar scans) (steps : List (Step × Nat)) :
    (s.behind grammar steps).indexer.declarations.Tells grammar
      (s.scansBehind grammar scans steps) := by
  induction steps generalizing s scans with
  | nil => exact tells
  | cons entry steps ih => exact ih (tells_step tells entry.2 entry.1)

/-- Whether looking a class up has to scan a file: the class is not known, and its owner is alive,
readable and not scanned. -/
def HasToScan (s : Session) (scans : List (Pathname × ByteArray)) (c : ClassRecord)
    (owner : Option Shared) : Prop :=
  s.indexer.declarations.get? c.name = none ∧ ∃ shared, owner = some shared ∧
    (s.content? shared.file.path).isSome ∧ ∀ scan ∈ scans, scan.1.same shared.file.path = false

/-- The grammar is called if a file has to be scanned, and only then. -/
theorem parses_declaration {s : Session} {grammar : Grammar} {scans : List (Pathname × ByteArray)}
    (tells : s.indexer.declarations.Tells grammar scans) {choice : ClassChoice} {c : ClassRecord}
    {owner : Option Shared} (chosen : s.choose? choice = some (c, owner)) (victim : Nat) :
    let next := s.step grammar victim (.declaration choice)
    (s.HasToScan scans c owner → next.2.indexer.parses = s.indexer.parses + 1) ∧
      (¬s.HasToScan scans c owner → next.2.indexer.parses = s.indexer.parses) := by
  intro next
  obtain ⟨reads, stepped⟩ := step_declaration chosen grammar victim
  have lookUp := s.indexer.lookUp_declarationOf grammar s.reader c.name (owner.map (·.file.path))
  simp only [next, stepped]
  generalize s.indexer.declarationOf grammar s.reader c.name _ = found at lookUp ⊢
  have toScan_of : s.HasToScan scans c owner → ∃ shared bytes, owner = some shared ∧
      s.indexer.fileToScan c.name (owner.map (·.file.path)) = some shared.file.path ∧
        s.reader shared.file.path = .ok bytes := by
    rintro ⟨unknown, shared, rfl, there, apart⟩
    obtain ⟨bytes, content⟩ := Option.isSome_iff_exists.mp there
    have new := (tells.unscanned_iff shared.file.path).mpr apart
    exact ⟨shared, bytes, rfl, Indexer.fileToScan_eq_some.mpr ⟨unknown, rfl, new⟩,
      reader_eq_ok.mpr content⟩
  have hasToScan {path : Pathname} {bytes : ByteArray}
      (toScan : s.indexer.fileToScan c.name (owner.map (·.file.path)) = some path)
      (there : s.reader path = .ok bytes) : s.HasToScan scans c owner := by
    obtain ⟨unknown, owned, new⟩ := Indexer.fileToScan_eq_some.mp toScan
    obtain ⟨shared, rfl, rfl⟩ := Option.map_eq_some_iff.mp owned
    have content : (s.content? shared.file.path).isSome := by rw [reader_eq_ok.mp there]; rfl
    exact ⟨unknown, shared, rfl, content, (tells.unscanned_iff _).mp new⟩
  cases lookUp with
  | idle idle =>
    refine ⟨fun holds => ?_, fun _ => rfl⟩
    obtain ⟨shared, bytes, -, toScan, -⟩ := toScan_of holds
    rw [idle] at toScan
    cases toScan
  | unreadable toScan absent =>
    refine ⟨fun holds => ?_, fun _ => rfl⟩
    obtain ⟨shared, bytes, -, sameScan, there⟩ := toScan_of holds
    cases Option.some.inj (toScan.symm.trans sameScan)
    rw [absent] at there
    cases there
  | malformed toScan there failed =>
    exact ⟨fun _ => rfl, fun not => (not (hasToScan toScan there)).elim⟩
  | scanned toScan there parsed =>
    exact ⟨fun _ => rfl, fun not => (not (hasToScan toScan there)).elim⟩

/-- A class of a live record that says what its file holds now is found there, unless an earlier scan
hides it. -/
theorem declares_or_hidden {s : Session} {grammar : Grammar} {scans : List (Pathname × ByteArray)}
    (tells : s.indexer.declarations.Tells grammar scans) (identified : s.Identified)
    {choice : ClassChoice} {c : ClassRecord} {shared : Shared}
    (chosen : s.choose? choice = some (c, some shared)) {bytes : ByteArray}
    (content : s.content? shared.file.path = some bytes)
    (isBuilt : shared.file.IsBuiltFrom grammar bytes) (victim : Nat) :
    (s.step grammar victim (.declaration choice)).1.Declares c.name shared.file.path ∨
      grammar.Hidden scans c.name shared.file.path bytes := by
  have member := identified.mem_classes chosen
  obtain ⟨reads, stepped⟩ := step_declaration chosen grammar victim
  have lookUp := s.indexer.lookUp_declarationOf grammar s.reader c.name (some shared.file.path)
  rw [stepped, Option.map_some]
  generalize s.indexer.declarationOf grammar s.reader c.name _ = found at lookUp ⊢
  cases lookUp with
  | idle idle =>
    cases known : s.indexer.declarations.get? c.name with
    | some d =>
      obtain ⟨named, scan, inScans, declared⟩ := tells.of_get? known
      cases same : scan.1.same shared.file.path with
      | true => exact .inl ⟨d, rfl, named, Grammar.path_of_mem declared ▸ same⟩
      | false => exact .inr (.inl ⟨scan, inScans, same, List.mem_map.mpr ⟨d, declared, named⟩⟩)
    | none =>
      -- Nothing is left to scan, so the file was scanned, and with this content it had the name.
      have scanned : s.indexer.declarations.hasScanned shared.file.path = true := by
        by_contra new
        have toScan := Indexer.fileToScan_eq_some.mpr ⟨known, rfl, Bool.eq_false_iff.mpr new⟩
        rw [idle] at toScan
        cases toScan
      obtain ⟨scan, inScans, same⟩ := (tells.scanned _).mp scanned
      refine .inr (.inr ⟨scan, inScans, same, ?_⟩)
      rintro rfl
      obtain ⟨-, -, declared⟩ := isBuilt.declared member scan.1
      obtain ⟨d, found⟩ := tells.exists_of_mem inScans declared
      rw [known] at found
      cases found
  | unreadable toScan absent =>
    obtain ⟨-, owned, -⟩ := Indexer.fileToScan_eq_some.mp toScan
    cases Option.some.inj owned
    rw [reader_eq_ok.mpr content] at absent
    cases absent
  | malformed toScan there failed =>
    obtain ⟨-, owned, -⟩ := Indexer.fileToScan_eq_some.mp toScan
    cases Option.some.inj owned
    cases Option.some.inj (content.symm.trans (reader_eq_ok.mp there))
    obtain ⟨source, parsed, -⟩ := isBuilt.declared member shared.file.path
    rw [parsed] at failed
    cases failed
  | @scanned path present source toScan there parsed =>
    obtain ⟨unknown, owned, new⟩ := Indexer.fileToScan_eq_some.mp toScan
    cases Option.some.inj owned
    cases Option.some.inj (content.symm.trans (reader_eq_ok.mp there))
    obtain ⟨-, -, declared⟩ := isBuilt.declared member shared.file.path
    have tellsNow := tells.scan parsed new
    obtain ⟨d, found⟩ := tellsNow.exists_of_mem (by simp) declared
    obtain ⟨named, scan, inScans, inScan⟩ := tellsNow.of_get? found
    refine .inl ⟨d, by rw [found]; rfl, named, ?_⟩
    rcases List.mem_append.mp inScans with old | last
    · obtain ⟨earlier, known⟩ := tells.exists_of_mem old (List.mem_map.mpr ⟨d, inScan, named⟩)
      rw [unknown] at known
      cases known
    · cases List.mem_singleton.mp last
      rw [Grammar.path_of_mem inScan]
      exact Pathname.same_refl _

theorem Orderly.faithful_take {grammar : Grammar} {rulesOf : Slot → List Rule} {setup : Setup}
    {steps : List (Step × Nat)} (orderly : Orderly grammar rulesOf setup (steps.map (·.1))) (i : Nat) :
    ((start setup).behind grammar (steps.take i)).Faithful grammar rulesOf
      ((steps.map (·.1)).filterMap Step.content?) := by
  have began := Faithful.start grammar ((steps.map (·.1)).filterMap Step.content?)
    (orderly.sharedRules setup List.mem_cons_self)
  refine began.behind orderly.distinguished fun entry member => ?_
  exact orderly.admissible (List.mem_map_of_mem (List.mem_of_mem_take member))

/-- In an orderly run, a record that an ingest step answers says what the content of then says. -/
theorem Orderly.isBuiltFrom {grammar : Grammar} {rulesOf : Slot → List Rule} {setup : Setup}
    {steps : List (Step × Nat)} (orderly : Orderly grammar rulesOf setup (steps.map (·.1)))
    {i victim : Nat} {path : Pathname} {countsImports : Bool} {handle : Option String}
    {shared : Shared} {counts : Counts}
    (asked : steps[i]? = some (.ingest path countsImports handle, victim))
    (answered : ((start setup).run grammar steps).1[i]? = some (.record shared, counts)) :
    shared.file.path.same path = true ∧ ∃ bytes,
      ((start setup).behind grammar (steps.take i)).content? path = some bytes ∧
        shared.file.IsBuiltFrom grammar bytes := by
  have faithful := orderly.faithful_take i
  have admissible := orderly.admissible (List.mem_map_of_mem (List.mem_of_getElem? asked))
  obtain ⟨uncached, -⟩ := faithful.ingest orderly.distinguished (admissible.readable path rfl)
    victim ((start setup).behind grammar (steps.take i)).issued countsImports
  rw [run_answer, asked] at answered
  have isRecord := (Prod.mk.inj (Option.some.inj answered)).1
  change Answer.ofResult _ = _ at isRecord
  rw [isRecord] at uncached
  generalize ((start setup).behind grammar (steps.take i)).content? path = content at uncached ⊢
  cases uncached with
  | @record bytes tree _ parsed sound same =>
    refine ⟨(FileRecord.same_iff.mp same).1, bytes, rfl, ?_⟩
    exact ⟨_, path, countsImports, _, Indexer.build_eq_ok.mpr ⟨tree, parsed, sound, rfl⟩, same⟩

/-- Over every session, the scans since the declarations were last cleared tell the index: no file is
scanned twice, and each name has its last declaration. Looking a class up calls the grammar exactly
if the class is not known and its owner is alive, readable and not scanned. A class of a live record
that says what its file holds now is found in that file, unless an earlier scan hides it; and in an
orderly session a record says so as long as its file has the content that was ingested. -/
theorem declarations_follow_scans (grammar : Grammar) (setup : Setup)
    (steps : List (Step × Nat)) :
    let s := (start setup).behind grammar steps
    let scans := (start setup).scansBehind grammar [] steps
    s.indexer.declarations.Tells grammar scans ∧
    ∀ choice c owner, s.choose? choice = some (c, owner) → ∀ victim,
      let next := s.step grammar victim (.declaration choice)
      (s.HasToScan scans c owner → next.2.indexer.parses = s.indexer.parses + 1) ∧
      (¬s.HasToScan scans c owner → next.2.indexer.parses = s.indexer.parses) ∧
      ∀ shared, owner = some shared →
        (∀ bytes, s.content? shared.file.path = some bytes → shared.file.IsBuiltFrom grammar bytes →
          next.1.Declares c.name shared.file.path ∨
            grammar.Hidden scans c.name shared.file.path bytes) ∧
        ∀ rulesOf, Orderly grammar rulesOf setup (steps.map (·.1)) →
          ∀ i path countsImports handle earlier counts,
            steps[i]? = some (.ingest path countsImports handle, earlier) →
            ((start setup).run grammar steps).1[i]? = some (.record shared, counts) →
            s.content? path = ((start setup).behind grammar (steps.take i)).content? path →
            ∃ bytes, s.content? shared.file.path = some bytes ∧
              (next.1.Declares c.name shared.file.path ∨
                grammar.Hidden scans c.name shared.file.path bytes) := by
  intro s scans
  have tells : s.indexer.declarations.Tells grammar scans := tells_behind (.empty grammar) steps
  have identified : s.Identified := (Identified.start setup).behind grammar steps
  refine ⟨tells, ?_⟩
  intro choice c owner chosen victim next
  obtain ⟨called, uncalled⟩ := parses_declaration tells chosen victim
  refine ⟨called, uncalled, ?_⟩
  rintro shared rfl
  refine ⟨?_, ?_⟩
  · intro bytes content isBuilt
    exact declares_or_hidden tells identified chosen content isBuilt victim
  · intro rulesOf orderly i path countsImports handle earlier counts asked answered unchanged
    obtain ⟨samePath, bytes, before, isBuilt⟩ := orderly.isBuiltFrom asked answered
    have content : s.content? shared.file.path = some bytes := by
      rw [s.content?_congr samePath, unchanged, before]
    exact ⟨bytes, content, declares_or_hidden tells identified chosen content isBuilt victim⟩

/-- A class is looked up and kept, the declarations are cleared, and its record is released, so that
only the memory cache holds it. -/
def keptRun : List (Step × Nat) :=
  [(.put ⟨"src/A.php"⟩ ⟨#[97]⟩, 0), (.ingest ⟨"src//A.php"⟩ true (some "a"), 0),
   (.declaration (.ofHandle "a" "A"), 0), (.clearDeclarations, 0), (.keep "a" "A" "k", 0),
   (.release "a", 0)]

def keptRecord : Shared :=
  ⟨0, .ofTree Rule.standard ⟨"src//A.php"⟩ true (sampleTree ⟨#[97]⟩)⟩

theorem keptRun_orderly : Orderly (fun bytes => some (sampleTree bytes)) (fun _ => Rule.standard)
    {} (keptRun.map (·.1)) := by
  have contents : ∀ bytes ∈ (keptRun.map (·.1)).filterMap Step.content?, bytes = ⟨#[97]⟩ := by
    decide
  refine ⟨by decide, ?_, ?_, ?_⟩
  · intro used member slot _
    cases List.mem_singleton.mp member
    rfl
  · intro first inFirst second inSecond _
    rw [contents first inFirst, contents second inSecond]
  · have fits : ∀ path ∈ (keptRun.map (·.1)).filterMap Step.asked?, ∀ countsImports,
        (StoredRecord.ofRecord ""
          (.ofTree Rule.standard path countsImports (sampleTree ⟨#[97]⟩))).Fits := by
      decide +kernel
    intro path asked bytes put slot
    rw [contents bytes put]
    exact readBack_of_fits rfl (fits path asked)

theorem declarations_follow_scans_keptRun :
    let grammar : Grammar := fun bytes => some (sampleTree bytes)
    let s := (start {}).behind grammar keptRun
    let next := s.step grammar 0 (.declaration (.kept "k"))
    (∃ c, s.choose? (.kept "k") = some (c, some keptRecord) ∧ c.name = "A") ∧
    ((start {}).run grammar keptRun).1[1]? = some (.record keptRecord, ⟨1, 1, 1, 0, 0⟩) ∧
    next.2.indexer.parses = s.indexer.parses + 1 ∧
    next.1.Declares "A" ⟨"src//A.php"⟩ ∧
    s.choose? (.detached "A") = some (⟨"A", []⟩, none) ∧
    (s.step grammar 0 (.declaration (.detached "A"))).2.indexer.parses = s.indexer.parses := by
  intro grammar s next
  have follows := declarations_follow_scans grammar {} keptRun
  have scans : (start {}).scansBehind grammar [] keptRun = [] := by decide +kernel
  have chosen : s.choose? (.kept "k") =
      some (⟨"A", [⟨"B", .inherits, 2⟩]⟩, some keptRecord) := by decide +kernel
  have answered : ((start {}).run grammar keptRun).1[1]? =
      some (.record keptRecord, ⟨1, 1, 1, 0, 0⟩) := by rfl
  have unknown : s.indexer.declarations.get? "A" = none := by rfl
  have content : s.content? ⟨"src//A.php"⟩ = some ⟨#[97]⟩ := by decide +kernel
  simp only [scans] at follows
  obtain ⟨called, -, found⟩ := follows.2 _ _ _ chosen 0
  obtain ⟨-, uncalled, -⟩ := follows.2 (.detached "A") _ _ rfl 0
  refine ⟨⟨_, chosen, rfl⟩, answered, ?_, ?_, rfl, ?_⟩
  · refine called ⟨unknown, keptRecord, rfl, ?_, by simp⟩
    change (s.content? ⟨"src//A.php"⟩).isSome
    rw [content]
    rfl
  · have unchanged : s.content? ⟨"src//A.php"⟩ =
        ((start {}).behind grammar (keptRun.take 1)).content? ⟨"src//A.php"⟩ := by
      rw [content]
      decide +kernel
    obtain ⟨bytes, -, declares | hidden⟩ := (found keptRecord rfl).2 _ keptRun_orderly 1
      ⟨"src//A.php"⟩ true (some "a") 0 _ rfl answered unchanged
    · exact declares
    · simp [Grammar.Hidden] at hidden
  · refine uncalled ?_
    rintro ⟨-, shared, impossible, -⟩
    cases impossible

end Session

end ClassGraph
