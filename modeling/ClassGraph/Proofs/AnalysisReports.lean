import ClassGraph.Proofs.DeclaredClasses
import ClassGraph.Proofs.ScannedFiles
import ClassGraph.Proofs.Transparency
import ClassGraph.Report.Analysis

namespace ClassGraph

/-- Whether two answers about a file are alike: the same error, or records that say the same. -/
def Alike : Except SourceError FileRecord → Except SourceError FileRecord → Prop
  | .ok file, .ok other => file.same other = true
  | .error error, .error other => error = other
  | _, _ => False

namespace Alike

variable {x y z : Except SourceError FileRecord}

theorem ok_left {file : FileRecord} (alike : Alike (.ok file) y) :
    ∃ other, y = .ok other ∧ file.same other = true := by
  cases y with
  | ok other => exact ⟨other, rfl, alike⟩
  | error error => exact alike.elim

theorem error_left {error : SourceError} (alike : Alike (.error error) y) : y = .error error := by
  cases y with
  | ok other => exact alike.elim
  | error other => exact congrArg Except.error (Eq.symm alike)

theorem symm (alike : Alike x y) : Alike y x := by
  cases x with
  | error error =>
    rw [alike.error_left]
    rfl
  | ok file =>
    obtain ⟨other, rfl, same⟩ := alike.ok_left
    exact FileRecord.same_symm same

theorem trans (first : Alike x y) (second : Alike y z) : Alike x z := by
  cases x with
  | error error => rwa [first.error_left] at second
  | ok file =>
    obtain ⟨other, rfl, same⟩ := first.ok_left
    obtain ⟨last, rfl, sameLast⟩ := second.ok_left
    exact FileRecord.same_trans same sameLast

end Alike

theorem Cache.isSome_fetch (cache : Cache) (victim id : Nat) (key : CacheKey)
    (build : Unit → Except SourceError FileRecord) :
    (cache.fetch victim id key build).cache.directory.isSome = cache.directory.isSome := by
  simp only [Cache.fetch]
  split
  · rfl
  · split
    · rfl
    · split
      · rfl
      · simp [CacheDirectory.store, CacheDirectory.write]

theorem Agrees.alike {result : Except SourceError Shared} {y : Except SourceError FileRecord}
    (agrees : Agrees result y) : Alike (result.map (·.file)) y := by
  cases result <;> cases y <;> exact agrees

namespace Analyzer

/-- What a fresh indexer without a directory tells of one file. -/
def alone (rules : List Rule) (grammar : Grammar) (read : FileReader) (countsImports : Bool)
    (path : Pathname) : Except SourceError FileRecord :=
  (index { indexer := { rules } } grammar read (fun _ => 0) countsImports path).1.answer

theorem alone_eq (rules : List Rule) (grammar : Grammar) (read : FileReader) (countsImports : Bool)
    (path : Pathname) : alone rules grammar read countsImports path =
      (Indexer.readFile read path).bind (Indexer.build rules grammar path countsImports) := by
  simp only [alone, index, Indexer.ingest]
  cases Indexer.readFile read path with
  | error error => rfl
  | ok bytes =>
    simp only [Except.bind, Cache.fetch]
    cases Indexer.build rules grammar path countsImports bytes <;> rfl

theorem path_of_alone_error {rules : List Rule} {grammar : Grammar} {read : FileReader}
    {countsImports : Bool} {path : Pathname} {error : SourceError}
    (failed : alone rules grammar read countsImports path = .error error) : error.path = path := by
  rw [alone_eq, Indexer.readFile] at failed
  cases there : read path with
  | error cause =>
    rw [there] at failed
    cases failed
    rfl
  | ok bytes =>
    rw [there] at failed
    change Indexer.build rules grammar path countsImports bytes = .error error at failed
    unfold Indexer.build Grammar.parse at failed
    split at failed
    · cases failed
      rfl
    · split at failed
      · cases failed
        rfl
      · cases failed

theorem path_of_alone_ok {rules : List Rule} {grammar : Grammar} {read : FileReader}
    {countsImports : Bool} {path : Pathname} {file : FileRecord}
    (told : alone rules grammar read countsImports path = .ok file) : file.path = path := by
  rw [alone_eq, Indexer.readFile] at told
  cases there : read path with
  | error cause =>
    rw [there] at told
    cases told
  | ok bytes =>
    rw [there] at told
    exact (Indexer.build_key told).1

/-- What indexing files rests on: they hold contents at hand, and if there is a directory, the sizes
and lines of their records have room in the bytes that are stored. -/
def Readable (rules : List Rule) (grammar : Grammar) (contents : List ByteArray)
    (directory : CacheDirectory) (read : FileReader) (paths : List Pathname) : Prop :=
  ∀ path ∈ paths, ∀ bytes, read path = .ok bytes → bytes ∈ contents ∧
    (directory.isSome → ∀ countsImports file,
      Indexer.build rules grammar path countsImports bytes = .ok file →
        (StoredRecord.ofRecord (fingerprint bytes) file).Fits)

/-- Analyzers that earlier analyses by the same rules lead to. They begin with nothing in memory and
an empty directory or none, and may work over each other's directories. -/
inductive Reachable (rules : List Rule) (grammar : Grammar) (contents : List ByteArray) :
    Analyzer → Prop
  | fresh {scanner limit directory} : directory.getD [] = [] →
      Reachable rules grammar contents
        { scanner, indexer := { rules, memory := .ofLimit limit }, directory }
  | analyzed {a read victim countsImports scanned order} : Reachable rules grammar contents a →
      Readable rules grammar contents a.directory read order →
      Reachable rules grammar contents
        (a.analyzeInOrder grammar read victim countsImports scanned order).2
  | moved {a b} (scanner : Scanner) : Reachable rules grammar contents a →
      Reachable rules grammar contents b →
      Reachable rules grammar contents { a with scanner, directory := b.directory }

/-- The invariant of analyses: whatever is cached was built from the contents at hand. -/
structure Faithful (rules : List Rule) (grammar : Grammar) (contents : List ByteArray)
    (a : Analyzer) : Prop where
  sameRules : a.indexer.rules = rules
  cache : Cache.Faithful rules grammar contents ⟨a.indexer.memory, a.directory⟩

section Runs

variable {rules : List Rule} {grammar : Grammar} {contents : List ByteArray} {a : Analyzer}
  {read : FileReader} {paths : List Pathname}

/-- One file: the answer is that of a fresh indexer, and the caches stay faithful. -/
theorem Faithful.index (faithful : a.Faithful rules grammar contents)
    (distinguished : Distinguished contents) {path : Pathname}
    (readable : Readable rules grammar contents a.directory read [path]) (victim : Nat → Nat)
    (countsImports : Bool) :
    let indexed := a.index grammar read victim countsImports path
    Alike indexed.1.answer (alone rules grammar read countsImports path) ∧
      indexed.2.Faithful rules grammar contents ∧
      indexed.2.directory.isSome = a.directory.isSome := by
  obtain ⟨rfl, cache⟩ := faithful
  simp only [Analyzer.index, alone_eq, Indexer.ingest, Indexer.readFile]
  cases there : read path with
  | error cause => exact ⟨rfl, ⟨rfl, cache⟩, rfl⟩
  | ok bytes =>
    obtain ⟨known, room⟩ := readable path (List.mem_singleton_self path) bytes there
    have readBack : a.directory.isSome → ReadBack a.indexer.rules grammar path bytes :=
      fun isThere flag file built => StoredRecord.decode_encode (room isThere flag file built)
    obtain ⟨agrees, kept⟩ := cache.fetch distinguished known readBack (victim a.indexed) a.indexed
    exact ⟨agrees.alike, ⟨rfl, kept⟩, Cache.isSome_fetch _ _ _ _ _⟩

/-- Several files, one after another. -/
theorem Faithful.indexAll (faithful : a.Faithful rules grammar contents)
    (distinguished : Distinguished contents)
    (readable : Readable rules grammar contents a.directory read paths) (victim : Nat → Nat)
    (countsImports : Bool) :
    let indexed := a.indexAll grammar read victim countsImports paths
    indexed.1.map (·.path) = paths ∧
      (∀ outcome ∈ indexed.1,
        Alike outcome.answer (alone rules grammar read countsImports outcome.path)) ∧
      indexed.2.Faithful rules grammar contents := by
  induction paths generalizing a with
  | nil => exact ⟨rfl, by simp [Analyzer.indexAll], faithful⟩
  | cons path rest ih =>
    have readablePath : Readable rules grammar contents a.directory read [path] :=
      fun other member => readable other (List.mem_singleton.mp member ▸ List.mem_cons_self)
    obtain ⟨alike, first, kept⟩ := faithful.index distinguished readablePath victim countsImports
    have readableRest : Readable rules grammar contents
        (a.index grammar read victim countsImports path).2.directory read rest := by
      intro other member bytes there
      rw [kept]
      exact readable other (List.mem_cons_of_mem path member) bytes there
    obtain ⟨named, answered, last⟩ := ih first readableRest
    refine ⟨congrArg (path :: ·) named, ?_, last⟩
    intro outcome member
    rcases List.mem_cons.mp member with rfl | later
    · exact alike
    · exact answered outcome later

theorem Reachable.faithful (reachable : a.Reachable rules grammar contents)
    (distinguished : Distinguished contents) : a.Faithful rules grammar contents := by
  induction reachable with
  | @fresh scanner limit directory empty =>
    refine ⟨rfl, by simp [MemoryCache.ofLimit], ?_⟩
    intro bytes holds
    obtain ⟨entries, name, rfl, member⟩ := holds
    rw [Option.getD_some] at empty
    rw [empty] at member
    cases member
  | analyzed _ readable ih => exact (ih.indexAll distinguished readable _ _).2.2
  | moved scanner _ _ ihOwn ihOther =>
    exact ⟨ihOwn.sameRules, ihOwn.cache.memory, ihOther.cache.directory⟩

end Runs

end Analyzer

namespace Report

/-- What a report tells of a path: a record, or why there is none. -/
def told? (report : Report) (path : Pathname) : Option (Except SourceError FileRecord) :=
  match report.map.files.find? (·.path.same path) with
  | some file => some (.ok file)
  | none => (report.failures.find? (·.path = path)).map .error

/-- Whether a report tells the answers about a list of paths: in the order of the list, the records
of those that have one and the errors of the others. -/
structure Tells (answer : Pathname → Except SourceError FileRecord) (paths : List Pathname)
    (report : Report) : Prop where
  files : List.Forall₂ (fun file path => file.path.same path = true ∧
      ∃ expected, answer path = .ok expected ∧ file.same expected = true)
    report.map.files (paths.filter fun path => (answer path).isOk)
  failures : List.Forall₂ (fun error path => error.path = path ∧ answer path = .error error)
    report.failures (paths.filter fun path => !(answer path).isOk)

theorem exists_of_mem {α β : Type} {R : α → β → Prop} {as : List α} {bs : List β}
    (related : List.Forall₂ R as bs) {a : α} (member : a ∈ as) : ∃ b ∈ bs, R a b := by
  induction related with
  | nil => cases member
  | @cons first other as bs here _ ih =>
    rcases List.mem_cons.mp member with rfl | later
    · exact ⟨other, List.mem_cons_self, here⟩
    · obtain ⟨b, inRest, holds⟩ := ih later
      exact ⟨b, List.mem_cons_of_mem other inRest, holds⟩

theorem eq_of_same {paths : List Pathname} (apart : paths.Pairwise fun p q => p.same q = false)
    {p q : Pathname} (inP : p ∈ paths) (inQ : q ∈ paths) (same : p.same q = true) : p = q := by
  induction paths with
  | nil => cases inP
  | cons first rest ih =>
    obtain ⟨differs, apartRest⟩ := List.pairwise_cons.mp apart
    rcases List.mem_cons.mp inP with rfl | laterP <;> rcases List.mem_cons.mp inQ with rfl | laterQ
    · rfl
    · rw [differs q laterQ] at same
      cases same
    · rw [Pathname.same_comm, differs p laterP] at same
      cases same
    · exact ih apartRest laterP laterQ

theorem tells_ofOutcomes {answer : Pathname → Except SourceError FileRecord}
    {paths : List Pathname} {outcomes : List Outcome}
    (recorded : ∀ path file, answer path = .ok file → file.path = path)
    (failed : ∀ path error, answer path = .error error → error.path = path)
    (answered : ∀ path ∈ paths, ∃ outcome, outcomes.find? (·.path = path) = some outcome ∧
      Alike outcome.answer (answer path)) : (ofOutcomes paths outcomes).Tells answer paths := by
  refine ⟨?_, ?_⟩
  · simp only [ofOutcomes, List.filterMap_filterMap, ← List.filterMap_eq_filter]
    refine forall₂_filterMap fun path member => ?_
    obtain ⟨outcome, found, alike⟩ := answered path member
    rw [found, Option.bind_some, record?]
    cases told : outcome.answer with
    | error error =>
      rw [told] at alike
      have notOk : (answer path).isOk = false := by rw [alike.error_left]; rfl
      exact .inl ⟨rfl, by simp [Option.guard, notOk]⟩
    | ok file =>
      rw [told] at alike
      obtain ⟨expected, fresh, same⟩ := alike.ok_left
      have isOk : (answer path).isOk = true := by rw [fresh]; rfl
      refine .inr ⟨file, path, rfl, by simp [Option.guard, isOk], ?_, expected, fresh, same⟩
      rw [← recorded path expected fresh]
      exact (FileRecord.same_iff.mp same).1
  · simp only [ofOutcomes, List.filterMap_filterMap, ← List.filterMap_eq_filter]
    refine forall₂_filterMap fun path member => ?_
    obtain ⟨outcome, found, alike⟩ := answered path member
    rw [found, Option.bind_some, failure?]
    cases told : outcome.answer with
    | error error =>
      rw [told] at alike
      have fresh := alike.error_left
      have notOk : (answer path).isOk = false := by rw [fresh]; rfl
      exact .inr ⟨error, path, rfl, by simp [Option.guard, notOk], failed path error fresh, fresh⟩
    | ok file =>
      rw [told] at alike
      obtain ⟨expected, fresh, -⟩ := alike.ok_left
      have isOk : (answer path).isOk = true := by rw [fresh]; rfl
      exact .inl ⟨rfl, by simp [Option.guard, isOk]⟩

/-- A report that tells of paths that are apart has the answer for each of them. -/
theorem Tells.told {answer : Pathname → Except SourceError FileRecord} {paths : List Pathname}
    {report : Report} (tells : report.Tells answer paths)
    (apart : paths.Pairwise fun p q => p.same q = false) {path : Pathname} (member : path ∈ paths) :
    ∃ x, report.told? path = some x ∧ Alike x (answer path) := by
  have ofFile : ∀ file ∈ report.map.files, file.path.same path = true →
      ∃ expected, answer path = .ok expected ∧ file.same expected = true := by
    intro file inFiles same
    obtain ⟨other, inPaths, sameOther, known⟩ := exists_of_mem tells.files inFiles
    rw [Pathname.same_congr sameOther] at same
    rwa [eq_of_same apart (List.mem_of_mem_filter inPaths) member same] at known
  cases answered : answer path with
  | ok expected =>
    have inRecorded : path ∈ paths.filter fun path => (answer path).isOk :=
      List.mem_filter.mpr ⟨member, by rw [answered]; rfl⟩
    obtain ⟨file, inFiles, same, -⟩ := exists_of_mem tells.files.flip inRecorded
    have listed : (report.map.files.find? (·.path.same path)).isSome :=
      List.find?_isSome.mpr ⟨file, inFiles, same⟩
    obtain ⟨found, isFound⟩ := Option.isSome_iff_exists.mp listed
    obtain ⟨record, fresh, alike⟩ := ofFile found (List.mem_of_find?_eq_some isFound)
      (by simpa using List.find?_some isFound)
    cases Except.ok.inj (answered.symm.trans fresh)
    exact ⟨.ok found, by rw [told?, isFound], alike⟩
  | error error =>
    have inFailed : path ∈ paths.filter fun path => !(answer path).isOk :=
      List.mem_filter.mpr ⟨member, by rw [answered]; rfl⟩
    have noFile : report.map.files.find? (·.path.same path) = none := by
      refine List.find?_eq_none.mpr fun file inFiles same => ?_
      obtain ⟨record, fresh, -⟩ := ofFile file inFiles same
      cases answered.symm.trans fresh
    obtain ⟨failure, inFailures, named, -⟩ := exists_of_mem tells.failures.flip inFailed
    have listed : (report.failures.find? (·.path = path)).isSome :=
      List.find?_isSome.mpr ⟨failure, inFailures, decide_eq_true named⟩
    obtain ⟨found, isFound⟩ := Option.isSome_iff_exists.mp listed
    obtain ⟨other, -, sameName, fresh⟩ :=
      exists_of_mem tells.failures (List.mem_of_find?_eq_some isFound)
    have isPath : found.path = path := by simpa using List.find?_some isFound
    rw [← sameName, isPath, answered] at fresh
    refine ⟨.error found, ?_, Except.error.inj fresh.symm⟩
    rw [told?, noFile, isFound]
    rfl

end Report

namespace Analyzer

variable {rules : List Rule} {grammar : Grammar} {contents : List ByteArray} {a : Analyzer}

/-- An analysis over faithful caches, in any order, tells of each file what it gives alone. -/
theorem Faithful.tells (faithful : a.Faithful rules grammar contents)
    (distinguished : Distinguished contents) {read : FileReader} {scanned order : List Pathname}
    (readable : Readable rules grammar contents a.directory read scanned)
    (reordered : order.Perm scanned) (victim : Nat → Nat) (countsImports : Bool) :
    (a.analyzeInOrder grammar read victim countsImports scanned order).1.Tells
      (alone rules grammar read countsImports) scanned := by
  have readableOrder : Readable rules grammar contents a.directory read order :=
    fun path member => readable path (reordered.mem_iff.mp member)
  obtain ⟨named, alike, -⟩ := faithful.indexAll distinguished readableOrder victim countsImports
  refine Report.tells_ofOutcomes (fun _ _ => path_of_alone_ok) (fun _ _ => path_of_alone_error) ?_
  intro path member
  have inOrder : path ∈ (a.indexAll grammar read victim countsImports order).1.map (·.path) := by
    rw [named]
    exact reordered.mem_iff.mpr member
  obtain ⟨outcome, inOutcomes, isPath⟩ := List.mem_map.mp inOrder
  have listed : ((a.indexAll grammar read victim countsImports order).1.find?
      (·.path = path)).isSome := List.find?_isSome.mpr ⟨outcome, inOutcomes, decide_eq_true isPath⟩
  obtain ⟨found, isFound⟩ := Option.isSome_iff_exists.mp listed
  have foundPath : found.path = path := by simpa using List.find?_some isFound
  refine ⟨found, isFound, ?_⟩
  rw [← foundPath]
  exact alike found (List.mem_of_find?_eq_some isFound)

theorem alone_congr {read other : FileReader} {path : Pathname} (same : read path = other path)
    (countsImports : Bool) : alone rules grammar read countsImports path =
      alone rules grammar other countsImports path := by
  simp only [alone_eq, Indexer.readFile, same]

/-- Whatever was analysed before by the same rules, and in whatever order the files of a scan are
indexed, the report tells of each file, in the order of the scan and, if entries of folders differ in
their names, once, what a fresh indexer tells of that file alone. If a file gets another content, the
scan stays, and so does what is told of every path that leads elsewhere. -/
theorem reports_each_alone (distinguished : Distinguished contents)
    (reachable : a.Reachable rules grammar contents) (tree : FileTree) (root : Pathname)
    (countsImports : Bool) :
    let scanned := a.scanner.scan tree root
    (tree.root.IsProper → scanned.Pairwise fun p q => p.same q = false) ∧
    (∀ read, Readable rules grammar contents a.directory read scanned →
      (a.analyze grammar read tree countsImports root).1.Tells
        (alone rules grammar read countsImports) scanned ∧
      ∀ order victim, order.Perm scanned →
        (a.analyzeInOrder grammar read victim countsImports scanned order).1.Tells
          (alone rules grammar read countsImports) scanned) ∧
    ∀ place old new refused, tree.root.at? place = some (.file old) →
      let changed := tree.setAt (.file new) place
      a.scanner.scan changed root = scanned ∧
      ∀ b : Analyzer, b.Reachable rules grammar contents → tree.root.IsProper →
        Readable rules grammar contents a.directory (tree.reader refused) scanned →
        Readable rules grammar contents b.directory (changed.reader refused) scanned →
        ∀ order victim later victimLater, order.Perm scanned → later.Perm scanned →
          let report := (a.analyzeInOrder grammar (tree.reader refused) victim countsImports
            scanned order).1
          let reportLater := (b.analyzeInOrder grammar (changed.reader refused) victimLater
            countsImports scanned later).1
          ∀ path ∈ scanned, tree.locate true path ≠ .found place →
            ∃ x y, report.told? path = some x ∧ reportLater.told? path = some y ∧ Alike x y := by
  intro scanned
  have faithful := reachable.faithful distinguished
  refine ⟨fun proper => a.scanner.scan_apart proper root, ?_, ?_⟩
  · intro read readable
    refine ⟨faithful.tells distinguished readable (.refl scanned) _ countsImports, ?_⟩
    intro order victim reordered
    exact faithful.tells distinguished readable reordered victim countsImports
  · intro place old new refused there changed
    have sameScan : a.scanner.scan changed root = scanned := by
      rw [← Scanner.scan_shape, FileTree.shape_setAt there, Scanner.scan_shape]
    refine ⟨sameScan, ?_⟩
    intro b reachableLater proper readable readableLater order victim later victimLater reordered
      reorderedLater report reportLater path member elsewhere
    have apart := a.scanner.scan_apart proper root
    have tells := faithful.tells distinguished readable reordered victim countsImports
    have tellsLater := (reachableLater.faithful distinguished).tells distinguished readableLater
      reorderedLater victimLater countsImports
    obtain ⟨x, told, alike⟩ := tells.told apart member
    obtain ⟨y, toldLater, alikeLater⟩ := tellsLater.told apart member
    have sameReading : tree.reader refused path = changed.reader refused path := by
      simp only [FileTree.reader, changed, FileTree.read?_setAt there new elsewhere]
    rw [alone_congr sameReading] at alike
    exact ⟨x, y, told, toldLater, alike.trans alikeLater.symm⟩

/-- A folder with a source and an empty file. -/
def sampleFiles : FileTree :=
  { root := .folder [("src", .folder [("B.php", .file ⟨#[]⟩), ("A.php", .file ⟨#[97]⟩)])] }

/-- Empty files have no tree. -/
def sampleGrammar : Grammar := fun bytes =>
  if bytes.size = 0 then none else some (Session.sampleTree bytes)

/-- An analyzer with little memory and an empty directory. -/
def sampleAnalyzer : Analyzer :=
  { indexer := { memory := .ofLimit 1 }, directory := some [] }

def sampleScan : List Pathname :=
  [⟨"src/A.php"⟩, ⟨"src/B.php"⟩]

theorem sampleFiles_proper : sampleFiles.root.IsProper := by
  have file (bytes : ByteArray) : (FileNode.file bytes).IsProper := .file bytes
  have inner : (FileNode.folder [("B.php", .file ⟨#[]⟩), ("A.php", .file ⟨#[97]⟩)]).IsProper :=
    .folder (by decide) (by simp [Pathname.IsEntryName]) (by simp [file])
  exact .folder (by decide) (by simp [Pathname.IsEntryName]) (by simp [inner])

theorem scan_sampleFiles : ({} : Scanner).scan sampleFiles ⟨"src"⟩ = sampleScan := by
  have found : sampleFiles.scanRoot? ⟨"src"⟩ =
      some (.folder [("B.php", .file ⟨#[]⟩), ("A.php", .file ⟨#[97]⟩)]) := by rfl
  rw [Scanner.scan, found]
  exact Scanner.filesBelow_eq_of_perm {} (by decide +kernel) (by decide +kernel)

theorem sample_readable (directory : CacheDirectory) {tree : FileTree}
    (isSample : tree = sampleFiles ∨ tree = sampleFiles.setAt (.file ⟨#[97]⟩) ["src", "B.php"]) :
    Readable Rule.standard sampleGrammar [⟨#[97]⟩, ⟨#[]⟩] directory (tree.reader []) sampleScan := by
  have read : ∀ path ∈ sampleScan, tree.reader [] path = .ok ⟨#[97]⟩ ∨
      tree.reader [] path = .ok ⟨#[]⟩ := by
    rcases isSample with rfl | rfl <;> decide +kernel
  have room : ∀ path ∈ sampleScan, ∀ countsImports, (StoredRecord.ofRecord (fingerprint ⟨#[97]⟩)
      (.ofTree Rule.standard path countsImports (Session.sampleTree ⟨#[97]⟩))).Fits := by
    decide +kernel
  intro path member bytes there
  rcases read path member with isSource | isEmpty
  · cases Except.ok.inj (isSource.symm.trans there)
    refine ⟨by simp, fun _ countsImports file built => ?_⟩
    obtain ⟨tree, parsed, -, rfl⟩ := Indexer.build_eq_ok.mp built
    cases Option.some.inj parsed
    exact room path member countsImports
  · cases Except.ok.inj (isEmpty.symm.trans there)
    refine ⟨by simp, fun _ countsImports file built => ?_⟩
    obtain ⟨tree, parsed, -⟩ := Indexer.build_eq_ok.mp built
    cases parsed

theorem reports_each_alone_sampleFiles :
    let changed := sampleFiles.setAt (.file ⟨#[97]⟩) ["src", "B.php"]
    let first := sampleAnalyzer.analyzeInOrder sampleGrammar (sampleFiles.reader []) id true
      sampleScan sampleScan
    let second := first.2.analyzeInOrder sampleGrammar (sampleFiles.reader []) id true sampleScan
      sampleScan.reverse
    let third := second.2.analyzeInOrder sampleGrammar (changed.reader []) id true sampleScan
      sampleScan
    sampleFiles.root.IsProper ∧
    first.2.scanner.scan sampleFiles ⟨"src"⟩ = sampleScan ∧
    second.1.Tells (alone Rule.standard sampleGrammar (sampleFiles.reader []) true) sampleScan ∧
    sampleFiles.root.at? ["src", "B.php"] = some (.file ⟨#[]⟩) ∧
    first.2.scanner.scan changed ⟨"src"⟩ = sampleScan ∧
    ∃ x y, second.1.told? ⟨"src/A.php"⟩ = some x ∧ third.1.told? ⟨"src/A.php"⟩ = some y ∧
      Alike x y := by
  intro changed first second third
  have distinguished : Distinguished [⟨#[97]⟩, ⟨#[]⟩] := by
    unfold Distinguished
    decide +kernel
  have started : sampleAnalyzer.Reachable Rule.standard sampleGrammar [⟨#[97]⟩, ⟨#[]⟩] := .fresh rfl
  have firstReached : first.2.Reachable Rule.standard sampleGrammar [⟨#[97]⟩, ⟨#[]⟩] :=
    .analyzed started (sample_readable _ (.inl rfl))
  have sameFiles : ∀ path ∈ sampleScan.reverse, path ∈ sampleScan := by decide
  have secondReached : second.2.Reachable Rule.standard sampleGrammar [⟨#[97]⟩, ⟨#[]⟩] :=
    .analyzed firstReached fun path member =>
      sample_readable _ (.inl rfl) path (sameFiles path member)
  have scan : first.2.scanner.scan sampleFiles ⟨"src"⟩ = sampleScan := scan_sampleFiles
  have there : sampleFiles.root.at? ["src", "B.php"] = some (.file ⟨#[]⟩) := by rfl
  have located : sampleFiles.locate true ⟨"src/A.php"⟩ = .found ["src", "A.php"] := by rfl
  have each := reports_each_alone distinguished firstReached sampleFiles ⟨"src"⟩ true
  simp only [scan] at each
  obtain ⟨-, tells, stays⟩ := each
  obtain ⟨sameScan, unmoved⟩ := stays ["src", "B.php"] ⟨#[]⟩ ⟨#[97]⟩ [] there
  refine ⟨sampleFiles_proper, scan, ?_, there, sameScan, ?_⟩
  · exact (tells _ (sample_readable _ (.inl rfl))).2 _ id (List.reverse_perm sampleScan)
  · refine unmoved second.2 secondReached sampleFiles_proper (sample_readable _ (.inl rfl))
      (sample_readable _ (.inr rfl)) _ id _ id (List.reverse_perm sampleScan) (.refl sampleScan)
      ⟨"src/A.php"⟩ (by decide) ?_
    rw [located]
    simp

end Analyzer

end ClassGraph
