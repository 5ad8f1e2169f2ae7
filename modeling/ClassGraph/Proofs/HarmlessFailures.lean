import ClassGraph.Proofs.DeclarationScans
import ClassGraph.Proofs.LastingBuilds

namespace ClassGraph

/-- How often the grammar was called when an error arose: reading comes before it. -/
def SourceError.calls : SourceError → Nat
  | unreadable _ _ => 0
  | malformed _ _ | noTree _ => 1

theorem Grammar.calls_of_parse {grammar : Grammar} {path : Pathname} {bytes : ByteArray}
    {error : SourceError} (failed : grammar.parse path bytes = .error error) : error.calls = 1 := by
  unfold parse at failed
  split at failed
  · cases failed
    rfl
  · split at failed
    · cases failed
      rfl
    · cases failed

/-- Fetching fails only where a build fails, and then nothing changes. -/
theorem Cache.fetch_failed {cache : Cache} {victim id : Nat} {key : CacheKey}
    {build : Unit → Except SourceError FileRecord} {error : SourceError}
    (failed : (cache.fetch victim id key build).answer = .error error) :
    build () = .error error ∧
      cache.fetch victim id key build = { answer := .error error, built := true, cache } := by
  unfold fetch at failed ⊢
  split at failed
  · cases failed
  · split at failed
    · cases failed
    · split at failed
      · rename_i refused
        cases failed
        exact ⟨refused, rfl⟩
      · cases failed

namespace Indexer

theorem parse_of_build {rules : List Rule} {grammar : Grammar} {path : Pathname}
    {countsImports : Bool} {bytes : ByteArray} {error : SourceError}
    (failed : build rules grammar path countsImports bytes = .error error) :
    grammar.parse path bytes = .error error := by
  rw [build] at failed
  cases parsed : grammar.parse path bytes with
  | error cause =>
    rw [parsed] at failed
    cases failed
    rfl
  | ok source =>
    rw [parsed] at failed
    cases failed

theorem calls_of_readFile {read : FileReader} {path : Pathname} {error : SourceError}
    (failed : readFile read path = .error error) : error.calls = 0 := by
  unfold readFile at failed
  split at failed
  · cases failed
  · cases failed
    rfl

/-- An ingest that fails only counts the call of the grammar, if it made one. -/
theorem ingest_failed {indexer : Indexer} {grammar : Grammar} {read : FileReader}
    {directory : CacheDirectory} {victim id : Nat} {path : Pathname} {countsImports : Bool}
    {error : SourceError}
    (failed : (indexer.ingest grammar read directory victim id path countsImports).answer =
      .error error) :
    indexer.ingest grammar read directory victim id path countsImports =
      { answer := .error error
        indexer := { indexer with parses := indexer.parses + error.calls }
        directory } := by
  simp only [ingest] at failed ⊢
  cases found : readFile read path with
  | error cause =>
    simp only [found] at failed
    cases failed
    rw [calls_of_readFile found]
    rfl
  | ok bytes =>
    simp only [found] at failed
    obtain ⟨refused, fetched⟩ := Cache.fetch_failed failed
    simp only [fetched, if_true, Grammar.calls_of_parse (parse_of_build refused)]

/-- A search that fails only counts the call of the grammar, if it made one. -/
theorem declarationOf_failed {indexer : Indexer} {grammar : Grammar} {read : FileReader}
    {name : String} {owner : Option Pathname} {error : SourceError}
    (failed : (indexer.declarationOf grammar read name owner).1 = .error error) :
    (∃ path, indexer.fileToScan name owner = some path) ∧
      indexer.declarationOf grammar read name owner =
        (.error error, { indexer with parses := indexer.parses + error.calls }) := by
  have lookUp := indexer.lookUp_declarationOf grammar read name owner
  generalize indexer.declarationOf grammar read name owner = found at lookUp failed ⊢
  cases lookUp with
  | idle idle => cases failed
  | unreadable toScan absent =>
    cases failed
    exact ⟨⟨_, toScan⟩, rfl⟩
  | malformed toScan there refused =>
    cases failed
    rw [Grammar.calls_of_parse refused]
    exact ⟨⟨_, toScan⟩, rfl⟩
  | scanned toScan there parsed => cases failed

/-- What an ingest comes to does not depend on how many calls were counted before. -/
theorem ingest_recounted (indexer : Indexer) (grammar : Grammar) (read : FileReader)
    (directory : CacheDirectory) (victim id : Nat) (path : Pathname) (countsImports : Bool) :
    ∃ answer memory directory' calls, ∀ parses,
      ({ indexer with parses } : Indexer).ingest grammar read directory victim id path
          countsImports =
        { answer
          indexer := { indexer with memory, parses := parses + calls }
          directory := directory' } := by
  simp only [ingest]
  cases readFile read path with
  | error error => exact ⟨.error error, indexer.memory, directory, 0, fun parses => rfl⟩
  | ok bytes =>
    simp only
    generalize Cache.fetch _ victim id _ _ = fetched
    refine ⟨fetched.answer, fetched.cache.memory, fetched.cache.directory,
      if fetched.built then 1 else 0, fun parses => ?_⟩
    cases fetched.built <;> rfl

theorem declarationOf_recounted (indexer : Indexer) (grammar : Grammar) (read : FileReader)
    (name : String) (owner : Option Pathname) :
    ∃ answer declarations calls, ∀ parses,
      ({ indexer with parses } : Indexer).declarationOf grammar read name owner =
        (answer, { indexer with declarations, parses := parses + calls }) := by
  have sameFile (parses : Nat) : ({ indexer with parses } : Indexer).fileToScan name owner =
      indexer.fileToScan name owner := rfl
  simp only [declarationOf, sameFile]
  cases indexer.fileToScan name owner with
  | none => exact ⟨_, indexer.declarations, 0, fun parses => rfl⟩
  | some path =>
    simp only [scanFile]
    cases readFile read path with
    | error error => exact ⟨.error error, indexer.declarations, 0, fun parses => rfl⟩
    | ok bytes =>
      cases parsed : grammar.parse path bytes with
      | error error =>
        refine ⟨.error error, indexer.declarations, 1, fun parses => ?_⟩
        simp only [parsed]
        rfl
      | ok source =>
        refine ⟨.ok ((indexer.declarations.scan source).get? name),
          indexer.declarations.scan source, 1, fun parses => ?_⟩
        simp only [parsed]
        rfl

end Indexer

/-- Putting back what a shelf has changes nothing. -/
theorem Shelf.set_get (shelf : Shelf) (slot : Option Slot) :
    shelf.set (shelf.get slot) slot = shelf := by
  rcases slot with _ | _ | _ <;> rfl

/-- Steps that ask for a record or a declaration. -/
def Step.asks : Step → Bool
  | ingest _ _ _ | declaration _ => true
  | _ => false

namespace Session

/-- A session that has counted other numbers of calls and of readings. -/
def recount (s : Session) (parses reads : Nat) : Session :=
  { s with indexer := { s.indexer with parses }, reads }

theorem receive_recount (s : Session) (parses reads : Nat) (handle : Option String)
    (answer : Except SourceError Shared) :
    (s.recount parses reads).receive handle answer =
      (s.receive handle answer).recount parses reads := by
  cases answer with
  | error error => rfl
  | ok shared =>
    have issued : (s.recount parses reads).issue shared = (s.issue shared).recount parses reads := by
      by_cases new : shared.id = s.issued
      · rw [issue, issue, if_pos new, if_pos (by exact new)]
        rfl
      · rw [issue, issue, if_neg new, if_neg (by exact new)]
    rw [receive, receive, issued]
    cases handle <;> rfl

/-- An ingest calls the grammar as often as in a session that has counted otherwise, and comes to the
same. -/
theorem step_ingest_recount (s : Session) (grammar : Grammar) (victim : Nat) (path : Pathname)
    (countsImports : Bool) (handle : Option String) :
    ∃ answer next calls, ∀ parses reads,
      (s.recount parses reads).step grammar victim (.ingest path countsImports handle) =
        (answer, recount next (parses + calls) (reads + 1)) := by
  obtain ⟨answer, memory, directory, calls, same⟩ := s.indexer.ingest_recounted grammar s.reader
    s.directory victim s.issued path countsImports
  refine ⟨.ofResult answer, Session.receive { s with
    indexer := { s.indexer with memory }
    shelf := s.shelf.set directory s.slot } handle answer, calls, fun parses reads => ?_⟩
  have ingested : (s.recount parses reads).indexer.ingest grammar (s.recount parses reads).reader
      (s.recount parses reads).directory victim (s.recount parses reads).issued path countsImports =
        _ := same parses
  simp only [step, ingest, ingested, ← receive_recount]
  rfl

theorem step_declaration_recount (s : Session) (grammar : Grammar) (victim : Nat)
    (choice : ClassChoice) (parses reads : Nat) : ∃ parses' reads',
      (s.recount parses reads).step grammar victim (.declaration choice) =
        ((s.step grammar victim (.declaration choice)).1,
          (s.step grammar victim (.declaration choice)).2.recount parses' reads') := by
  have sameChoice : (s.recount parses reads).choose? choice = s.choose? choice := by
    cases choice <;> rfl
  cases chosen : s.choose? choice with
  | none =>
    rw [chosen] at sameChoice
    refine ⟨parses, reads, ?_⟩
    simp only [step, declaration, chosen, sameChoice]
  | some pair =>
    obtain ⟨c, owner⟩ := pair
    rw [chosen] at sameChoice
    obtain ⟨answer, declarations, calls, same⟩ := s.indexer.declarationOf_recounted grammar s.reader
      c.name (owner.map (·.file.path))
    obtain ⟨_, stepped⟩ := step_declaration chosen grammar victim
    obtain ⟨reads', recounted⟩ := step_declaration sameChoice grammar victim
    have here := same s.indexer.parses
    have there : (s.recount parses reads).indexer.declarationOf grammar
        (s.recount parses reads).reader c.name (owner.map (·.file.path)) = _ := same parses
    rw [here] at stepped
    rw [there] at recounted
    rw [stepped, recounted]
    exact ⟨parses + calls, reads', rfl⟩

/-- No step looks at the counters. -/
theorem step_recount (s : Session) (grammar : Grammar) (victim : Nat) (step : Step)
    (parses reads : Nat) : ∃ parses' reads', (s.recount parses reads).step grammar victim step =
      ((s.step grammar victim step).1, (s.step grammar victim step).2.recount parses' reads') := by
  cases step with
  | ingest path countsImports handle =>
    obtain ⟨answer, next, calls, same⟩ :=
      step_ingest_recount s grammar victim path countsImports handle
    have own : s.step grammar victim (.ingest path countsImports handle) = _ :=
      same s.indexer.parses s.reads
    rw [own, same]
    exact ⟨parses + calls, reads + 1, rfl⟩
  | declaration choice => exact step_declaration_recount s grammar victim choice parses reads
  | keep handle className name =>
    simp only [Session.step, recount]
    split
    · exact ⟨_, _, rfl⟩
    · split <;> exact ⟨_, _, rfl⟩
  | enter key build handle =>
    refine ⟨parses, reads, ?_⟩
    simp only [Session.step, enter, ← receive_recount]
    rfl
  | tamper place tampering =>
    have listed : (s.recount parses reads).listed = s.listed := rfl
    simp only [Session.step, tamper, listed]
    split <;> exact ⟨_, _, rfl⟩
  | block place =>
    have listed : (s.recount parses reads).listed = s.listed := rfl
    simp only [Session.step, listed]
    split <;> exact ⟨_, _, rfl⟩
  | renew setup => exact ⟨0, reads, rfl⟩
  | _ => exact ⟨parses, reads, rfl⟩

/-- Whatever was counted before, a run gives the same answers. -/
theorem run_recount (s : Session) (parses reads : Nat) (grammar : Grammar)
    (steps : List (Step × Nat)) :
    ((s.recount parses reads).run grammar steps).1.map (·.1) =
      (s.run grammar steps).1.map (·.1) := by
  induction steps generalizing s parses reads with
  | nil => rfl
  | cons entry steps ih =>
    have unfolded (s : Session) : (s.run grammar (entry :: steps)).1.map (·.1) =
        (s.step grammar entry.2 entry.1).1 ::
          ((s.step grammar entry.2 entry.1).2.run grammar steps).1.map (·.1) := rfl
    obtain ⟨parses', reads', same⟩ := step_recount s grammar entry.2 entry.1 parses reads
    rw [unfolded, unfolded, same, ih]

/-- A request that fails changes nothing but the counters. -/
theorem step_failed {s : Session} {grammar : Grammar} {victim : Nat} {step : Step}
    (asks : step.asks = true) {error : SourceError}
    (failed : (s.step grammar victim step).1 = .failed error) :
    (s.step grammar victim step).2 =
      s.recount (s.indexer.parses + error.calls) (s.reads + 1) := by
  cases step with
  | ingest path countsImports handle =>
    simp only [Session.step, ingest] at failed ⊢
    cases answer : (s.indexer.ingest grammar s.reader s.directory victim s.issued path
        countsImports).answer with
    | ok shared =>
      rw [answer] at failed
      cases failed
    | error cause =>
      rw [answer] at failed
      cases failed
      rw [Indexer.ingest_failed answer, directory, Shelf.set_get]
      rfl
  | declaration choice =>
    cases chosen : s.choose? choice with
    | none =>
      simp only [Session.step, declaration, chosen] at failed
      cases failed
    | some pair =>
      obtain ⟨c, owner⟩ := pair
      simp only [Session.step, declaration, chosen] at failed ⊢
      cases answer : (s.indexer.declarationOf grammar s.reader c.name
          (owner.map (·.file.path))).1 with
      | ok found =>
        rw [answer] at failed
        cases found <;> cases failed
      | error cause =>
        rw [answer] at failed
        cases failed
        obtain ⟨⟨path, toScan⟩, unchanged⟩ := Indexer.declarationOf_failed answer
        rw [unchanged, toScan]
        rfl
  | _ => cases asks

/-- Putting a content into the store and ingesting it comes to the same in a session that has counted
otherwise, and calls the grammar in both sessions or in none. -/
theorem put_ingest_recount (s : Session) (parses reads : Nat) (grammar : Grammar) (victim : Nat)
    (path : Pathname) (bytes : ByteArray) (countsImports : Bool) (handle : Option String) :
    let put (s : Session) := (s.step grammar victim (.put path bytes)).2
    let again := (put (s.recount parses reads)).step grammar victim
      (.ingest path countsImports handle)
    let plain := (put s).step grammar victim (.ingest path countsImports handle)
    again.1 = plain.1 ∧ (again.2.indexer.parses = parses ↔
      plain.2.indexer.parses = s.indexer.parses) := by
  intro put again plain
  obtain ⟨answer, next, calls, same⟩ :=
    step_ingest_recount (put s) grammar victim path countsImports handle
  have here : again = (answer, recount next (parses + calls) (reads + 1)) := same parses reads
  have there : plain = (answer, recount next (s.indexer.parses + calls) (s.reads + 1)) :=
    same s.indexer.parses s.reads
  rw [here, there]
  refine ⟨rfl, ?_⟩
  show parses + calls = parses ↔ s.indexer.parses + calls = s.indexer.parses
  omega

/-- A class that is not known is searched for in the file that owns it, if this is not scanned. -/
theorem step_declaration_scans {s : Session} {choice : ClassChoice} {c : ClassRecord} {owner : Shared}
    (chosen : s.choose? choice = some (c, some owner))
    (unknown : s.indexer.declarations.get? c.name = none)
    (new : s.indexer.declarations.hasScanned owner.file.path = false) {bytes : ByteArray}
    (content : s.content? owner.file.path = some bytes) {grammar : Grammar} {source : SourceFile}
    (parsed : grammar.parse owner.file.path bytes = .ok source) (victim : Nat) :
    let next := s.step grammar victim (.declaration choice)
    let scanned := s.indexer.declarations.scan source
    next.1 = .ofLookUp (.ok (scanned.get? c.name)) ∧ next.2.indexer.declarations = scanned ∧
      next.2.indexer.parses = s.indexer.parses + 1 := by
  intro next scanned
  obtain ⟨reads, stepped⟩ := step_declaration chosen grammar victim
  have toScan : s.indexer.fileToScan c.name (some owner.file.path) = some owner.file.path :=
    Indexer.fileToScan_eq_some.mpr ⟨unknown, rfl, new⟩
  have read : Indexer.readFile s.reader owner.file.path = .ok bytes := by
    rw [Indexer.readFile, reader_eq_ok.mpr content]
  have found : s.indexer.declarationOf grammar s.reader c.name (some owner.file.path) =
      (.ok (scanned.get? c.name), { s.indexer with
        parses := s.indexer.parses + 1
        declarations := scanned }) := by
    simp only [Indexer.declarationOf, toScan, Indexer.scanFile, read, parsed]
    rfl
  rw [Option.map_some, found] at stepped
  simp only [next, stepped, and_self]

/-- A search that fails was for a class whose file is alive and not scanned. -/
theorem unscanned_of_failed {s : Session} {grammar : Grammar} {victim : Nat} {choice : ClassChoice}
    {error : SourceError} (failed : (s.step grammar victim (.declaration choice)).1 = .failed error) :
    ∃ c shared, s.choose? choice = some (c, some shared) ∧
      s.indexer.declarations.hasScanned shared.file.path = false := by
  cases chosen : s.choose? choice with
  | none =>
    simp only [step, declaration, chosen] at failed
    cases failed
  | some pair =>
    obtain ⟨c, owner⟩ := pair
    obtain ⟨_, stepped⟩ := step_declaration chosen grammar victim
    rw [stepped] at failed
    have refused : (s.indexer.declarationOf grammar s.reader c.name
        (owner.map (·.file.path))).1 = .error error := by
      generalize (s.indexer.declarationOf grammar s.reader c.name _).1 = answer at failed
      cases answer with
      | error cause =>
        cases failed
        rfl
      | ok found => cases found <;> cases failed
    obtain ⟨⟨path, toScan⟩, -⟩ := Indexer.declarationOf_failed refused
    obtain ⟨-, owned, new⟩ := Indexer.fileToScan_eq_some.mp toScan
    obtain ⟨shared, rfl, rfl⟩ := Option.map_eq_some_iff.mp owned
    exact ⟨c, shared, rfl, new⟩

end Session

theorem DeclarationIndex.hasScanned_congr (index : DeclarationIndex) {p q : Pathname}
    (same : p.same q = true) : index.hasScanned p = index.hasScanned q := by
  have equal : p.same = q.same := funext fun other => Pathname.same_congr same
  rw [hasScanned, hasScanned, equal]

/-- An ingest or a search for a declaration that fails, for whatever reader of files and in whatever
state, leaves the memory cache, the directory, the declarations and the scanned files as they were,
and counts a call of the grammar unless the file could not be read. In a session, whatever follows is
then answered as if nothing had been tried. So a content that is put back and ingested again brings
the same record and calls the grammar just as it would have done, and a file whose scan failed is
scanned when a class of it is searched for again. -/
theorem Session.failures_harmless (grammar : Grammar) :
    (∀ (indexer : Indexer) (read : FileReader) (directory : CacheDirectory) (victim id : Nat)
      (path : Pathname) (countsImports : Bool) (error : SourceError),
      let ingested := indexer.ingest grammar read directory victim id path countsImports
      ingested.answer = .error error → ingested.directory = directory ∧
        ingested.indexer = { indexer with parses := indexer.parses + error.calls }) ∧
    (∀ (indexer : Indexer) (read : FileReader) (name : String) (owner : Option Pathname)
      (error : SourceError),
      let found := indexer.declarationOf grammar read name owner
      found.1 = .error error →
        found.2 = { indexer with parses := indexer.parses + error.calls }) ∧
    ∀ (s : Session) (victim : Nat) (step : Step) (error : SourceError), step.asks = true →
      let failed := s.step grammar victim step
      failed.1 = .failed error →
      failed.2.shelf = s.shelf ∧
      failed.2.indexer = { s.indexer with parses := s.indexer.parses + error.calls } ∧
      (∀ later, (failed.2.run grammar later).1.map (·.1) = (s.run grammar later).1.map (·.1)) ∧
      (∀ path bytes countsImports handle victim,
        let put (s : Session) := (s.step grammar victim (.put path bytes)).2
        let again := (put failed.2).step grammar victim (.ingest path countsImports handle)
        let plain := (put s).step grammar victim (.ingest path countsImports handle)
        again.1 = plain.1 ∧ (again.2.indexer.parses = failed.2.indexer.parses ↔
          plain.2.indexer.parses = s.indexer.parses)) ∧
      ∀ choice, step = .declaration choice →
        ∃ c shared, s.choose? choice = some (c, some shared) ∧
          ∀ other c owner bytes source victim, s.choose? other = some (c, some owner) →
            s.indexer.declarations.get? c.name = none →
            owner.file.path.same shared.file.path = true →
            grammar.parse owner.file.path bytes = .ok source →
            let put := (failed.2.step grammar victim (.put shared.file.path bytes)).2
            let again := put.step grammar victim (.declaration other)
            let scanned := s.indexer.declarations.scan source
            again.1 = .ofLookUp (.ok (scanned.get? c.name)) ∧
              again.2.indexer.declarations = scanned ∧
              again.2.indexer.parses = failed.2.indexer.parses + 1 := by
  refine ⟨?_, ?_, ?_⟩
  · intro indexer read directory victim id path countsImports error ingested failed
    have unchanged : ingested = _ := Indexer.ingest_failed failed
    rw [unchanged]
    exact ⟨rfl, rfl⟩
  · intro indexer read name owner error found failed
    exact congrArg Prod.snd (Indexer.declarationOf_failed failed).2
  · intro s victim step error asks failed isFailed
    have unchanged : failed.2 = s.recount (s.indexer.parses + error.calls) (s.reads + 1) :=
      step_failed asks isFailed
    rw [unchanged]
    refine ⟨rfl, rfl, s.run_recount _ _ grammar, ?_, ?_⟩
    · intro path bytes countsImports handle victim
      exact put_ingest_recount s _ _ grammar victim path bytes countsImports handle
    · rintro choice rfl
      obtain ⟨c, shared, chosen, new⟩ := unscanned_of_failed isFailed
      refine ⟨c, shared, chosen, ?_⟩
      intro other c owner bytes source victim otherChosen unknown same parsed put again scanned
      have stillChosen : put.choose? other = some (c, some owner) := by
        rw [← otherChosen]
        cases other <;> rfl
      have content : put.content? owner.file.path = some bytes := by
        refine (content?_put _ shared.file.path owner.file.path bytes).trans (if_pos ?_)
        rw [Pathname.same_comm]
        exact same
      have unscanned : put.indexer.declarations.hasScanned owner.file.path = false := by
        rw [DeclarationIndex.hasScanned_congr _ same]
        exact new
      exact step_declaration_scans stillChosen unknown unscanned content parsed victim

namespace Session

/-- A file is ingested and then written so that it has no tree. -/
def brokenRun : List (Step × Nat) :=
  [(.put ⟨"src/A.php"⟩ ⟨#[97]⟩, 0), (.ingest ⟨"src/A.php"⟩ false (some "a"), 0),
   (.put ⟨"src/A.php"⟩ ⟨#[98, 99, 100]⟩, 0)]

theorem failures_harmless_brokenRun :
    let s := (start { limit := some 1 }).behind shortOnly brokenRun
    let path : Pathname := ⟨"src/A.php"⟩
    let put (s : Session) := (s.step shortOnly 0 (.put path ⟨#[97]⟩)).2
    let ingested := s.step shortOnly 0 (.ingest path false none)
    let again := (put ingested.2).step shortOnly 0 (.ingest path false none)
    let searched := s.step shortOnly 0 (.declaration (.ofHandle "a" "A"))
    (∃ error, ingested.1 = .failed error) ∧ ingested.2.shelf = s.shelf ∧
    again.1 = ((put s).step shortOnly 0 (.ingest path false none)).1 ∧
    again.2.indexer.parses = ingested.2.indexer.parses ∧
    (∃ error, searched.1 = .failed error) ∧
    ((put searched.2).step shortOnly 0 (.declaration (.ofHandle "a" "A"))).2.indexer.parses =
      searched.2.indexer.parses + 1 := by
  intro s path put ingested again searched
  have fails {answer : Answer} (isFailure : answer.isFailure = true) :
      ∃ error, answer = .failed error := by
    cases answer <;> cases isFailure
    exact ⟨_, rfl⟩
  obtain ⟨ingestError, ingestFails⟩ : ∃ error, ingested.1 = .failed error :=
    fails (by decide +kernel)
  obtain ⟨searchError, searchFails⟩ : ∃ error, searched.1 = .failed error :=
    fails (by decide +kernel)
  have uncalled : ((put s).step shortOnly 0 (.ingest path false none)).2.indexer.parses =
      s.indexer.parses := by decide +kernel
  have chosen : s.choose? (.ofHandle "a" "A") =
      some (⟨"A", []⟩, some ⟨0, { path, classes := [⟨"A", []⟩] }⟩) := by decide +kernel
  obtain ⟨-, -, harmless⟩ := failures_harmless shortOnly
  obtain ⟨shelf, -, -, back, -⟩ := harmless s 0 _ _ rfl ingestFails
  obtain ⟨sameAnswer, sameCalls⟩ := back path ⟨#[97]⟩ false none 0
  obtain ⟨-, -, -, -, scans⟩ := harmless s 0 _ _ rfl searchFails
  obtain ⟨c, owner, isChosen, later⟩ := scans _ rfl
  cases Option.some.inj (chosen.symm.trans isChosen)
  have scanned := later (.ofHandle "a" "A") _ _ ⟨#[97]⟩ _ 0 chosen rfl (Pathname.same_refl _) rfl
  exact ⟨⟨_, ingestFails⟩, shelf, sameAnswer, sameCalls.mpr uncalled, ⟨_, searchFails⟩, scanned.2.2⟩

end Session

end ClassGraph
