import ClassGraph.Proofs.AmortisedParses
import ClassGraph.Proofs.Transparency

namespace ClassGraph

/-- A record that came of a call of the grammar: the directory and the rules of the indexer that built
it, and what it was built for. -/
structure Build where
  slot : Option Slot
  rules : List Rule
  key : CacheKey
  file : FileRecord
deriving DecidableEq, Repr

namespace Build

/-- The latest of several builds that is one of a path, as the path is spelled. -/
def latest? (past : List Build) (path : Pathname) : Option Build :=
  past.reverse.find? (·.key.path = path)

/-- Whether the bytes that are written for a build are read back. -/
def IsReadBack (build : Build) : Prop :=
  StoredRecord.decode (StoredRecord.ofRecord build.key.fingerprint build.file).encode =
    some (.ofRecord build.key.fingerprint build.file)

instance (build : Build) : Decidable build.IsReadBack :=
  inferInstanceAs (Decidable (_ = _))

theorem latest?_concat (past : List Build) (last : Build) (path : Pathname) :
    latest? (past ++ [last]) path =
      if last.key.path = path then some last else latest? past path := by
  rw [latest?, List.reverse_append, List.reverse_singleton, List.singleton_append, List.find?_cons]
  by_cases same : last.key.path = path <;> simp [same, latest?]

theorem of_latest? {past : List Build} {path : Pathname} {build : Build}
    (latest : latest? past path = some build) : build ∈ past ∧ build.key.path = path := by
  have spelled := List.find?_some latest
  exact ⟨List.mem_reverse.mp (List.mem_of_find?_eq_some latest), of_decide_eq_true spelled⟩

end Build

namespace CacheDirectory

/-- Whether a directory works for several paths: it is there, and no folder takes their names. -/
def Works (directory : CacheDirectory) (paths : List Pathname) : Prop :=
  ∃ entries, directory = some entries ∧
    ∀ path ∈ paths, ∀ inner, entries.lookup (entryName path) ≠ some (.folder inner)

theorem write_eq {entries : List (String × FileNode)} {name : String}
    (free : ∀ inner, entries.lookup name ≠ some (.folder inner)) (bytes : ByteArray) :
    write (some entries) name bytes = some (FileNode.setEntry name (.file bytes) entries) := by
  rw [write, Option.map_some]
  split
  · rename_i inner taken
    exact absurd taken (free inner)
  · rfl

theorem Works.write {directory : CacheDirectory} {paths : List Pathname}
    (works : directory.Works paths) {path : Pathname} (listed : path ∈ paths) (bytes : ByteArray) :
    (directory.write (entryName path) bytes).Works paths := by
  obtain ⟨entries, rfl, free⟩ := works
  refine ⟨_, write_eq (free path listed) bytes, ?_⟩
  intro other among inner
  rw [FileNode.lookup_setEntry]
  split
  · exact fun taken => nomatch taken
  · exact free other among inner

theorem read?_write {directory : CacheDirectory} {paths : List Pathname}
    (works : directory.Works paths) {path : Pathname} (listed : path ∈ paths) (bytes : ByteArray)
    (name : String) : (directory.write (entryName path) bytes).read? name =
      if name = entryName path then some bytes else directory.read? name := by
  obtain ⟨entries, rfl, free⟩ := works
  rw [write_eq (free path listed) bytes, read?, Option.bind_some, FileNode.lookup_setEntry]
  split
  · rfl
  · rfl

/-- What is stored under a name does not touch what is stored under another one. -/
theorem load?_store_of_ne {directory : CacheDirectory} {paths : List Pathname}
    (works : directory.Works paths) {key other : CacheKey} (listed : key.path ∈ paths)
    (different : entryName other.path ≠ entryName key.path) (file : FileRecord) :
    (directory.store key file).load? other = directory.load? other := by
  rw [load?, load?, store, read?_write works listed, if_neg different]

/-- A record that is stored for its key and read back is found for this key. -/
theorem load?_store {directory : CacheDirectory} {paths : List Pathname}
    (works : directory.Works paths) {key : CacheKey} (listed : key.path ∈ paths) {file : FileRecord}
    (ofPath : file.path = key.path) (ofFlag : file.countsImports = key.countsImports)
    (readBack : StoredRecord.decode (StoredRecord.ofRecord key.fingerprint file).encode =
      some (.ofRecord key.fingerprint file)) :
    (directory.store key file).load? key =
      some (StoredRecord.ofRecord key.fingerprint file).toRecord := by
  have answers : (StoredRecord.ofRecord key.fingerprint file).answers key.path key.fingerprint
      key.countsImports = true := by
    simp [StoredRecord.answers, StoredRecord.ofRecord, ofPath, ofFlag, Pathname.same_refl]
  rw [load?, store, read?_write works listed, if_pos rfl]
  simp only [Option.bind_eq_bind, Option.bind_some, readBack, answers, if_true]

end CacheDirectory

/-- A key that memory or the directory answers for is fetched without a build. -/
theorem Cache.fetch_known (cache : Cache) {key : CacheKey}
    (known : (cache.memory.get? key).isSome ∨ (cache.directory.load? key).isSome) (victim id : Nat) :
    ∃ shared memory, ∀ build, cache.fetch victim id key build =
      { answer := .ok shared, built := false, cache := { cache with memory } } := by
  cases held : cache.memory.get? key with
  | some shared =>
    refine ⟨shared, cache.memory, fun build => ?_⟩
    simp only [fetch, held]
  | none =>
    cases loaded : cache.directory.load? key with
    | some file =>
      refine ⟨⟨id, file⟩, cache.memory.insert victim key ⟨id, file⟩, fun build => ?_⟩
      simp only [fetch, held, loaded]
    | none =>
      rw [held, loaded] at known
      rcases known with impossible | impossible <;> cases impossible

/-- Where there is no directory, there is none behind a change of it. -/
theorem Shelf.get_set_own (shelf : Shelf) (slot : Option Slot)
    (change : CacheDirectory → CacheDirectory) (nowhere : change none = none) :
    (shelf.set (change (shelf.get slot)) slot).get slot = change (shelf.get slot) := by
  cases slot with
  | none => exact nowhere.symm
  | some slot => rw [Shelf.get_set, if_pos rfl]

/-- Steps that work over one directory and leave it to the ingests. -/
def Step.worksIn (slot : Slot) : Step → Bool
  | renew setup => setup.slot = some slot
  | step => step.isOrdinary

namespace Session

/-- The build that a step is: an ingest that calls the grammar and brings a record. -/
def build? (s : Session) (grammar : Grammar) (victim : Nat) (step : Step) : Option Build :=
  let next := s.step grammar victim step
  match step, next.1 with
  | .ingest path countsImports _, .record shared =>
    if next.2.indexer.parses = s.indexer.parses then none
    else (s.content? path).map fun bytes =>
      ⟨s.slot, s.indexer.rules, ⟨path, fingerprint bytes, countsImports⟩, shared.file⟩
  | _, _ => none

/-- The builds of a run, in order. -/
def builds (s : Session) (grammar : Grammar) : List (Step × Nat) → List Build
  | [] => []
  | (step, victim) :: rest =>
    (s.build? grammar victim step).toList ++ (s.step grammar victim step).2.builds grammar rest

/-- What ingesting a path can come to: the answer, the indexer and the directory behind it, and the
build that it is. -/
inductive Ingests (s : Session) (grammar : Grammar) (victim : Nat) (path : Pathname)
    (countsImports : Bool) : Answer → Indexer → CacheDirectory → Option Build → Prop
  | unreadable : s.content? path = none →
      Ingests s grammar victim path countsImports (.failed (.unreadable path .notInMemory)) s.indexer
        s.directory none
  | held {bytes shared} : s.content? path = some bytes →
      s.indexer.memory.get? ⟨path, fingerprint bytes, countsImports⟩ = some shared →
      Ingests s grammar victim path countsImports (.record shared) s.indexer s.directory none
  | loaded {bytes file} : s.content? path = some bytes →
      s.directory.load? ⟨path, fingerprint bytes, countsImports⟩ = some file →
      Ingests s grammar victim path countsImports (.record ⟨s.issued, file⟩)
        { s.indexer with
          memory := s.indexer.memory.insert victim ⟨path, fingerprint bytes, countsImports⟩
            ⟨s.issued, file⟩ }
        s.directory none
  | refused {bytes error} : s.content? path = some bytes →
      Ingests s grammar victim path countsImports (.failed error)
        { s.indexer with parses := s.indexer.parses + 1 } s.directory none
  | built {bytes file} : s.content? path = some bytes →
      Indexer.build s.indexer.rules grammar path countsImports bytes = .ok file →
      Ingests s grammar victim path countsImports (.record ⟨s.issued, file⟩)
        { s.indexer with
          memory := s.indexer.memory.insert victim ⟨path, fingerprint bytes, countsImports⟩
            ⟨s.issued, file⟩
          parses := s.indexer.parses + 1 }
        (s.directory.store ⟨path, fingerprint bytes, countsImports⟩ file)
        (some ⟨s.slot, s.indexer.rules, ⟨path, fingerprint bytes, countsImports⟩, file⟩)

theorem step_ingest (s : Session) (grammar : Grammar) (victim : Nat) (path : Pathname)
    (countsImports : Bool) (handle : Option String) :
    let ingested := s.indexer.ingest grammar s.reader s.directory victim s.issued path countsImports
    let next := s.step grammar victim (.ingest path countsImports handle)
    next.1 = .ofResult ingested.answer ∧ next.2.indexer = ingested.indexer ∧ next.2.slot = s.slot ∧
      next.2.shelf = s.shelf.set ingested.directory s.slot := by
  intro ingested next
  obtain ⟨handles, issued, received⟩ := receive_eq { s with
    indexer := ingested.indexer
    shelf := s.shelf.set ingested.directory s.slot
    reads := s.reads + 1 } handle ingested.answer
  have behind : next.2 = _ := received
  rw [behind]
  exact ⟨rfl, rfl, rfl, rfl⟩

/-- An ingest of what the directory has a record of brings a record, without a call of the grammar
and with the same outcome for every grammar. -/
theorem step_known {s : Session} {path : Pathname} {bytes : ByteArray} {countsImports : Bool}
    (content : s.content? path = some bytes)
    (known : (s.directory.load? ⟨path, fingerprint bytes, countsImports⟩).isSome)
    (grammar : Grammar) (victim : Nat) (handle : Option String) :
    let next := s.step grammar victim (.ingest path countsImports handle)
    (∃ shared, next.1 = .record shared) ∧ next.2.indexer.parses = s.indexer.parses ∧
      ∀ other, s.step other victim (.ingest path countsImports handle) = next := by
  intro next
  obtain ⟨shared, memory, fetched⟩ :=
    Cache.fetch_known ⟨s.indexer.memory, s.directory⟩ (.inr known) victim s.issued
  have read : Indexer.readFile s.reader path = .ok bytes := by rw [Indexer.readFile, reader, content]
  have ingested (grammar : Grammar) :
      s.indexer.ingest grammar s.reader s.directory victim s.issued path countsImports =
        ⟨.ok shared, { s.indexer with memory }, s.directory⟩ := by
    simp only [Indexer.ingest, read, fetched, Bool.false_eq_true, if_false]
  obtain ⟨answer, indexer, -, -⟩ := step_ingest s grammar victim path countsImports handle
  rw [ingested] at answer indexer
  refine ⟨⟨shared, answer⟩, ?_, fun other => ?_⟩
  · rw [indexer]
  · simp only [next, step, ingest, ingested]

/-- An ingest step comes to one of the five, and it touches no other directory than its own. -/
theorem ingests (s : Session) (grammar : Grammar) (victim : Nat) (path : Pathname)
    (countsImports : Bool) (handle : Option String) :
    let step := Step.ingest path countsImports handle
    let next := s.step grammar victim step
    s.Ingests grammar victim path countsImports next.1 next.2.indexer next.2.directory
        (s.build? grammar victim step) ∧
      next.2.slot = s.slot ∧ next.2.shelf = s.shelf.set next.2.directory s.slot := by
  intro step next
  obtain ⟨answer, indexer, slot, shelf⟩ := step_ingest s grammar victim path countsImports handle
  have directory : next.2.directory = next.2.shelf.get s.slot := by rw [Session.directory, slot]
  have unchanged (same : next.2.shelf = s.shelf.set s.directory s.slot) :
      next.2.directory = s.directory := by
    rw [directory, same]
    exact s.shelf.get_set_own s.slot id rfl
  cases stored : s.content? path with
  | none =>
    have read : Indexer.readFile s.reader path = .error (.unreadable path .notInMemory) := by
      rw [Indexer.readFile, reader, stored]
    simp only [Indexer.ingest, read, Answer.ofResult] at answer indexer shelf
    have build : s.build? grammar victim step = none := by simp only [build?, step, answer]
    rw [answer, indexer, unchanged shelf, build]
    exact ⟨.unreadable stored, slot, shelf⟩
  | some bytes =>
    have read : Indexer.readFile s.reader path = .ok bytes := by rw [Indexer.readFile, reader, stored]
    simp only [Indexer.ingest, read, Cache.fetch] at answer indexer shelf
    cases held : s.indexer.memory.get? ⟨path, fingerprint bytes, countsImports⟩ with
    | some shared =>
      simp only [held, Answer.ofResult, Bool.false_eq_true, if_false] at answer indexer shelf
      have build : s.build? grammar victim step = none := by simp [build?, step, answer, indexer]
      rw [answer, indexer, unchanged shelf, build]
      exact ⟨.held stored held, slot, shelf⟩
    | none =>
      cases loaded : s.directory.load? ⟨path, fingerprint bytes, countsImports⟩ with
      | some file =>
        simp only [held, loaded, Answer.ofResult, Bool.false_eq_true, if_false]
          at answer indexer shelf
        have build : s.build? grammar victim step = none := by simp [build?, step, answer, indexer]
        rw [answer, indexer, unchanged shelf, build]
        exact ⟨.loaded stored loaded, slot, shelf⟩
      | none =>
        cases result : Indexer.build s.indexer.rules grammar path countsImports bytes with
        | error error =>
          simp only [held, loaded, result, Answer.ofResult, if_true] at answer indexer shelf
          have build : s.build? grammar victim step = none := by simp only [build?, step, answer]
          rw [answer, indexer, unchanged shelf, build]
          exact ⟨.refused stored, slot, shelf⟩
        | ok file =>
          simp only [held, loaded, result, Answer.ofResult, if_true] at answer indexer shelf
          have build : s.build? grammar victim step = some ⟨s.slot, s.indexer.rules,
              ⟨path, fingerprint bytes, countsImports⟩, file⟩ := by
            simp [build?, step, answer, indexer, stored]
          have own : next.2.directory =
              s.directory.store ⟨path, fingerprint bytes, countsImports⟩ file := by
            rw [directory, shelf]
            exact s.shelf.get_set_own s.slot (·.store _ file) rfl
          rw [answer, indexer, own, build]
          exact ⟨.built stored result, slot, shelf⟩

/-- The directory changes only where there is a build, which is stored. -/
theorem Ingests.directory {s : Session} {grammar : Grammar} {victim : Nat} {path : Pathname}
    {countsImports : Bool} {answer : Answer} {indexer : Indexer} {directory : CacheDirectory}
    {build? : Option Build}
    (ingests : s.Ingests grammar victim path countsImports answer indexer directory build?) :
    build? = none ∧ directory = s.directory ∨
      ∃ build, build? = some build ∧ build.key.path = path ∧ build.file.path = build.key.path ∧
        build.file.countsImports = build.key.countsImports ∧
        directory = s.directory.store build.key build.file := by
  cases ingests with
  | built content result =>
    obtain ⟨ofPath, ofFlag⟩ := Indexer.build_key result
    exact .inr ⟨_, rfl, rfl, ofPath, ofFlag, rfl⟩
  | _ => exact .inl ⟨rfl, rfl⟩

/-- A directory that is there stays as it is for an indexer that is put to work over it. -/
theorem directory_renew {s : Session} {setup : Setup} {slot : Slot}
    {entries : List (String × FileNode)} (onSlot : setup.slot = some slot)
    (there : s.shelf.get (some slot) = some entries) : (s.renew setup).directory = some entries := by
  simp only [renew, directory, onSlot, there, Shelf.get_set, if_true]
  rfl

/-- The invariant of a run over one directory: the directory has the latest build of each path. -/
structure Keeps (slot : Slot) (paths : List Pathname) (past : List Build) (s : Session) : Prop where
  slot : s.slot = some slot
  works : s.directory.Works paths
  asked : ∀ build ∈ past, build.key.path ∈ paths
  held : ∀ path build, Build.latest? past path = some build →
    s.directory.load? build.key =
      some (StoredRecord.ofRecord build.key.fingerprint build.file).toRecord

namespace Keeps

variable {slot : Slot} {paths : List Pathname} {past : List Build} {s : Session}

theorem of_directory (keeps : Keeps slot paths past s) {s' : Session} (onSlot : s'.slot = some slot)
    (same : s'.directory = s.directory) : Keeps slot paths past s' := by
  refine ⟨onSlot, ?_, keeps.asked, ?_⟩
  · rw [same]
    exact keeps.works
  · rw [same]
    exact keeps.held

variable (apart : ∀ p ∈ paths, ∀ q ∈ paths,
  CacheDirectory.entryName p = CacheDirectory.entryName q → p = q)
include apart

/-- Storing a build puts it in the place of the latest one of its path, and of no other one. -/
theorem store (keeps : Keeps slot paths past s)
    {build : Build} (listed : build.key.path ∈ paths) (readBack : build.IsReadBack)
    (ofPath : build.file.path = build.key.path)
    (ofFlag : build.file.countsImports = build.key.countsImports)
    {s' : Session} (onSlot : s'.slot = some slot)
    (stored : s'.directory = s.directory.store build.key build.file) :
    Keeps slot paths (past ++ [build]) s' := by
  refine ⟨onSlot, ?_, ?_, ?_⟩
  · rw [stored]
    exact keeps.works.write listed _
  · intro member among
    rcases List.mem_append.mp among with earlier | isLast
    · exact keeps.asked member earlier
    · cases List.mem_singleton.mp isLast
      exact listed
  · intro path found latest
    rw [Build.latest?_concat] at latest
    rw [stored]
    split at latest
    · cases latest
      exact CacheDirectory.load?_store keeps.works listed ofPath ofFlag readBack
    · rename_i other
      obtain ⟨member, rfl⟩ := Build.of_latest? latest
      have different : CacheDirectory.entryName found.key.path ≠
          CacheDirectory.entryName build.key.path :=
        fun same => other (apart _ (keeps.asked found member) _ listed same).symm
      rw [CacheDirectory.load?_store_of_ne keeps.works listed different]
      exact keeps.held found.key.path found latest

theorem step (keeps : Keeps slot paths past s)
    (grammar : Grammar) (victim : Nat) {step : Step} (works : step.worksIn slot = true)
    (asked : ∀ path, step.asked? = some path → path ∈ paths)
    (readBack : ∀ build, s.build? grammar victim step = some build → build.IsReadBack) :
    Keeps slot paths (past ++ (s.build? grammar victim step).toList)
      (s.step grammar victim step).2 := by
  have unchanged (nothing : s.build? grammar victim step = none)
      (onSlot : (s.step grammar victim step).2.slot = some slot)
      (same : (s.step grammar victim step).2.directory = s.directory) :
      Keeps slot paths (past ++ (s.build? grammar victim step).toList)
        (s.step grammar victim step).2 := by
    rw [nothing, Option.toList_none, List.append_nil]
    exact keeps.of_directory onSlot same
  have quiet (silent : step.isQuiet = true) (nothing : s.build? grammar victim step = none) :
      Keeps slot paths (past ++ (s.build? grammar victim step).toList)
        (s.step grammar victim step).2 := by
    have change := change_step s grammar victim step
    generalize (s.step grammar victim step).2 = s' at change unchanged ⊢
    cases change with
    | quiet _ => exact unchanged nothing keeps.slot rfl
    | _ => cases silent
  cases step with
  | put p bytes => exact unchanged rfl keeps.slot rfl
  | remove p => exact unchanged rfl keeps.slot rfl
  | ingest path countsImports handle =>
    obtain ⟨ingested, sameSlot, -⟩ := ingests s grammar victim path countsImports handle
    have onSlot : (s.step grammar victim (.ingest path countsImports handle)).2.slot = some slot :=
      sameSlot.trans keeps.slot
    rcases ingested.directory with ⟨nothing, same⟩ | ⟨build, built, rfl, ofPath, ofFlag, stored⟩
    · exact unchanged nothing onSlot same
    · rw [built]
      exact keeps.store apart (asked _ rfl) (readBack build built) ofPath ofFlag onSlot stored
  | renew setup =>
    have onSlot : setup.slot = some slot := of_decide_eq_true works
    obtain ⟨entries, there, -⟩ := keeps.works
    rw [directory, keeps.slot] at there
    have same : (s.renew setup).directory = s.directory := by
      rw [directory_renew onSlot there, directory, keeps.slot, there]
    exact unchanged rfl onSlot same
  | clearCache => cases works
  | enter key build handle => cases works
  | tamper place tampering => cases works
  | block place => cases works
  | removeDirectory => cases works
  | _ => exact quiet rfl rfl

theorem behind (keeps : Keeps slot paths past s)
    {grammar : Grammar} {steps : List (Step × Nat)}
    (works : ∀ entry ∈ steps, entry.1.worksIn slot = true)
    (asked : ∀ path ∈ (steps.map (·.1)).filterMap Step.asked?, path ∈ paths)
    (readBack : ∀ build ∈ s.builds grammar steps, build.IsReadBack) :
    Keeps slot paths (past ++ s.builds grammar steps) (s.behind grammar steps) := by
  induction steps generalizing s past with
  | nil =>
    rw [builds, List.append_nil]
    exact keeps
  | cons entry steps ih =>
    rw [builds] at readBack ⊢
    rw [← List.append_assoc]
    have first := keeps.step apart grammar entry.2 (works entry List.mem_cons_self)
      (fun path isAsked => asked path (List.mem_filterMap.mpr ⟨entry.1, List.mem_cons_self, isAsked⟩))
      (fun build built => readBack build (List.mem_append_left _ (Option.mem_toList.mpr built)))
    refine ih first (fun later member => works later (List.mem_cons_of_mem entry member)) ?_
      (fun build member => readBack build (List.mem_append_right _ member))
    intro path member
    obtain ⟨step, among, isAsked⟩ := List.mem_filterMap.mp member
    exact asked path (List.mem_filterMap.mpr ⟨step, List.mem_cons_of_mem entry.1 among, isAsked⟩)

end Keeps

/-- In a run over one directory that works, in which the asked paths have different entry names, an
ingest of the content and with the flag that the latest build of its path was for brings a record and
does not call the grammar: any other grammar would make the same step of it. Whatever the memory
cache gave up or took on from another spelling of the path, and however often the indexer was
replaced, that build is in the directory. -/
theorem builds_last {s : Session} {slot : Slot} (onSlot : s.slot = some slot) {grammar : Grammar}
    {steps : List (Step × Nat)} (worksIn : ∀ entry ∈ steps, entry.1.worksIn slot = true)
    (works : s.directory.Works ((steps.map (·.1)).filterMap Step.asked?))
    (apart : ∀ p ∈ (steps.map (·.1)).filterMap Step.asked?,
      ∀ q ∈ (steps.map (·.1)).filterMap Step.asked?,
        CacheDirectory.entryName p = CacheDirectory.entryName q → p = q)
    (readBack : ∀ build ∈ s.builds grammar steps, build.IsReadBack)
    {path : Pathname} {build : Build}
    (latest : Build.latest? (s.builds grammar steps) path = some build) {bytes : ByteArray}
    (stored : (s.behind grammar steps).content? path = some bytes)
    (printed : fingerprint bytes = build.key.fingerprint) (countsImports : Bool)
    (flagged : countsImports = build.key.countsImports) (victim : Nat) (handle : Option String) :
    let now := s.behind grammar steps
    let next := now.step grammar victim (.ingest path countsImports handle)
    now.directory.load? build.key =
        some (StoredRecord.ofRecord build.key.fingerprint build.file).toRecord ∧
      (∃ shared, next.1 = .record shared) ∧ next.2.indexer.parses = now.indexer.parses ∧
      ∀ other, now.step other victim (.ingest path countsImports handle) = next := by
  intro now next
  have nothing : Keeps slot ((steps.map (·.1)).filterMap Step.asked?) [] s :=
    ⟨onSlot, works, List.forall_mem_nil _, fun _ _ latest => nomatch latest⟩
  have keeps := nothing.behind apart worksIn (fun _ member => member) readBack
  rw [List.nil_append] at keeps
  have key : build.key = ⟨path, fingerprint bytes, countsImports⟩ := by
    rw [printed, flagged, ← (Build.of_latest? latest).2]
  have held := keeps.held path build latest
  have known : (now.directory.load? ⟨path, fingerprint bytes, countsImports⟩).isSome := by
    rw [← key, held]
    rfl
  exact ⟨held, step_known stored known grammar victim handle⟩

/-- A file is ingested, then under another spelling and with the other flag, which takes its entry in
memory, and an indexer with fewer rules is put to work. -/
def respelledRun : List (Step × Nat) :=
  [(.put ⟨"src/A.php"⟩ ⟨#[97]⟩, 0), (.ingest ⟨"src/A.php"⟩ false none, 0),
   (.ingest ⟨"src//A.php"⟩ true none, 0),
   (.renew { slot := some .named, limit := some 1, rules := [.inheritance] }, 0)]

theorem builds_last_respelled :
    let s := (start { slot := some .named, limit := some 1 }).behind shortOnly respelledRun
    let next := s.step shortOnly 0 (.ingest ⟨"src/A.php"⟩ false none)
    s.directory.load? ⟨⟨"src/A.php"⟩, fingerprint ⟨#[97]⟩, false⟩ =
        some { path := ⟨"src/A.php"⟩, classes := [⟨"A", []⟩] } ∧
      (∃ shared, next.1 = .record shared) ∧ next.2.indexer.parses = s.indexer.parses ∧
      s.step (fun _ => none) 0 (.ingest ⟨"src/A.php"⟩ false none) = next := by
  intro s next
  have works : (start { slot := some .named, limit := some 1 }).directory.Works
      ((respelledRun.map (·.1)).filterMap Step.asked?) :=
    ⟨[], rfl, fun _ _ _ taken => nomatch taken⟩
  have apart : ∀ p ∈ (respelledRun.map (·.1)).filterMap Step.asked?,
      ∀ q ∈ (respelledRun.map (·.1)).filterMap Step.asked?,
        CacheDirectory.entryName p = CacheDirectory.entryName q → p = q := by
    decide +kernel
  have built :
      (∀ build ∈ (start { slot := some .named, limit := some 1 }).builds shortOnly respelledRun,
        build.IsReadBack) ∧
      Build.latest? ((start { slot := some .named, limit := some 1 }).builds shortOnly respelledRun)
        ⟨"src/A.php"⟩ = some ⟨some .named, Rule.standard,
          ⟨⟨"src/A.php"⟩, fingerprint ⟨#[97]⟩, false⟩,
          { path := ⟨"src/A.php"⟩, classes := [⟨"A", []⟩] }⟩ := by
    decide +kernel
  have stored : s.content? ⟨"src/A.php"⟩ = some ⟨#[97]⟩ :=
    (content?_behind _ shortOnly respelledRun _).trans (by decide +kernel)
  obtain ⟨held, answer, uncalled, anyGrammar⟩ := builds_last rfl (by decide) works apart built.1
    built.2 stored rfl false rfl 0 none
  refine ⟨held, answer, ?_, anyGrammar _⟩
  simpa only [s, next] using uncalled

end Session

end ClassGraph
