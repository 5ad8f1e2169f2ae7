import ClassGraph.Proofs.SessionHistory

namespace ClassGraph

namespace Step

/-- The content that a step puts into the store. -/
def content? : Step → Option ByteArray
  | put _ bytes => some bytes
  | _ => none

/-- The path whose record a step asks for. -/
def asked? : Step → Option Pathname
  | ingest path _ _ => some path
  | _ => none

/-- The setup that a step brings into force. -/
def setup? : Step → Option Setup
  | renew setup => some setup
  | _ => none

/-- Whether a step writes into the caches by hand. -/
def writesCache : Step → Bool
  | enter _ _ _ | tamper _ _ => true
  | _ => false

end Step

/-- What the answers of a run rest on. Nobody writes into the caches by hand, indexers that share a
directory have the same rules, the contents differ in their fingerprints, and what is written for a
build is read back. -/
structure Session.Orderly (grammar : Grammar) (rulesOf : Slot → List Rule) (setup : Setup)
    (steps : List Step) : Prop where
  unwritten : ∀ step ∈ steps, step.writesCache = false
  sharedRules : ∀ used ∈ setup :: steps.filterMap Step.setup?, ∀ slot, used.slot = some slot →
    used.rules = rulesOf slot
  distinguished : Distinguished (steps.filterMap Step.content?)
  readable : ∀ path ∈ steps.filterMap Step.asked?, ∀ bytes ∈ steps.filterMap Step.content?,
    ∀ slot, ReadBack (rulesOf slot) grammar path bytes

/-- The answer of an ingest step without any cache, from the content of its path. -/
inductive Answer.Uncached (grammar : Grammar) (rules : List Rule) (path : Pathname)
    (countsImports : Bool) : Option ByteArray → Answer → Prop
  | absent : Uncached grammar rules path countsImports none
      (.failed (.unreadable path .notInMemory))
  | treeless {bytes} : grammar bytes = none →
      Uncached grammar rules path countsImports (some bytes) (.failed (.noTree path))
  | malformed {bytes tree} : grammar bytes = some tree → tree.value.hasFault = true →
      Uncached grammar rules path countsImports (some bytes)
        (.failed (.malformed path tree.faultLine))
  | record {bytes tree shared} : grammar bytes = some tree → tree.value.hasFault = false →
      shared.file.same (.ofTree rules path countsImports tree) = true →
      Uncached grammar rules path countsImports (some bytes) (.record shared)

def Answer.ofResult : Except SourceError Shared → Answer
  | .ok shared => .record shared
  | .error error => .failed error

theorem Agrees.uncached {grammar : Grammar} {rules : List Rule} {path : Pathname}
    {countsImports : Bool} {bytes : ByteArray} {result : Except SourceError Shared}
    (agrees : Agrees result (Indexer.build rules grammar path countsImports bytes)) :
    Answer.Uncached grammar rules path countsImports (some bytes) (.ofResult result) := by
  unfold Indexer.build Grammar.parse at agrees
  split at agrees
  · rename_i parsed
    cases result with
    | ok shared => exact agrees.elim
    | error error => exact agrees ▸ .treeless parsed
  · rename_i tree parsed
    split at agrees
    · rename_i fault
      cases result with
      | ok shared => exact agrees.elim
      | error error => exact agrees ▸ .malformed parsed fault
    · rename_i sound
      cases result with
      | ok shared => exact .record parsed (Bool.eq_false_iff.mpr sound) agrees
      | error error => exact agrees.elim

/-- What one step of an orderly run rests on. -/
structure Step.Admissible (grammar : Grammar) (rulesOf : Slot → List Rule)
    (contents : List ByteArray) (step : Step) : Prop where
  unwritten : step.writesCache = false
  content : ∀ bytes, step.content? = some bytes → bytes ∈ contents
  setup : ∀ setup, step.setup? = some setup → ∀ slot, setup.slot = some slot →
    setup.rules = rulesOf slot
  readable : ∀ path, step.asked? = some path → ∀ bytes ∈ contents, ∀ slot,
    ReadBack (rulesOf slot) grammar path bytes

namespace Session

/-- The invariant of a run: whatever the caches hold was built from contents of the run, by the
rules that are in force where it is held. -/
structure Faithful (grammar : Grammar) (rulesOf : Slot → List Rule) (contents : List ByteArray)
    (s : Session) : Prop where
  store : ∀ entry ∈ s.store, entry.2 ∈ contents
  memory : ∀ entry ∈ s.indexer.memory.entries, entry.Faithful s.indexer.rules grammar contents
  shelf : ∀ slot, (s.shelf.get (some slot)).Faithful (rulesOf slot) grammar contents
  rules : ∀ slot, s.slot = some slot → s.indexer.rules = rulesOf slot

end Session

theorem Shelf.get_set (shelf : Shelf) (directory : CacheDirectory) (slot : Option Slot)
    (other : Slot) : (shelf.set directory slot).get (some other) =
      if slot = some other then directory else shelf.get (some other) := by
  rcases slot with _ | _ | _ <;> cases other <;> rfl

theorem CacheDirectory.not_holds_of_empty {directory : CacheDirectory}
    (empty : directory.getD [] = []) (bytes : ByteArray) : ¬directory.Holds bytes := by
  rintro ⟨entries, name, rfl, member⟩
  rw [Option.getD_some] at empty
  subst empty
  cases member

namespace Session.Faithful

variable {grammar : Grammar} {rulesOf : Slot → List Rule} {contents : List ByteArray} {s : Session}

theorem cache (faithful : s.Faithful grammar rulesOf contents) :
    Cache.Faithful s.indexer.rules grammar contents ⟨s.indexer.memory, s.directory⟩ := by
  refine ⟨faithful.memory, ?_⟩
  cases slot : s.slot with
  | none =>
    intro bytes holds
    rw [Session.directory, slot] at holds
    exact (CacheDirectory.not_holds_of_empty rfl bytes holds).elim
  | some place =>
    rw [faithful.rules place slot]
    simpa only [Session.directory, slot] using faithful.shelf place

/-- Putting a directory that is faithful to its rules on the shelf keeps the shelf faithful. -/
theorem set_shelf (faithful : s.Faithful grammar rulesOf contents) {directory : CacheDirectory}
    {slot : Option Slot}
    (new : ∀ place, slot = some place → directory.Faithful (rulesOf place) grammar contents)
    (place : Slot) :
    ((s.shelf.set directory slot).get (some place)).Faithful (rulesOf place) grammar contents := by
  rw [Shelf.get_set]
  split
  · exact new place ‹_›
  · exact faithful.shelf place

theorem content_mem (faithful : s.Faithful grammar rulesOf contents) {path : Pathname}
    {bytes : ByteArray} (stored : s.content? path = some bytes) : bytes ∈ contents := by
  obtain ⟨entry, found, rfl⟩ := Option.map_eq_some_iff.mp stored
  exact faithful.store entry (List.mem_of_find?_eq_some found)

theorem renew (faithful : s.Faithful grammar rulesOf contents) {setup : Setup}
    (obeys : ∀ slot, setup.slot = some slot → setup.rules = rulesOf slot) :
    (s.renew setup).Faithful grammar rulesOf contents := by
  refine ⟨faithful.store, ?_, ?_, obeys⟩
  · have fresh : (s.renew setup).indexer.memory.entries = [] := by
      simp only [Session.renew]
      cases setup.limit <;> rfl
    simp [fresh]
  · refine faithful.set_shelf ?_
    rintro place same bytes ⟨entries, name, made, member⟩
    rw [same] at made
    cases there : s.shelf.get (some place) with
    | none =>
      rw [there] at made
      cases made
      cases member
    | some old =>
      rw [there] at made
      cases made
      exact faithful.shelf place bytes ⟨_, name, there, member⟩

theorem start (grammar : Grammar) (contents : List ByteArray) {setup : Setup}
    (obeys : ∀ slot, setup.slot = some slot → setup.rules = rulesOf slot) :
    (Session.start setup).Faithful grammar rulesOf contents := by
  have nothing : Session.Faithful grammar rulesOf contents {} := by
    refine ⟨by simp, by simp, ?_, by simp⟩
    intro slot bytes holds
    refine (CacheDirectory.not_holds_of_empty ?_ bytes holds).elim
    cases slot <;> rfl
  exact nothing.renew obeys

/-- One ingest: the answer is that of an uncached build, and the caches stay faithful. -/
theorem ingest (faithful : s.Faithful grammar rulesOf contents)
    (distinguished : Distinguished contents) {path : Pathname}
    (readable : ∀ bytes ∈ contents, ∀ slot, ReadBack (rulesOf slot) grammar path bytes)
    (victim id : Nat) (countsImports : Bool) :
    let ingested := s.indexer.ingest grammar s.reader s.directory victim id path countsImports
    Answer.Uncached grammar s.indexer.rules path countsImports (s.content? path)
        (.ofResult ingested.answer) ∧
      ingested.indexer.rules = s.indexer.rules ∧
      Cache.Faithful s.indexer.rules grammar contents
        ⟨ingested.indexer.memory, ingested.directory⟩ := by
  simp only [Indexer.ingest, Indexer.readFile, Session.reader]
  cases stored : s.content? path with
  | none => exact ⟨.absent, rfl, faithful.cache⟩
  | some bytes =>
    have known := faithful.content_mem stored
    have written : s.directory.isSome → ReadBack s.indexer.rules grammar path bytes := by
      intro there
      cases slot : s.slot with
      | none =>
        rw [Session.directory, slot] at there
        cases there
      | some place =>
        rw [faithful.rules place slot]
        exact readable bytes known place
    obtain ⟨agrees, kept⟩ := faithful.cache.fetch distinguished known written victim id
    exact ⟨agrees.uncached, rfl, kept⟩

/-- A step of an orderly run keeps the session faithful. -/
theorem step (faithful : s.Faithful grammar rulesOf contents)
    (distinguished : Distinguished contents) {step : Step}
    (admissible : step.Admissible grammar rulesOf contents) (victim : Nat) :
    (s.step grammar victim step).2.Faithful grammar rulesOf contents := by
  have change := change_step s grammar victim step
  generalize (s.step grammar victim step).2 = s' at change ⊢
  have kept : ∀ p, ∀ entry ∈ s.without p, entry.2 ∈ contents := fun p entry member =>
    faithful.store entry (List.mem_of_mem_filter member)
  cases change with
  | put p bytes =>
    refine ⟨?_, faithful.memory, faithful.shelf, faithful.rules⟩
    intro entry member
    rcases List.mem_cons.mp member with rfl | old
    · exact admissible.content bytes rfl
    · exact kept p entry old
  | remove p => exact ⟨kept p, faithful.memory, faithful.shelf, faithful.rules⟩
  | @ingest path countsImports handle ingested handles issued run =>
    obtain ⟨-, sameRules, caches⟩ := faithful.ingest distinguished (admissible.readable path rfl)
      victim s.issued countsImports
    rw [run] at sameRules caches
    refine ⟨faithful.store, ?_, faithful.set_shelf ?_, ?_⟩
    · rw [sameRules]
      exact caches.memory
    · intro place slot
      rw [← faithful.rules place slot]
      exact caches.directory
    · rw [sameRules]
      exact faithful.rules
  | quiet quiet => exact ⟨faithful.store, faithful.memory, faithful.shelf, faithful.rules⟩
  | clearCache =>
    refine ⟨faithful.store, by simp, faithful.set_shelf ?_, faithful.rules⟩
    intro place _ bytes holds
    refine (CacheDirectory.not_holds_of_empty ?_ bytes holds).elim
    cases s.directory <;> rfl
  | renew setup => exact faithful.renew (admissible.setup setup rfl)
  | enter run => cases admissible.unwritten
  | tamper => cases admissible.unwritten
  | block name =>
    refine ⟨faithful.store, faithful.memory, ?_, faithful.rules⟩
    intro place bytes holds
    cases place with
    | fallback => exact faithful.shelf .fallback bytes holds
    | named =>
      obtain ⟨entries, other, replaced, member⟩ := holds
      obtain ⟨old, there, rfl⟩ := Option.map_eq_some_iff.mp replaced
      rcases CacheDirectory.mem_setEntry member with impossible | before
      · cases impossible
      · exact faithful.shelf .named bytes ⟨old, other, there, before⟩
  | unblocked => exact faithful
  | removeDirectory =>
    refine ⟨faithful.store, faithful.memory, ?_, faithful.rules⟩
    intro place bytes holds
    cases place with
    | fallback => exact faithful.shelf .fallback bytes holds
    | named => exact (CacheDirectory.not_holds_of_empty rfl bytes holds).elim

theorem behind (faithful : s.Faithful grammar rulesOf contents)
    (distinguished : Distinguished contents) {steps : List (Step × Nat)}
    (admissible : ∀ entry ∈ steps, entry.1.Admissible grammar rulesOf contents) :
    (s.behind grammar steps).Faithful grammar rulesOf contents := by
  induction steps generalizing s with
  | nil => exact faithful
  | cons entry steps ih =>
    have first := faithful.step distinguished (admissible entry List.mem_cons_self) entry.2
    exact ih first fun later member => admissible later (List.mem_cons_of_mem entry member)

end Session.Faithful

namespace Session

theorem Orderly.admissible {grammar : Grammar} {rulesOf : Slot → List Rule} {setup : Setup}
    {steps : List Step} (orderly : Orderly grammar rulesOf setup steps) {step : Step}
    (member : step ∈ steps) :
    step.Admissible grammar rulesOf (steps.filterMap Step.content?) where
  unwritten := orderly.unwritten step member
  content _ puts := List.mem_filterMap.mpr ⟨step, member, puts⟩
  setup used renews := orderly.sharedRules used
    (List.mem_cons_of_mem _ (List.mem_filterMap.mpr ⟨step, member, renews⟩))
  readable path asks := orderly.readable path (List.mem_filterMap.mpr ⟨step, member, asks⟩)

/-- Whatever was put, removed, asked for, cleared and renewed before, in whatever order and with
whatever evictions, an ingest step answers what an uncached build of the present content answers. -/
theorem ingest_transparent {grammar : Grammar} {rulesOf : Slot → List Rule} {setup : Setup}
    {steps : List (Step × Nat)} (orderly : Orderly grammar rulesOf setup (steps.map (·.1)))
    {i victim : Nat} {path : Pathname} {countsImports : Bool} {handle : Option String}
    (asked : steps[i]? = some (.ingest path countsImports handle, victim)) :
    ∃ answer counts, ((start setup).run grammar steps).1[i]? = some (answer, counts) ∧
      Answer.Uncached grammar (Step.setupBehind setup ((steps.take i).map (·.1))).rules path
        countsImports (Step.contentBehind path ((steps.take i).map (·.1))) answer := by
  have admissible : ∀ entry ∈ steps,
      entry.1.Admissible grammar rulesOf ((steps.map (·.1)).filterMap Step.content?) :=
    fun entry member => orderly.admissible (List.mem_map_of_mem member)
  have began := Faithful.start grammar ((steps.map (·.1)).filterMap Step.content?)
    (orderly.sharedRules setup List.mem_cons_self)
  have faithful : ((start setup).behind grammar (steps.take i)).Faithful grammar rulesOf
      ((steps.map (·.1)).filterMap Step.content?) :=
    began.behind orderly.distinguished fun entry member =>
      admissible entry (List.mem_of_mem_take member)
  have under := (start_worksUnder setup).behind grammar (steps.take i)
  have content := content?_behind (start setup) grammar (steps.take i) path
  obtain ⟨answered, -⟩ := faithful.ingest orderly.distinguished
    ((admissible _ (List.mem_of_getElem? asked)).readable path rfl) victim
    ((start setup).behind grammar (steps.take i)).issued countsImports
  rw [under.rules, content] at answered
  have told := run_answer (start setup) grammar steps i
  rw [asked] at told
  exact ⟨_, _, told, answered⟩

/-- A class with a parent, or, for longer contents, a class without. -/
def sampleTree (bytes : ByteArray) : SyntaxTree :=
  .node { kind := .other "program" }
    [.node { kind := .declaration .plain, row := 1 }
      (.node { kind := .name .simple, field := some .name, row := 1, text := "A" } [] ::
        if bytes.size ≤ 1 then
          [.node { kind := .clause .parents, row := 1 }
            [.node { kind := .name .simple, row := 1, text := "B" } []]]
        else [])]

/-- A content is replaced and put back, under two spellings of its path, and a second indexer with
the same directory is asked for it. -/
def revertedRun : List (Step × Nat) :=
  [(.put ⟨"src/A.php"⟩ ⟨#[97]⟩, 0), (.ingest ⟨"src/A.php"⟩ false none, 0),
   (.put ⟨"src//A.php"⟩ ⟨#[98, 99]⟩, 0), (.ingest ⟨"src//A.php"⟩ true none, 0),
   (.put ⟨"src/A.php"⟩ ⟨#[97]⟩, 0), (.renew { slot := some .named }, 0),
   (.ingest ⟨"src/A.php"⟩ false none, 0)]

theorem revertedRun_orderly : Orderly (fun bytes => some (sampleTree bytes)) (fun _ => Rule.standard)
    { slot := some .named, limit := some 1 } (revertedRun.map (·.1)) := by
  have contents : ∀ bytes ∈ (revertedRun.map (·.1)).filterMap Step.content?,
      bytes = ⟨#[97]⟩ ∨ bytes = ⟨#[98, 99]⟩ := by decide
  refine ⟨by decide, ?_, ?_, ?_⟩
  · have standard : ∀ used ∈ { slot := some .named, limit := some 1 } ::
        (revertedRun.map (·.1)).filterMap Step.setup?, used.rules = Rule.standard := by decide
    intro used member slot _
    exact standard used member
  · have differ : fingerprint ⟨#[97]⟩ ≠ fingerprint ⟨#[98, 99]⟩ := by decide +kernel
    intro first inFirst second inSecond same
    rcases contents first inFirst with rfl | rfl <;> rcases contents second inSecond with rfl | rfl
    · rfl
    · exact (differ same).elim
    · exact (differ same.symm).elim
    · rfl
  · have fits : ∀ path ∈ (revertedRun.map (·.1)).filterMap Step.asked?,
        ∀ bytes ∈ (revertedRun.map (·.1)).filterMap Step.content?, ∀ countsImports,
          (StoredRecord.ofRecord ""
            (.ofTree Rule.standard path countsImports (sampleTree bytes))).Fits := by
      decide +kernel
    intro path asked bytes put slot
    exact readBack_of_fits rfl (fits path asked bytes put)

theorem ingest_transparent_reverted :
    revertedRun[6]? = some (.ingest ⟨"src/A.php"⟩ false none, 0) ∧
      ∃ answer counts, ((start { slot := some .named, limit := some 1 }).run
        (fun bytes => some (sampleTree bytes)) revertedRun).1[6]? = some (answer, counts) ∧
        Answer.Uncached (fun bytes => some (sampleTree bytes)) Rule.standard ⟨"src/A.php"⟩ false
          (some ⟨#[97]⟩) answer :=
  ⟨rfl, ingest_transparent revertedRun_orderly rfl⟩

end Session

end ClassGraph
