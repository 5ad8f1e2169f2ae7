import ClassGraph.Proofs.LastingBuilds
import ClassGraph.Proofs.LiveRecords
import ClassGraph.Proofs.RuleLists

namespace ClassGraph

/-- The kinds of all edges and imports of a record. -/
def FileRecord.kinds (file : FileRecord) : List EdgeKind :=
  (file.classes.flatMap (·.edges) ++ file.imports).map (·.kind)

/-- The kinds of the record that an answer brings. -/
def Answer.kinds : Answer → List EdgeKind
  | .record shared => shared.file.kinds
  | _ => []

namespace FileRecord

theorem kinds_of_keeping {file : FileRecord} {keep : EdgeKind → Bool}
    (kept : file.keeping keep = file) {kind : EdgeKind} (among : kind ∈ file.kinds) :
    keep kind = true := by
  obtain ⟨e, member, rfl⟩ := List.mem_map.mp among
  rw [← kept] at member
  rcases List.mem_append.mp member with ofClass | imported
  · obtain ⟨c, listed, inEdges⟩ := List.mem_flatMap.mp ofClass
    obtain ⟨before, -, rfl⟩ := List.mem_map.mp listed
    exact (List.mem_filter.mp inEdges).2
  · exact (List.mem_filter.mp imported).2

/-- A list of rules loses nothing of what it made if only the kinds that it records are kept. -/
theorem keeping_ofTree (rules : List Rule) (path : Pathname) (countsImports : Bool)
    (t : SyntaxTree) : (ofTree rules path countsImports t).keeping (Rule.record rules) =
      ofTree rules path countsImports t := by
  have kept : ∀ event ∈ t.resolve.events rules, event.isKept (Rule.record rules) = true := by
    intro event member
    rcases Tree.event_cases member with ⟨name, rfl⟩ | rfl | ⟨rule, listed, u, recorded⟩
    · rfl
    · rfl
    · exact (Rule.isKept_iff recorded).mpr listed
  rw [ofTree, ofEvents, Recorder.keeping_finish, Recorder.keeping_run, List.filter_eq_self.mpr kept]
  rfl

theorem kinds_ofTree {rules : List Rule} {path : Pathname} {countsImports : Bool} {t : SyntaxTree}
    {kind : EdgeKind} (among : kind ∈ (ofTree rules path countsImports t).kinds) :
    Rule.record rules kind = true :=
  kinds_of_keeping (keeping_ofTree rules path countsImports t) among

theorem kinds_congr {a b : FileRecord} (same : a.same b = true) : a.kinds = b.kinds := by
  obtain ⟨-, classes, imports, -⟩ := same_iff.mp same
  rw [kinds, kinds, classes, imports]

end FileRecord

namespace Build

/-- Whether a build is what its rules make of some tree. -/
def IsGenuine (build : Build) : Prop :=
  ∃ tree, build.file = .ofTree build.rules build.key.path build.key.countsImports tree

/-- A build is the origin of a record that stands for a key over a directory. -/
structure IsOrigin (build : Build) (slot : Option Slot) (key : CacheKey) (file : FileRecord) :
    Prop where
  slot : build.slot = slot
  path : build.key.path.same key.path = true
  fingerprint : build.key.fingerprint = key.fingerprint
  countsImports : build.key.countsImports = key.countsImports
  same : file.same build.file = true

theorem IsGenuine.key {build : Build} (genuine : build.IsGenuine) :
    build.file.path = build.key.path ∧ build.file.countsImports = build.key.countsImports := by
  obtain ⟨tree, made⟩ := genuine
  rw [made]
  exact ⟨rfl, rfl⟩

theorem IsGenuine.restored {build : Build} (genuine : build.IsGenuine) (fingerprint : String) :
    (StoredRecord.ofRecord fingerprint build.file).toRecord = build.file := by
  obtain ⟨tree, made⟩ := genuine
  rw [made]
  exact FileRecord.restored_ofTree build.rules build.key.path build.key.countsImports tree fingerprint

theorem IsGenuine.kinds {build : Build} (genuine : build.IsGenuine) {slot : Option Slot}
    {key : CacheKey} {file : FileRecord} (origin : build.IsOrigin slot key file) {kind : EdgeKind}
    (among : kind ∈ file.kinds) : Rule.record build.rules kind = true := by
  obtain ⟨tree, made⟩ := genuine
  rw [FileRecord.kinds_congr origin.same, made] at among
  exact FileRecord.kinds_ofTree among

/-- An entry of the memory cache has the origins that its record has for the key of the entry. -/
theorem IsOrigin.of_isAt {build : Build} {slot : Option Slot} {key : CacheKey} {entry : MemoryEntry}
    (isAt : entry.IsAt key) :
    build.IsOrigin slot key entry.shared.file ↔ build.IsOrigin slot entry.key entry.shared.file := by
  constructor
  · rintro ⟨slot, path, fingerprint, countsImports, same⟩
    rw [← Pathname.same_congr_right isAt.path] at path
    exact ⟨slot, path, fingerprint.trans isAt.fingerprint.symm,
      countsImports.trans isAt.countsImports.symm, same⟩
  · rintro ⟨slot, path, fingerprint, countsImports, same⟩
    rw [Pathname.same_congr_right isAt.path] at path
    exact ⟨slot, path, fingerprint.trans isAt.fingerprint, countsImports.trans isAt.countsImports,
      same⟩

end Build

theorem CacheDirectory.Holds.of_make {directory : CacheDirectory} {bytes : ByteArray}
    (holds : directory.make.Holds bytes) : directory.Holds bytes := by
  cases directory with
  | none => exact (not_holds_of_empty rfl bytes holds).elim
  | some entries => exact holds

namespace Session

/-- The builds that stay behind a step: clearing the cache gives up what was built over its
directory, and an indexer without a directory leaves nothing to the next one. -/
def surviving (s : Session) (past : List Build) : Step → List Build
  | .clearCache => past.filter (·.slot ≠ s.slot)
  | .renew _ => past.filter (·.slot.isSome)
  | _ => past

/-- The builds that stay behind several steps, from those before. -/
def standing (s : Session) (grammar : Grammar) (past : List Build) : List (Step × Nat) → List Build
  | [] => past
  | (step, victim) :: rest =>
    (s.step grammar victim step).2.standing grammar
      (s.surviving past step ++ (s.build? grammar victim step).toList) rest

namespace Ingests

variable {s : Session} {grammar : Grammar} {victim : Nat} {path : Pathname} {countsImports : Bool}
  {answer : Answer} {indexer : Indexer} {directory : CacheDirectory} {build? : Option Build}

theorem rules
    (ingests : s.Ingests grammar victim path countsImports answer indexer directory build?) :
    indexer.rules = s.indexer.rules := by
  cases ingests <;> rfl

/-- An entry of the memory cache is an old one or stands for the answer. -/
theorem memory
    (ingests : s.Ingests grammar victim path countsImports answer indexer directory build?)
    {entry : MemoryEntry} (member : entry ∈ indexer.memory.entries) :
    entry ∈ s.indexer.memory.entries ∨ ∃ bytes, s.content? path = some bytes ∧
      entry.IsAt ⟨path, fingerprint bytes, countsImports⟩ ∧ answer = .record entry.shared := by
  cases ingests with
  | unreadable | held | refused => exact .inl member
  | loaded content | built content =>
    rcases MemoryCache.mem_insert member with old | ⟨isAt, isNew⟩
    · exact .inl old
    · exact .inr ⟨_, content, isAt, isNew ▸ rfl⟩

theorem build
    (ingests : s.Ingests grammar victim path countsImports answer indexer directory build?)
    {build : Build} (built : build? = some build) :
    build.slot = s.slot ∧ build.rules = s.indexer.rules ∧ build.IsGenuine := by
  cases ingests with
  | built content result =>
    cases built
    obtain ⟨tree, -, -, made⟩ := Indexer.build_eq_ok.mp result
    exact ⟨rfl, rfl, tree, made⟩
  | _ => cases built

end Ingests

/-- The invariant of a run: whatever the memory cache and the directories hold has an origin among
the builds that stand, and what was built without a directory was built by the rules in force. -/
structure Sourced (past : List Build) (s : Session) : Prop where
  memory : ∀ entry ∈ s.indexer.memory.entries, ∃ build ∈ past,
    build.IsOrigin s.slot entry.key entry.shared.file
  shelf : ∀ slot bytes, (s.shelf.get (some slot)).Holds bytes → ∃ build ∈ past,
    build.slot = some slot ∧ StoredRecord.decode bytes.data.toList =
      some (.ofRecord build.key.fingerprint build.file)
  genuine : ∀ build ∈ past, build.IsGenuine
  own : ∀ build ∈ past, build.slot = none → build.rules = s.indexer.rules

namespace Sourced

variable {past : List Build} {s : Session}

theorem start (setup : Setup) : Sourced [] (start setup) := by
  refine ⟨?_, ?_, List.forall_mem_nil _, List.forall_mem_nil _⟩
  · intro entry member
    rw [Session.start, entries_renew] at member
    cases member
  · intro slot bytes holds
    refine (CacheDirectory.not_holds_of_empty ?_ bytes holds).elim
    obtain ⟨used, limit, rules⟩ := setup
    rcases used with _ | _ | _ <;> cases slot <;> rfl

/-- A record that a directory has for a key has an origin. -/
theorem of_load? (sourced : Sourced past s) {slot : Slot} {key : CacheKey} {file : FileRecord}
    (loaded : (s.shelf.get (some slot)).load? key = some file) :
    ∃ build ∈ past, build.IsOrigin (some slot) key file := by
  obtain ⟨bytes, stored, holds, decoded, answers, rfl⟩ := CacheDirectory.load?_eq_some loaded
  obtain ⟨build, member, onSlot, readBack⟩ := sourced.shelf slot bytes holds
  cases Option.some.inj (decoded.symm.trans readBack)
  obtain ⟨ofPath, ofFlag⟩ := (sourced.genuine build member).key
  simp only [StoredRecord.answers, StoredRecord.ofRecord, ofPath, ofFlag, Bool.and_eq_true,
    beq_iff_eq] at answers
  obtain ⟨⟨path, printed⟩, flag⟩ := answers
  refine ⟨build, member, onSlot, path, printed, flag, ?_⟩
  rw [(sourced.genuine build member).restored]
  exact FileRecord.same_refl build.file

/-- A record that an ingest answers has an origin, which may be the ingest itself. -/
theorem answer (sourced : Sourced past s) {grammar : Grammar} {victim : Nat} {path : Pathname}
    {countsImports : Bool} {shared : Shared} {indexer : Indexer} {directory : CacheDirectory}
    {build? : Option Build}
    (ingests : s.Ingests grammar victim path countsImports (.record shared) indexer directory
      build?) :
    ∃ bytes, s.content? path = some bytes ∧ ∃ build ∈ past ++ build?.toList,
      build.IsOrigin s.slot ⟨path, fingerprint bytes, countsImports⟩ shared.file := by
  cases ingests with
  | held content hit =>
    obtain ⟨entry, member, isAt, rfl⟩ := MemoryCache.get?_eq_some hit
    obtain ⟨build, standing, origin⟩ := sourced.memory entry member
    exact ⟨_, content, build, List.mem_append_left _ standing,
      (Build.IsOrigin.of_isAt isAt).mpr origin⟩
  | loaded content hit =>
    cases slot : s.slot with
    | none =>
      rw [directory, slot] at hit
      cases hit
    | some place =>
      rw [directory, slot] at hit
      obtain ⟨build, standing, origin⟩ := sourced.of_load? hit
      exact ⟨_, content, build, List.mem_append_left _ standing, origin⟩
  | built content result =>
    refine ⟨_, content, _, List.mem_append_right _ List.mem_cons_self, rfl, ?_, rfl, rfl, ?_⟩
    · exact Pathname.same_refl path
    · exact FileRecord.same_refl _

/-- Builds that are forgotten are no origin of what is still held. -/
theorem of_surviving (sourced : Sourced past s) {kept : List Build} {s' : Session}
    (fewer : ∀ build ∈ kept, build ∈ past)
    (memory : s'.indexer.memory.entries = [])
    (shelf : ∀ slot bytes, (s'.shelf.get (some slot)).Holds bytes →
      (s.shelf.get (some slot)).Holds bytes ∧
        ∀ build ∈ past, build.slot = some slot → build ∈ kept)
    (own : ∀ build ∈ kept, build.slot = none → build.rules = s'.indexer.rules) :
    Sourced kept s' := by
  refine ⟨?_, ?_, fun build member => sourced.genuine build (fewer build member), own⟩
  · intro entry member
    rw [memory] at member
    cases member
  · intro slot bytes holds
    obtain ⟨held, survives⟩ := shelf slot bytes holds
    obtain ⟨build, member, onSlot, readBack⟩ := sourced.shelf slot bytes held
    exact ⟨build, survives build member onSlot, onSlot, readBack⟩

theorem renew (sourced : Sourced past s) (setup : Setup) :
    Sourced (past.filter (·.slot.isSome)) (s.renew setup) := by
  refine sourced.of_surviving (fun build => List.mem_of_mem_filter) (entries_renew s setup) ?_ ?_
  · intro slot bytes holds
    refine ⟨?_, ?_⟩
    · simp only [Session.renew, Shelf.get_set] at holds
      split at holds
      · rename_i same
        rw [same] at holds
        exact holds.of_make
      · exact holds
    · intro build member onSlot
      exact List.mem_filter.mpr ⟨member, by rw [onSlot]; rfl⟩
  · intro build member nowhere
    have somewhere := (List.mem_filter.mp member).2
    rw [nowhere] at somewhere
    cases somewhere

theorem clear (sourced : Sourced past s) (grammar : Grammar) (victim : Nat) :
    Sourced (past.filter (·.slot ≠ s.slot)) (s.step grammar victim .clearCache).2 := by
  refine sourced.of_surviving (fun build => List.mem_of_mem_filter) rfl ?_ ?_
  · intro slot bytes holds
    simp only [Session.step, Cache.clear, Shelf.get_set] at holds
    split at holds
    · refine (CacheDirectory.not_holds_of_empty ?_ bytes holds).elim
      cases s.directory <;> rfl
    · rename_i other
      refine ⟨holds, fun build member onSlot => List.mem_filter.mpr ⟨member, decide_eq_true ?_⟩⟩
      rw [onSlot]
      exact Ne.symm other
  · intro build member
    exact sourced.own build (List.mem_of_mem_filter member)

theorem ingest (sourced : Sourced past s) (grammar : Grammar) (victim : Nat) (path : Pathname)
    (countsImports : Bool) (handle : Option String)
    (readBack : ∀ build, s.build? grammar victim (.ingest path countsImports handle) = some build →
      build.slot.isSome → build.IsReadBack) :
    Sourced (past ++ (s.build? grammar victim (.ingest path countsImports handle)).toList)
      (s.step grammar victim (.ingest path countsImports handle)).2 := by
  obtain ⟨ingested, slot, shelf⟩ := ingests s grammar victim path countsImports handle
  refine ⟨?_, ?_, ?_, ?_⟩
  · intro entry member
    rw [slot]
    rcases ingested.memory member with old | ⟨bytes, content, isAt, answered⟩
    · obtain ⟨build, standing, origin⟩ := sourced.memory entry old
      exact ⟨build, List.mem_append_left _ standing, origin⟩
    · rw [answered] at ingested
      obtain ⟨read, content', build, standing, origin⟩ := sourced.answer ingested
      cases Option.some.inj (content.symm.trans content')
      exact ⟨build, standing, (Build.IsOrigin.of_isAt isAt).mp origin⟩
  · intro place bytes holds
    have earlier (held : (s.shelf.get (some place)).Holds bytes) : ∃ build ∈
        past ++ (s.build? grammar victim (.ingest path countsImports handle)).toList,
          build.slot = some place ∧ StoredRecord.decode bytes.data.toList =
            some (.ofRecord build.key.fingerprint build.file) := by
      obtain ⟨build, standing, told⟩ := sourced.shelf place bytes held
      exact ⟨build, List.mem_append_left _ standing, told⟩
    rw [shelf, Shelf.get_set] at holds
    split at holds
    · rename_i onSlot
      rcases ingested.directory with ⟨-, same⟩ | ⟨build, built, -, -, -, stored⟩
      · rw [same, directory, onSlot] at holds
        exact earlier holds
      · rw [stored, directory, onSlot] at holds
        rcases CacheDirectory.Holds.of_write holds with held | ⟨-, rfl⟩
        · exact earlier held
        · have here : build.slot = some place := (ingested.build built).1.trans onSlot
          refine ⟨build, List.mem_append_right _ (Option.mem_toList.mpr built), here, ?_⟩
          exact readBack build built (by rw [here]; rfl)
    · exact earlier holds
  · intro build member
    rcases List.mem_append.mp member with old | new
    · exact sourced.genuine build old
    · exact (ingested.build (Option.mem_toList.mp new)).2.2
  · intro build member nowhere
    rw [ingested.rules]
    rcases List.mem_append.mp member with old | new
    · exact sourced.own build old nowhere
    · exact (ingested.build (Option.mem_toList.mp new)).2.1

/-- Whatever else happens to a session, but for writing into its caches by hand, brings nothing into
them. -/
theorem of_less (sourced : Sourced past s) {s' : Session}
    (slot : s'.slot = s.slot) (indexer : s'.indexer.rules = s.indexer.rules)
    (memory : s'.indexer.memory = s.indexer.memory)
    (shelf : ∀ slot bytes, (s'.shelf.get (some slot)).Holds bytes →
      (s.shelf.get (some slot)).Holds bytes) : Sourced past s' := by
  refine ⟨?_, ?_, sourced.genuine, ?_⟩
  · rw [memory, slot]
    exact sourced.memory
  · intro place bytes holds
    exact sourced.shelf place bytes (shelf place bytes holds)
  · rw [indexer]
    exact sourced.own

theorem other (sourced : Sourced past s) {grammar : Grammar} {victim : Nat} {step : Step}
    {s' : Session} (change : Change s grammar victim step s') (unwritten : step.writesCache = false)
    (noIngest : step.asked? = none) (noRenewal : step.setup? = none)
    (noClearing : step ≠ .clearCache) : Sourced past s' := by
  cases change with
  | ingest => cases noIngest
  | renew => cases noRenewal
  | clearCache => exact absurd rfl noClearing
  | enter => cases unwritten
  | tamper => cases unwritten
  | unblocked => exact sourced
  | block name =>
    refine sourced.of_less rfl rfl rfl ?_
    intro place bytes holds
    cases place with
    | fallback => exact holds
    | named =>
      obtain ⟨entries, other, replaced, member⟩ := holds
      obtain ⟨old, there, rfl⟩ := Option.map_eq_some_iff.mp replaced
      rcases CacheDirectory.mem_setEntry member with impossible | before
      · cases impossible
      · exact ⟨old, other, there, before⟩
  | removeDirectory =>
    refine sourced.of_less rfl rfl rfl ?_
    intro place bytes holds
    cases place with
    | fallback => exact holds
    | named => exact (CacheDirectory.not_holds_of_empty rfl bytes holds).elim
  | _ => exact sourced.of_less rfl rfl rfl fun _ _ holds => holds

theorem step (sourced : Sourced past s) (grammar : Grammar) (victim : Nat) {step : Step}
    (unwritten : step.writesCache = false)
    (readBack : ∀ build, s.build? grammar victim step = some build →
      build.slot.isSome → build.IsReadBack) :
    Sourced (s.surviving past step ++ (s.build? grammar victim step).toList)
      (s.step grammar victim step).2 := by
  cases step with
  | ingest path countsImports handle =>
    exact sourced.ingest grammar victim path countsImports handle readBack
  | renew setup =>
    have nothing : s.build? grammar victim (.renew setup) = none := rfl
    rw [nothing, Option.toList_none, List.append_nil]
    exact sourced.renew setup
  | clearCache =>
    have nothing : s.build? grammar victim .clearCache = none := rfl
    rw [nothing, Option.toList_none, List.append_nil]
    exact sourced.clear grammar victim
  | _ =>
    have same := sourced.other (change_step s grammar victim _) unwritten rfl rfl nofun
    exact (List.append_nil past).symm ▸ same

theorem behind (sourced : Sourced past s) {grammar : Grammar} {steps : List (Step × Nat)}
    (unwritten : ∀ entry ∈ steps, entry.1.writesCache = false)
    (readBack : ∀ build ∈ s.builds grammar steps, build.slot.isSome → build.IsReadBack) :
    Sourced (s.standing grammar past steps) (s.behind grammar steps) := by
  induction steps generalizing s past with
  | nil => exact sourced
  | cons entry steps ih =>
    rw [builds] at readBack
    have first := sourced.step grammar entry.2 (unwritten entry List.mem_cons_self)
      (fun build built => readBack build (List.mem_append_left _ (Option.mem_toList.mpr built)))
    exact ih first (fun later member => unwritten later (List.mem_cons_of_mem entry member))
      (fun build member => readBack build (List.mem_append_right _ member))

end Sourced

/-- In a run in which nobody writes into the caches by hand, a record that an ingest answers has edges
and imports only of kinds that a rule in force records, unless it comes out of the directory. Then
its origin is a build over this directory, which was not cleared since, for the same path, content
and flag, and it has only kinds that a rule of that build records. -/
theorem kinds_of_origin {grammar : Grammar} {setup : Setup} {steps : List (Step × Nat)}
    (unwritten : ∀ entry ∈ steps, entry.1.writesCache = false)
    (readBack : ∀ build ∈ (start setup).builds grammar steps, build.slot.isSome → build.IsReadBack)
    {victim : Nat} {path : Pathname} {countsImports : Bool} {handle : Option String} {shared : Shared}
    (answered : (((start setup).behind grammar steps).step grammar victim
      (.ingest path countsImports handle)).1 = .record shared) :
    let inForce := Step.setupBehind setup (steps.map (·.1))
    (∀ kind ∈ shared.file.kinds, Rule.record inForce.rules kind = true) ∨
      inForce.slot.isSome ∧ ∃ bytes, Step.contentBehind path (steps.map (·.1)) = some bytes ∧
        ∃ build ∈ (start setup).standing grammar [] steps,
          build.IsOrigin inForce.slot ⟨path, fingerprint bytes, countsImports⟩ shared.file ∧
          ∀ kind ∈ shared.file.kinds, Rule.record build.rules kind = true := by
  intro inForce
  have sourced := (Sourced.start setup).behind unwritten readBack
  obtain ⟨slot, rules⟩ := (start_worksUnder setup).behind grammar steps
  obtain ⟨ingested, -, -⟩ :=
    ingests ((start setup).behind grammar steps) grammar victim path countsImports handle
  rw [answered] at ingested
  obtain ⟨bytes, content, build, member, origin⟩ := sourced.answer ingested
  rw [content?_behind] at content
  rw [slot] at origin
  rcases List.mem_append.mp member with standing | new
  · have kinds : ∀ kind ∈ shared.file.kinds, Rule.record build.rules kind = true :=
      fun kind among => (sourced.genuine build standing).kinds origin among
    cases onSlot : inForce.slot with
    | some place =>
      rw [← onSlot]
      exact .inr ⟨by rw [onSlot]; rfl, bytes, content, build, standing, origin, kinds⟩
    | none =>
      rw [sourced.own build standing (origin.slot.trans onSlot), rules] at kinds
      exact .inl kinds
  · obtain ⟨-, own, genuine⟩ := ingested.build (Option.mem_toList.mp new)
    rw [rules] at own
    exact .inl fun kind among => own ▸ genuine.kinds origin among

/-- A file is ingested, and an indexer with the rule for traits alone takes over the directory. -/
def switchedRun : List (Step × Nat) :=
  [(.put ⟨"A.php"⟩ ⟨#[97]⟩, 0), (.ingest ⟨"A.php"⟩ false none, 0),
   (.renew { slot := some .named, rules := [.traitUse] }, 0)]

/-- The indexer that took over answers with an edge of a kind that its rule does not record. -/
theorem foreign_kinds_switched :
    let inForce := Step.setupBehind { slot := some .named } (switchedRun.map (·.1))
    let s := (start { slot := some .named }).behind (fun bytes => some (sampleTree bytes)) switchedRun
    ∃ kind ∈ (s.step (fun bytes => some (sampleTree bytes)) 0 (.ingest ⟨"A.php"⟩ false none)).1.kinds,
      Rule.record inForce.rules kind = false := by
  refine ⟨.inherits, ?_, ?_⟩ <;> decide +kernel

theorem kinds_of_origin_switched :
    let s := (start { slot := some .named }).behind (fun bytes => some (sampleTree bytes)) switchedRun
    ∃ shared, (s.step (fun bytes => some (sampleTree bytes)) 0 (.ingest ⟨"A.php"⟩ false none)).1 =
        .record shared ∧
      ∃ build ∈ (start { slot := some .named }).standing (fun bytes => some (sampleTree bytes)) []
          switchedRun,
        build.IsOrigin (some .named) ⟨⟨"A.php"⟩, fingerprint ⟨#[97]⟩, false⟩ shared.file ∧
        ∀ kind ∈ shared.file.kinds, Rule.record build.rules kind = true := by
  intro s
  have foreign : .inherits ∈ (s.step (fun bytes => some (sampleTree bytes)) 0
      (.ingest ⟨"A.php"⟩ false none)).1.kinds := by decide +kernel
  have readBack : ∀ build ∈ (start { slot := some .named }).builds
      (fun bytes => some (sampleTree bytes)) switchedRun, build.slot.isSome → build.IsReadBack := by
    decide +kernel
  have stored : Step.contentBehind ⟨"A.php"⟩ (switchedRun.map (·.1)) = some ⟨#[97]⟩ := by
    decide +kernel
  cases answered : (s.step (fun bytes => some (sampleTree bytes)) 0
      (.ingest ⟨"A.php"⟩ false none)).1 with
  | record shared =>
    rw [answered] at foreign
    refine ⟨shared, rfl, ?_⟩
    rcases kinds_of_origin (by decide) readBack answered with own | ⟨-, bytes, content, origin⟩
    · exact absurd (own .inherits foreign) (by decide)
    · cases Option.some.inj (stored.symm.trans content)
      exact origin
  | _ =>
    rw [answered] at foreign
    cases foreign

end Session

end ClassGraph
