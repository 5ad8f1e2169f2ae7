import Mathlib.Data.Finset.Card
import ClassGraph.Proofs.SessionHistory

namespace ClassGraph

/-- What an entry says of its path: the fingerprint, the flag, and the record. -/
def MemoryEntry.held (entry : MemoryEntry) : String × Bool × Shared :=
  (entry.key.fingerprint, entry.key.countsImports, entry.shared)

namespace MemoryCache

def held? (cache : MemoryCache) (path : Pathname) : Option (String × Bool × Shared) :=
  (cache.find? path).map MemoryEntry.held

theorem get?_eq_some_iff {cache : MemoryCache} {key : CacheKey} {shared : Shared} :
    cache.get? key = some shared ↔
      cache.held? key.path = some (key.fingerprint, key.countsImports, shared) := by
  rw [get?, held?]
  cases cache.find? key.path with
  | none => simp
  | some entry => simp [MemoryEntry.held, MemoryEntry.answers, Option.filter, and_assoc]

theorem isFor_congr {entry : MemoryEntry} {p q : Pathname} (same : p.same q = true) :
    entry.isFor p = entry.isFor q :=
  Pathname.same_congr_right same

theorem find?_congr (cache : MemoryCache) {p q : Pathname} (same : p.same q = true) :
    cache.find? p = cache.find? q := by
  simp only [isFor_congr same, find?]

/-- A record that takes the place of another one. -/
theorem held?_replace (cache : MemoryCache) (key : CacheKey) (shared : Shared) (path : Pathname) :
    held? { cache with
      entries := cache.entries.map fun entry =>
        if entry.isFor key.path then ⟨{ key with path := entry.key.path }, shared⟩ else entry } path =
      if key.path.same path then
        (cache.held? path).map fun _ => (key.fingerprint, key.countsImports, shared)
      else cache.held? path := by
  have isFor (entry : MemoryEntry) : MemoryEntry.isFor
      (if entry.isFor key.path then ⟨{ key with path := entry.key.path }, shared⟩ else entry) path =
        entry.isFor path := by
    split <;> rfl
  simp only [held?, find?, List.find?_map, Function.comp_def, isFor]
  cases found : cache.entries.find? (·.isFor path) with
  | none => simp
  | some entry =>
    have own : entry.isFor path = true := by simpa using List.find?_some found
    split
    · rename_i same
      have replaced : entry.isFor key.path = true := by rw [isFor_congr same, own]
      simp [replaced, MemoryEntry.held]
    · rename_i different
      have kept : entry.isFor key.path = false := by
        refine Bool.eq_false_iff.mpr fun replaced => different ?_
        rw [← Pathname.same_congr replaced]
        exact own
      simp [kept]

theorem held?_append (cache : MemoryCache) (key : CacheKey) (shared : Shared) (path : Pathname)
    (new : cache.find? key.path = none) :
    held? { cache with entries := cache.entries ++ [⟨key, shared⟩] } path =
      if key.path.same path then some (key.fingerprint, key.countsImports, shared)
      else cache.held? path := by
  simp only [held?, find?, List.find?_append, List.find?_singleton, MemoryEntry.isFor]
  split
  · rename_i same
    have nothing : cache.entries.find? (·.key.path.same path) = none := by
      have := cache.find?_congr same
      rw [new] at this
      exact this.symm
    rw [nothing]
    rfl
  · simp

/-- In a cache that has an entry of the path or room for one more, entering a record changes what is
held of its path and nothing else. -/
theorem held?_insert {cache : MemoryCache} {key : CacheKey}
    (room : cache.held? key.path = none → cache.entries.length < cache.limit) (victim : Nat)
    (shared : Shared) (path : Pathname) : (cache.insert victim key shared).held? path =
      if key.path.same path then some (key.fingerprint, key.countsImports, shared)
      else cache.held? path := by
  unfold insert makeRoom
  cases known : cache.find? key.path with
  | none =>
    simp only [Option.isSome_none, if_pos (room (by rw [held?, known, Option.map_none]))]
    exact held?_append cache key shared path known
  | some entry =>
    simp only [Option.isSome_some, if_true]
    rw [held?_replace]
    split
    · rename_i same
      rw [held?, ← cache.find?_congr same, known]
      rfl
    · rfl

theorem length_insert {cache : MemoryCache} {key : CacheKey}
    (room : cache.held? key.path = none → cache.entries.length < cache.limit) (victim : Nat)
    (shared : Shared) : (cache.insert victim key shared).entries.length =
      cache.entries.length + if (cache.held? key.path).isSome then 0 else 1 := by
  unfold insert makeRoom
  cases known : cache.find? key.path with
  | none =>
    have unheld : cache.held? key.path = none := by rw [held?, known, Option.map_none]
    simp [unheld, room unheld]
  | some entry => simp [held?, known]

theorem limit_insert (cache : MemoryCache) (victim : Nat) (key : CacheKey) (shared : Shared) :
    (cache.insert victim key shared).limit = cache.limit := by
  unfold insert makeRoom
  split
  · rfl
  · split <;> rfl

end MemoryCache

namespace Step

/-- Steps that write into the caches only where they ingest a file. -/
def isOrdinary : Step → Bool
  | put _ _ | remove _ | ingest _ _ _ => true
  | step => step.isQuiet

end Step

/-- A record that an ingest step brought, with what was asked for and read. -/
structure Success where
  key : CacheKey
  shared : Shared
deriving DecidableEq, Repr

namespace Success

/-- The latest of several successes that is one of a path. -/
def latest? (past : List Success) (path : Pathname) : Option Success :=
  past.reverse.find? (·.key.path.same path)

/-- How many paths there are among several successes; paths are told apart by their components. -/
def pathCount (past : List Success) : Nat :=
  (past.map (·.key.path.components)).toFinset.card

def held (success : Success) : String × Bool × Shared :=
  (success.key.fingerprint, success.key.countsImports, success.shared)

theorem latest?_concat (past : List Success) (last : Success) (path : Pathname) :
    latest? (past ++ [last]) path =
      if last.key.path.same path then some last else latest? past path := by
  rw [latest?, List.reverse_append, List.reverse_singleton, List.singleton_append, List.find?_cons]
  split <;> simp_all [latest?]

theorem latest?_eq_none_iff {past : List Success} {path : Pathname} :
    latest? past path = none ↔ path.components ∉ past.map (·.key.path.components) := by
  simp only [latest?, List.find?_eq_none, List.mem_reverse, Pathname.same_iff, List.mem_map,
    not_exists, not_and]

theorem latest?_append_others (past : List Success) {more : List Success} {path : Pathname}
    (others : ∀ success ∈ more, success.key.path.same path = false) :
    latest? (past ++ more) path = latest? past path := by
  have nothing : more.reverse.find? (·.key.path.same path) = none := by
    refine List.find?_eq_none.mpr fun success member => ?_
    rw [others success (List.mem_reverse.mp member)]
    exact Bool.false_ne_true
  rw [latest?, List.reverse_append, List.find?_append, nothing, Option.none_or, latest?]

theorem pathCount_concat (past : List Success) (last : Success) :
    pathCount (past ++ [last]) =
      pathCount past + if (latest? past last.key.path).isSome then 0 else 1 := by
  have whole : ((past ++ [last]).map (·.key.path.components)).toFinset =
      insert last.key.path.components (past.map (·.key.path.components)).toFinset := by
    ext components
    simp
  rw [pathCount, pathCount, whole]
  cases known : latest? past last.key.path with
  | none =>
    have new := latest?_eq_none_iff.mp known
    rw [Finset.card_insert_of_notMem (by rwa [List.mem_toFinset])]
    rfl
  | some success =>
    have old : last.key.path.components ∈ past.map (·.key.path.components) := by
      by_contra new
      rw [latest?_eq_none_iff.mpr new] at known
      cases known
    rw [Finset.insert_eq_of_mem (List.mem_toFinset.mpr old)]
    rfl

theorem pathCount_le_append (past more : List Success) :
    pathCount past ≤ pathCount (past ++ more) := by
  refine Finset.card_le_card fun components member => ?_
  rw [List.mem_toFinset] at member ⊢
  rw [List.map_append]
  exact List.mem_append_left _ member

end Success

namespace Session

/-- The success that a step is, if it ingests a file and its answer brings a record. -/
def success? (s : Session) (step : Step) (answer : Answer) : Option Success :=
  match step, answer with
  | .ingest path countsImports _, .record shared =>
    (s.content? path).map fun bytes => ⟨⟨path, fingerprint bytes, countsImports⟩, shared⟩
  | _, _ => none

/-- The successful ingest steps of a run, in order. -/
def successes (s : Session) (grammar : Grammar) : List (Step × Nat) → List Success
  | [] => []
  | (step, victim) :: rest =>
    let next := s.step grammar victim step
    (s.success? step next.1).toList ++ next.2.successes grammar rest

theorem successes_append (s : Session) (grammar : Grammar) (first second : List (Step × Nat)) :
    s.successes grammar (first ++ second) =
      s.successes grammar first ++ (s.behind grammar first).successes grammar second := by
  induction first generalizing s with
  | nil => rfl
  | cons entry first ih =>
    rw [List.cons_append, successes, successes, ih, behind_cons, List.append_assoc]

theorem indexer_receive (s : Session) (handle : Option String)
    (answer : Except SourceError Shared) : (s.receive handle answer).indexer = s.indexer := by
  obtain ⟨handles, issued, same⟩ := receive_eq s handle answer
  rw [same]

/-- An ingest step of a session that works in memory, where the file can be read: the memory cache
answers, or else the grammar is called and a record that it leads to is entered. -/
theorem ingest_inMemory {s : Session} (inMemory : s.slot = none) (grammar : Grammar) (victim : Nat)
    {path : Pathname} {bytes : ByteArray} (stored : s.content? path = some bytes)
    (countsImports : Bool) (handle : Option String) :
    let key : CacheKey := ⟨path, fingerprint bytes, countsImports⟩
    let next := s.step grammar victim (.ingest path countsImports handle)
    (∃ shared, s.indexer.memory.get? key = some shared ∧ next.1 = .record shared ∧
      next.2.indexer = s.indexer) ∨
    s.indexer.memory.get? key = none ∧ next.2.indexer.parses = s.indexer.parses + 1 ∧
      ((∃ error, next.1 = .failed error ∧ next.2.indexer.memory = s.indexer.memory) ∨
        ∃ shared, next.1 = .record shared ∧
          next.2.indexer.memory = s.indexer.memory.insert victim key shared) := by
  intro key next
  have nowhere : s.directory = none := by rw [directory, inMemory]; rfl
  have read : Indexer.readFile s.reader path = .ok bytes := by
    rw [Indexer.readFile, reader, stored]
  have unloaded : CacheDirectory.load? none key = none := rfl
  simp only [next, Session.step, ingest, indexer_receive, Indexer.ingest, read, nowhere, Cache.fetch]
  cases hit : s.indexer.memory.get? key with
  | some shared => exact .inl ⟨shared, rfl, rfl, rfl⟩
  | none =>
    refine .inr ⟨rfl, ?_⟩
    simp only [key] at unloaded
    simp only [unloaded]
    cases Indexer.build s.indexer.rules grammar path countsImports bytes with
    | error error => exact ⟨rfl, .inl ⟨error, rfl, rfl⟩⟩
    | ok file => exact ⟨rfl, .inr ⟨_, rfl, rfl⟩⟩

theorem ingest_unreadable {s : Session} (grammar : Grammar) (victim : Nat) {path : Pathname}
    (missing : s.content? path = none) (countsImports : Bool) (handle : Option String) :
    let next := s.step grammar victim (.ingest path countsImports handle)
    next.1 = .failed (.unreadable path .notInMemory) ∧ next.2.indexer = s.indexer := by
  have unread : Indexer.readFile s.reader path = .error (.unreadable path .notInMemory) := by
    rw [Indexer.readFile, reader, missing]
  simp only [Session.step, ingest, indexer_receive, Indexer.ingest, unread, and_self]

/-- The invariant: the memory cache holds, for each path, the latest of the successes so far. -/
structure Remembers (limit : Nat) (past : List Success) (s : Session) : Prop where
  inMemory : s.slot = none
  limit : s.indexer.memory.limit = limit
  held : ∀ path, s.indexer.memory.held? path = (Success.latest? past path).map Success.held
  size : s.indexer.memory.entries.length = Success.pathCount past

namespace Remembers

variable {limit : Nat} {past : List Success} {s s' : Session}

theorem start {setup : Setup} (inMemory : setup.slot = none) :
    Remembers (Session.start setup).indexer.memory.limit [] (Session.start setup) := by
  have empty : (Session.start setup).indexer.memory.entries = [] := by
    simp only [Session.start, renew]
    cases setup.limit <;> rfl
  refine ⟨inMemory, rfl, ?_, ?_⟩
  · intro path
    rw [MemoryCache.held?, MemoryCache.find?, empty]
    rfl
  · rw [empty]
    rfl

theorem of_memory (remembers : Remembers limit past s) (slot : s'.slot = s.slot)
    (memory : s'.indexer.memory = s.indexer.memory) : Remembers limit past s' := by
  refine ⟨slot.trans remembers.inMemory, ?_, ?_, ?_⟩
  · rw [memory, remembers.limit]
  · rw [memory]
    exact remembers.held
  · rw [memory, remembers.size]

/-- The latest success of a path answers for it, which changes nothing. -/
theorem again (remembers : Remembers limit past s) (slot : s'.slot = s.slot)
    (memory : s'.indexer.memory = s.indexer.memory) {key : CacheKey} {shared : Shared}
    (hit : s.indexer.memory.get? key = some shared) :
    Remembers limit (past ++ [⟨key, shared⟩]) s' := by
  have known := MemoryCache.get?_eq_some_iff.mp hit
  have kept := remembers.of_memory slot memory
  refine ⟨kept.inMemory, kept.limit, ?_, ?_⟩
  · intro path
    rw [Success.latest?_concat]
    split
    · rename_i same
      rw [memory, MemoryCache.held?, ← s.indexer.memory.find?_congr same]
      exact known
    · exact kept.held path
  · have old : (Success.latest? past key.path).isSome := by
      rw [remembers.held] at known
      cases latest : Success.latest? past key.path with
      | none => rw [latest] at known; cases known
      | some success => rfl
    rw [kept.size, Success.pathCount_concat, if_pos old, Nat.add_zero]

/-- A record that is entered is what the cache holds of its path from then on, and since there is room
for it the other paths keep theirs. -/
theorem enter (remembers : Remembers limit past s) (slot : s'.slot = s.slot) {victim : Nat}
    {key : CacheKey} {shared : Shared}
    (memory : s'.indexer.memory = s.indexer.memory.insert victim key shared)
    (bounded : Success.pathCount (past ++ [⟨key, shared⟩]) ≤ limit) :
    Remembers limit (past ++ [⟨key, shared⟩]) s' := by
  have known : (s.indexer.memory.held? key.path).isSome =
      (Success.latest? past key.path).isSome := by
    rw [remembers.held, Option.isSome_map]
  have room : s.indexer.memory.held? key.path = none →
      s.indexer.memory.entries.length < s.indexer.memory.limit := by
    intro unheld
    rw [unheld] at known
    rw [Success.pathCount_concat, ← known] at bounded
    rw [remembers.size, remembers.limit]
    exact bounded
  refine ⟨slot.trans remembers.inMemory, ?_, ?_, ?_⟩
  · rw [memory, MemoryCache.limit_insert, remembers.limit]
  · intro path
    rw [memory, MemoryCache.held?_insert room, Success.latest?_concat, remembers.held]
    split <;> rfl
  · rw [memory, MemoryCache.length_insert room, remembers.size, Success.pathCount_concat, known]

theorem slot_step {step : Step} (ordinary : step.isOrdinary = true) (grammar : Grammar)
    (victim : Nat) : (s.step grammar victim step).2.slot = s.slot := by
  have change := change_step s grammar victim step
  generalize (s.step grammar victim step).2 = s' at change ⊢
  cases change with
  | renew setup => cases ordinary
  | _ => rfl

theorem memory_of_quiet {step : Step} (quiet : step.isQuiet = true) (grammar : Grammar)
    (victim : Nat) : (s.step grammar victim step).2.indexer.memory = s.indexer.memory := by
  have change := change_step s grammar victim step
  generalize (s.step grammar victim step).2 = s' at change ⊢
  cases change with
  | quiet _ => rfl
  | _ => cases quiet

theorem step (remembers : Remembers limit past s) {step : Step} (ordinary : step.isOrdinary = true)
    (grammar : Grammar) (victim : Nat)
    (bounded : Success.pathCount
      (past ++ (s.success? step (s.step grammar victim step).1).toList) ≤ limit) :
    Remembers limit (past ++ (s.success? step (s.step grammar victim step).1).toList)
      (s.step grammar victim step).2 := by
  have slot := slot_step (s := s) ordinary grammar victim
  have unchanged (silent : s.success? step (s.step grammar victim step).1 = none)
      (memory : (s.step grammar victim step).2.indexer.memory = s.indexer.memory) :
      Remembers limit (past ++ (s.success? step (s.step grammar victim step).1).toList)
        (s.step grammar victim step).2 := by
    rw [silent, Option.toList_none, List.append_nil]
    exact remembers.of_memory slot memory
  cases step with
  | put p bytes => exact unchanged rfl rfl
  | remove p => exact unchanged rfl rfl
  | ingest path countsImports handle =>
    cases stored : s.content? path with
    | none =>
      obtain ⟨failed, same⟩ := ingest_unreadable grammar victim stored countsImports handle
      exact unchanged (by rw [failed]; rfl) (by rw [same])
    | some bytes =>
      rcases ingest_inMemory remembers.inMemory grammar victim stored countsImports handle with
        ⟨shared, hit, answer, same⟩ | ⟨-, -, ⟨error, answer, same⟩ | ⟨shared, answer, inserted⟩⟩
      · rw [answer, success?, stored]
        exact remembers.again slot (by rw [same]) hit
      · exact unchanged (by rw [answer]; rfl) same
      · rw [answer, success?, stored] at bounded ⊢
        exact remembers.enter slot inserted bounded
  | _ => exact unchanged rfl (memory_of_quiet (by exact ordinary) grammar victim)

theorem behind (remembers : Remembers limit past s) {grammar : Grammar} {steps : List (Step × Nat)}
    (ordinary : ∀ entry ∈ steps, entry.1.isOrdinary = true)
    (bounded : Success.pathCount (past ++ s.successes grammar steps) ≤ limit) :
    Remembers limit (past ++ s.successes grammar steps) (s.behind grammar steps) := by
  induction steps generalizing s past with
  | nil =>
    rw [successes, List.append_nil]
    exact remembers
  | cons entry steps ih =>
    rw [successes, ← List.append_assoc] at bounded ⊢
    have first := remembers.step (ordinary entry List.mem_cons_self) grammar entry.2
      ((Success.pathCount_le_append _ _).trans bounded)
    exact ih first (fun later member => ordinary later (List.mem_cons_of_mem entry member)) bounded

/-- What an ingest step comes to: the grammar is called if the latest success of the path does not
answer for what is asked, else that success is answered again. -/
theorem calls (remembers : Remembers limit past s) {path : Pathname} {bytes : ByteArray}
    (content : s.content? path = some bytes) (grammar : Grammar) (victim : Nat)
    (countsImports : Bool) (handle : Option String) :
    let next := s.step grammar victim (.ingest path countsImports handle)
    let latest := Success.latest? past path
    next.2.indexer.parses = s.indexer.parses + 1 ∧ (∀ success ∈ latest,
        ¬(success.key.fingerprint = fingerprint bytes ∧
          success.key.countsImports = countsImports)) ∨
      next.2.indexer.parses = s.indexer.parses ∧ ∃ success ∈ latest,
        (success.key.fingerprint = fingerprint bytes ∧ success.key.countsImports = countsImports) ∧
          next.1 = .record success.shared := by
  intro next latest
  have held : s.indexer.memory.held? path = latest.map Success.held := remembers.held path
  rcases ingest_inMemory remembers.inMemory grammar victim content countsImports handle with
    ⟨shared, hit, answer, same⟩ | ⟨miss, counted, -⟩
  · have known := MemoryCache.get?_eq_some_iff.mp hit
    rw [held] at known
    obtain ⟨success, isLatest, told⟩ := Option.map_eq_some_iff.mp known
    obtain ⟨printed, flagged⟩ := Prod.mk.inj told
    obtain ⟨flagged, isShared⟩ := Prod.mk.inj flagged
    rw [← isShared] at answer
    exact .inr ⟨congrArg Indexer.parses same, success, isLatest, ⟨printed, flagged⟩, answer⟩
  · refine .inl ⟨counted, ?_⟩
    rintro success isLatest ⟨printed, flagged⟩
    have hit : s.indexer.memory.get? ⟨path, fingerprint bytes, countsImports⟩ =
        some success.shared := by
      rw [MemoryCache.get?_eq_some_iff, held, isLatest, ← printed, ← flagged]
      rfl
    rw [miss] at hit
    cases hit

end Remembers

/-- In a run that works in memory and has records of no more paths than the memory cache may hold, an
ingest step whose file can be read calls the grammar exactly if no earlier step brought a record of
its path or the latest one that did read another content or counted imports otherwise. If it does not
call the grammar, it answers with the very record of that step. So nothing that comes between, failed
ingests or the same content written again, costs a call. -/
theorem parses_amortised {grammar : Grammar} {setup : Setup} (inMemory : setup.slot = none)
    {steps : List (Step × Nat)} (ordinary : ∀ entry ∈ steps, entry.1.isOrdinary = true)
    (bounded : Success.pathCount ((start setup).successes grammar steps) ≤
      (start setup).indexer.memory.limit)
    {path : Pathname} {bytes : ByteArray}
    (stored : Step.contentBehind path (steps.map (·.1)) = some bytes) (countsImports : Bool)
    (handle : Option String) (victim : Nat) :
    let s := (start setup).behind grammar steps
    let next := s.step grammar victim (.ingest path countsImports handle)
    let latest := Success.latest? ((start setup).successes grammar steps) path
    (next.2.indexer.parses = s.indexer.parses + 1 ↔ ∀ success ∈ latest,
      success.key.fingerprint ≠ fingerprint bytes ∨ success.key.countsImports ≠ countsImports) ∧
    (next.2.indexer.parses ≠ s.indexer.parses + 1 → next.2.indexer.parses = s.indexer.parses ∧
      ∃ success ∈ latest, next.1 = .record success.shared) ∧
    ∀ before asked earlierHandle earlier between shared,
      steps = before ++ (.ingest asked countsImports earlierHandle, earlier) :: between →
      asked.same path = true →
      (((start setup).behind grammar before).step grammar earlier
        (.ingest asked countsImports earlierHandle)).1 = .record shared →
      Step.contentBehind path (before.map (·.1)) = some bytes →
      (∀ success ∈ (((start setup).behind grammar before).step grammar earlier
        (.ingest asked countsImports earlierHandle)).2.successes grammar between,
          success.key.path.same path = false) →
      next.2.indexer.parses = s.indexer.parses ∧ next.1 = .record shared := by
  intro s next latest
  have remembers : Remembers (start setup).indexer.memory.limit
      ((start setup).successes grammar steps) s := (Remembers.start inMemory).behind ordinary bounded
  have content : s.content? path = some bytes := by
    rw [← stored]
    exact content?_behind (start setup) grammar steps path
  have calls := remembers.calls content grammar victim countsImports handle
  refine ⟨?_, ?_, ?_⟩
  · simp only [Decidable.not_and_iff_not_or_not] at calls
    rcases calls with ⟨called, differs⟩ | ⟨uncalled, success, isLatest, agrees, -⟩
    · exact iff_of_true called differs
    · refine iff_of_false (fun called => Nat.succ_ne_self _ (called.symm.trans uncalled)) ?_
      intro differs
      exact (differs success isLatest).elim (· agrees.1) (· agrees.2)
  · intro notCalled
    rcases calls with ⟨called, -⟩ | ⟨uncalled, success, isLatest, -, answer⟩
    · exact absurd called notCalled
    · exact ⟨uncalled, success, isLatest, answer⟩
  · intro before asked earlierHandle earlier between shared split same answered unchanged others
    have contentThen : ((start setup).behind grammar before).content? asked = some bytes := by
      rw [content?_congr _ same, content?_behind]
      exact unchanged
    have isLatest : latest = some ⟨⟨asked, fingerprint bytes, countsImports⟩, shared⟩ := by
      simp only [latest, split, successes_append, successes, answered, success?, contentThen]
      rw [← List.append_assoc, Success.latest?_append_others _ others]
      exact (Success.latest?_concat _ _ _).trans (if_pos same)
    rcases calls with ⟨-, differs⟩ | ⟨uncalled, success, found, -, answer⟩
    · exact absurd ⟨rfl, rfl⟩ (differs _ isLatest)
    · cases Option.some.inj (isLatest.symm.trans found)
      exact ⟨uncalled, answer⟩

/-- A file is ingested, another one is found to have no tree, and the first one is written again under
another spelling of its path. -/
def rewrittenRun : List (Step × Nat) :=
  [(.put ⟨"src/A.php"⟩ ⟨#[97]⟩, 0), (.ingest ⟨"src/A.php"⟩ false none, 0),
   (.put ⟨"B.php"⟩ ⟨#[98, 99, 100]⟩, 0), (.ingest ⟨"B.php"⟩ false none, 0),
   (.put ⟨"src//A.php"⟩ ⟨#[97]⟩, 0)]

def shortOnly : Grammar := fun bytes =>
  if bytes.size ≤ 1 then
    some (.node { kind := .other "program" }
      [.node { kind := .declaration .plain }
        [.node { kind := .name .simple, field := some .name, text := "A" } []]])
  else none

theorem parses_amortised_rewritten :
    let s := (start { limit := some 1 }).behind shortOnly rewrittenRun
    let shared : Shared := ⟨0, { path := ⟨"src/A.php"⟩, classes := [⟨"A", []⟩] }⟩
    (∀ entry ∈ rewrittenRun, entry.1.isOrdinary = true) ∧
    Success.pathCount ((start { limit := some 1 }).successes shortOnly rewrittenRun) ≤
      (start { limit := some 1 }).indexer.memory.limit ∧
    Step.contentBehind ⟨"src/A.php"⟩ (rewrittenRun.map (·.1)) = some ⟨#[97]⟩ ∧
    (s.step shortOnly 0 (.ingest ⟨"src/A.php"⟩ false none)).2.indexer.parses = s.indexer.parses ∧
    (s.step shortOnly 0 (.ingest ⟨"src/A.php"⟩ false none)).1 = .record shared ∧
    (s.step shortOnly 0 (.ingest ⟨"src/A.php"⟩ true none)).2.indexer.parses =
      s.indexer.parses + 1 := by
  intro s shared
  have ordinary : ∀ entry ∈ rewrittenRun, entry.1.isOrdinary = true := by decide
  have latest : Success.latest? ((start { limit := some 1 }).successes shortOnly rewrittenRun)
      ⟨"src/A.php"⟩ = some ⟨⟨⟨"src/A.php"⟩, fingerprint ⟨#[97]⟩, false⟩, shared⟩ := by
    decide +kernel
  have bounded : Success.pathCount
      ((start { limit := some 1 }).successes shortOnly rewrittenRun) ≤
        (start { limit := some 1 }).indexer.memory.limit := by decide +kernel
  have stored : Step.contentBehind ⟨"src/A.php"⟩ (rewrittenRun.map (·.1)) = some ⟨#[97]⟩ := by
    decide +kernel
  obtain ⟨-, -, unchanged⟩ := parses_amortised rfl ordinary bounded stored false none 0
  obtain ⟨called, -, -⟩ := parses_amortised rfl ordinary bounded stored true none 0
  obtain ⟨uncalled, answer⟩ := unchanged [(.put ⟨"src/A.php"⟩ ⟨#[97]⟩, 0)] ⟨"src/A.php"⟩ none 0
    (rewrittenRun.drop 2) shared rfl (by decide +kernel) rfl (by decide +kernel) (by decide +kernel)
  simp only [s]
  refine ⟨ordinary, bounded, stored, uncalled, answer, called.mpr ?_⟩
  rintro success isLatest
  cases Option.some.inj (latest.symm.trans isLatest)
  exact .inr Bool.false_ne_true

end Session

end ClassGraph
