import ClassGraph.Proofs.AmortisedParses

namespace ClassGraph

/-- An entry that gives its place to a record of its path. -/
def MemoryEntry.yielding (key : CacheKey) (shared : Shared) (entry : MemoryEntry) : MemoryEntry :=
  if entry.isFor key.path then ⟨{ key with path := entry.key.path }, shared⟩ else entry

theorem MemoryEntry.path_yielding (key : CacheKey) (shared : Shared) (entry : MemoryEntry) :
    (entry.yielding key shared).key.path = entry.key.path := by
  unfold yielding
  split <;> rfl

namespace MemoryCache

theorem insert_of_known {cache : MemoryCache} {key : CacheKey} {old : MemoryEntry}
    (known : cache.find? key.path = some old) (victim : Nat) (shared : Shared) :
    cache.insert victim key shared =
      { cache with entries := cache.entries.map (·.yielding key shared) } := by
  rw [insert, known]
  rfl

theorem insert_of_new {cache : MemoryCache} {key : CacheKey} (new : cache.find? key.path = none)
    (victim : Nat) (shared : Shared) :
    cache.insert victim key shared =
      { cache.makeRoom victim with
        entries := (cache.makeRoom victim).entries ++ [⟨key, shared⟩] } := by
  rw [insert, new]
  rfl

/-- The invariant of a memory cache: there is room for a record, the limit is kept, and no two
entries are for one path. -/
structure Bounded (cache : MemoryCache) : Prop where
  positive : 0 < cache.limit
  size : cache.entries.length ≤ cache.limit
  apart : cache.entries.Pairwise fun a b => a.isFor b.key.path = false

theorem bounded_empty {limit : Nat} (positive : 0 < limit) : Bounded { limit, entries := [] } :=
  ⟨positive, Nat.zero_le _, .nil⟩

theorem isFor_unique {a b : MemoryEntry} {path : Pathname} (apart : a.isFor b.key.path = false)
    (forA : a.isFor path = true) : b.isFor path = false := by
  by_contra forB
  rw [Bool.not_eq_false] at forB
  have same : a.isFor b.key.path = true := by
    rw [isFor_congr forB, forA]
  rw [apart] at same
  cases same

/-- Without one of its entries, a cache has no entry for the path of this one, and the same entries
for all other paths. -/
theorem find?_eraseIdx {entries : List MemoryEntry}
    (apart : entries.Pairwise fun a b => a.isFor b.key.path = false) {i : Nat} {gone : MemoryEntry}
    (here : entries[i]? = some gone) (path : Pathname) :
    (entries.eraseIdx i).find? (·.isFor path) =
      if gone.isFor path then none else entries.find? (·.isFor path) := by
  induction entries generalizing i with
  | nil => cases here
  | cons first rest ih =>
    obtain ⟨others, apart⟩ := List.pairwise_cons.mp apart
    cases i with
    | zero =>
      cases here
      rw [List.eraseIdx_cons_zero, List.find?_cons]
      cases own : gone.isFor path with
      | false => rfl
      | true =>
        refine List.find?_eq_none.mpr fun entry member => ?_
        simp [isFor_unique (others entry member) own]
    | succ i =>
      have listed : gone ∈ rest := List.mem_of_getElem? here
      rw [List.eraseIdx_cons_succ, List.find?_cons, List.find?_cons]
      cases own : first.isFor path with
      | false => exact ih apart here
      | true => simp [isFor_unique (others gone listed) own]

theorem find?_eq_none {cache : MemoryCache} {path : Pathname} (new : cache.find? path = none) :
    ∀ entry ∈ cache.entries, entry.isFor path = false := by
  intro entry member
  simpa using List.find?_eq_none.mp new entry member

theorem makeRoom_sublist (cache : MemoryCache) (victim : Nat) :
    (cache.makeRoom victim).entries.Sublist cache.entries := by
  unfold makeRoom
  split
  · exact .refl _
  · exact List.eraseIdx_sublist _ _

/-- The entry that is given up when a record of a path is entered: one that `victim` chooses, if the
path has no entry and there is no room. -/
def givenUp? (cache : MemoryCache) (victim : Nat) (path : Pathname) : Option MemoryEntry :=
  if (cache.find? path).isSome ∨ cache.entries.length < cache.limit then none
  else cache.entries[victim % cache.entries.length]?

theorem find?_makeRoom {cache : MemoryCache} (bounded : cache.Bounded) {path : Pathname}
    (new : cache.find? path = none) (victim : Nat) (other : Pathname) :
    MemoryCache.find? (cache.makeRoom victim) other =
      if (cache.givenUp? victim path).any (·.isFor other) then none else cache.find? other := by
  by_cases room : cache.entries.length < cache.limit
  · have kept : cache.givenUp? victim path = none := if_pos (.inr room)
    rw [makeRoom, if_pos room, kept]
    rfl
  · have full : ¬((cache.find? path).isSome ∨ cache.entries.length < cache.limit) := by
      simp [new, room]
    have occupied : 0 < cache.entries.length :=
      bounded.positive.trans_le (Nat.not_lt.mp room)
    have here := List.getElem?_eq_getElem (Nat.mod_lt victim occupied)
    rw [makeRoom, if_neg room, givenUp?, if_neg full, here]
    exact find?_eraseIdx bounded.apart here other

/-- Entering a record leaves the entries of other paths alone, but for the one that is given up. -/
theorem find?_insert {cache : MemoryCache} (bounded : cache.Bounded) (victim : Nat) (key : CacheKey)
    (shared : Shared) {other : Pathname} (different : key.path.same other = false) :
    MemoryCache.find? (cache.insert victim key shared) other =
      if (cache.givenUp? victim key.path).any (·.isFor other) then none
      else cache.find? other := by
  cases known : cache.find? key.path with
  | some old =>
    have kept : cache.givenUp? victim key.path = none := if_pos (.inl (by rw [known]; rfl))
    have sameFor (entry : MemoryEntry) :
        (entry.yielding key shared).isFor other = entry.isFor other := by
      rw [MemoryEntry.isFor, MemoryEntry.path_yielding]
      rfl
    rw [insert_of_known known, kept, find?, List.find?_map]
    simp only [Function.comp_def, sameFor, Option.any_none, Bool.false_eq_true, if_false, find?]
    cases found : cache.entries.find? (·.isFor other) with
    | none => rfl
    | some entry =>
      have own : entry.isFor other = true := by simpa using List.find?_some found
      have stays : entry.isFor key.path = false := by
        by_contra yields
        rw [Bool.not_eq_false] at yields
        have same : key.path.same other = true := by
          rw [← Pathname.same_congr yields]
          exact own
        rw [different] at same
        cases same
      simp [MemoryEntry.yielding, stays]
  | none =>
    rw [← find?_makeRoom bounded known victim other, insert_of_new known]
    simp [find?, List.find?_append, MemoryEntry.isFor, different]

/-- A record that is entered is held for its path. -/
theorem held?_insert_self {cache : MemoryCache} (victim : Nat) (key : CacheKey) (shared : Shared)
    {path : Pathname} (same : key.path.same path = true) :
    (cache.insert victim key shared).held? path =
      some (key.fingerprint, key.countsImports, shared) := by
  cases known : cache.find? key.path with
  | some old =>
    rw [insert_of_known known]
    refine (held?_replace cache key shared path).trans ?_
    rw [if_pos same, held?, ← cache.find?_congr same, known]
    rfl
  | none =>
    have new : MemoryCache.find? (cache.makeRoom victim) key.path = none := by
      refine List.find?_eq_none.mpr fun entry member => ?_
      have listed := (cache.makeRoom_sublist victim).subset member
      simp [find?_eq_none known entry listed]
    rw [insert_of_new known, held?_append _ key shared path new, if_pos same]

/-- What is held for a path answers for its fingerprint and its flag and for no others. -/
theorem get?_of_held? {cache : MemoryCache} {key : CacheKey} {fingerprint : String}
    {countsImports : Bool} {shared : Shared}
    (held : cache.held? key.path = some (fingerprint, countsImports, shared)) :
    cache.get? key =
      if key.fingerprint = fingerprint ∧ key.countsImports = countsImports then some shared
      else none := by
  split
  · rename_i asked
    rw [get?_eq_some_iff, held, asked.1, asked.2]
  · rename_i other
    refine Option.eq_none_iff_forall_ne_some.mpr fun found hit => other ?_
    rw [get?_eq_some_iff, held] at hit
    obtain ⟨printed, rest⟩ := Prod.mk.inj (Option.some.inj hit)
    exact ⟨printed.symm, (Prod.mk.inj rest).1.symm⟩

theorem Bounded.length_makeRoom {cache : MemoryCache} (bounded : cache.Bounded) (victim : Nat) :
    (cache.makeRoom victim).entries.length < cache.limit := by
  by_cases room : cache.entries.length < cache.limit
  · rwa [makeRoom, if_pos room]
  · have occupied : 0 < cache.entries.length :=
      bounded.positive.trans_le (Nat.not_lt.mp room)
    have smaller := List.length_eraseIdx_of_lt (Nat.mod_lt victim occupied)
    have size := bounded.size
    rw [makeRoom, if_neg room, smaller]
    omega

theorem Bounded.insert {cache : MemoryCache} (bounded : cache.Bounded) (victim : Nat) (key : CacheKey)
    (shared : Shared) : (cache.insert victim key shared).Bounded := by
  have limit := cache.limit_insert victim key shared
  refine ⟨limit ▸ bounded.positive, ?_, ?_⟩
  · rw [limit]
    cases known : cache.find? key.path with
    | some old =>
      rw [insert_of_known known, List.length_map]
      exact bounded.size
    | none =>
      rw [insert_of_new known, List.length_append, List.length_singleton]
      exact bounded.length_makeRoom victim
  · cases known : cache.find? key.path with
    | some old =>
      rw [insert_of_known known]
      refine List.pairwise_map.mpr (bounded.apart.imp fun {a b} apart => ?_)
      rw [MemoryEntry.isFor, MemoryEntry.path_yielding, MemoryEntry.path_yielding]
      exact apart
    | none =>
      have fewer := cache.makeRoom_sublist victim
      rw [insert_of_new known]
      refine List.pairwise_append.mpr
        ⟨bounded.apart.sublist fewer, List.pairwise_singleton _ _, ?_⟩
      intro entry member new isNew
      rw [List.mem_singleton.mp isNew]
      exact find?_eq_none known entry (fewer.subset member)

end MemoryCache

namespace Cache

/-- What befalls a cache: a record is fetched, the cache is cleared, or others who share its directory
change it. -/
inductive Use where
  | fetch (victim id : Nat) (key : CacheKey) (build : Unit → Except SourceError FileRecord)
  | clear
  | share (directory : CacheDirectory)

def after (cache : Cache) : Use → Cache
  | .fetch victim id key build => (cache.fetch victim id key build).cache
  | .clear => cache.clear
  | .share directory => { cache with directory }

/-- The cache behind several uses. -/
def behind (cache : Cache) (uses : List Use) : Cache :=
  uses.foldl after cache

/-- What memory holds is fetched as it is, whatever a build would bring, and nothing changes. -/
theorem fetch_held {cache : Cache} {key : CacheKey} {shared : Shared}
    (hit : cache.memory.get? key = some shared) (victim id : Nat)
    (build : Unit → Except SourceError FileRecord) :
    cache.fetch victim id key build = { answer := .ok shared, built := false, cache } := by
  simp only [fetch, hit]

/-- A record that was fetched is one that memory held, or it has been entered. -/
theorem fetch_eq_ok {cache : Cache} {victim id : Nat} {key : CacheKey}
    {build : Unit → Except SourceError FileRecord} {shared : Shared}
    (fetched : (cache.fetch victim id key build).answer = .ok shared) :
    cache.memory.get? key = some shared ∨
      (cache.fetch victim id key build).cache.memory = cache.memory.insert victim key shared := by
  cases held : cache.memory.get? key with
  | some old =>
    rw [fetch_held held] at fetched
    cases fetched
    exact .inl rfl
  | none =>
    simp only [fetch, held] at fetched ⊢
    split at fetched
    · cases fetched
      exact .inr rfl
    · split at fetched
      · cases fetched
      · cases fetched
        exact .inr rfl

/-- The invariant of a cache in use: it has the limit it began with, and its memory is bounded. -/
structure Keeps (limit : Nat) (cache : Cache) : Prop where
  limit : cache.memory.limit = limit
  bounded : cache.memory.Bounded

namespace Keeps

variable {limit : Nat} {cache : Cache}

theorem empty (limit : Nat) (directory : CacheDirectory) :
    Keeps (max limit 1) { memory := .ofLimit limit, directory } :=
  ⟨rfl, MemoryCache.bounded_empty (by omega)⟩

theorem fetch (keeps : cache.Keeps limit) (victim id : Nat) (key : CacheKey)
    (build : Unit → Except SourceError FileRecord) :
    (cache.fetch victim id key build).cache.Keeps limit := by
  have entered (shared : Shared) (directory : CacheDirectory) :
      Keeps limit { memory := cache.memory.insert victim key shared, directory } := by
    refine ⟨?_, keeps.bounded.insert victim key shared⟩
    rw [MemoryCache.limit_insert, keeps.limit]
  rw [Cache.fetch]
  split
  · exact keeps
  · split
    · exact entered _ _
    · split
      · exact keeps
      · exact entered _ _

theorem after (keeps : cache.Keeps limit) (use : Use) : (cache.after use).Keeps limit := by
  cases use with
  | fetch victim id key build => exact keeps.fetch victim id key build
  | clear => exact ⟨keeps.limit, MemoryCache.bounded_empty keeps.bounded.positive⟩
  | share directory => exact ⟨keeps.limit, keeps.bounded⟩

theorem behind (keeps : cache.Keeps limit) (uses : List Use) : (cache.behind uses).Keeps limit := by
  induction uses generalizing cache with
  | nil => exact keeps
  | cons use uses ih => exact ih (keeps.after use)

end Keeps

/-- Fetching a record, in whatever state the uses before it have left the cache, keeps the limit. From
then on memory answers for the key with the very record, and for no other fingerprint or flag of the
path. The entries of other paths stay as they were, but for one that is given up if the path had no
entry and there was no room. What memory holds is fetched without a build, and nothing changes. -/
theorem fetch_framed (limit : Nat) (directory : CacheDirectory) (uses : List Use) (victim id : Nat)
    (key : CacheKey) (build : Unit → Except SourceError FileRecord) :
    let cache := behind { memory := .ofLimit limit, directory } uses
    let fetched := cache.fetch victim id key build
    (∀ shared, fetched.answer = .ok shared →
      fetched.cache.memory.entries.length ≤ max limit 1 ∧
      (∀ asked : CacheKey, key.path.same asked.path = true →
        fetched.cache.memory.get? asked =
          if asked.fingerprint = key.fingerprint ∧ asked.countsImports = key.countsImports then
            some shared
          else none) ∧
      ∃ gone : Option MemoryEntry,
        ((cache.memory.find? key.path).isSome ∨ cache.memory.entries.length < max limit 1 →
          gone = none) ∧
        ∀ other, key.path.same other = false →
          fetched.cache.memory.find? other =
            if gone.any (·.isFor other) then none else cache.memory.find? other) ∧
    ∀ shared, cache.memory.get? key = some shared → ∀ build,
      cache.fetch victim id key build = { answer := .ok shared, built := false, cache } := by
  intro cache fetched
  have keeps : cache.Keeps (max limit 1) := (Keeps.empty limit directory).behind uses
  have kept : fetched.cache.Keeps (max limit 1) := keeps.fetch victim id key build
  refine ⟨?_, ?_⟩
  · intro shared answer
    have size : fetched.cache.memory.entries.length ≤ max limit 1 := by
      rw [← kept.limit]
      exact kept.bounded.size
    refine ⟨size, ?_⟩
    rcases fetch_eq_ok answer with hit | entered
    · have unchanged : fetched.cache = cache := by
        simp only [fetched, fetch_held hit]
      have held := MemoryCache.get?_eq_some_iff.mp hit
      rw [unchanged]
      refine ⟨fun asked same => MemoryCache.get?_of_held? ?_, none, fun _ => rfl, fun _ _ => rfl⟩
      rw [← held, MemoryCache.held?, MemoryCache.held?, cache.memory.find?_congr same]
    · have memory : fetched.cache.memory = cache.memory.insert victim key shared := entered
      rw [memory]
      refine ⟨fun asked same => MemoryCache.get?_of_held?
          (MemoryCache.held?_insert_self victim key shared same),
        cache.memory.givenUp? victim key.path, ?_, ?_⟩
      · intro spared
        rw [← keeps.limit] at spared
        exact if_pos spared
      · intro other different
        exact MemoryCache.find?_insert keeps.bounded victim key shared different
  · intro shared hit build
    exact fetch_held hit victim id build

/-- A record is fetched, and a failed build of another content of its path follows. -/
def sampleUses : List Use :=
  [.fetch 0 0 ⟨⟨"src//A.php"⟩, "f", false⟩ fun _ => .ok { path := ⟨"src//A.php"⟩ },
   .fetch 0 1 ⟨⟨"src/A.php"⟩, "g", true⟩ fun _ => .error (.noTree ⟨"src/A.php"⟩)]

theorem fetch_framed_sampleUses :
    let cache := behind { memory := .ofLimit 0, directory := none } sampleUses
    let build : Unit → Except SourceError FileRecord := fun _ => .ok { path := ⟨"src/B.php"⟩ }
    let fetched := cache.fetch 5 1 ⟨⟨"src/B.php"⟩, "h", true⟩ build
    fetched.answer = .ok ⟨1, { path := ⟨"src/B.php"⟩ }⟩ ∧
    fetched.cache.memory.entries.length ≤ 1 ∧
    fetched.cache.memory.get? ⟨⟨"src//B.php"⟩, "h", true⟩ = some ⟨1, { path := ⟨"src/B.php"⟩ }⟩ ∧
    fetched.cache.memory.get? ⟨⟨"src//B.php"⟩, "h", false⟩ = none ∧
    cache.fetch 5 1 ⟨⟨"src/A.php"⟩, "f", false⟩ build =
      { answer := .ok ⟨0, { path := ⟨"src//A.php"⟩ }⟩, built := false, cache } := by
  intro cache build fetched
  have answer : fetched.answer = .ok ⟨1, { path := ⟨"src/B.php"⟩ }⟩ := by rfl
  have hit : cache.memory.get? ⟨⟨"src/A.php"⟩, "f", false⟩ =
      some ⟨0, { path := ⟨"src//A.php"⟩ }⟩ := by decide +kernel
  obtain ⟨size, asked, -⟩ :=
    (fetch_framed 0 none sampleUses 5 1 ⟨⟨"src/B.php"⟩, "h", true⟩ build).1 _ answer
  have held := (fetch_framed 0 none sampleUses 5 1 ⟨⟨"src/A.php"⟩, "f", false⟩ build).2 _ hit
  refine ⟨answer, size, ?_, ?_, held build⟩
  · exact (asked ⟨⟨"src//B.php"⟩, "h", true⟩ (by decide +kernel)).trans (if_pos ⟨rfl, rfl⟩)
  · exact (asked ⟨⟨"src//B.php"⟩, "h", false⟩ (by decide +kernel)).trans (if_neg (by simp))

end Cache

end ClassGraph
