import ClassGraph.Proofs.SessionHistory

namespace ClassGraph

/-- What fetching can come to: an error, a record that memory holds already, or a record that is new
in memory. -/
theorem Cache.fetch_cases (cache : Cache) (victim id : Nat) (key : CacheKey)
    (build : Unit → Except SourceError FileRecord) :
    let fetched := cache.fetch victim id key build
    (∃ error, fetched.answer = .error error ∧ fetched.cache.memory = cache.memory) ∨
    (∃ shared ∈ cache.memory.entries.map (·.shared),
      fetched.answer = .ok shared ∧ fetched.cache.memory = cache.memory) ∨
    ∃ file, fetched.answer = .ok ⟨id, file⟩ ∧
      fetched.cache.memory = cache.memory.insert victim key ⟨id, file⟩ := by
  simp only [Cache.fetch]
  split
  · rename_i shared hit
    obtain ⟨entry, member, -, rfl⟩ := MemoryCache.get?_eq_some hit
    exact .inr (.inl ⟨entry.shared, List.mem_map_of_mem member, rfl, rfl⟩)
  · split
    · exact .inr (.inr ⟨_, rfl, rfl⟩)
    · split
      · exact .inl ⟨_, rfl, rfl⟩
      · exact .inr (.inr ⟨_, rfl, rfl⟩)

namespace Session

/-- The records that handles and the memory cache hold. -/
def live (s : Session) : List Shared :=
  s.handles.map (·.2) ++ s.indexer.memory.entries.map (·.shared)

theorem mem_live {s : Session} {x : Shared} : x ∈ s.live ↔
    x ∈ s.handles.map (·.2) ∨ x ∈ s.indexer.memory.entries.map (·.shared) :=
  List.mem_append

theorem entries_renew (s : Session) (setup : Setup) :
    (s.renew setup).indexer.memory.entries = [] := by
  simp only [renew]
  cases setup.limit <;> rfl

/-- How the records of a session go over into those of another one: all are old but for one that may
be new, which takes the next identity. -/
structure Admits (s : Session) (new : Option Shared) (s' : Session) : Prop where
  live : ∀ x ∈ s'.live, x ∈ s.live ∨ new = some x
  issued : s'.issued = s.issued + new.toList.length
  identity : ∀ x, new = some x → x.id = s.issued

namespace Admits

variable {s s' : Session} {new : Option Shared}

theorem of_subset (fewer : ∀ x ∈ s'.live, x ∈ s.live) (issued : s'.issued = s.issued) :
    s.Admits none s' :=
  ⟨fun x member => .inl (fewer x member), issued, by simp⟩

/-- What is known of the records with an old identity stays known. -/
theorem keeps (admits : s.Admits new s') {i : Nat} (old : i < s.issued) {P : Shared → Prop}
    (holds : ∀ x ∈ s.live, x.id = i → P x) : ∀ x ∈ s'.live, x.id = i → P x := by
  intro x member same
  rcases admits.live x member with before | isNew
  · exact holds x before same
  · have next := admits.identity x isNew
    omega

end Admits

theorem mem_live_receive {s : Session} {handle : Option String} {shared x : Shared}
    (member : x ∈ (s.receive handle (.ok shared)).live) : x ∈ s.live ∨ x = shared := by
  have same : (s.issue shared).live = s.live := by
    rw [issue]
    split <;> rfl
  rw [receive] at member
  cases handle with
  | none => exact .inl (same ▸ member)
  | some handle =>
    rw [← same]
    rcases mem_live.mp member with held | cached
    · obtain ⟨entry, listed, rfl⟩ := List.mem_map.mp held
      rcases List.mem_cons.mp listed with rfl | old
      · exact .inr rfl
      · exact .inl (mem_live.mpr (.inl (List.mem_map_of_mem (List.mem_of_mem_filter old))))
    · exact .inl (mem_live.mpr (.inr cached))

theorem issued_receive (s : Session) (handle : Option String) (shared : Shared) :
    (s.receive handle (.ok shared)).issued =
      if shared.id = s.issued then s.issued + 1 else s.issued := by
  simp only [receive, issue, hold]
  split <;> split <;> rfl

/-- Fetching with the next identity and receiving the answer brings one new record at most. -/
theorem admits_receive {s s' : Session} (below : ∀ x ∈ s.live, x.id < s.issued)
    (handles : s'.handles = s.handles) (issued : s'.issued = s.issued) (handle : Option String)
    {directory : CacheDirectory} {victim : Nat} {key : CacheKey}
    {build : Unit → Except SourceError FileRecord} {fetched : Fetched}
    (run : Cache.fetch ⟨s.indexer.memory, directory⟩ victim s.issued key build = fetched)
    (memory : s'.indexer.memory = fetched.cache.memory) :
    ∃ new, s.Admits new (s'.receive handle fetched.answer) := by
  have cases := Cache.fetch_cases ⟨s.indexer.memory, directory⟩ victim s.issued key build
  simp only [run, ← memory] at cases
  rcases cases with ⟨error, failed, same⟩ | ⟨shared, cached, found, same⟩ | ⟨file, found, inserted⟩
  · rw [failed]
    refine ⟨none, .of_subset ?_ issued⟩
    intro x member
    rwa [receive, live, handles, same] at member
  · have old : shared ∈ s.live := mem_live.mpr (.inr cached)
    rw [found]
    refine ⟨none, .of_subset ?_ ?_⟩
    · intro x member
      rcases mem_live_receive member with before | rfl
      · rwa [live, handles, same] at before
      · exact old
    · have smaller := below shared old
      rw [issued_receive, issued, if_neg (by omega)]
  · rw [found]
    refine ⟨some ⟨s.issued, file⟩, ?_, ?_, ?_⟩
    · intro x member
      rcases mem_live_receive member with before | rfl
      · rcases mem_live.mp before with held | cached
        · exact .inl (mem_live.mpr (.inl (handles ▸ held)))
        · rw [inserted] at cached
          obtain ⟨entry, listed, rfl⟩ := List.mem_map.mp cached
          rcases MemoryCache.mem_insert listed with earlier | ⟨-, isNew⟩
          · exact .inl (mem_live.mpr (.inr (List.mem_map_of_mem earlier)))
          · exact .inr (congrArg some isNew.symm)
      · exact .inr rfl
    · rw [issued_receive, if_pos issued.symm, issued]
      rfl
    · rintro x isNew
      cases isNew
      rfl

/-- What a step can do to the records of a session. -/
theorem admits_step {s : Session} (below : ∀ x ∈ s.live, x.id < s.issued) (grammar : Grammar)
    (victim : Nat) (step : Step) : ∃ new, s.Admits new (s.step grammar victim step).2 := by
  have unchanged {s' : Session} (same : s'.live = s.live) (issued : s'.issued = s.issued) :
      ∃ new, s.Admits new s' :=
    ⟨none, .of_subset (fun x member => same ▸ member) issued⟩
  cases step with
  | ingest path countsImports handle =>
    simp only [Session.step, ingest, Indexer.ingest]
    split
    · exact unchanged rfl rfl
    · exact admits_receive below (by rfl) (by rfl) handle rfl (by rfl)
  | enter key build handle => exact admits_receive below (by rfl) (by rfl) handle rfl (by rfl)
  | declaration choice =>
    obtain ⟨declarations, parses, reads, same⟩ := declaration_eq s grammar choice
    rw [Session.step, same]
    exact unchanged rfl rfl
  | keep handle className name =>
    rw [Session.step]
    split
    · exact unchanged rfl rfl
    · split
      · exact unchanged rfl rfl
      · exact unchanged rfl rfl
  | release handle =>
    refine ⟨none, .of_subset ?_ rfl⟩
    intro x member
    refine mem_live.mpr ((mem_live.mp member).imp_left ?_)
    exact fun held => (List.filter_sublist.map _).subset held
  | clearCache =>
    refine ⟨none, .of_subset ?_ rfl⟩
    intro x member
    exact mem_live.mpr ((mem_live.mp member).imp_right fun nothing => by cases nothing)
  | renew setup =>
    refine ⟨none, .of_subset ?_ rfl⟩
    intro x member
    refine mem_live.mpr ((mem_live.mp member).imp_right fun nothing => ?_)
    rw [Session.step, entries_renew] at nothing
    cases nothing
  | tamper place tampering =>
    rw [Session.step, tamper]
    split
    · exact unchanged rfl rfl
    · exact unchanged rfl rfl
  | block place =>
    rw [Session.step]
    split
    · exact unchanged rfl rfl
    · exact unchanged rfl rfl
  | _ => exact unchanged rfl rfl

theorem mem_of_class? {file : FileRecord} {name : String} {c : ClassRecord}
    (found : file.class? name = some c) : c ∈ file.classes :=
  List.mem_of_find?_eq_some found

theorem mem_live_of_handle {s : Session} {handle : String} {shared : Shared}
    (held : s.handles.lookup handle = some shared) : shared ∈ s.live := by
  obtain ⟨before, after, split, -⟩ := List.lookup_eq_some_iff.mp held
  rw [mem_live, split]
  simp

/-- A class that is kept behind a step was kept before, or is taken from a record that is alive. -/
theorem kept_step (s : Session) (grammar : Grammar) (victim : Nat) (step : Step) :
    ∀ entry ∈ (s.step grammar victim step).2.kept, entry ∈ s.kept ∨
      ∃ shared ∈ s.live, entry.2.owner = shared.id ∧ entry.2.record ∈ shared.file.classes := by
  have unchanged {s' : Session} (same : s'.kept = s.kept) : ∀ entry ∈ s'.kept, entry ∈ s.kept ∨
      ∃ shared ∈ s.live, entry.2.owner = shared.id ∧ entry.2.record ∈ shared.file.classes :=
    fun entry member => .inl (same ▸ member)
  cases step with
  | declaration choice =>
    obtain ⟨declarations, parses, reads, same⟩ := declaration_eq s grammar choice
    rw [Session.step, same]
    exact unchanged rfl
  | keep handle className name =>
    rw [Session.step]
    split
    · exact unchanged rfl
    · rename_i shared held
      split
      · exact unchanged rfl
      · rename_i c found
        intro entry member
        rcases List.mem_cons.mp member with rfl | old
        · exact .inr ⟨shared, mem_live_of_handle held, rfl, mem_of_class? found⟩
        · exact .inl (List.mem_of_mem_filter old)
  | clearDeclarations => exact unchanged rfl
  | renew setup => exact unchanged rfl
  | _ => exact unchanged (bookkeeping_step s grammar victim rfl).1

/-- The invariant of identities: those of live records are given out, each to one record, and a kept
class is a class of its owner. -/
structure Identified (s : Session) : Prop where
  below : ∀ x ∈ s.live, x.id < s.issued
  unique : ∀ x ∈ s.live, ∀ y ∈ s.live, y.id = x.id → y = x
  owned : ∀ entry ∈ s.kept, entry.2.owner < s.issued
  kept : ∀ entry ∈ s.kept, ∀ x ∈ s.live, x.id = entry.2.owner → entry.2.record ∈ x.file.classes

namespace Identified

theorem start (setup : Setup) : (start setup).Identified := by
  have nothing : (Session.start setup).live = [] := by
    rw [live, Session.start, entries_renew]
    rfl
  refine ⟨?_, ?_, ?_, ?_⟩
  · simp [nothing]
  · simp [nothing]
  · simp [Session.start, renew]
  · simp [nothing]

theorem step {s : Session} (identified : s.Identified) (grammar : Grammar) (victim : Nat)
    (step : Step) : (s.step grammar victim step).2.Identified := by
  obtain ⟨new, admits⟩ := admits_step identified.below grammar victim step
  have keeps := kept_step s grammar victim step
  generalize (s.step grammar victim step).2 = s' at admits keeps
  have grown : s.issued ≤ s'.issued := by
    have := admits.issued
    omega
  -- What is new takes an identity that nothing had, so it can be confused with nothing old.
  refine ⟨?_, ?_, ?_, ?_⟩
  · intro x member
    rcases admits.live x member with old | rfl
    · exact (identified.below x old).trans_le grown
    · have next := admits.identity x rfl
      have counted : s'.issued = s.issued + 1 := admits.issued
      omega
  · intro x member
    rcases admits.live x member with old | rfl
    · exact admits.keeps (identified.below x old) fun y => identified.unique x old y
    · intro y other same
      rcases admits.live y other with earlier | isNew
      · have smaller := identified.below y earlier
        have next := admits.identity x rfl
        omega
      · exact (Option.some.inj isNew).symm
  · intro entry member
    rcases keeps entry member with old | ⟨shared, alive, owner, -⟩
    · exact (identified.owned entry old).trans_le grown
    · rw [owner]
      exact (identified.below shared alive).trans_le grown
  · intro entry member
    rcases keeps entry member with old | ⟨shared, alive, owner, listed⟩
    · exact admits.keeps (identified.owned entry old) (identified.kept entry old)
    · rw [owner]
      refine admits.keeps (identified.below shared alive) fun x isAlive same => ?_
      rwa [identified.unique shared alive x isAlive same]

theorem behind {s : Session} (identified : s.Identified) (grammar : Grammar)
    (steps : List (Step × Nat)) : (s.behind grammar steps).Identified := by
  induction steps generalizing s with
  | nil => exact identified
  | cons entry steps ih => exact ih (identified.step grammar entry.2 entry.1)

/-- A class that is chosen with its owner is one of the owner's classes. -/
theorem mem_classes {s : Session} (identified : s.Identified) {choice : ClassChoice}
    {c : ClassRecord} {shared : Shared} (chosen : s.choose? choice = some (c, some shared)) :
    c ∈ shared.file.classes := by
  cases choice with
  | ofHandle handle className =>
    obtain ⟨held, -, chosen⟩ := Option.bind_eq_some_iff.mp chosen
    obtain ⟨found, isClass, chosen⟩ := Option.bind_eq_some_iff.mp chosen
    cases chosen
    exact mem_of_class? isClass
  | kept name =>
    obtain ⟨k, found, chosen⟩ := Option.map_eq_some_iff.mp chosen
    obtain ⟨rfl, alive⟩ := Prod.mk.inj chosen
    obtain ⟨before, after, split, -⟩ := List.lookup_eq_some_iff.mp found
    have listed : (name, k) ∈ s.kept := by simp [split]
    have isOwner : shared.id = k.owner := by simpa using List.find?_some alive
    exact identified.kept (name, k) listed shared (List.mem_of_find?_eq_some alive) isOwner
  | detached name =>
    cases (Prod.mk.inj (Option.some.inj chosen)).2

end Identified

end Session

end ClassGraph
