import ClassGraph.Proofs.FaithfulCache
import ClassGraph.Session.Basic

namespace ClassGraph

namespace Step

/-- The content of a path behind a step, from the content before it. -/
def contentAfter (path : Pathname) (before : Option ByteArray) : Step → Option ByteArray
  | put p bytes => if p.same path then some bytes else before
  | remove p => if p.same path then none else before
  | _ => before

/-- The content of a path behind several steps that begin with an empty store. -/
def contentBehind (path : Pathname) (steps : List Step) : Option ByteArray :=
  steps.foldl (contentAfter path) none

/-- The setup in force behind a step. -/
def setupAfter (before : Setup) : Step → Setup
  | renew setup => setup
  | _ => before

/-- The setup in force behind several steps. -/
def setupBehind (setup : Setup) (steps : List Step) : Setup :=
  steps.foldl setupAfter setup

/-- Steps that change neither files nor caches. -/
def isQuiet : Step → Bool
  | declaration _ | keep _ _ _ | owner _ | release _ | equal _ _ | equalClasses _ _ | declared _
  | scanned _ | clearDeclarations | lookUp _ | listing => true
  | _ => false

/-- Steps that change the classes that are kept or the declarations that are known. -/
def isBookkeeping : Step → Bool
  | declaration _ | keep _ _ _ | clearDeclarations | renew _ => true
  | _ => false

end Step

namespace Session

/-- The session behind several steps. -/
def behind (s : Session) (grammar : Grammar) (steps : List (Step × Nat)) : Session :=
  (s.run grammar steps).2

theorem behind_cons (s : Session) (grammar : Grammar) (step : Step) (victim : Nat)
    (steps : List (Step × Nat)) : s.behind grammar ((step, victim) :: steps) =
      (s.step grammar victim step).2.behind grammar steps :=
  rfl

/-- Each answer of a run is the answer of its step in the session behind the steps before it. -/
theorem run_answer (s : Session) (grammar : Grammar) (steps : List (Step × Nat)) (i : Nat) :
    (s.run grammar steps).1[i]? = steps[i]?.map fun entry =>
      let next := (s.behind grammar (steps.take i)).step grammar entry.2 entry.1
      (next.1, next.2.counts) := by
  induction steps generalizing s i with
  | nil => rfl
  | cons entry steps ih =>
    cases i with
    | zero => rfl
    | succ i => exact ih (s.step grammar entry.2 entry.1).2 i

/-- Receiving an answer only touches the handles and the number of identities. -/
theorem receive_eq (s : Session) (handle : Option String) (answer : Except SourceError Shared) :
    ∃ handles issued, s.receive handle answer = { s with handles, issued } := by
  cases answer with
  | error error => exact ⟨s.handles, s.issued, rfl⟩
  | ok shared =>
    simp only [receive, issue, hold]
    split <;> split <;> exact ⟨_, _, rfl⟩

/-- What a step can do to a session. Quiet steps leave the files, the directories and the memory
cache alone. -/
inductive Change (s : Session) (grammar : Grammar) (victim : Nat) : Step → Session → Prop
  | put (p : Pathname) (bytes : ByteArray) :
      Change s grammar victim (.put p bytes) { s with store := (p, bytes) :: s.without p }
  | remove (p : Pathname) : Change s grammar victim (.remove p) { s with store := s.without p }
  | ingest {path countsImports handle ingested handles issued} :
      s.indexer.ingest grammar s.reader s.directory victim s.issued path countsImports = ingested →
      Change s grammar victim (.ingest path countsImports handle)
        { s with
          indexer := ingested.indexer
          shelf := s.shelf.set ingested.directory s.slot
          reads := s.reads + 1
          handles, issued }
  | quiet {step declarations parses reads handles kept issued} : step.isQuiet = true →
      Change s grammar victim step
        { s with indexer := { s.indexer with declarations, parses }, reads, handles, kept, issued }
  | clearCache : Change s grammar victim .clearCache
      { s with
        indexer := { s.indexer with memory := { s.indexer.memory with entries := [] } }
        shelf := s.shelf.set s.directory.clear s.slot }
  | renew (setup : Setup) : Change s grammar victim (.renew setup) (s.renew setup)
  | enter {key build handle fetched handles issued} :
      Cache.fetch ⟨s.indexer.memory, s.directory⟩ victim s.issued key (fun _ => build) = fetched →
      Change s grammar victim (.enter key build handle)
        { s with
          indexer := { s.indexer with memory := fetched.cache.memory }
          shelf := s.shelf.set fetched.cache.directory s.slot
          handles, issued }
  | tamper {place tampering named} : Change s grammar victim (.tamper place tampering)
      { s with shelf := { s.shelf with named } }
  | block {place} (name : String) : Change s grammar victim (.block place)
      (s.replaceListed name (.folder []))
  | unblocked {place} : Change s grammar victim (.block place) s
  | removeDirectory : Change s grammar victim .removeDirectory
      { s with shelf := { s.shelf with named := none } }

theorem declaration_eq (s : Session) (grammar : Grammar) (choice : ClassChoice) :
    ∃ declarations parses reads, (s.declaration grammar choice).2 =
      { s with indexer := { s.indexer with declarations, parses }, reads } := by
  rw [declaration]
  split
  · exact ⟨_, _, _, rfl⟩
  · simp only [Indexer.declarationOf, Indexer.scanFile]
    repeat' split
    all_goals exact ⟨_, _, _, rfl⟩

theorem change_step (s : Session) (grammar : Grammar) (victim : Nat) (step : Step) :
    Change s grammar victim step (s.step grammar victim step).2 := by
  cases step with
  | put p bytes => exact .put p bytes
  | remove p => exact .remove p
  | ingest p countsImports handle =>
    obtain ⟨handles, issued, same⟩ := receive_eq _ handle _
    rw [Session.step, ingest, same]
    exact .ingest rfl
  | declaration choice =>
    obtain ⟨declarations, parses, reads, same⟩ := declaration_eq s grammar choice
    rw [Session.step, same]
    exact .quiet rfl
  | keep handle className name =>
    rw [Session.step]
    split
    · exact .quiet rfl
    · split
      · exact .quiet rfl
      · exact .quiet rfl
  | clearCache => exact .clearCache
  | renew setup => exact .renew setup
  | enter key build handle =>
    obtain ⟨handles, issued, same⟩ := receive_eq _ handle _
    rw [Session.step, enter, same]
    exact .enter rfl
  | tamper place tampering =>
    rw [Session.step, tamper]
    split
    · exact .tamper
    · exact .tamper
  | block place =>
    rw [Session.step]
    split
    · exact .block _
    · exact .unblocked
  | removeDirectory => exact .removeDirectory
  | _ => exact .quiet rfl

theorem bookkeeping_step (s : Session) (grammar : Grammar) (victim : Nat) {step : Step}
    (other : step.isBookkeeping = false) :
    (s.step grammar victim step).2.kept = s.kept ∧
      (s.step grammar victim step).2.indexer.declarations = s.indexer.declarations := by
  cases step with
  | declaration choice => cases other
  | keep handle className name => cases other
  | clearDeclarations => cases other
  | renew setup => cases other
  | ingest path countsImports handle =>
    obtain ⟨handles, issued, same⟩ := receive_eq _ handle _
    rw [Session.step, ingest, same]
    refine ⟨rfl, ?_⟩
    simp only [Indexer.ingest]
    split <;> rfl
  | enter key build handle =>
    obtain ⟨handles, issued, same⟩ := receive_eq _ handle _
    rw [Session.step, enter, same]
    exact ⟨rfl, rfl⟩
  | tamper place tampering =>
    rw [Session.step, tamper]
    split
    · exact ⟨rfl, rfl⟩
    · exact ⟨rfl, rfl⟩
  | block place =>
    rw [Session.step]
    split
    · exact ⟨rfl, rfl⟩
    · exact ⟨rfl, rfl⟩
  | _ => exact ⟨rfl, rfl⟩

theorem content?_congr (s : Session) {p q : Pathname} (same : p.same q = true) :
    s.content? p = s.content? q := by
  simp only [content?, Pathname.same_congr_right same]

theorem content?_remove (s : Session) (p path : Pathname) :
    ({ s with store := s.without p } : Session).content? path =
      if p.same path then none else s.content? path := by
  simp only [content?, without, List.find?_filter, Bool.decide_and, Bool.decide_eq_true]
  split
  · rename_i same
    have nothing : ∀ entry ∈ s.store, ¬(!entry.1.same p && entry.1.same path) = true := by
      intro entry _
      simp [Pathname.same_congr_right same]
    rw [List.find?_eq_none.mpr nothing, Option.map_none]
  · rename_i different
    have kept : (fun entry : Pathname × ByteArray => !entry.1.same p && entry.1.same path) =
        fun entry => entry.1.same path := by
      funext entry
      cases inPath : entry.1.same path with
      | false => rw [Bool.and_false]
      | true =>
        rw [Bool.and_true, Bool.not_eq_true']
        refine Bool.eq_false_iff.mpr fun inP => different ?_
        rw [← Pathname.same_congr inP, inPath]
    rw [kept]

theorem content?_put (s : Session) (p path : Pathname) (bytes : ByteArray) :
    ({ s with store := (p, bytes) :: s.without p } : Session).content? path =
      if p.same path then some bytes else s.content? path := by
  have others := content?_remove s p path
  simp only [content?] at others ⊢
  rw [List.find?_cons]
  cases same : p.same path with
  | true => simp
  | false => simpa [same] using others

theorem content?_step (s : Session) (grammar : Grammar) (victim : Nat) (step : Step)
    (path : Pathname) : (s.step grammar victim step).2.content? path =
      step.contentAfter path (s.content? path) := by
  have change := change_step s grammar victim step
  generalize (s.step grammar victim step).2 = s' at change ⊢
  cases change with
  | put p bytes => exact content?_put s p path bytes
  | remove p => exact content?_remove s p path
  | quiet quiet => cases step <;> first | rfl | cases quiet
  | _ => rfl

/-- What is stored at a path is told by the steps that put and remove files there. -/
theorem content?_behind (s : Session) (grammar : Grammar) (steps : List (Step × Nat))
    (path : Pathname) : (s.behind grammar steps).content? path =
      (steps.map (·.1)).foldl (Step.contentAfter path) (s.content? path) := by
  induction steps generalizing s with
  | nil => rfl
  | cons entry steps ih =>
    rw [behind_cons, ih, content?_step, List.map_cons, List.foldl_cons]

/-- The setup that a session works under. -/
structure WorksUnder (s : Session) (setup : Setup) : Prop where
  slot : s.slot = setup.slot
  rules : s.indexer.rules = setup.rules

theorem start_worksUnder (setup : Setup) : (start setup).WorksUnder setup :=
  ⟨rfl, rfl⟩

theorem WorksUnder.step {s : Session} {setup : Setup} (under : s.WorksUnder setup)
    (grammar : Grammar) (victim : Nat) (step : Step) :
    (s.step grammar victim step).2.WorksUnder (step.setupAfter setup) := by
  have change := change_step s grammar victim step
  generalize (s.step grammar victim step).2 = s' at change ⊢
  cases change with
  | renew setup => exact ⟨rfl, rfl⟩
  | @ingest path countsImports handle ingested handles issued run =>
    refine ⟨under.slot, Eq.trans ?_ under.rules⟩
    rw [← run, Indexer.ingest]
    split <;> rfl
  | quiet quiet =>
    have kept : step.setupAfter setup = setup := by cases step <;> first | rfl | cases quiet
    rw [kept]
    exact ⟨under.slot, under.rules⟩
  | _ => exact ⟨under.slot, under.rules⟩

theorem WorksUnder.behind {s : Session} {setup : Setup} (under : s.WorksUnder setup)
    (grammar : Grammar) (steps : List (Step × Nat)) :
    (s.behind grammar steps).WorksUnder (Step.setupBehind setup (steps.map (·.1))) := by
  induction steps generalizing s setup with
  | nil => exact under
  | cons entry steps ih => exact ih (under.step grammar entry.2 entry.1)

end Session

end ClassGraph
