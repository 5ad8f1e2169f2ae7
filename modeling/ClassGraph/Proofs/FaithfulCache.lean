import ClassGraph.Cache.Indexer
import ClassGraph.Proofs.StoredForm

namespace ClassGraph

namespace Pathname

theorem same_refl (p : Pathname) : p.same p = true :=
  same_iff.mpr rfl

theorem same_comm (p q : Pathname) : p.same q = q.same p := by
  rw [Bool.eq_iff_iff, same_iff, same_iff, eq_comm]

theorem same_congr {p q r : Pathname} (same : p.same q = true) : p.same r = q.same r := by
  rw [Pathname.same, Pathname.same, same_iff.mp same]

theorem same_congr_right {p q r : Pathname} (same : q.same r = true) : p.same q = p.same r := by
  rw [Pathname.same, Pathname.same, same_iff.mp same]

end Pathname

namespace FileRecord

theorem same_iff {a b : FileRecord} : a.same b = true ↔
    a.path.same b.path = true ∧ a.classes = b.classes ∧ a.imports = b.imports ∧
      a.countsImports = b.countsImports := by
  simp only [same, Bool.and_eq_true, beq_iff_eq, and_assoc]

theorem same_refl (a : FileRecord) : a.same a = true :=
  same_iff.mpr ⟨Pathname.same_refl _, rfl, rfl, rfl⟩

theorem same_symm {a b : FileRecord} (same : a.same b = true) : b.same a = true := by
  obtain ⟨path, classes, imports, countsImports⟩ := same_iff.mp same
  rw [Pathname.same_comm] at path
  exact same_iff.mpr ⟨path, classes.symm, imports.symm, countsImports.symm⟩

theorem same_trans {a b c : FileRecord} (first : a.same b = true) (second : b.same c = true) :
    a.same c = true := by
  obtain ⟨path, classes, imports, countsImports⟩ := same_iff.mp first
  rw [same_iff, Pathname.same_congr path, classes, imports, countsImports]
  exact same_iff.mp second

end FileRecord

namespace Indexer

theorem build_eq_ok {rules : List Rule} {grammar : Grammar} {path : Pathname} {countsImports : Bool}
    {bytes : ByteArray} {file : FileRecord} :
    build rules grammar path countsImports bytes = .ok file ↔
      ∃ tree, grammar bytes = some tree ∧ tree.value.hasFault = false ∧
        file = .ofTree rules path countsImports tree := by
  unfold build Grammar.parse
  constructor
  · intro built
    split at built
    · cases built
    · rename_i tree parsed
      split at built
      · cases built
      · rename_i sound
        cases built
        exact ⟨tree, parsed, Bool.eq_false_iff.mpr sound, rfl⟩
  · rintro ⟨tree, parsed, sound, rfl⟩
    simp only [parsed, sound]
    rfl

/-- A build under another pathname differs in the pathname only. -/
theorem build_rename {rules : List Rule} {grammar : Grammar} {path : Pathname} {countsImports : Bool}
    {bytes : ByteArray} {file : FileRecord}
    (built : build rules grammar path countsImports bytes = .ok file) (other : Pathname) :
    build rules grammar other countsImports bytes = .ok { file with path := other } := by
  obtain ⟨tree, parsed, sound, rfl⟩ := build_eq_ok.mp built
  exact build_eq_ok.mpr ⟨tree, parsed, sound, rfl⟩

theorem build_key {rules : List Rule} {grammar : Grammar} {path : Pathname} {countsImports : Bool}
    {bytes : ByteArray} {file : FileRecord}
    (built : build rules grammar path countsImports bytes = .ok file) :
    file.path = path ∧ file.countsImports = countsImports := by
  obtain ⟨tree, -, -, rfl⟩ := build_eq_ok.mp built
  exact ⟨rfl, rfl⟩

theorem build_restored {rules : List Rule} {grammar : Grammar} {path : Pathname}
    {countsImports : Bool} {bytes : ByteArray} {file : FileRecord}
    (built : build rules grammar path countsImports bytes = .ok file) (fingerprint : String) :
    (StoredRecord.ofRecord fingerprint file).toRecord = file := by
  obtain ⟨tree, -, -, rfl⟩ := build_eq_ok.mp built
  exact FileRecord.restored_ofTree rules path countsImports tree fingerprint

end Indexer

/-- Whether an entry of the memory cache answers for a key, its path included. -/
structure MemoryEntry.IsAt (entry : MemoryEntry) (key : CacheKey) : Prop where
  path : entry.key.path.same key.path = true
  fingerprint : entry.key.fingerprint = key.fingerprint
  countsImports : entry.key.countsImports = key.countsImports

namespace MemoryCache

theorem get?_eq_some {cache : MemoryCache} {key : CacheKey} {shared : Shared}
    (hit : cache.get? key = some shared) :
    ∃ entry ∈ cache.entries, entry.IsAt key ∧ entry.shared = shared := by
  simp only [get?, find?, Option.map_eq_some_iff, Option.filter_eq_some_iff] at hit
  obtain ⟨entry, ⟨found, answers⟩, same⟩ := hit
  simp only [MemoryEntry.answers, Bool.and_eq_true, beq_iff_eq] at answers
  have isFor : entry.isFor key.path = true := by simpa using List.find?_some found
  exact ⟨entry, List.mem_of_find?_eq_some found, ⟨isFor, answers.1, answers.2⟩, same⟩

theorem mem_insert {cache : MemoryCache} {victim : Nat} {key : CacheKey} {shared : Shared}
    {entry : MemoryEntry} (member : entry ∈ (cache.insert victim key shared).entries) :
    entry ∈ cache.entries ∨ entry.IsAt key ∧ entry.shared = shared := by
  unfold MemoryCache.insert at member
  split at member
  · obtain ⟨old, inOld, rfl⟩ := List.mem_map.mp member
    cases isFor : old.isFor key.path with
    | false => exact .inl (by simpa using inOld)
    | true => exact .inr ⟨⟨isFor, rfl, rfl⟩, rfl⟩
  · rcases List.mem_append.mp member with inRoom | isNew
    · unfold makeRoom at inRoom
      split at inRoom
      · exact .inl inRoom
      · exact .inl (List.mem_of_mem_eraseIdx inRoom)
    · cases List.mem_singleton.mp isNew
      exact .inr ⟨⟨Pathname.same_refl _, rfl, rfl⟩, rfl⟩

end MemoryCache

namespace CacheDirectory

/-- A file of a directory. -/
def Holds (directory : CacheDirectory) (bytes : ByteArray) : Prop :=
  ∃ entries name, directory = some entries ∧ (name, FileNode.file bytes) ∈ entries

theorem mem_of_lookup {entries : List (String × FileNode)} {name : String} {node : FileNode}
    (found : entries.lookup name = some node) : (name, node) ∈ entries := by
  obtain ⟨before, after, rfl, -⟩ := List.lookup_eq_some_iff.mp found
  simp

theorem load?_eq_some {directory : CacheDirectory} {key : CacheKey} {file : FileRecord}
    (hit : directory.load? key = some file) :
    ∃ bytes stored, directory.Holds bytes ∧ StoredRecord.decode bytes.data.toList = some stored ∧
      stored.answers key.path key.fingerprint key.countsImports = true ∧ stored.toRecord = file := by
  obtain ⟨bytes, read, hit⟩ := Option.bind_eq_some_iff.mp hit
  obtain ⟨stored, decoded, hit⟩ := Option.bind_eq_some_iff.mp hit
  obtain ⟨node, listed, isFile⟩ := Option.bind_eq_some_iff.mp read
  obtain ⟨entries, there, found⟩ := Option.bind_eq_some_iff.mp listed
  split at hit
  · rename_i answers
    cases node with
    | file content =>
      cases Option.some.inj isFile
      exact ⟨_, stored, ⟨entries, _, there, mem_of_lookup found⟩, decoded, answers,
        Option.some.inj hit⟩
    | link target => cases isFile
    | folder inner => cases isFile
  · cases hit

theorem mem_setEntry {name : String} {node : FileNode} {entries : List (String × FileNode)}
    {entry : String × FileNode} (member : entry ∈ FileNode.setEntry name node entries) :
    entry = (name, node) ∨ entry ∈ entries := by
  induction entries with
  | nil => exact .inl (List.mem_singleton.mp member)
  | cons first rest ih =>
    rw [FileNode.setEntry] at member
    split at member
    · rcases List.mem_cons.mp member with new | old
      · exact .inl new
      · exact .inr (List.mem_cons_of_mem _ old)
    · rcases List.mem_cons.mp member with rfl | later
      · exact .inr List.mem_cons_self
      · exact (ih later).imp_right (List.mem_cons_of_mem _)

theorem Holds.of_write {directory : CacheDirectory} {name : String} {bytes content : ByteArray}
    (holds : (directory.write name bytes).Holds content) :
    directory.Holds content ∨ directory.isSome ∧ content = bytes := by
  obtain ⟨entries, other, written, member⟩ := holds
  cases directory with
  | none => cases written
  | some old =>
    simp only [write, Option.map_some, Option.some.injEq] at written
    split at written
    · exact .inl ⟨old, other, rfl, written ▸ member⟩
    · rw [← written] at member
      rcases mem_setEntry member with new | before
      · cases new
        exact .inr ⟨rfl, rfl⟩
      · exact .inl ⟨old, other, rfl, before⟩

end CacheDirectory

/-- An entry that tells what a build of one of the contents tells. -/
def MemoryEntry.Faithful (rules : List Rule) (grammar : Grammar) (contents : List ByteArray)
    (entry : MemoryEntry) : Prop :=
  ∃ bytes ∈ contents, entry.key.fingerprint = fingerprint bytes ∧
    ∃ file, Indexer.build rules grammar entry.key.path entry.key.countsImports bytes = .ok file ∧
      entry.shared.file.same file = true

/-- A directory in which every file is read as the stored form of a build of one of the contents. -/
def CacheDirectory.Faithful (rules : List Rule) (grammar : Grammar) (contents : List ByteArray)
    (directory : CacheDirectory) : Prop :=
  ∀ bytes, directory.Holds bytes → ∃ content ∈ contents, ∃ path countsImports file,
    Indexer.build rules grammar path countsImports content = .ok file ∧
      StoredRecord.decode bytes.data.toList =
        some (.ofRecord (fingerprint content) file)

structure Cache.Faithful (rules : List Rule) (grammar : Grammar) (contents : List ByteArray)
    (cache : Cache) : Prop where
  memory : ∀ entry ∈ cache.memory.entries, entry.Faithful rules grammar contents
  directory : cache.directory.Faithful rules grammar contents

/-- Whether an answer agrees with a build: the same error, or a record that says the same. -/
def Agrees : Except SourceError Shared → Except SourceError FileRecord → Prop
  | .ok shared, .ok file => shared.file.same file = true
  | .error error, .error expected => error = expected
  | _, _ => False

/-- Fingerprints tell the contents apart. -/
def Distinguished (contents : List ByteArray) : Prop :=
  ∀ a ∈ contents, ∀ b ∈ contents, fingerprint a = fingerprint b → a = b

/-- Whatever is built from a content is read back from the bytes that are written for it. -/
def ReadBack (rules : List Rule) (grammar : Grammar) (path : Pathname) (bytes : ByteArray) : Prop :=
  ∀ countsImports file, Indexer.build rules grammar path countsImports bytes = .ok file →
    StoredRecord.decode (StoredRecord.ofRecord (fingerprint bytes) file).encode =
      some (.ofRecord (fingerprint bytes) file)

theorem size_ofList_le (cs : List Char) : (String.ofList cs).toUTF8.size ≤ 4 * cs.length := by
  induction cs with
  | nil => simp
  | cons c cs ih =>
    have first : c.utf8Size ≤ 4 := c.utf8Size_le_four
    have one : [c].utf8Encode.size = c.utf8Size := by simp [List.utf8Encode]
    simp only [String.toUTF8_eq_toByteArray, String.toByteArray_ofList] at ih ⊢
    rw [List.utf8Encode_cons, ByteArray.size_append, List.length_cons]
    omega

theorem fingerprint_size_lt (content : ByteArray) :
    (fingerprint content).toUTF8.size < 256 ^ 8 := by
  have digest : (Sha256.digest content.data.toList).length = 32 := by
    simp [Sha256.digest, Sha256.bigEndian]
  have bound := size_ofList_le ((Sha256.digest content.data.toList).flatMap fun byte =>
    [Nat.digitChar (byte.toNat / 16), Nat.digitChar (byte.toNat % 16)])
  simp only [List.length_flatMap, List.length_cons, List.length_nil, List.map_const',
    List.sum_replicate_nat, digest] at bound
  rw [fingerprint, hexText]
  omega

/-- A record that fits in its bytes is read back, since every fingerprint fits. -/
theorem readBack_of_fits {rules : List Rule} {grammar : Grammar} {path : Pathname}
    {bytes : ByteArray} {tree : SyntaxTree} (parsed : grammar bytes = some tree)
    (fits : ∀ countsImports, (StoredRecord.ofRecord "" (.ofTree rules path countsImports tree)).Fits) :
    ReadBack rules grammar path bytes := by
  intro countsImports file built
  obtain ⟨other, parsedOther, -, rfl⟩ := Indexer.build_eq_ok.mp built
  cases Option.some.inj (parsed.symm.trans parsedOther)
  obtain ⟨path, -, classCount, classes, importCount, imports⟩ := fits countsImports
  exact StoredRecord.decode_encode
    ⟨path, fingerprint_size_lt bytes, classCount, classes, importCount, imports⟩

section Fetch

variable {rules : List Rule} {grammar : Grammar} {contents : List ByteArray} {path : Pathname}
  {countsImports : Bool} {bytes : ByteArray}

theorem MemoryEntry.Faithful.agrees {entry : MemoryEntry}
    (faithful : entry.Faithful rules grammar contents) (distinguished : Distinguished contents)
    (known : bytes ∈ contents) (isAt : entry.IsAt ⟨path, fingerprint bytes, countsImports⟩) :
    Agrees (.ok entry.shared) (Indexer.build rules grammar path countsImports bytes) := by
  obtain ⟨content, among, printed, file, built, same⟩ := faithful
  have equal : content = bytes :=
    distinguished content among bytes known (printed.symm.trans isAt.fingerprint)
  rw [isAt.countsImports, equal] at built
  obtain ⟨samePath, rest⟩ := FileRecord.same_iff.mp same
  rw [(Indexer.build_key built).1, Pathname.same_congr_right isAt.path] at samePath
  rw [Indexer.build_rename built path]
  exact FileRecord.same_iff.mpr ⟨samePath, rest⟩

/-- A record that agrees with a build may be kept in memory under its key. -/
theorem MemoryEntry.faithful_of_agrees {entry : MemoryEntry} (known : bytes ∈ contents)
    (isAt : entry.IsAt ⟨path, fingerprint bytes, countsImports⟩)
    (agrees : Agrees (.ok entry.shared) (Indexer.build rules grammar path countsImports bytes)) :
    entry.Faithful rules grammar contents := by
  cases built : Indexer.build rules grammar path countsImports bytes with
  | error error => rw [built] at agrees; exact agrees.elim
  | ok file =>
    rw [built] at agrees
    obtain ⟨samePath, rest⟩ := FileRecord.same_iff.mp agrees
    refine ⟨bytes, known, isAt.fingerprint, { file with path := entry.key.path }, ?_, ?_⟩
    · rw [isAt.countsImports]
      exact Indexer.build_rename built entry.key.path
    · rw [(Indexer.build_key built).1, ← Pathname.same_congr_right isAt.path] at samePath
      exact FileRecord.same_iff.mpr ⟨samePath, rest⟩

theorem CacheDirectory.Faithful.agrees {directory : CacheDirectory} {file : FileRecord}
    (faithful : directory.Faithful rules grammar contents) (distinguished : Distinguished contents)
    (known : bytes ∈ contents)
    (hit : directory.load? ⟨path, fingerprint bytes, countsImports⟩ = some file) (id : Nat) :
    Agrees (.ok ⟨id, file⟩) (Indexer.build rules grammar path countsImports bytes) := by
  obtain ⟨written, stored, holds, decoded, answers, rfl⟩ := load?_eq_some hit
  obtain ⟨content, among, other, flag, built, buildOther, readBack⟩ := faithful written holds
  cases Option.some.inj (decoded.symm.trans readBack)
  simp only [StoredRecord.answers, StoredRecord.ofRecord, Bool.and_eq_true, beq_iff_eq] at answers
  obtain ⟨⟨samePath, printed⟩, sameFlag⟩ := answers
  have equal : content = bytes := distinguished content among bytes known printed
  rw [(Indexer.build_key buildOther).2] at sameFlag
  rw [sameFlag, equal] at buildOther
  rw [Indexer.build_restored buildOther, Indexer.build_rename buildOther path]
  exact FileRecord.same_iff.mpr ⟨samePath, rfl, rfl, rfl⟩

theorem CacheDirectory.Faithful.store {directory : CacheDirectory} {file : FileRecord}
    (faithful : directory.Faithful rules grammar contents) (known : bytes ∈ contents)
    (built : Indexer.build rules grammar path countsImports bytes = .ok file)
    (readable : directory.isSome → ReadBack rules grammar path bytes) :
    (directory.store ⟨path, fingerprint bytes, countsImports⟩ file).Faithful
      rules grammar contents := by
  intro written holds
  rcases CacheDirectory.Holds.of_write holds with old | ⟨there, rfl⟩
  · exact faithful written old
  · exact ⟨bytes, known, path, countsImports, file, built, readable there countsImports file built⟩

/-- Fetching a record from a faithful cache gives what a build gives, and keeps the cache
faithful. -/
theorem Cache.Faithful.fetch {cache : Cache} (faithful : cache.Faithful rules grammar contents)
    (distinguished : Distinguished contents) (known : bytes ∈ contents)
    (readable : cache.directory.isSome → ReadBack rules grammar path bytes) (victim id : Nat) :
    let fetched := cache.fetch victim id ⟨path, fingerprint bytes, countsImports⟩
      fun _ => Indexer.build rules grammar path countsImports bytes
    Agrees fetched.answer (Indexer.build rules grammar path countsImports bytes) ∧
      fetched.cache.Faithful rules grammar contents := by
  have remember {shared : Shared}
      (agrees : Agrees (.ok shared) (Indexer.build rules grammar path countsImports bytes)) :
      ∀ entry ∈ (cache.memory.insert victim ⟨path, fingerprint bytes, countsImports⟩ shared).entries,
        entry.Faithful rules grammar contents := by
    intro entry member
    rcases MemoryCache.mem_insert member with old | ⟨isAt, rfl⟩
    · exact faithful.memory entry old
    · exact MemoryEntry.faithful_of_agrees known isAt agrees
  simp only [Cache.fetch]
  split
  · rename_i shared hit
    obtain ⟨entry, member, isAt, rfl⟩ := MemoryCache.get?_eq_some hit
    exact ⟨(faithful.memory entry member).agrees distinguished known isAt, faithful⟩
  · split
    · rename_i file hit
      have agrees := faithful.directory.agrees distinguished known hit id
      exact ⟨agrees, remember agrees, faithful.directory⟩
    · split
      · rename_i error failed
        exact ⟨failed ▸ rfl, faithful⟩
      · rename_i file built
        have agrees : Agrees (.ok ⟨id, file⟩)
            (Indexer.build rules grammar path countsImports bytes) := by
          rw [built]
          exact FileRecord.same_refl file
        exact ⟨agrees, remember agrees, faithful.directory.store known built readable⟩

end Fetch

end ClassGraph
