import Mathlib.Algebra.Group.Nat.Defs
import ClassGraph.Cache.Stored
import ClassGraph.Proofs.Recording

namespace ClassGraph

namespace Bytes

theorem littleEndian_length (width n : Nat) : (littleEndian width n).length = width := by
  induction width generalizing n with
  | zero => rfl
  | succ width ih => simp only [littleEndian, List.length_cons, ih]

theorem ofLittleEndian_littleEndian {width n : Nat} (bound : n < 256 ^ width) :
    ofLittleEndian (littleEndian width n) = n := by
  induction width generalizing n with
  | zero =>
    have zero : n = 0 := by simpa using bound
    simp only [littleEndian, ofLittleEndian, zero]
  | succ width ih =>
    have higher : n / 256 < 256 ^ width := by
      rw [Nat.pow_succ] at bound
      exact Nat.div_lt_of_lt_mul (by omega)
    have digit : (UInt8.ofNat n).toNat = n % 256 := UInt8.toNat_ofNat'
    rw [littleEndian, ofLittleEndian, ih higher, digit]
    omega

theorem split?_append {first : List UInt8} {count : Nat} (size : first.length = count)
    (rest : List UInt8) : split? count (first ++ rest) = some (first, rest) := by
  subst count
  simp [split?]

theorem readNat_littleEndian {width n : Nat} (bound : n < 256 ^ width) (rest : List UInt8) :
    readNat width (littleEndian width n ++ rest) = some (n, rest) := by
  simp only [readNat, split?_append (littleEndian_length width n), Option.map_some,
    ofLittleEndian_littleEndian bound]

theorem fromUTF8?_toUTF8 (s : String) : String.fromUTF8? s.toUTF8 = some s := by
  rw [String.toUTF8_eq_toByteArray, String.fromUTF8?, dif_pos s.isValidUTF8]
  rfl

theorem readText_ofText {s : String} (bound : s.toUTF8.size < 256 ^ 8) (rest : List UInt8) :
    readText (ofText s ++ rest) = some (s, rest) := by
  have size : s.toUTF8.data.toList.length = s.toUTF8.size := Array.length_toList
  simp only [readText, ofText, List.append_assoc, readNat_littleEndian bound, split?_append size,
    Option.bind_eq_bind, Option.bind_some, Array.toArray_toList]
  rw [show (⟨s.toUTF8.data⟩ : ByteArray) = s.toUTF8 from rfl, fromUTF8?_toUTF8, Option.bind_some]

theorem readItems_flatMap {α : Type} {item : α → List UInt8}
    {read : List UInt8 → Option (α × List UInt8)} {items : List α}
    (each : ∀ a ∈ items, ∀ rest, read (item a ++ rest) = some (a, rest)) (rest : List UInt8) :
    readItems read items.length (items.flatMap item ++ rest) = some (items, rest) := by
  induction items with
  | nil => rfl
  | cons a items ih =>
    have others := ih fun b member => each b (List.mem_cons_of_mem a member)
    rw [List.length_cons, readItems, List.flatMap_cons, List.append_assoc,
      each a List.mem_cons_self]
    simp only [others]

theorem readList_ofList {α : Type} {item : α → List UInt8}
    {read : List UInt8 → Option (α × List UInt8)} {items : List α}
    (bound : items.length < 256 ^ 8)
    (each : ∀ a ∈ items, ∀ rest, read (item a ++ rest) = some (a, rest)) (rest : List UInt8) :
    readList read (ofList item items ++ rest) = some (items, rest) := by
  simp only [readList, ofList, List.append_assoc, readNat_littleEndian bound, Option.bind_some,
    readItems_flatMap each]

theorem readFlag_ofFlag (flag : Bool) (rest : List UInt8) :
    readFlag (ofFlag flag ++ rest) = some (flag, rest) := by
  cases flag <;> simp [ofFlag, readFlag]

end Bytes

/-- Sizes and lines of an edge that have room in their eight bytes. -/
structure Edge.Fits (e : Edge) : Prop where
  target : e.target.toUTF8.size < 256 ^ 8
  line : e.line < 256 ^ 8

structure ClassRecord.Fits (c : ClassRecord) : Prop where
  name : c.name.toUTF8.size < 256 ^ 8
  count : c.edges.length < 256 ^ 8
  edges : ∀ e ∈ c.edges, e.Fits

/-- Every size and every line of a stored record has room in its eight bytes. -/
structure StoredRecord.Fits (stored : StoredRecord) : Prop where
  path : stored.path.text.toUTF8.size < 256 ^ 8
  fingerprint : stored.fingerprint.toUTF8.size < 256 ^ 8
  classCount : stored.classes.length < 256 ^ 8
  classes : ∀ c ∈ stored.classes, c.Fits
  importCount : stored.imports.length < 256 ^ 8
  imports : ∀ e ∈ stored.imports, e.Fits

instance (e : Edge) : Decidable e.Fits :=
  decidable_of_iff (_ ∧ _) ⟨fun ⟨target, line⟩ => ⟨target, line⟩, fun fits => ⟨fits.target, fits.line⟩⟩

instance (c : ClassRecord) : Decidable c.Fits :=
  decidable_of_iff (_ ∧ _ ∧ ∀ e ∈ c.edges, e.Fits)
    ⟨fun ⟨name, count, edges⟩ => ⟨name, count, edges⟩,
      fun fits => ⟨fits.name, fits.count, fits.edges⟩⟩

instance (stored : StoredRecord) : Decidable stored.Fits :=
  decidable_of_iff (_ ∧ _ ∧ _ ∧ (∀ c ∈ stored.classes, c.Fits) ∧ _ ∧ ∀ e ∈ stored.imports, e.Fits)
    ⟨fun ⟨path, fingerprint, classCount, classes, importCount, imports⟩ =>
        ⟨path, fingerprint, classCount, classes, importCount, imports⟩,
      fun fits => ⟨fits.path, fits.fingerprint, fits.classCount, fits.classes, fits.importCount,
        fits.imports⟩⟩

namespace Bytes

theorem readEdge_ofEdge {e : Edge} (fits : e.Fits) (rest : List UInt8) :
    readEdge (ofEdge e ++ rest) = some (e, rest) := by
  have index : e.kind.index < 256 ^ 4 := by cases e.kind <;> decide
  simp only [readEdge, ofEdge, List.append_assoc, readText_ofText fits.target,
    readNat_littleEndian index, readNat_littleEndian fits.line, EdgeKind.ofIndex?_index,
    Option.bind_eq_bind, Option.bind_some]

theorem readClass_ofClass {c : ClassRecord} (fits : c.Fits) (rest : List UInt8) :
    readClass (ofClass c ++ rest) = some (c, rest) := by
  have edges := readList_ofList fits.count fun e member => readEdge_ofEdge (fits.edges e member)
  simp only [readClass, ofClass, List.append_assoc, readText_ofText fits.name, edges,
    Option.bind_eq_bind, Option.bind_some]

end Bytes

/-- A stored record that fits is read back from its bytes, whatever stands behind them. -/
theorem StoredRecord.decode_encode_append {stored : StoredRecord} (fits : stored.Fits)
    (rest : List UInt8) : decode (stored.encode ++ rest) = some stored := by
  have classes := Bytes.readList_ofList fits.classCount fun c member =>
    Bytes.readClass_ofClass (fits.classes c member)
  have imports := Bytes.readList_ofList fits.importCount fun e member =>
    Bytes.readEdge_ofEdge (fits.imports e member)
  simp only [decode, encode, List.append_assoc, Bytes.readText_ofText fits.path,
    Bytes.readText_ofText fits.fingerprint, Bytes.readFlag_ofFlag, classes, imports,
    Option.bind_eq_bind, Option.bind_some]

theorem StoredRecord.decode_encode {stored : StoredRecord} (fits : stored.Fits) :
    decode stored.encode = some stored := by
  simpa using decode_encode_append fits []

namespace Recorder.ImportsApart

variable {r : Recorder} (apart : r.ImportsApart)
include apart

theorem filter_own {c : ClassRecord} (member : c ∈ r.classes) :
    c.edges.filter (·.kind != .importStatement) = c.edges := by
  refine List.filter_eq_self.mpr ?_
  intro e inEdges
  simpa using apart.own c member e inEdges

theorem filter_imports : r.imports.filter (·.kind != .importStatement) = [] := by
  refine List.filter_eq_nil_iff.mpr ?_
  intro e member
  simpa using apart.imported e member

theorem imports_marked : (r.imports.map fun e => { e with kind := .importStatement }) = r.imports := by
  refine (List.map_congr_left ?_).trans (List.map_id _)
  intro e member
  rw [← apart.imported e member]
  rfl

/-- A record that keeps imports apart is restored from its stored form, counted imports included. -/
theorem restored (fingerprint : String) (path : Pathname) (countsImports : Bool) :
    (StoredRecord.ofRecord fingerprint (r.finish path countsImports)).toRecord =
      r.finish path countsImports := by
  simp only [StoredRecord.ofRecord, StoredRecord.toRecord, Recorder.finish, apart.imports_marked,
    List.map_map, FileRecord.mk.injEq, true_and, and_true]
  refine List.map_congr_left ?_
  intro c member
  have own := apart.filter_own member
  cases countsImports with
  | false => simp [own]
  | true => simp [own, apart.filter_imports]

end Recorder.ImportsApart

theorem FileRecord.restored_ofTree (rules : List Rule) (path : Pathname) (countsImports : Bool)
    (t : SyntaxTree) (fingerprint : String) :
    (StoredRecord.ofRecord fingerprint (ofTree rules path countsImports t)).toRecord =
      ofTree rules path countsImports t :=
  (t.resolve.events_importsApart rules).restored fingerprint path countsImports

end ClassGraph
