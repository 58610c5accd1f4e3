/-
The other types that go through a `QDataStream`: signed numbers, booleans,
byte arrays and lists of strings, each read back from what was written.
-/
import PlasmaLogin.DataStream

namespace PlasmaLogin

namespace DataStream

universe u

variable {α : Type u}

/-- A read that takes just these bytes off any stream and finds the value in
them. -/
def Reads (read : DataStream → α × DataStream) (bytes : QByteArray)
    (value : α) : Prop :=
  ∀ rest status, read ⟨bytes ++ rest, status⟩ = (value, ⟨rest, status⟩)

theorem reads_readString {s : QString} (h : 2 * s.length < 2 ^ 63) :
    Reads readString (writeString s) s :=
  readString_writeString h

/-- The given number of values, one after the other. -/
def readMany (read : DataStream → α × DataStream) :
    Nat → DataStream → List α × DataStream
  | 0, s => ([], s)
  | count + 1, s =>
      let value := read s
      let values := readMany read count value.2
      (value.1 :: values.1, values.2)

theorem Reads.many {read : DataStream → α × DataStream}
    {write : α → QByteArray} {values : List α}
    (h : ∀ value ∈ values, Reads read (write value) value) :
    Reads (readMany read values.length) (values.flatMap write) values := by
  intro rest status
  induction values with
  | nil => rfl
  | cons value values ih =>
      rw [List.forall_mem_cons] at h
      rw [List.flatMap_cons, List.append_assoc, List.length_cons, readMany,
        h.1, ih h.2]

/-- `QDataStream::operator<<(qint32)`. -/
def writeInt32 (n : Int32) : QByteArray := writeUInt32 n.toUInt32

/-- `QDataStream::operator>>(qint32 &)`. -/
def readInt32 (s : DataStream) : Int32 × DataStream :=
  let r := s.readUInt32
  (r.1.toInt32, r.2)

theorem reads_readInt32 (n : Int32) : Reads readInt32 (writeInt32 n) n := by
  intro rest status
  rw [readInt32, writeInt32, readUInt32_writeUInt32]
  exact Prod.ext (Int32.toInt32_toUInt32 n) rfl

/-- `QDataStream::operator<<(qint64)`. -/
def writeInt64 (n : Int64) : QByteArray := toBigEndian 8 n.toUInt64.toNat

theorem reads_readInt64 (n : Int64) : Reads readInt64 (writeInt64 n) n := by
  intro rest status
  have hblock := readBlock_append (writeInt64 n) rest status
  have hlength : (writeInt64 n).length = 8 := length_toBigEndian 8 _
  rw [hlength] at hblock
  rw [readInt64, hblock]
  simp only [hlength, ↓reduceIte]
  rw [writeInt64, ofBigEndian_toBigEndian n.toUInt64.toNat_lt,
    UInt64.ofNat_toNat, Int64.toInt64_toUInt64]

/-- `QDataStream::operator<<(bool)`. -/
def writeBool (b : Bool) : QByteArray := [if b then 1 else 0]

/-- `QDataStream::operator>>(bool &)`. -/
def readBool (s : DataStream) : Bool × DataStream :=
  let r := s.readBlock 1
  (r.1.any (· ≠ 0), r.2)

theorem reads_readBool (b : Bool) : Reads readBool (writeBool b) b := by
  intro rest status
  have hblock := readBlock_append (writeBool b) rest status
  rw [show (writeBool b).length = 1 from rfl] at hblock
  rw [readBool, hblock]
  cases b <;> rfl

/-- `operator<<(QDataStream &, const QByteArray &)` of an array that is not
null. -/
def writeByteArray (bytes : QByteArray) : QByteArray :=
  writeQSizeType bytes.length ++ bytes

/-- `operator>>(QDataStream &, QByteArray &)`; a null array reads as the empty
one. -/
def readByteArray (s : DataStream) : QByteArray × DataStream :=
  let size := s.readQSizeType
  if size.1 < -1 then ([], size.2.setStatus .sizeLimitExceeded)
  else if size.1 = -1 then ([], size.2)
  else
    let r := size.2.readBlock size.1.toNat
    (if r.1.length = size.1.toNat then r.1 else [], r.2)

theorem reads_readByteArray {bytes : QByteArray}
    (h : bytes.length < 2 ^ 63) :
    Reads readByteArray (writeByteArray bytes) bytes := by
  intro rest status
  have hnull : ¬ ((bytes.length : Int) < -1) := by omega
  have hminus : ¬ ((bytes.length : Int) = -1) := by omega
  rw [readByteArray, writeByteArray, List.append_assoc,
    readQSizeType_writeQSizeType h]
  simp only [hnull, hminus, ↓reduceIte, Int.toNat_natCast,
    readBlock_append bytes rest status]

/-- The elements of a list of strings; a failure drops them all. -/
def readStrings : Nat → List QString → DataStream → List QString × DataStream
  | 0, list, s => (list, s)
  | count + 1, list, s =>
      let string := s.readString
      if string.2.status ≠ .ok then ([], string.2)
      else readStrings count (list ++ [string.1]) string.2

/-- `operator<<(QDataStream &, const QStringList &)`. -/
def writeStringList (list : List QString) : QByteArray :=
  writeQSizeType list.length ++ list.flatMap writeString

/-- `operator>>(QDataStream &, QStringList &)`, which starts from a status of
its own and puts an earlier failure back in the end. -/
def readStringList (s : DataStream) : List QString × DataStream :=
  let size := readQSizeType { s with status := .ok }
  let r := if size.1 < 0 then ([], size.2.setStatus .sizeLimitExceeded)
    else readStrings size.1.toNat [] size.2
  (r.1, if s.status = .ok then r.2 else { r.2 with status := s.status })

theorem readStrings_flatMap {list : List QString}
    (h : ∀ s ∈ list, 2 * s.length < 2 ^ 63) (first : List QString)
    (rest : QByteArray) :
    readStrings list.length first ⟨list.flatMap writeString ++ rest, .ok⟩ =
      (first ++ list, ⟨rest, .ok⟩) := by
  induction list generalizing first with
  | nil => simp [readStrings]
  | cons s list ih =>
      rw [List.forall_mem_cons] at h
      rw [List.flatMap_cons, List.append_assoc, List.length_cons, readStrings,
        readString_writeString h.1]
      simp [ih h.2]

theorem reads_readStringList {list : List QString}
    (hlist : list.length < 2 ^ 63)
    (h : ∀ s ∈ list, 2 * s.length < 2 ^ 63) :
    Reads readStringList (writeStringList list) list := by
  intro rest status
  have hsize : ¬ ((list.length : Int) < 0) := by omega
  rw [readStringList, writeStringList, List.append_assoc]
  simp only [readQSizeType_writeQSizeType hlist, hsize, ↓reduceIte,
    Int.toNat_natCast, readStrings_flatMap h, List.nil_append]
  cases status <;> rfl

end DataStream

end PlasmaLogin
