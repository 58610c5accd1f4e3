/-
Reading from and writing to a `QDataStream` over a device: numbers are
big-endian, strings are their length in bytes and their UTF-16 code units.  A
read that runs past the end takes what is left and sets the status; later
reads go on from there.
-/
import PlasmaLogin.QString

namespace PlasmaLogin

/-- `QDataStream::Status`. -/
inductive StreamStatus where
  | ok
  | readPastEnd
  | readCorruptData
  | sizeLimitExceeded
deriving DecidableEq, Repr

/-- A stream with the bytes its device still has. -/
structure DataStream where
  bytes : QByteArray
  status : StreamStatus := .ok
deriving DecidableEq, Repr

namespace DataStream

/-- `QDataStream::setStatus`: the first failure stays. -/
def setStatus (status : StreamStatus) (s : DataStream) : DataStream :=
  if s.status = .ok then { s with status := status } else s

@[simp] theorem setStatus_bytes (status : StreamStatus) (s : DataStream) :
    (s.setStatus status).bytes = s.bytes := by
  unfold setStatus
  split <;> rfl

/-- A failure shows. -/
theorem setStatus_status_ne_ok {status : StreamStatus} (h : status ≠ .ok)
    (s : DataStream) : (s.setStatus status).status ≠ .ok := by
  unfold setStatus
  split
  · exact h
  · assumption

/-- `QDataStream::readBlock`. -/
def readBlock (length : Nat) (s : DataStream) : QByteArray × DataStream :=
  let rest : DataStream := { s with bytes := s.bytes.drop length }
  (s.bytes.take length,
    if s.bytes.length < length then rest.setStatus .readPastEnd else rest)

@[simp] theorem readBlock_bytes (length : Nat) (s : DataStream) :
    (s.readBlock length).2.bytes = s.bytes.drop length := by
  unfold readBlock
  simp only
  split <;> simp

/-- The number with the given big-endian bytes. -/
def ofBigEndian (bytes : QByteArray) : Nat :=
  bytes.foldl (fun value byte => value * 256 + byte.toNat) 0

/-- `QDataStream::operator>>(quint32 &)`. -/
def readUInt32 (s : DataStream) : UInt32 × DataStream :=
  let r := s.readBlock 4
  (if r.1.length = 4 then UInt32.ofNat (ofBigEndian r.1) else 0, r.2)

/-- `QDataStream::operator>>(qint64 &)`. -/
def readInt64 (s : DataStream) : Int64 × DataStream :=
  let r := s.readBlock 8
  (if r.1.length = 8 then (UInt64.ofNat (ofBigEndian r.1)).toInt64 else 0,
    r.2)

/-- `QDataStream::readQSizeType`: minus one for a null value, and a second,
longer number when the first one announces it. -/
def readQSizeType (s : DataStream) : Int × DataStream :=
  let r := s.readUInt32
  if r.1 = 0xFFFFFFFF then (-1, r.2)
  else if r.1 < 0xFFFFFFFE then (r.1.toNat, r.2)
  else
    let q := r.2.readInt64
    (q.1.toInt, q.2)

/-- Bytes in pairs, the more significant one first. -/
def codeUnits : QByteArray → QString
  | high :: low :: bytes =>
      UInt16.ofNat (high.toNat * 256 + low.toNat) :: codeUnits bytes
  | _ => []

/-- `operator>>(QDataStream &, QString &)`; a null string reads as the empty
one. -/
def readString (s : DataStream) : QString × DataStream :=
  let r := s.readQSizeType
  if r.1 < -1 then ([], r.2.setStatus .sizeLimitExceeded)
  else if r.1 ≤ 0 then ([], r.2)
  else if r.1 % 2 = 1 then ([], r.2.setStatus .readCorruptData)
  else
    let q := r.2.readBlock r.1.toNat
    (if q.1.length = r.1.toNat then codeUnits q.1 else [], q.2)

@[simp] theorem readUInt32_bytes (s : DataStream) :
    s.readUInt32.2.bytes = s.bytes.drop 4 :=
  s.readBlock_bytes 4

/-- Reading never puts bytes back. -/
theorem readUInt32_suffix (s : DataStream) :
    s.readUInt32.2.bytes <:+ s.bytes := by
  rw [readUInt32_bytes]
  exact List.drop_suffix 4 s.bytes

theorem readQSizeType_suffix (s : DataStream) :
    s.readQSizeType.2.bytes <:+ s.bytes := by
  have hfirst := s.readUInt32_suffix
  unfold readQSizeType
  simp only
  split
  · exact hfirst
  · split
    · exact hfirst
    · change (s.readUInt32.2.readBlock 8).2.bytes <:+ s.bytes
      rw [readBlock_bytes]
      exact (List.drop_suffix 8 _).trans hfirst

theorem readString_suffix (s : DataStream) :
    s.readString.2.bytes <:+ s.bytes := by
  have hsize := s.readQSizeType_suffix
  unfold readString
  simp only
  split
  · rwa [setStatus_bytes]
  · split
    · exact hsize
    · split
      · rwa [setStatus_bytes]
      · rw [readBlock_bytes]
        exact (List.drop_suffix _ _).trans hsize

/-- A read that takes some bytes at least leaves fewer. -/
theorem length_lt_of_suffix_drop {bytes rest : QByteArray} {n : Nat}
    (hn : 0 < n) (h : rest <:+ bytes.drop n) (hbytes : bytes ≠ []) :
    rest.length < bytes.length := by
  have hread := h.length_le
  have hpos := List.length_pos_iff.2 hbytes
  rw [List.length_drop] at hread
  omega

/-- The given number of bytes of a number, the most significant one first. -/
def toBigEndian : Nat → Nat → QByteArray
  | 0, _ => []
  | length + 1, n => UInt8.ofNat (n / 256 ^ length) :: toBigEndian length n

@[simp] theorem length_toBigEndian (length n : Nat) :
    (toBigEndian length n).length = length := by
  induction length with
  | zero => rfl
  | succ length ih => rw [toBigEndian, List.length_cons, ih]

theorem foldl_toBigEndian (length n value : Nat) :
    (toBigEndian length n).foldl
        (fun value byte => value * 256 + byte.toNat) value =
      value * 256 ^ length + n % 256 ^ length := by
  induction length generalizing value with
  | zero => simp [toBigEndian, Nat.mod_one]
  | succ length ih =>
      have hmod : n % (256 ^ length * 256) =
          n % 256 ^ length + 256 ^ length * (n / 256 ^ length % 256) :=
        Nat.mod_mul
      have hbyte : (UInt8.ofNat (n / 256 ^ length)).toNat =
          n / 256 ^ length % 256 := UInt8.toNat_ofNat'
      rw [toBigEndian, List.foldl_cons, ih, hbyte, pow_succ, hmod]
      ring

theorem ofBigEndian_toBigEndian {length n : Nat} (h : n < 256 ^ length) :
    ofBigEndian (toBigEndian length n) = n := by
  rw [ofBigEndian, foldl_toBigEndian, Nat.zero_mul, Nat.zero_add,
    Nat.mod_eq_of_lt h]

/-- `QDataStream::operator<<(quint32)`. -/
def writeUInt32 (n : UInt32) : QByteArray := toBigEndian 4 n.toNat

/-- `QDataStream::writeQSizeType` of a length. -/
def writeQSizeType (n : Nat) : QByteArray :=
  if n < 0xFFFFFFFE then toBigEndian 4 n
  else writeUInt32 0xFFFFFFFE ++ toBigEndian 8 n

/-- `operator<<(QDataStream &, const QString &)` of a string that is not
null. -/
def writeString (s : QString) : QByteArray :=
  writeQSizeType (2 * s.length) ++ s.flatMap fun c => toBigEndian 2 c.toNat

theorem readBlock_append (block rest : QByteArray) (status : StreamStatus) :
    readBlock block.length ⟨block ++ rest, status⟩ =
      (block, ⟨rest, status⟩) := by
  simp [readBlock]

theorem readUInt32_toBigEndian {n : Nat} (h : n < 256 ^ 4)
    (rest : QByteArray) (status : StreamStatus) :
    readUInt32 ⟨toBigEndian 4 n ++ rest, status⟩ =
      (UInt32.ofNat n, ⟨rest, status⟩) := by
  have hblock := readBlock_append (toBigEndian 4 n) rest status
  rw [length_toBigEndian] at hblock
  unfold readUInt32
  simp only [hblock, length_toBigEndian, if_true, ofBigEndian_toBigEndian h]

@[simp] theorem readUInt32_writeUInt32 (n : UInt32) (rest : QByteArray)
    (status : StreamStatus) :
    readUInt32 ⟨writeUInt32 n ++ rest, status⟩ = (n, ⟨rest, status⟩) := by
  rw [writeUInt32, readUInt32_toBigEndian n.toNat_lt, UInt32.ofNat_toNat]

theorem readQSizeType_writeQSizeType {n : Nat} (h : n < 2 ^ 63)
    (rest : QByteArray) (status : StreamStatus) :
    readQSizeType ⟨writeQSizeType n ++ rest, status⟩ =
      ((n : Int), ⟨rest, status⟩) := by
  unfold writeQSizeType readQSizeType
  split
  next hshort =>
    have hsmall : n < 2 ^ 32 := by omega
    have hnull : UInt32.ofNat n ≠ 0xFFFFFFFF := by
      rw [ne_eq, ← UInt32.toNat_inj, UInt32.toNat_ofNat_of_lt' hsmall]
      simp only [UInt32.reduceToNat]
      omega
    have hlt : UInt32.ofNat n < 0xFFFFFFFE := by
      rw [UInt32.lt_iff_toNat_lt, UInt32.toNat_ofNat_of_lt' hsmall]
      exact hshort
    simp only [readUInt32_toBigEndian hsmall, if_neg hnull, if_pos hlt,
      UInt32.toNat_ofNat_of_lt' hsmall]
  · have hblock := readBlock_append (toBigEndian 8 n) rest status
    have hsmall : n < 256 ^ 8 := by omega
    rw [length_toBigEndian] at hblock
    rw [List.append_assoc]
    simp only [readUInt32_writeUInt32, readInt64, hblock, length_toBigEndian,
      if_true, ofBigEndian_toBigEndian hsmall]
    have hnat : (UInt64.ofNat n).toNat = n :=
      UInt64.toNat_ofNat_of_lt' (by omega)
    have hvalue : (UInt64.ofNat n).toInt64.toInt = (n : Int) := by
      change (UInt64.ofNat n).toBitVec.toInt = (n : Int)
      rw [BitVec.toInt_eq_toNat_of_lt (by rw [UInt64.toNat_toBitVec]; omega),
        UInt64.toNat_toBitVec, hnat]
    rw [hvalue]
    rfl

theorem codeUnits_flatMap (s : QString) :
    codeUnits (s.flatMap fun c => toBigEndian 2 c.toNat) = s := by
  induction s with
  | nil => rfl
  | cons c s ih =>
      have hhigh : (UInt8.ofNat (c.toNat / 256)).toNat = c.toNat / 256 :=
        UInt8.toNat_ofNat_of_lt'
          (by have := c.toNat_lt; rw [UInt8.size]; omega)
      have hlow : (UInt8.ofNat c.toNat).toNat = c.toNat % 256 :=
        UInt8.toNat_ofNat'
      have hunit : c.toNat / 256 * 256 + c.toNat % 256 = c.toNat :=
        Nat.div_add_mod' c.toNat 256
      have hbytes : toBigEndian 2 c.toNat =
          [UInt8.ofNat (c.toNat / 256), UInt8.ofNat c.toNat] := by
        simp [toBigEndian]
      rw [List.flatMap_cons, hbytes]
      change UInt16.ofNat (_ * 256 + _) ::
        codeUnits (s.flatMap fun c => toBigEndian 2 c.toNat) = _
      rw [ih, hhigh, hlow, hunit, UInt16.ofNat_toNat]

theorem length_flatMap_toBigEndian (s : QString) :
    (s.flatMap fun c => toBigEndian 2 c.toNat).length = 2 * s.length := by
  induction s with
  | nil => rfl
  | cons c s ih =>
      rw [List.flatMap_cons, List.length_append, length_toBigEndian, ih,
        List.length_cons]
      omega

/-- What was written is read back. -/
theorem readString_writeString {s : QString} (h : 2 * s.length < 2 ^ 63)
    (rest : QByteArray) (status : StreamStatus) :
    readString ⟨writeString s ++ rest, status⟩ = (s, ⟨rest, status⟩) := by
  have hunits := length_flatMap_toBigEndian s
  have hblock := readBlock_append
    (s.flatMap fun c => toBigEndian 2 c.toNat) rest status
  rw [hunits] at hblock
  rw [writeString, List.append_assoc]
  unfold readString
  simp only [readQSizeType_writeQSizeType h, Int.toNat_natCast, hblock,
    hunits, if_true, codeUnits_flatMap]
  rw [if_neg (by omega), if_neg (by omega : ¬ ((2 * s.length : Nat) : Int) % 2 = 1)]
  split
  next hempty =>
    have hnil : s = [] := List.length_eq_zero_iff.1 (by omega)
    subst hnil
    rfl
  · rfl

end DataStream

end PlasmaLogin
