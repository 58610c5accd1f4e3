/-
The part of Qt's string and byte-array classes that the login manager relies
on: UTF-16 strings, string lists, decimal numbers and the conversion to the
local eight-bit encoding (UTF-8).
-/
import Mathlib.Data.Nat.Digits.Defs
import Mathlib.Tactic.Ring

namespace PlasmaLogin

/-- A `QString`, the sequence of its UTF-16 code units. -/
abbrev QString := List UInt16

/-- A `QByteArray`. -/
abbrev QByteArray := List UInt8

/-- The string of a literal of the source (`QStringLiteral`). -/
def QString.ofString (s : String) : QString :=
  s.toList.map fun c => UInt16.ofNat c.toNat

instance : Coe String QString := ⟨QString.ofString⟩

namespace QString

/-- `QChar::isSpace`. -/
def isSpace (c : UInt16) : Bool :=
  (9 ≤ c ∧ c ≤ 13) ∨ c = 32 ∨ c = 0x85 ∨ c = 0xA0 ∨ c = 0x1680 ∨
    (0x2000 ≤ c ∧ c ≤ 0x200A) ∨ c = 0x2028 ∨ c = 0x2029 ∨ c = 0x202F ∨
    c = 0x205F ∨ c = 0x3000

/-- `QString::trimmed`. -/
def trimmed (s : QString) : QString :=
  (((s.dropWhile isSpace).reverse).dropWhile isSpace).reverse

def isDigit (c : UInt16) : Bool := 48 ≤ c ∧ c ≤ 57

def digitChar (d : Nat) : UInt16 := UInt16.ofNat (48 + d)

def digitValue (c : UInt16) : Nat := c.toNat - 48

/-- Decimal digits, most significant first. -/
def decimal (n : Nat) : QString :=
  if n = 0 then [48] else ((Nat.digits 10 n).map digitChar).reverse

/-- `QString::number`. -/
def number (n : Int64) : QString :=
  if n.toInt < 0 then 45 :: decimal n.toInt.natAbs
  else decimal n.toInt.natAbs

/-- The value of a non-empty digit string. -/
def natOfDigits (s : QString) : Option Nat :=
  if s ≠ [] ∧ s.all isDigit then
    some (s.foldl (fun value c => value * 10 + digitValue c) 0)
  else none

/-- A number with an optional sign. -/
def signedOfDigits : QString → Option Int
  | 45 :: digits => (natOfDigits digits).map fun n => -(n : Int)
  | 43 :: digits => (natOfDigits digits).map fun n => (n : Int)
  | digits => (natOfDigits digits).map fun n => (n : Int)

/-- `QString::toLongLong`: zero unless the whole string, blanks around it
aside, is a number that fits. -/
def toLongLong (s : QString) : Int64 :=
  match signedOfDigits (trimmed s) with
  | some n => if -2 ^ 63 ≤ n ∧ n < 2 ^ 63 then Int64.ofInt n else 0
  | none => 0

theorem digitChar_toNat {d : Nat} (hd : d < 10) :
    (digitChar d).toNat = 48 + d := by
  simp only [digitChar, UInt16.toNat_ofNat']
  omega

theorem digitValue_digitChar {d : Nat} (hd : d < 10) :
    digitValue (digitChar d) = d := by
  rw [digitValue, digitChar_toNat hd]
  omega

theorem isDigit_digitChar {d : Nat} (hd : d < 10) :
    isDigit (digitChar d) = true := by
  simp only [isDigit, UInt16.le_iff_toNat_le, digitChar_toNat hd,
    decide_eq_true_eq]
  exact ⟨by simp, by simpa using (by omega : 48 + d ≤ 57)⟩

theorem isSpace_of_isDigit {c : UInt16} (hc : isDigit c = true) :
    isSpace c = false := by
  simp only [isDigit, isSpace, UInt16.le_iff_toNat_le, ← UInt16.toNat_inj,
    decide_eq_true_eq, decide_eq_false_iff_not] at hc ⊢
  simp only [UInt16.reduceToNat] at hc ⊢
  omega

theorem decimal_ne_nil (n : Nat) : decimal n ≠ [] := by
  by_cases hn : n = 0
  · simp [decimal, hn]
  · simp [decimal, hn, Nat.digits_ne_nil_iff_ne_zero]

theorem decimal_isDigit (n : Nat) : ∀ c ∈ decimal n, isDigit c = true := by
  intro c hc
  by_cases hn : n = 0
  · simp only [decimal, hn, ↓reduceIte, List.mem_singleton] at hc
    subst hc
    decide
  · simp only [decimal, hn, ↓reduceIte, List.mem_reverse, List.mem_map] at hc
    obtain ⟨d, hd, rfl⟩ := hc
    exact isDigit_digitChar (Nat.digits_lt_base (by decide) hd)

theorem foldl_digits_reverse (ds : List Nat) (hds : ∀ d ∈ ds, d < 10) :
    ((ds.map digitChar).reverse).foldl
        (fun value c => value * 10 + digitValue c) 0 = Nat.ofDigits 10 ds := by
  induction ds with
  | nil => rfl
  | cons d ds ih =>
      simp only [List.forall_mem_cons] at hds
      simp only [List.map_cons, List.reverse_cons, List.foldl_append,
        List.foldl_cons, List.foldl_nil, ih hds.2, Nat.ofDigits_cons,
        digitValue_digitChar hds.1]
      ring

theorem natOfDigits_decimal (n : Nat) : natOfDigits (decimal n) = some n := by
  have hall : (decimal n).all isDigit = true :=
    List.all_eq_true.2 (decimal_isDigit n)
  rw [natOfDigits, if_pos ⟨decimal_ne_nil n, hall⟩]
  by_cases hn : n = 0
  · subst hn
    rfl
  · rw [decimal, if_neg hn, foldl_digits_reverse _
      (fun d hd => Nat.digits_lt_base (by decide) hd), Nat.ofDigits_digits]

theorem dropWhile_isSpace_of_head {s : QString}
    (hs : ∀ c, s.head? = some c → isSpace c = false) :
    s.dropWhile isSpace = s := by
  cases s with
  | nil => rfl
  | cons c s => simp [List.dropWhile, hs c rfl]

/-- A string without blanks is its own trimming. -/
theorem trimmed_of_no_space {s : QString}
    (hs : ∀ c ∈ s, isSpace c = false) : trimmed s = s := by
  rw [trimmed, dropWhile_isSpace_of_head (fun c hc =>
      hs c (List.mem_of_mem_head? hc)),
    dropWhile_isSpace_of_head (fun c hc =>
      hs c (List.mem_reverse.1 (List.mem_of_mem_head? hc))),
    List.reverse_reverse]

theorem number_no_space (n : Int64) : ∀ c ∈ number n, isSpace c = false := by
  have hdigits : ∀ c ∈ decimal n.toInt.natAbs, isSpace c = false :=
    fun c hc => isSpace_of_isDigit (decimal_isDigit _ c hc)
  intro c hc
  by_cases hneg : n.toInt < 0
  · simp only [number, hneg, ↓reduceIte, List.mem_cons] at hc
    rcases hc with rfl | hc
    · decide
    · exact hdigits c hc
  · simp only [number, hneg, ↓reduceIte] at hc
    exact hdigits c hc

theorem signedOfDigits_decimal (n : Nat) :
    signedOfDigits (decimal n) = some (n : Int) := by
  have hvalue := natOfDigits_decimal n
  have hdigit := decimal_isDigit n
  cases hs : decimal n with
  | nil => exact absurd hs (decimal_ne_nil n)
  | cons c s =>
      rw [hs] at hvalue hdigit
      have hc : isDigit c = true := hdigit c List.mem_cons_self
      have hminus : c ≠ 45 := by rintro rfl; exact absurd hc (by decide)
      have hplus : c ≠ 43 := by rintro rfl; exact absurd hc (by decide)
      rw [signedOfDigits, hvalue]
      · rfl
      · intro digits heq
        exact hminus (List.cons.inj heq).1
      · intro digits heq
        exact hplus (List.cons.inj heq).1

theorem signedOfDigits_number (n : Int64) :
    signedOfDigits (number n) = some n.toInt := by
  by_cases hneg : n.toInt < 0
  · rw [number, if_pos hneg, signedOfDigits, natOfDigits_decimal]
    have habs : -((n.toInt.natAbs : Nat) : Int) = n.toInt := by omega
    exact congrArg some habs
  · rw [number, if_neg hneg, signedOfDigits_decimal]
    have habs : ((n.toInt.natAbs : Nat) : Int) = n.toInt := by omega
    exact congrArg some habs

/-- Reading back a printed number gives the number. -/
@[simp] theorem toLongLong_number (n : Int64) :
    toLongLong (number n) = n := by
  have hlo : -2 ^ 63 ≤ n.toInt := n.le_toInt
  have hhi : n.toInt < 2 ^ 63 := n.toInt_lt
  rw [toLongLong, trimmed_of_no_space (number_no_space n),
    signedOfDigits_number]
  simp only [hlo, hhi, and_self, ↓reduceIte, Int64.ofInt_toInt]

/-- The UTF-8 bytes of a code point. -/
def utf8Bytes (point : Nat) : QByteArray :=
  (if point < 0x80 then [point]
  else if point < 0x800 then [0xC0 + point / 0x40, 0x80 + point % 0x40]
  else if point < 0x10000 then
    [0xE0 + point / 0x1000, 0x80 + point / 0x40 % 0x40, 0x80 + point % 0x40]
  else
    [0xF0 + point / 0x40000, 0x80 + point / 0x1000 % 0x40,
      0x80 + point / 0x40 % 0x40, 0x80 + point % 0x40]).map UInt8.ofNat

def isHighSurrogate (c : UInt16) : Bool := 0xD800 ≤ c ∧ c ≤ 0xDBFF

def isLowSurrogate (c : UInt16) : Bool := 0xDC00 ≤ c ∧ c ≤ 0xDFFF

/-- `QString::toLocal8Bit` in a UTF-8 locale; a lone surrogate becomes a
question mark. -/
def toLocal8Bit : QString → QByteArray
  | [] => []
  | [c] => if isHighSurrogate c || isLowSurrogate c then [63]
      else utf8Bytes c.toNat
  | c :: d :: rest =>
      if isHighSurrogate c && isLowSurrogate d then
        utf8Bytes (0x10000 + (c.toNat - 0xD800) * 0x400 + (d.toNat - 0xDC00))
          ++ toLocal8Bit rest
      else if isHighSurrogate c || isLowSurrogate c then
        63 :: toLocal8Bit (d :: rest)
      else utf8Bytes c.toNat ++ toLocal8Bit (d :: rest)

/-- `qPrintable` handed on as a C string, which ends at the first NUL. -/
def qPrintable (s : QString) : QByteArray :=
  (toLocal8Bit s).takeWhile (· ≠ 0)

example : number 42 = QString.ofString "42" := by decide

example : toLongLong " -7 " = -7 := by decide

example : qPrintable "caf\u00e9" = [99, 97, 102, 0xC3, 0xA9] := by decide

end QString

end PlasmaLogin
