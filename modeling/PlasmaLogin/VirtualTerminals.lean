/-
The numbers of virtual terminals: what the `ioctl`s of the console answer, the
terminal a display is constructed on, and the conversion of a session's TTY.
-/
import PlasmaLogin.Display
import PlasmaLogin.PamTransaction

namespace PlasmaLogin

/-- An open `/dev/tty0` with what `VT_OPENQRY` and `VT_GETSTATE` answer,
`none` where they fail. -/
structure VtMaster where
  openQuery : Option Int32
  active : Option UInt16
deriving DecidableEq

namespace VirtualTerminal

def getVtActive (fd : VtMaster) : Int32 :=
  match fd.active with
  | none => -1
  | some vActive => Int32.ofNat vActive.toNat

/-- `VirtualTerminal::currentVt`; `none` is a console that does not open. -/
def currentVt : Option VtMaster → Int32
  | none => -1
  | some fd => getVtActive fd

/-- `VirtualTerminal::setUpNewVt`. -/
def setUpNewVt : Option VtMaster → Int32
  | none => -1
  | some fd =>
      match fd.openQuery with
      | none => -1
      | some vt => if vt ≤ 0 then getVtActive fd else vt

end VirtualTerminal

/-- The properties of a logind session that `isTtyInUse` reads. -/
structure TtySession where
  tTY : QString
  state : QString
deriving DecidableEq

/-- `isTtyInUse`; the sessions are `none` without logind. -/
def isTtyInUse (desiredTty : QString) (sessions : Option (List TtySession)) :
    Bool :=
  (sessions.getD []).any fun s =>
    desiredTty = s.tTY && s.state ≠ ("closing" : QString)

/-- What `fetchAvailableVt` reads, in this order. -/
structure VtLookup where
  sessions : Option (List TtySession)
  current : Option VtMaster
  sessionsThen : Option (List TtySession)
  new : Option VtMaster

def ttyName (vt : Int32) : QString :=
  ("tty" : QString) ++ QString.number vt.toInt64

def fetchAvailableVt (r : VtLookup) : Int32 :=
  if !isTtyInUse (ttyName initialVt) r.sessions then initialVt
  else
    let vt := VirtualTerminal.currentVt r.current
    if vt > 0 && !isTtyInUse (ttyName vt) r.sessionsThen then vt
    else VirtualTerminal.setUpNewVt r.new

/-- The number `Seat::displayStopped` takes from the TTY of a session:
`mid(3)` and `toInt`. -/
def sessionVt (tTY : QString) : Int32 := QString.toInt (tTY.drop 3)

/-- The `N` of a TTY `ttyN`. -/
def ttyNumber (tTY : QString) : Option Nat :=
  if tTY.take 3 = ("tty" : QString) then QString.natOfDigits (tTY.drop 3)
  else none

/-- A TTY that is a virtual terminal whose number is an `int`. -/
def IsVt (tTY : QString) : Prop :=
  ∃ n ∈ ttyNumber tTY, 1 ≤ n ∧ n < 2 ^ 31

/-- A stored terminal number: none, or that of a terminal. -/
def IsTerminalId (vt : Int32) : Prop := vt = -1 ∨ 1 ≤ vt

/-- The active terminal is never number zero where `setUpNewVt` falls back
to it. -/
def VtMaster.Numbered (fd : VtMaster) : Prop :=
  ∀ vt ∈ fd.openQuery, vt ≤ 0 → fd.active ≠ some 0

instance (tTY : QString) : Decidable (IsVt tTY) :=
  match h : ttyNumber tTY with
  | none => isFalse (by rintro ⟨n, hn, _⟩; simp [h] at hn)
  | some n => decidable_of_iff (1 ≤ n ∧ n < 2 ^ 31) (by simp [IsVt, h])

namespace QString

/-- A digit string is read as its value. -/
theorem signedOfDigits_of_natOfDigits {s : QString} {n : Nat}
    (h : natOfDigits s = some n) : signedOfDigits (trimmed s) = some (n : Int) := by
  have hdigits : s ≠ [] ∧ s.all isDigit = true := by
    by_contra hnot
    rw [natOfDigits, if_neg hnot] at h
    cases h
  rw [List.all_eq_true] at hdigits
  have htrimmed : trimmed s = s :=
    trimmed_of_no_space fun c hc => isSpace_of_isDigit (hdigits.2 c hc)
  rw [htrimmed]
  cases s with
  | nil => exact absurd rfl hdigits.1
  | cons c s =>
      have hc := hdigits.2 c List.mem_cons_self
      have hminus : c ≠ 45 := by rintro rfl; exact absurd hc (by decide)
      have hplus : c ≠ 43 := by rintro rfl; exact absurd hc (by decide)
      rw [signedOfDigits, h]
      · rfl
      · intro digits heq
        exact hminus (List.cons.inj heq).1
      · intro digits heq
        exact hplus (List.cons.inj heq).1

theorem toInt_of_natOfDigits {s : QString} {n : Nat}
    (h : natOfDigits s = some n) :
    (toInt s).toInt = if n < 2 ^ 31 then (n : Int) else 0 := by
  rw [toInt, toLongLong, signedOfDigits_of_natOfDigits h]
  by_cases hword : n < 2 ^ 63
  · have hlong : -2 ^ 63 ≤ (n : Int) ∧ (n : Int) < 2 ^ 63 := by omega
    simp only [hlong, and_self, ↓reduceIte]
    rw [Int64.toInt_ofInt_of_le hlong.1 hlong.2]
    by_cases hint : n < 2 ^ 31
    · rw [if_pos hint, if_pos (by omega)]
      exact Int32.toInt_ofInt_of_le (by omega) (by omega)
    · rw [if_neg hint, if_neg (by omega)]
      rfl
  · have hlong : ¬ (-2 ^ 63 ≤ (n : Int) ∧ (n : Int) < 2 ^ 63) := by omega
    have hint : ¬ n < 2 ^ 31 := by omega
    simp only [hlong, hint, ↓reduceIte]
    rfl

end QString

/-- The number taken from a TTY is the one in its name and that of a terminal
if and only if the TTY is a virtual terminal. -/
theorem sessionVt_iff (tTY : QString) :
    (1 ≤ sessionVt tTY ∧ ∃ n ∈ ttyNumber tTY, (sessionVt tTY).toInt = n) ↔
      IsVt tTY := by
  rw [Int32.le_iff_toInt_le]
  change (1 ≤ (sessionVt tTY).toInt ∧ _) ↔ _
  have hvalue : ∀ n ∈ ttyNumber tTY, (sessionVt tTY).toInt =
      if n < 2 ^ 31 then (n : Int) else 0 := by
    intro n hn
    rw [ttyNumber, Option.mem_def, Option.ite_none_right_eq_some] at hn
    exact QString.toInt_of_natOfDigits hn.2
  constructor
  · rintro ⟨hpos, n, hn, heq⟩
    rw [hvalue n hn] at hpos heq
    split at hpos
    next hint => exact ⟨n, hn, by omega, hint⟩
    · omega
  · rintro ⟨n, hn, hpos, hint⟩
    have heq := hvalue n hn
    rw [if_pos hint] at heq
    exact ⟨by omega, n, hn, heq⟩

namespace VirtualTerminal

theorem isTerminalId_setUpNewVt {fd : Option VtMaster}
    (h : ∀ m ∈ fd, m.Numbered) : IsTerminalId (setUpNewVt fd) := by
  cases fd with
  | none => exact Or.inl rfl
  | some m =>
      have hnumbered := h m rfl
      simp only [setUpNewVt]
      cases hquery : m.openQuery with
      | none => exact Or.inl rfl
      | some vt =>
          simp only
          by_cases hvt : vt ≤ 0
          · have hactive := hnumbered vt hquery hvt
            rw [if_pos hvt, getVtActive]
            cases hstate : m.active with
            | none => exact Or.inl rfl
            | some vActive =>
                rw [hstate, ne_eq, Option.some_inj, ← UInt16.toNat_inj] at hactive
                have hsize := vActive.toNat_lt
                refine Or.inr (Int32.le_iff_toInt_le.2 ?_)
                rw [Int32.toInt_ofNat_of_lt (by omega)]
                exact Int.ofNat_le.2 (Nat.one_le_iff_ne_zero.2 hactive)
          · rw [if_neg hvt]
            rw [Int32.le_iff_toInt_le] at hvt
            exact Or.inr (Int32.le_iff_toInt_le.2 (Int.not_le.1 hvt))

end VirtualTerminal

/-- A display is constructed on a terminal, or on none. -/
theorem isTerminalId_fetchAvailableVt {r : VtLookup}
    (h : ∀ m ∈ r.new, m.Numbered) : IsTerminalId (fetchAvailableVt r) := by
  rw [fetchAvailableVt]
  split
  · exact Or.inr (by decide)
  · simp only
    split
    next hcurrent =>
      rw [Bool.and_eq_true, decide_eq_true_eq] at hcurrent
      have hpos := Int32.lt_iff_toInt_lt.1 hcurrent.1
      exact Or.inr (Int32.le_iff_toInt_le.2 hpos)
    · exact VirtualTerminal.isTerminalId_setUpNewVt h

end PlasmaLogin
