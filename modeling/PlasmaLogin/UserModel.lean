/-
The users the greeter lists: the accounts that can log in and whose number is
in a range, that of `login.defs` or that of systemd's homes.
-/
import PlasmaLogin.Assignments
import PlasmaLogin.QString
import Mathlib.Data.List.Basic

namespace PlasmaLogin

open Assignments

namespace QString

/-- The words between blanks. -/
def words (s : QString) : List QString :=
  (s.splitOnP isSpace).filter fun word => word ≠ []

/-- `QString::simplified`. -/
def simplified (s : QString) : QString := [32].intercalate s.words

/-- `QString::split` with `Qt::SkipEmptyParts`. -/
def splitSkippingEmpty (separator : UInt16) (s : QString) : List QString :=
  (s.splitOn separator).filter fun part => part ≠ []

/-- `QString::toUInt`, where it is `ok`. -/
def toUInt (s : QString) : Option UInt32 :=
  let digits := match trimmed s with
    | 43 :: digits => digits
    | digits => digits
  match natOfDigits digits with
  | some n => if n < 2 ^ 32 then some (UInt32.ofNat n) else none
  | none => none

end QString

/-- `m_minimumUid` and `m_maximumUid` of `PlasmaLoginSettings`. -/
structure UidLimits where
  minimumUid : UInt32 := 0
  maximumUid : UInt32 := 0xFFFFFFFF
deriving DecidableEq, Repr

namespace PlasmaLoginSettings

def uidMin : QString := "UID_MIN"

def uidMax : QString := "UID_MAX"

/-- A turn of the loop of `getUids`. -/
def readLine (limits : UidLimits) (line : QString) : UidLimits :=
  let line : QString := QString.simplified (upTo 35 line)
  if line.isEmpty then limits
  else match line.splitSkippingEmpty 32 with
    | [key, value] =>
        if !([uidMin, uidMax].contains key) then limits
        else match value.toUInt with
          | some value =>
              if key = uidMin then { limits with minimumUid := value }
              else { limits with maximumUid := value }
          | none => limits
    | _ => limits

/-- The lines of a file that is read as text, which drops carriage returns. -/
def textLines (text : QString) : List QString :=
  readLines 10 (text.filter fun c => c ≠ 13)

/-- `PlasmaLoginSettings::getUids`, for the text of `login.defs` if it can be
opened. -/
def getUids : Option QString → UidLimits
  | none => {}
  | some text => (textLines text).foldl readLine {}

end PlasmaLoginSettings

/-- A `KUser` and the password field of its entry. -/
structure Account where
  isValid : Bool := true
  loginName : QString
  fullName : QString := []
  homeDir : QString := []
  shell : QString := []
  faceIconPath : QString := []
  userId : UInt32
  groupId : UInt32
  password : QByteArray
deriving DecidableEq, Repr

/-- `User`. -/
structure User where
  name : QString
  realName : QString
  icon : QString
  homeDir : QString
  needsPassword : Bool
  uid : Int32
  gid : Int32
deriving DecidableEq

/-- The accounts of the system, and the numbers `getpwuid` fails for. -/
structure AccountDatabase where
  accounts : List Account
  refused : UInt32 → Bool := fun _ => false

/-- `getpwuid`: the first account with a number. -/
def AccountDatabase.getpwuid (db : AccountDatabase) (uid : UInt32) :
    Option Account :=
  if db.refused uid then none
  else db.accounts.find? fun a => a.userId = uid

namespace Account

def cannotLogin (a : Account) : Bool :=
  (QString.ofString "/nologin").isSuffixOf a.shell ||
    (QString.ofString "/false").isSuffixOf a.shell

def inLogindDefRange (limits : UidLimits) (a : Account) : Bool :=
  limits.minimumUid ≤ a.userId && a.userId ≤ limits.maximumUid

def inHomedRange (a : Account) : Bool :=
  60001 ≤ a.userId && a.userId ≤ 60513

def icon (a : Account) : QString :=
  if a.faceIconPath.isEmpty then
    "qrc:/qt/qml/org/kde/plasma/login/.face.icon"
  else QString.ofString "file://" ++ a.faceIconPath

/-- The row of an account, with the password of an entry. -/
def toUser (password : QByteArray) (a : Account) : User where
  name := a.loginName
  realName := a.fullName
  icon := a.icon
  homeDir := a.homeDir
  needsPassword := password ≠ []
  uid := a.userId.toInt32
  gid := a.groupId.toInt32

end Account

namespace UserModel

/-- A turn of the loop of `populate`. -/
def rowOf (limits : UidLimits) (db : AccountDatabase) (user : Account) :
    Option User :=
  if !user.isValid then none
  else if user.cannotLogin ||
      (!user.inLogindDefRange limits && !user.inHomedRange) then none
  else match db.getpwuid user.userId with
    | none => none
    | some pw => some (user.toUser pw.password)

/-- `UserModel::populate`. -/
def populate (limits : UidLimits) (db : AccountDatabase) : List User :=
  db.accounts.filterMap (rowOf limits db)

/-- `Qt::DisplayRole` and `UserModel::UserRoles`. -/
inductive Role where
  | display
  | name
  | realName
  | icon
  | homeDir
  | needsPassword
  | uid
  | gid
  | other
deriving DecidableEq, Repr

/-- The values `UserModel::data` returns, as `QVariant` holds them. -/
inductive Value where
  | invalid
  | text (s : QString)
  | flag (b : Bool)
  | number (n : Int32)
deriving DecidableEq

namespace Value

/-- `QVariant::toString`. -/
def toString : Value → QString
  | .invalid => []
  | .text s => s
  | .flag b => if b then "true" else "false"
  | .number n => QString.number n.toInt64

def isNull (v : Value) : Bool := v = .invalid

end Value

/-- `UserModel::data`. -/
def data (users : List User) (row : Int) (role : Role) : Value :=
  if row < 0 then .invalid
  else match users[row.toNat]? with
    | none => .invalid
    | some user =>
        match role with
        | .display =>
            .text (if user.realName.isEmpty then user.name else user.realName)
        | .name => .text user.name
        | .realName => .text user.realName
        | .icon => .text user.icon
        | .homeDir => .text user.homeDir
        | .needsPassword => .flag user.needsPassword
        | .uid => .number user.uid
        | .gid => .number user.gid
        | .other => .invalid

/-- `UserModel::indexOfData`. -/
def indexOfData (users : List User) (value : Value) (role : Role) : Int :=
  if value.isNull || value.toString.isEmpty then -1
  else
    match (List.range users.length).find? fun i : Nat =>
        data users i role = value with
    | some i => i
    | none => -1

/-- `userList.selectedUser`, the name of the current row. -/
def selectedUser (users : List User) (row : Int) : QString :=
  (data users row .name).toString

end UserModel

namespace QString

theorem of_mem_splitOnP {C : Type} {p : C → Bool} {s word : List C}
    (h : word ∈ s.splitOnP p) : ∀ c ∈ word, p c = false := by
  induction s generalizing word with
  | nil =>
      rw [List.splitOnP_nil, List.mem_singleton] at h
      rw [h]
      exact fun c hc => absurd hc List.not_mem_nil
  | cons c s ih =>
      rw [List.splitOnP_cons_eq_if_modifyHead] at h
      split at h
      · rcases List.mem_cons.1 h with rfl | h
        · exact fun c hc => absurd hc List.not_mem_nil
        · exact ih h
      next hc =>
        obtain ⟨first, rest, heq⟩ :=
          List.exists_cons_of_ne_nil (List.splitOnP_ne_nil p s)
        rw [heq] at h ih
        rcases List.mem_cons.1 h with rfl | h
        · intro c' hc'
          rcases List.mem_cons.1 hc' with rfl | hc'
          · exact Bool.eq_false_iff.2 hc
          · exact ih List.mem_cons_self c' hc'
        · exact ih (List.mem_cons_of_mem first h)

theorem of_mem_words {s word : QString} (h : word ∈ s.words) :
    word ≠ [] ∧ 32 ∉ word := by
  obtain ⟨hmem, hne⟩ := List.mem_filter.1 h
  refine ⟨of_decide_eq_true hne, fun hblank => ?_⟩
  exact absurd (of_mem_splitOnP hmem 32 hblank) (by decide)

/-- A simplified text falls into its words. -/
theorem splitSkippingEmpty_simplified (s : QString) :
    splitSkippingEmpty 32 s.simplified = s.words := by
  by_cases hwords : s.words = []
  · rw [simplified, hwords]
    rfl
  · have hblank : ∀ word ∈ s.words, 32 ∉ word := fun word h =>
      (of_mem_words h).2
    rw [splitSkippingEmpty, simplified,
      List.splitOn_intercalate 32 hblank hwords, List.filter_eq_self]
    exact fun word h => decide_eq_true (of_mem_words h).1

end QString

namespace PlasmaLoginSettings

/-- The number that a line gives a key. -/
def setting (key line : QString) : Option UInt32 :=
  match QString.words (upTo 35 line) with
  | [name, value] => if name = key then value.toUInt else none
  | _ => none

/-- The number that the last of some lines to give a key one gives it. -/
def lastSetting (key : QString) (lines : List QString) : Option UInt32 :=
  (lines.filterMap (setting key)).getLast?

theorem lastSetting_concat (key : QString) (lines : List QString)
    (line : QString) : lastSetting key (lines ++ [line]) =
      (setting key line).or (lastSetting key lines) := by
  rw [lastSetting, List.filterMap_append, List.getLast?_append]
  cases hline : setting key line <;> simp [hline, lastSetting]

/-- A line sets a limit or leaves it. -/
theorem readLine_eq (limits : UidLimits) (line : QString) :
    readLine limits line =
      ⟨(setting uidMin line).getD limits.minimumUid,
        (setting uidMax line).getD limits.maximumUid⟩ := by
  have hparts := QString.splitSkippingEmpty_simplified (upTo 35 line)
  have hempty : (QString.simplified (upTo 35 line)).isEmpty = true →
      QString.words (upTo 35 line) = [] := by
    intro h
    rw [← hparts, List.isEmpty_iff.1 h]
    rfl
  have hne : uidMax ≠ uidMin := by decide
  unfold readLine setting
  simp only [hparts]
  split
  next h => rw [hempty h]; rfl
  · split
    next name value _ =>
      by_cases hmin : name = uidMin
      · subst hmin
        cases QString.toUInt value <;> simp [hne.symm]
      · by_cases hmax : name = uidMax
        · subst hmax
          cases QString.toUInt value <;> simp [hmin]
        · simp [hmin, hmax]
    · rfl

/-- The limits are those of the last lines that set them. -/
theorem foldl_readLine (lines : List QString) : lines.foldl readLine {} =
    ⟨(lastSetting uidMin lines).getD 0,
      (lastSetting uidMax lines).getD 0xFFFFFFFF⟩ := by
  induction lines using List.reverseRecOn with
  | nil => rfl
  | append_singleton lines line ih =>
      rw [List.foldl_append, ih, List.foldl_cons, List.foldl_nil, readLine_eq,
        lastSetting_concat, lastSetting_concat, Option.getD_or,
        Option.getD_or]

/-- The lines of `login.defs`; there are none if it cannot be opened. -/
def settingLines (loginDefs : Option QString) : List QString :=
  loginDefs.toList.flatMap textLines

theorem getUids_eq (loginDefs : Option QString) : getUids loginDefs =
    ⟨(lastSetting uidMin (settingLines loginDefs)).getD 0,
      (lastSetting uidMax (settingLines loginDefs)).getD 0xFFFFFFFF⟩ := by
  cases loginDefs with
  | none => rfl
  | some text =>
      have hlines : settingLines (some text) = textLines text := by
        simp [settingLines]
      rw [getUids, foldl_readLine, hlines]

end PlasmaLoginSettings

open PlasmaLoginSettings

/-- The greeter is to offer the account. -/
structure Account.Offered (loginDefs : Option QString) (db : AccountDatabase)
    (a : Account) : Prop where
  isValid : a.isValid = true
  shell : a.cannotLogin = false
  range : (lastSetting uidMin (settingLines loginDefs)).getD 0 ≤ a.userId ∧
      a.userId ≤
        (lastSetting uidMax (settingLines loginDefs)).getD 0xFFFFFFFF ∨
    60001 ≤ a.userId ∧ a.userId ≤ 60513
  found : db.refused a.userId = false

instance (loginDefs : Option QString) (db : AccountDatabase) (a : Account) :
    Decidable (a.Offered loginDefs db) :=
  decidable_of_iff (a.isValid = true ∧ a.cannotLogin = false ∧
    ((lastSetting uidMin (settingLines loginDefs)).getD 0 ≤ a.userId ∧
        a.userId ≤
          (lastSetting uidMax (settingLines loginDefs)).getD 0xFFFFFFFF ∨
      60001 ≤ a.userId ∧ a.userId ≤ 60513) ∧ db.refused a.userId = false)
    ⟨fun h => ⟨h.1, h.2.1, h.2.2.1, h.2.2.2⟩, fun h => ⟨h.1, h.2, h.3, h.4⟩⟩

/-- An account and the first one with its number, which `getpwuid` finds, have
an empty password field both or neither. -/
def AccountDatabase.OwnPassword (db : AccountDatabase) (a : Account) : Prop :=
  ∀ first ∈ db.accounts.find? fun b => b.userId = a.userId,
    (first.password = [] ↔ a.password = [])

namespace UserModel

variable {loginDefs : Option QString} {db : AccountDatabase}

theorem getpwuid_of_mem {a : Account} (ha : a ∈ db.accounts)
    (hfound : db.refused a.userId = false) :
    ∃ first, db.getpwuid a.userId = some first ∧
      db.accounts.find? (fun b => b.userId = a.userId) = some first := by
  have hsome : (db.accounts.find? fun b => b.userId = a.userId).isSome =
      true := List.find?_isSome.2 ⟨a, ha, decide_eq_true rfl⟩
  obtain ⟨first, hfirst⟩ := Option.isSome_iff_exists.1 hsome
  refine ⟨first, ?_, hfirst⟩
  rw [AccountDatabase.getpwuid, hfound]
  exact hfirst

/-- The row of an account that is to be offered, with the password of the
first account with its number. -/
theorem rowOf_of_offered {a : Account} (ha : a ∈ db.accounts)
    (h : a.Offered loginDefs db) :
    ∃ first, db.accounts.find? (fun b => b.userId = a.userId) = some first ∧
      rowOf (getUids loginDefs) db a = some (a.toUser first.password) := by
  obtain ⟨first, hpw, hfirst⟩ := getpwuid_of_mem ha h.found
  refine ⟨first, hfirst, ?_⟩
  have hrange : (!a.inLogindDefRange (getUids loginDefs) &&
      !a.inHomedRange) = false := by
    have hrange := h.range
    simp only [Account.inLogindDefRange, Account.inHomedRange, getUids_eq]
    rcases hrange with hrange | hrange <;> simp [hrange]
  rw [rowOf, h.isValid, h.shell, hrange, hpw]
  rfl

theorem rowOf_eq_none {a : Account} (h : ¬ a.Offered loginDefs db) :
    rowOf (getUids loginDefs) db a = none := by
  by_contra hsome
  refine h ?_
  rw [rowOf] at hsome
  split at hsome
  · exact absurd rfl hsome
  next hvalid =>
    split at hsome
    · exact absurd rfl hsome
    next hrest =>
      simp only [Bool.or_eq_true, Bool.and_eq_true, Bool.not_eq_true',
        not_or, not_and, Bool.not_eq_true, Bool.not_eq_false] at hrest
      have hrange := hrest.2
      simp only [Account.inLogindDefRange, Account.inHomedRange, getUids_eq,
        Bool.and_eq_true, decide_eq_true_eq, Bool.and_eq_false_iff,
        decide_eq_false_iff_not] at hrange
      refine ⟨by simpa using hvalid, hrest.1, ?_, ?_⟩
      · by_cases hlimits : (lastSetting uidMin (settingLines loginDefs)).getD
            0 ≤ a.userId ∧ a.userId ≤ (lastSetting uidMax
              (settingLines loginDefs)).getD 0xFFFFFFFF
        · exact Or.inl hlimits
        · refine Or.inr (hrange ?_)
          rwa [← not_and_or]
      · by_contra hrefused
        rw [Bool.not_eq_false] at hrefused
        simp [AccountDatabase.getpwuid, hrefused] at hsome

/-- The rows are the offered accounts, each with the password of the first
account with its number. -/
theorem populate_eq : populate (getUids loginDefs) db =
    (db.accounts.filter fun a => a.Offered loginDefs db).map fun a =>
      a.toUser (((db.accounts.find? fun b => b.userId = a.userId).map
        Account.password).getD []) := by
  rw [populate, ← List.filterMap_eq_map, List.filterMap_filter]
  refine List.filterMap_congr fun a ha => ?_
  by_cases h : a.Offered loginDefs db
  · obtain ⟨first, hfirst, hrow⟩ := rowOf_of_offered ha h
    simp [h, hrow, hfirst]
  · simp [h, rowOf_eq_none h]

theorem mem_names_populate_iff {name : QString} :
    name ∈ (populate (getUids loginDefs) db).map User.name ↔
      ∃ a ∈ db.accounts, a.Offered loginDefs db ∧ a.loginName = name := by
  rw [populate_eq, List.map_map, List.mem_map]
  constructor
  · rintro ⟨a, ha, rfl⟩
    obtain ⟨hmem, hoffered⟩ := List.mem_filter.1 ha
    exact ⟨a, hmem, of_decide_eq_true hoffered, rfl⟩
  · rintro ⟨a, hmem, hoffered, rfl⟩
    exact ⟨a, List.mem_filter.2 ⟨hmem, decide_eq_true hoffered⟩, rfl⟩

theorem toUser_eq_iff {a : Account} {password password' : QByteArray} :
    a.toUser password = a.toUser password' ↔
      (password = [] ↔ password' = []) := by
  simp only [Account.toUser, User.mk.injEq, true_and, and_true,
    decide_eq_decide, not_iff_not]

end UserModel

open UserModel in
/-- The greeter lists exactly the accounts that it is to offer, each with its
own data, if and only if each of them and the first account with its number
have an empty password field both or neither. -/
theorem populate_eq_offered_iff (loginDefs : Option QString)
    (db : AccountDatabase) :
    populate (getUids loginDefs) db =
        (db.accounts.filter fun a => a.Offered loginDefs db).map
          (fun a => a.toUser a.password) ↔
      ∀ a ∈ db.accounts, a.Offered loginDefs db → db.OwnPassword a := by
  rw [populate_eq, List.map_inj_left]
  refine forall_congr' fun a => ?_
  rw [List.mem_filter, decide_eq_true_eq, and_imp]
  refine forall₂_congr fun ha hoffered => ?_
  obtain ⟨first, hfirst, _⟩ := rowOf_of_offered ha hoffered
  rw [AccountDatabase.OwnPassword, hfirst, toUser_eq_iff]
  simp

end PlasmaLogin
