/-
The readers of assignments `NAME=VALUE`: of `/etc/locale.conf`, of the
environment the daemon sends to the helper, of PAM's environment list and of
systemd's environment.
-/
import PlasmaLogin.Assignments
import PlasmaLogin.AttemptEnvironment
import PlasmaLogin.AuthWire
import PlasmaLogin.PamTransaction
import Mathlib.Data.List.TakeDrop

namespace PlasmaLogin

open Assignments Calls DataStream

/-- The locals of the loop over `/etc/locale.conf`; a new process has no
environment of its own. -/
structure LocaleConf where
  env : QProcessEnvironment := ∅
  langEmpty : Bool := true

namespace LocaleConf

/-- One turn of the loop. -/
def readLine (s : LocaleConf) (line : QString) : LocaleConf :=
  match line.splitOn 61 with
  | name :: value :: _ =>
      { env := s.env.insert name value,
        langEmpty := if name = ("LANG" : QString) then false else s.langEmpty }
  | _ => s

/-- The loop over the text of the file, if it can be opened; as it is opened
for text, carriage returns are dropped. -/
def read : Option QString → LocaleConf
  | none => {}
  | some text => (readLines 10 (text.filter fun c => c ≠ 13)).foldl readLine {}

end LocaleConf

/-- The environment `Auth::Private::Private` gives the helper's process. -/
def Auth.processEnvironment (localeFile : Option QString) :
    QProcessEnvironment :=
  let s := LocaleConf.read localeFile
  if s.langEmpty then s.env.insert "LANG" "C" else s.env

/-- The value in a `QDBusVariant`, as far as its type goes. -/
inductive DBusValue where
  | stringList (strings : List QString)
  | other

inductive DBusArgument where
  | variant (value : DBusValue)
  | other

/-- What the call for systemd's environment returns. -/
inductive DBusReply where
  | errorMessage
  | message (arguments : List DBusArgument)

/-- One turn of the loop in `getSystemdEnvironment`. -/
def insertAssignment (ret : QProcessEnvironment) (env : QString) :
    QProcessEnvironment :=
  let idx := env.indexOf 61
  if 0 < idx then ret.insert (env.left idx) (env.mid (idx + 1)) else ret

def getSystemdEnvironment : DBusReply → Option QProcessEnvironment
  | .message (.variant (.stringList assignmentList) :: _) =>
      some (assignmentList.foldl insertAssignment ∅)
  | .message _ | .errorMessage => none

/-- An assignment `NAME=VALUE`. -/
structure Assignment where
  name : QString
  value : QString
  name_ne_nil : name ≠ []
  no_separator : 61 ∉ name
  no_newline : 10 ∉ value
  no_return : 13 ∉ value

/-- The value that an assignment list binds a name to, the last one. -/
def boundValue (as : List Assignment) (name : QString) : Option QString :=
  lastValue Assignment.name Assignment.value name as

namespace Assignment

def text (a : Assignment) : QString := a.name ++ 61 :: a.value

/-- The text of a file with an assignment on each line. -/
def file (as : List Assignment) : QString :=
  (as.map text).flatMap fun line => line ++ [10]

/-- What the loader takes from the file. -/
def fromLocaleConf (as : List Assignment) : QProcessEnvironment :=
  (LocaleConf.read (some (file as))).env

/-- What `operator>>` takes from the strings it has read. -/
def fromWire (as : List Assignment) : QProcessEnvironment :=
  (as.map text).foldl QProcessEnvironment.insertEntry ∅

/-- What `PamHandle::getEnv` takes from PAM's list. -/
def fromPam (as : List Assignment) : QProcessEnvironment :=
  (as.map text).foldl PamHandle.insertEnvText ∅

/-- What `getSystemdEnvironment` takes from systemd's reply. -/
def fromSystemd (as : List Assignment) : Option QProcessEnvironment :=
  getSystemdEnvironment (.message [.variant (.stringList (as.map text))])

/-- The name is on one line. -/
def OneLine (name : QString) : Prop := 10 ∉ name ∧ 13 ∉ name

/-- All readers bind the name to the value. -/
structure AllBind (a : Assignment) : Prop where
  locale : (fromLocaleConf [a]).lookup a.name = some a.value
  wire : (fromWire [a]).lookup a.name = some a.value
  pam : (fromPam [a]).lookup a.name = some a.value
  systemd : ∃ env, fromSystemd [a] = some env ∧
    env.lookup a.name = some a.value

/-- All readers build the map in which the last value of a name wins. -/
structure ReadersAgree (as : List Assignment) : Prop where
  locale : ∀ name, (fromLocaleConf as).lookup name = boundValue as name
  wire : ∀ name, (fromWire as).lookup name = boundValue as name
  pam : ∀ name, (fromPam as).lookup name = boundValue as name
  systemd : ∃ env, fromSystemd as = some env ∧
    ∀ name, env.lookup name = boundValue as name

/-- Every name is on one line, and the value that wins has no separator. -/
structure PlainBindings (as : List Assignment) : Prop where
  oneLine : ∀ a ∈ as, OneLine a.name
  noSeparator : ∀ name value, boundValue as name = some value → 61 ∉ value

variable {as : List Assignment} {a : Assignment}

theorem insertEntry_text (env : QProcessEnvironment) (a : Assignment) :
    env.insertEntry a.text = env.insert a.name a.value :=
  QProcessEnvironment.insertEntry_entry (v := ⟨a.name, a.value⟩)
    a.no_separator env

theorem insertEnvText_text (env : QProcessEnvironment) (a : Assignment) :
    PamHandle.insertEnvText env a.text = env.insert a.name a.value := by
  have hname : ∀ c ∈ a.name, c ≠ 61 := fun c hc heq =>
    a.no_separator (heq ▸ hc)
  have hspan : a.text.span (fun c => c ≠ 61) = (a.name, 61 :: a.value) := by
    rw [List.span_eq_takeWhile_dropWhile, text,
      List.takeWhile_append_of_pos (by simpa using hname),
      List.dropWhile_append_of_pos (by simpa using hname)]
    simp
  rw [PamHandle.insertEnvText, hspan]

theorem insertAssignment_text (env : QProcessEnvironment) (a : Assignment) :
    insertAssignment env a.text = env.insert a.name a.value := by
  obtain ⟨hname, hvalue⟩ := QString.left_mid_indexOf a.no_separator a.value
  have hposition : 0 < a.text.indexOf 61 := by
    have hlength := List.length_pos_iff.2 a.name_ne_nil
    rw [text, QString.indexOf, if_pos (by simp),
      List.idxOf_append_of_notMem a.no_separator, List.idxOf_cons_self]
    omega
  simp only [insertAssignment, if_pos hposition]
  rw [text, hname, hvalue]

theorem lookup_insert (env : QProcessEnvironment) (name value k : QString) :
    (env.insert name value).lookup k =
      if name = k then some value else env.lookup k := by
  split
  next heq =>
    subst heq
    exact AList.lookup_insert env
  next hne => exact AList.lookup_insert_ne (Ne.symm hne)

/-- A reader that inserts what an assignment says builds the map. -/
theorem lookup_foldl_text {insert : QProcessEnvironment → QString →
      QProcessEnvironment}
    (h : ∀ env (a : Assignment), insert env a.text = env.insert a.name a.value)
    (as : List Assignment) (name : QString) :
    ((as.map text).foldl insert ∅).lookup name = boundValue as name := by
  have hstep : ∀ (env : QProcessEnvironment) (a : Assignment) (k : QString),
      (insert env a.text).lookup k =
        if a.name = k then some a.value else env.lookup k := by
    intro env a k
    rw [h, lookup_insert]
  rw [List.foldl_map]
  exact (lookup_foldl (fun (env : QProcessEnvironment) k => env.lookup k) hstep
    ∅ as name).trans (Option.or_none ..)

/-- What `getEnv` returns is taken from the list that PAM answers. -/
theorem run_getEnv_iff {t : HelperTrace} {env : QProcessEnvironment} :
    Run PamHandle.getEnv t (.ok env) ↔ ∃ envlist : List QString,
      t = [⟨.pamGetenvlist, envlist⟩] ∧
        env = envlist.foldl PamHandle.insertEnvText ∅ :=
  run_call_returns_iff.trans (by simp)

theorem fromPam_of_run {env : QProcessEnvironment} (as : List Assignment)
    (h : Run PamHandle.getEnv [⟨.pamGetenvlist, as.map text⟩] (.ok env)) :
    env = fromPam as := by
  obtain ⟨envlist, hanswer, rfl⟩ := run_getEnv_iff.1 h
  cases hanswer
  rfl

/-- What `operator>>` leaves is taken from the strings that were sent. -/
theorem read_strings (as : List Assignment) (hcount : as.length < 2 ^ 63)
    (hfits : ∀ a ∈ as, 2 * a.text.length < 2 ^ 63) (rest : QByteArray)
    (status : StreamStatus) :
    QProcessEnvironment.read ∅
        ⟨writeStringList (as.map text) ++ rest, status⟩ =
      (fromWire as, ⟨rest, status⟩) := by
  apply QProcessEnvironment.read_writeStringList
  · rw [List.length_map]
    exact hcount
  · exact List.forall_mem_map.2 hfits

/-- A line binds what stands in front of its first separator, or it is
skipped. -/
theorem readLine_cases (s : LocaleConf) (line : QString) :
    s.readLine line = s ∨ ∃ value,
      s.readLine line = ⟨s.env.insert (upTo 61 line) value,
        if upTo 61 line = ("LANG" : QString) then false else s.langEmpty⟩ := by
  obtain ⟨rest, heq⟩ := splitOn_eq_upTo_cons (61 : UInt16) line
  rw [LocaleConf.readLine, heq]
  cases rest with
  | nil => exact Or.inl rfl
  | cons value rest => exact Or.inr ⟨value, rfl⟩

theorem readLine_text (s : LocaleConf) (a : Assignment) :
    s.readLine a.text = ⟨s.env.insert a.name (upTo 61 a.value),
      if a.name = ("LANG" : QString) then false else s.langEmpty⟩ := by
  obtain ⟨rest, heq⟩ := splitOn_assignment a.no_separator a.value
  rw [LocaleConf.readLine, text, heq]

/-- There is no LANG as long as the loop takes it for empty. -/
theorem langEmpty_foldl (lines : List QString) :
    (lines.foldl LocaleConf.readLine {}).langEmpty = true ↔
      (lines.foldl LocaleConf.readLine {}).env.lookup ("LANG" : QString) =
        none := by
  induction lines using List.reverseRecOn with
  | nil => simp
  | append_singleton lines line ih =>
      rw [List.foldl_append, List.foldl_cons, List.foldl_nil]
      rcases readLine_cases (lines.foldl LocaleConf.readLine {}) line with
        heq | ⟨value, heq⟩
      · rw [heq]
        exact ih
      · rw [heq]
        simp only [lookup_insert]
        split
        · simp
        · exact ih

/-- The loop binds names that are on one line, as its lines are. -/
theorem oneLine_of_mem_foldl {lines : List QString}
    (hlines : ∀ line ∈ lines, OneLine line) {name : QString}
    (h : name ∈ (lines.foldl LocaleConf.readLine {}).env) : OneLine name := by
  induction lines using List.reverseRecOn with
  | nil => exact absurd h (AList.notMem_empty name)
  | append_singleton lines line ih =>
      rw [List.forall_mem_append, List.forall_mem_singleton] at hlines
      rw [List.foldl_append, List.foldl_cons, List.foldl_nil] at h
      rcases readLine_cases (lines.foldl LocaleConf.readLine {}) line with
        heq | ⟨value, heq⟩
      · rw [heq] at h
        exact ih hlines.1 h
      · rw [heq] at h
        rcases (QProcessEnvironment.mem_insert _ _ _ _).1 h with rfl | h
        · have hsubset : upTo 61 line ⊆ line :=
            (List.takeWhile_sublist _).subset
          exact ⟨fun hmem => hlines.2.1 (hsubset hmem),
            fun hmem => hlines.2.2 (hsubset hmem)⟩
        · exact ih hlines.1 h

theorem oneLine_of_mem_read (text : QString) {name : QString}
    (h : name ∈ (LocaleConf.read (some text)).env) : OneLine name := by
  refine oneLine_of_mem_foldl (fun line hline => ?_) h
  obtain ⟨hnewline, hsubset⟩ := of_mem_readLines hline
  refine ⟨hnewline, fun hreturn => ?_⟩
  simpa using (List.mem_filter.1 (hsubset hreturn)).2

theorem oneLine_of_lookup {name value : QString}
    (h : (fromLocaleConf as).lookup name = some value) : OneLine name := by
  apply oneLine_of_mem_read (file as)
  rw [← AList.lookup_isSome]
  exact Option.isSome_of_eq_some h

/-- Assignments whose names are on one line come back as the lines. -/
theorem readLines_file (h : ∀ a ∈ as, OneLine a.name) :
    readLines 10 ((file as).filter fun c => c ≠ 13) = as.map text := by
  have htext : ∀ line ∈ as.map text, 10 ∉ line ∧ 13 ∉ line := by
    intro line hline
    obtain ⟨a, ha, rfl⟩ := List.mem_map.1 hline
    have hname := h a ha
    simp [text, hname.1, hname.2, a.no_newline, a.no_return]
  have hfilter : ((file as).filter fun c => c ≠ 13) = file as := by
    apply List.filter_eq_self.2
    intro c hc
    obtain ⟨line, hline, hc⟩ := List.mem_flatMap.1 hc
    rcases List.mem_append.1 hc with hc | hc
    · exact decide_eq_true fun heq => (htext line hline).2 (heq ▸ hc)
    · rw [List.mem_singleton.1 hc]
      decide
  rw [hfilter]
  exact readLines_lines fun line hline => (htext line hline).1

/-- The file binds each name to what is in front of the first separator of its
last value. -/
theorem lookup_fromLocaleConf (h : ∀ a ∈ as, OneLine a.name)
    (name : QString) :
    (fromLocaleConf as).lookup name =
      (boundValue as name).map (upTo 61) := by
  have hstep : ∀ (s : LocaleConf) (a : Assignment) (k : QString),
      (s.readLine a.text).env.lookup k =
        if a.name = k then some (upTo 61 a.value) else s.env.lookup k := by
    intro s a k
    rw [readLine_text, lookup_insert]
  rw [fromLocaleConf, LocaleConf.read, readLines_file h, List.foldl_map,
    boundValue, ← lastValue_map]
  exact (lookup_foldl (fun (s : LocaleConf) k => s.env.lookup k) hstep
    {} as name).trans (Option.or_none ..)

theorem langEmpty_read (localeFile : Option QString) :
    (LocaleConf.read localeFile).langEmpty = true ↔
      (LocaleConf.read localeFile).env.lookup ("LANG" : QString) = none := by
  cases localeFile with
  | none => exact langEmpty_foldl []
  | some text => exact langEmpty_foldl _

theorem boundValue_isSome_iff {name : QString} :
    (boundValue as name).isSome = true ↔ ∃ a ∈ as, a.name = name :=
  lastValue_isSome_iff

theorem exists_boundValue (ha : a ∈ as) :
    ∃ value, boundValue as a.name = some value :=
  Option.isSome_iff_exists.1 (boundValue_isSome_iff.2 ⟨a, ha, rfl⟩)

theorem boundValue_singleton (a : Assignment) :
    boundValue [a] a.name = some a.value :=
  if_pos rfl

/-- The loop over `/etc/locale.conf` builds the map exactly where the values
that win have no separator. -/
theorem fromLocaleConf_iff :
    (∀ name, (fromLocaleConf as).lookup name = boundValue as name) ↔
      PlainBindings as := by
  constructor
  · intro h
    have hone : ∀ a ∈ as, OneLine a.name := by
      intro a ha
      obtain ⟨value, hvalue⟩ := exists_boundValue ha
      exact oneLine_of_lookup ((h a.name).trans hvalue)
    refine ⟨hone, fun name value hvalue => ?_⟩
    have hcut := lookup_fromLocaleConf hone name
    rw [h name, hvalue, Option.map_some, Option.some.injEq] at hcut
    exact upTo_eq_self_iff.1 hcut.symm
  · intro h name
    rw [lookup_fromLocaleConf h.oneLine]
    cases hvalue : boundValue as name with
    | none => rfl
    | some value =>
        rw [Option.map_some, upTo_eq_self_iff.2 (h.noSeparator name value hvalue)]

theorem readersAgree_iff : ReadersAgree as ↔ PlainBindings as := by
  constructor
  · exact fun h => fromLocaleConf_iff.1 h.locale
  · intro h
    constructor
    · exact fromLocaleConf_iff.2 h
    · exact lookup_foldl_text insertEntry_text as
    · exact lookup_foldl_text insertEnvText_text as
    · exact ⟨_, rfl, lookup_foldl_text insertAssignment_text as⟩

theorem allBind_iff : AllBind a ↔ OneLine a.name ∧ 61 ∉ a.value := by
  have hone : (∀ b ∈ [a], OneLine b.name) ↔ OneLine a.name := by simp
  have hbound := boundValue_singleton a
  constructor
  · intro h
    have hname : OneLine a.name := oneLine_of_lookup h.locale
    have hcut := lookup_fromLocaleConf (hone.2 hname) a.name
    rw [h.locale, hbound, Option.map_some, Option.some.injEq] at hcut
    exact ⟨hname, upTo_eq_self_iff.1 hcut.symm⟩
  · rintro ⟨hname, hvalue⟩
    constructor
    · rw [lookup_fromLocaleConf (hone.2 hname), hbound, Option.map_some,
        upTo_eq_self_iff.2 hvalue]
    · exact (lookup_foldl_text insertEntry_text [a] a.name).trans hbound
    · exact (lookup_foldl_text insertEnvText_text [a] a.name).trans hbound
    · exact ⟨_, rfl,
        (lookup_foldl_text insertAssignment_text [a] a.name).trans hbound⟩

/-- The fallback only shows where the file sets no LANG. -/
theorem lookup_processEnvironment (localeFile : Option QString)
    (name : QString) :
    (Auth.processEnvironment localeFile).lookup name =
      ((LocaleConf.read localeFile).env.lookup name).or
        (if name = ("LANG" : QString) then some ("C" : QString) else none) := by
  have hlang := langEmpty_read localeFile
  simp only [Auth.processEnvironment]
  by_cases hname : name = ("LANG" : QString)
  · subst hname
    split
    next hempty => simp [lookup_insert, hlang.1 hempty]
    next hset =>
      rw [hlang, ← ne_eq, Option.ne_none_iff_exists'] at hset
      obtain ⟨value, hvalue⟩ := hset
      rw [hvalue, Option.some_or]
  · rw [if_neg hname, Option.or_none]
    split
    · rw [lookup_insert, if_neg (Ne.symm hname)]
    · rfl

/-- With the fallback the maps are the same exactly where LANG is set, too. -/
theorem processEnvironment_iff :
    (Auth.processEnvironment (some (file as))).Same (fromWire as) ↔
      PlainBindings as ∧ ∃ a ∈ as, a.name = ("LANG" : QString) := by
  have hsame : (Auth.processEnvironment (some (file as))).Same (fromWire as) ↔
      ∀ name, ((fromLocaleConf as).lookup name).or
        (if name = ("LANG" : QString) then some ("C" : QString) else none) =
          boundValue as name := by
    apply forall_congr'
    intro name
    have hwire : (fromWire as).lookup name = boundValue as name :=
      lookup_foldl_text insertEntry_text as name
    rw [lookup_processEnvironment, hwire]
    rfl
  rw [hsame, ← fromLocaleConf_iff, ← boundValue_isSome_iff]
  constructor
  · intro h
    have hone : ∀ a ∈ as, OneLine a.name := by
      intro a ha
      by_cases hname : a.name = ("LANG" : QString)
      · rw [hname]
        exact ⟨by decide, by decide⟩
      · have hlookup := h a.name
        rw [if_neg hname, Option.or_none] at hlookup
        obtain ⟨value, hvalue⟩ := exists_boundValue ha
        exact oneLine_of_lookup (hlookup.trans hvalue)
    constructor
    · intro name
      have hlookup := h name
      rw [lookup_fromLocaleConf hone] at hlookup ⊢
      cases hvalue : boundValue as name with
      | none => rfl
      | some value => rwa [hvalue, Option.map_some, Option.some_or] at hlookup
    · rw [← h, if_pos rfl]
      simp
  · rintro ⟨h, hlang⟩ name
    rw [h]
    split
    next hname =>
      obtain ⟨value, hvalue⟩ := Option.isSome_iff_exists.1 hlang
      rw [hname, hvalue, Option.some_or]
    · exact Option.or_none ..

end Assignment

open Assignment in
/-- The readers bind a name to its value if and only if the name is on one line
and the value has no separator.  They build the same map if and only if all
names are on one line and no value that wins has a separator; with the fallback
for LANG in it, if and only if LANG is assigned, too. -/
theorem readers_agree_iff (a : Assignment) (as : List Assignment) :
    (AllBind a ↔ OneLine a.name ∧ 61 ∉ a.value) ∧
      (ReadersAgree as ↔ PlainBindings as) ∧
      ((Auth.processEnvironment (some (file as))).Same (fromWire as) ↔
        PlainBindings as ∧ ∃ b ∈ as, b.name = ("LANG" : QString)) :=
  ⟨allBind_iff, readersAgree_iff, processEnvironment_iff⟩

namespace Assignment

/-- A setting of an input method, whose value has a separator. -/
def xmodifiers : Assignment where
  name := "XMODIFIERS"
  value := "@im=ibus"
  name_ne_nil := by decide
  no_separator := by decide
  no_newline := by decide
  no_return := by decide

/-- The value ends at its own separator. -/
theorem readers_not_agree :
    ¬ AllBind xmodifiers ∧ ¬ ReadersAgree [xmodifiers] := by
  have hlocale : (fromLocaleConf [xmodifiers]).lookup xmodifiers.name =
      some ("@im" : QString) := by decide
  refine ⟨fun h => ?_, fun h => ?_⟩
  · exact absurd (hlocale.symm.trans h.locale) (by decide)
  · exact absurd (hlocale.symm.trans (h.locale xmodifiers.name)) (by decide)

end Assignment

end PlasmaLogin
