/-
Finding a saved session again.  Only its file name is saved, so a session of
the other type with the same file name can be found in its place.
-/
import PlasmaLogin.SessionAgreement

namespace PlasmaLogin

/-- The lookup of the configured session in `Display::Display`. -/
def Display.findAutologinSession {ν : Type} (inst : Installation ν)
    (autologinSession : QString) : Session :=
  let session := Session.create inst .waylandSession autologinSession
  if session.isValid then session
  else Session.create inst .x11Session autologinSession

namespace SessionModel

variable {ν : Type} {inst : ListedInstallation ν}
  {localeAwareCompare : QString → QString → Ordering}
  {sessions : List ModelSession} {texts : LabelTexts}

/-- Saving the file name of a row and looking it up later leads back to the
session of the row, in the greeter and for an automatic login. -/
structure FoundAgain (texts : LabelTexts) (inst : ListedInstallation ν)
    (sessions : List ModelSession) (row : Nat) (s : ModelSession) : Prop where
  row : indexOfData texts sessions (data texts sessions row .fileName)
    .fileName = row
  type : (Display.findAutologinSession inst.toInstallation s.fileName).type =
    s.type.daemonType
  file : (Display.findAutologinSession inst.toInstallation
    s.fileName).OpenedAt s.path

theorem data_fileName {row : Nat} {s : ModelSession}
    (h : sessions[row]? = some s) :
    data texts sessions row .fileName = .text s.fileName := by
  have hrow : ¬ (row : Int) < 0 := by omega
  simp [data, hrow, h]

theorem indexOfData_eq_iff {text : QString} (htext : text ≠ []) {role : Role}
    {row : Nat} : indexOfData texts sessions (.text text) role = row ↔
      ((List.range sessions.length).find? fun i : Nat =>
        data texts sessions i role = .text text) = some row := by
  have hvalue : (Value.text text).isNull = false := rfl
  have hstring : (Value.text text).toString.isEmpty = false :=
    List.isEmpty_eq_false_iff.2 htext
  rw [indexOfData, hvalue, hstring, Bool.or_self, if_neg Bool.false_ne_true]
  cases (List.range sessions.length).find? fun i : Nat =>
      data texts sessions i role = .text text with
  | none => simp
  | some i => simp

/-- The greeter finds the first row with the name. -/
theorem indexOfData_fileName_eq_iff {row : Nat} {s : ModelSession}
    (h : sessions[row]? = some s) (hname : s.fileName ≠ []) :
    indexOfData texts sessions (data texts sessions row .fileName) .fileName =
        row ↔
      ∀ (i : Nat) (t : ModelSession), i < row → sessions[i]? = some t →
        t.fileName ≠ s.fileName := by
  have hlength : row < sessions.length := (List.getElem?_eq_some_iff.1 h).1
  rw [data_fileName h, indexOfData_eq_iff hname, List.find?_range_eq_some]
  have hself : data texts sessions row .fileName = .text s.fileName :=
    data_fileName h
  simp only [hself, decide_true, List.mem_range, hlength, true_and,
    Bool.not_eq_true', decide_eq_false_iff_not]
  constructor
  · intro hfirst i t hi ht heq
    exact hfirst i hi (by rw [data_fileName ht, heq])
  · intro hfirst i hi heq
    have hget : sessions[i]? = some sessions[i] := List.getElem?_eq_getElem _
    rw [data_fileName hget, Value.text.injEq] at heq
    exact hfirst i _ hi hget heq

theorem isValid_of_openedAt {s : Session} {path : QString}
    (h : s.OpenedAt path) : s.isValid = true := by
  obtain ⟨file, hfile, _⟩ := h
  rw [Session.isValid, hfile]
  rfl

/-- The daemon finds nothing for a name no session of the type has. -/
theorem filePath_eq_none {type : SessionKind} {name : QString}
    (hname : Listable name)
    (hsuffix : (QString.ofString ".desktop").isSuffixOf name = true)
    (hnone : ∀ t ∈ collected inst, t.type = type → t.fileName ≠ name) :
    Session.filePath inst.toInstallation type.daemonType name = none := by
  rw [filePath_eq type hsuffix, Option.map_eq_none_iff, List.find?_eq_none]
  intro dataDir hdataDir hprovides
  obtain ⟨t, ht, htype, heq⟩ :=
    exists_mem_collected hname hdataDir hprovides
  exact hnone t ht htype heq

/-- What the daemon creates for a listed session. -/
theorem create_of_mem {s : ModelSession} (hs : s ∈ collected inst)
    (hsuffix : (QString.ofString ".desktop").isSuffixOf s.fileName = true) :
    (Session.create inst.toInstallation s.type.daemonType s.fileName).type =
        s.type.daemonType ∧
      (Session.create inst.toInstallation s.type.daemonType
        s.fileName).OpenedAt s.path := by
  refine ⟨?_, (openedAt_create_iff hs).2 hsuffix⟩
  obtain ⟨path, hpath, _⟩ := filePath_of_mem hs hsuffix
  obtain ⟨file, hcreate, _⟩ := Session.create_of_filePath hpath
  rw [hcreate]

theorem suffix_of_findAutologinSession {s : ModelSession}
    (hs : s ∈ collected inst)
    (h : (Display.findAutologinSession inst.toInstallation
      s.fileName).OpenedAt s.path) :
    (QString.ofString ".desktop").isSuffixOf s.fileName = true := by
  unfold Display.findAutologinSession at h
  simp only at h
  split at h
  · exact suffix_of_openedAt hs h
  · exact suffix_of_openedAt hs h

/-- A listed Wayland session is what an automatic login finds. -/
theorem findAutologinSession_of_wayland {s : ModelSession}
    (hs : s ∈ collected inst) (hkind : s.type = .wayland)
    (hsuffix : (QString.ofString ".desktop").isSuffixOf s.fileName = true) :
    Display.findAutologinSession inst.toInstallation s.fileName =
      Session.create inst.toInstallation s.type.daemonType s.fileName := by
  have hopened := (create_of_mem hs hsuffix).2
  rw [hkind] at hopened ⊢
  exact if_pos (isValid_of_openedAt hopened)

/-- Without a Wayland session of its name an X11 session is found. -/
theorem findAutologinSession_of_x11 {s : ModelSession}
    (hs : s ∈ collected inst) (hkind : s.type = .x11)
    (hsuffix : (QString.ofString ".desktop").isSuffixOf s.fileName = true)
    (hfree : ∀ t ∈ collected inst, t.type = .wayland →
      t.fileName ≠ s.fileName) :
    Display.findAutologinSession inst.toInstallation s.fileName =
      Session.create inst.toInstallation s.type.daemonType s.fileName := by
  have hnone := filePath_eq_none (listable_of_mem hs) hsuffix hfree
  have hcreate := Session.create_of_filePath_eq_none hnone
  have hinvalid : (Session.create inst.toInstallation .waylandSession
      s.fileName).isValid ≠ true := by
    change (Session.create inst.toInstallation
      SessionKind.wayland.daemonType s.fileName).isValid ≠ true
    rw [hcreate]
    exact Bool.false_ne_true
  rw [hkind]
  exact if_neg hinvalid

/-- An automatic login finds a session unless it is an X11 session and there
is a Wayland session with its name. -/
theorem findAutologinSession_iff {s : ModelSession} (hs : s ∈ collected inst) :
    (Display.findAutologinSession inst.toInstallation s.fileName).type =
          s.type.daemonType ∧
        (Display.findAutologinSession inst.toInstallation
          s.fileName).OpenedAt s.path ↔
      (QString.ofString ".desktop").isSuffixOf s.fileName = true ∧
        (s.type = .x11 → ∀ t ∈ collected inst, t.type = .wayland →
          t.fileName ≠ s.fileName) := by
  constructor
  · rintro ⟨htype, hopened⟩
    have hsuffix := suffix_of_findAutologinSession hs hopened
    refine ⟨hsuffix, fun hkind t ht htkind hname => ?_⟩
    rw [← hname] at hsuffix
    rw [← hname, findAutologinSession_of_wayland ht htkind hsuffix,
      (create_of_mem ht hsuffix).1, htkind, hkind] at htype
    exact SessionType.noConfusion htype
  · rintro ⟨hsuffix, hfree⟩
    have hfound : Display.findAutologinSession inst.toInstallation s.fileName =
        Session.create inst.toInstallation s.type.daemonType s.fileName := by
      cases hkind : s.type with
      | wayland =>
          exact hkind ▸ findAutologinSession_of_wayland hs hkind hsuffix
      | x11 =>
          exact hkind ▸ findAutologinSession_of_x11 hs hkind hsuffix
            (hfree hkind)
    rw [hfound]
    exact create_of_mem hs hsuffix

/-- Sessions with one file name are sorted by the rest. -/
theorem sortsBefore_iff_of_fileName_eq {s t : ModelSession}
    (h : s.fileName = t.fileName) :
    ModelSession.sortsBefore localeAwareCompare s t = true ↔
      localeAwareCompare s.displayName t.displayName = .lt ∨
        localeAwareCompare s.displayName t.displayName = .eq ∧
          s.type = .wayland ∧ t.type ≠ .wayland := by
  have hplasma : s.isPlasma = t.isPlasma := by
    rw [ModelSession.isPlasma, ModelSession.isPlasma, h]
  rw [ModelSession.sortsBefore, hplasma, Bool.and_not_self, Bool.not_and_self,
    if_neg Bool.false_ne_true, if_neg Bool.false_ne_true]
  cases localeAwareCompare s.displayName t.displayName <;> simp

/-- A row comes before another one only if it is not sorted after it. -/
theorem Populates.not_sortsBefore
    (h : Populates localeAwareCompare inst sessions) {i j : Nat}
    {s t : ModelSession} (hij : i < j) (hs : sessions[i]? = some s)
    (ht : sessions[j]? = some t) :
    ModelSession.sortsBefore localeAwareCompare t s = false := by
  obtain ⟨hi, rfl⟩ := List.getElem?_eq_some_iff.1 hs
  obtain ⟨hj, rfl⟩ := List.getElem?_eq_some_iff.1 ht
  exact List.pairwise_iff_getElem.1 h.2 i j hi hj hij

/-- Another row with the file name is a session of the other type. -/
theorem Populates.type_ne (h : Populates localeAwareCompare inst sessions)
    {i j : Nat} {s t : ModelSession} (hij : i ≠ j)
    (hs : sessions[i]? = some s) (ht : sessions[j]? = some t)
    (hname : t.fileName = s.fileName) : t.type ≠ s.type := by
  intro htype
  have hi : i < (sessions.map fun s => (s.type, s.fileName)).length := by
    rw [List.length_map]
    exact (List.getElem?_eq_some_iff.1 hs).1
  apply hij ((List.getElem?_inj hi h.nodup).1 _)
  rw [List.getElem?_map, List.getElem?_map, hs, ht, Option.map_some,
    Option.map_some, htype, hname]

section orders

variable [Std.OrientedCmp localeAwareCompare]
  (h : Populates localeAwareCompare inst sessions) {row : Nat}
  {s t : ModelSession} (hs : sessions[row]? = some s)

include h hs

/-- The first row with a name does not sort after the other one with it. -/
theorem Populates.not_gt_of_first (ht : t ∈ sessions)
    (hname : t.fileName = s.fileName) (hkind : t.type ≠ s.type)
    (hfirst : ∀ (i : Nat) (t : ModelSession), i < row →
      sessions[i]? = some t → t.fileName ≠ s.fileName) :
    localeAwareCompare s.displayName t.displayName ≠ .gt := by
  intro hgt
  obtain ⟨i, hi, heq⟩ := List.mem_iff_getElem.1 ht
  have hget : sessions[i]? = some t := by
    rw [List.getElem?_eq_getElem hi, heq]
  have hlater : row < i := by
    rcases Nat.lt_trichotomy i row with hlt | rfl | hlt
    · exact absurd hname (hfirst i t hlt hget)
    · rw [hs, Option.some.injEq] at hget
      exact absurd (hget ▸ rfl) hkind
    · exact hlt
  have hsorted := h.not_sortsBefore hlater hs hget
  rw [← Bool.not_eq_true, sortsBefore_iff_of_fileName_eq hname] at hsorted
  exact hsorted (Or.inl (Std.OrientedCmp.lt_of_gt hgt))

omit [Std.OrientedCmp localeAwareCompare] in
/-- A Wayland session that does not sort after the other one with its name
has the first row with the name. -/
theorem Populates.first_of_not_gt
    (hother : ∀ t ∈ sessions, t.fileName = s.fileName → t.type ≠ s.type →
      s.type = .wayland ∧
        localeAwareCompare s.displayName t.displayName ≠ .gt)
    (i : Nat) (t : ModelSession) (hi : i < row)
    (ht : sessions[i]? = some t) : t.fileName ≠ s.fileName := by
  intro hname
  have hkind := h.type_ne hi.ne' hs ht hname
  obtain ⟨hwayland, hgt⟩ := hother t (List.mem_of_getElem? ht) hname hkind
  have hsorted := h.not_sortsBefore hi ht hs
  rw [← Bool.not_eq_true, sortsBefore_iff_of_fileName_eq hname.symm]
    at hsorted
  apply hsorted
  cases horder : localeAwareCompare s.displayName t.displayName with
  | lt => exact Or.inl rfl
  | eq => exact Or.inr ⟨rfl, hwayland, hwayland ▸ hkind⟩
  | gt => exact absurd horder hgt

end orders

/-- The session of the two types that an automatic login prefers. -/
theorem wayland_of_free {s t : ModelSession}
    (hfree : s.type = .x11 → t.type = .wayland → t.fileName ≠ s.fileName)
    (hname : t.fileName = s.fileName) (hkind : t.type ≠ s.type) :
    s.type = .wayland := by
  cases hs : s.type with
  | wayland => rfl
  | x11 =>
      cases ht : t.type with
      | x11 => exact absurd (ht.trans hs.symm) hkind
      | wayland => exact absurd hname (hfree hs ht)

end SessionModel

open SessionModel in
/-- A saved session is found again if and only if its name needs no
completing and, where there is a session of the other type with the same file
name, it is the Wayland one and its display name does not sort after the
other. -/
theorem savedSession_foundAgain_iff {ν : Type} {inst : ListedInstallation ν}
    {localeAwareCompare : QString → QString → Ordering}
    [Std.OrientedCmp localeAwareCompare] {sessions : List ModelSession}
    (h : Populates localeAwareCompare inst sessions) (texts : LabelTexts)
    {row : Nat} {s : ModelSession} (hs : sessions[row]? = some s) :
    FoundAgain texts inst sessions row s ↔
      (QString.ofString ".desktop").isSuffixOf s.fileName = true ∧
        ∀ t ∈ sessions, t.fileName = s.fileName → t.type ≠ s.type →
          s.type = .wayland ∧
            localeAwareCompare s.displayName t.displayName ≠ .gt := by
  have hmem : s ∈ collected inst := h.mem_iff.1 (List.mem_of_getElem? hs)
  have hne : s.fileName ≠ [] := (listable_of_mem hmem).isFileName.1
  have hautologin := findAutologinSession_iff hmem
  have hindex : indexOfData texts sessions (data texts sessions row .fileName)
      .fileName = row ↔ _ := indexOfData_fileName_eq_iff hs hne
  constructor
  · rintro ⟨hrow, htype, hfile⟩
    obtain ⟨hsuffix, hfree⟩ := hautologin.1 ⟨htype, hfile⟩
    refine ⟨hsuffix, fun t ht hname hkind => ⟨?_, ?_⟩⟩
    · exact wayland_of_free
        (fun hx11 => hfree hx11 t (h.mem_iff.1 ht)) hname hkind
    · exact h.not_gt_of_first hs ht hname hkind (hindex.1 hrow)
  · rintro ⟨hsuffix, hother⟩
    have hlogin := hautologin.2 ⟨hsuffix, fun hkind t ht htkind hname => by
      have hne : t.type ≠ s.type := by
        rw [htkind, hkind]
        exact SessionKind.noConfusion
      have hwayland := (hother t (h.mem_iff.2 ht) hname hne).1
      rw [hkind] at hwayland
      exact SessionKind.noConfusion hwayland⟩
    exact ⟨hindex.2 (h.first_of_not_gt hs hother), hlogin.1, hlogin.2⟩

open SessionModel in
/-- The Wayland session of two with one name. -/
theorem savedSession_foundAgain_wayland :
    FoundAgain .plain
        (.twoSessions ⟨"plasma.desktop", by decide⟩ (by decide))
        (populate compare
          (.twoSessions ⟨"plasma.desktop", by decide⟩ (by decide))) 0
        ⟨.wayland, "/usr/wayland-sessions/plasma.desktop", "Plasma", []⟩ :=
  (savedSession_foundAgain_iff populates_populate _ (by decide)).2 (by decide)

open SessionModel in
/-- The X11 session of two with one name is never found again. -/
theorem savedSession_not_foundAgain :
    ¬ ∀ (ν : Type) (inst : ListedInstallation ν)
      (localeAwareCompare : QString → QString → Ordering)
      (sessions : List ModelSession) (texts : LabelTexts) (row : Nat)
      (s : ModelSession), Std.TransCmp localeAwareCompare →
        Populates localeAwareCompare inst sessions →
          sessions[row]? = some s →
            FoundAgain texts inst sessions row s := by
  intro hall
  let inst := ListedInstallation.twoSessions ⟨"plasma.desktop", by decide⟩
    (by decide)
  have hfound := hall SessionsNode inst compare (populate compare inst) .plain
    1 ⟨.x11, "/usr/xsessions/plasma.desktop", "Plasma", []⟩ inferInstance
    populates_populate (by decide)
  exact absurd hfound.row (by decide)

end PlasmaLogin
