/-
The labels of sessions that share their display name and their type.  The
search that numbers them ends at the first one it finds.
-/
import PlasmaLogin.Rank
import PlasmaLogin.SessionModel

namespace PlasmaLogin

open Rank

namespace SessionModel

/-- Another session has the name with the other type. -/
def appendsType (sessions : List ModelSession) (s : ModelSession) : Bool :=
  sessions.any fun other =>
    s.path ≠ other.path && s.displayName = other.displayName &&
      s.type ≠ other.type

/-- The index appended to the label, if there is one. -/
def appendedIndex (sessions : List ModelSession) (s : ModelSession) :
    Option Nat :=
  (sessions.find? fun other =>
    s.path ≠ other.path && s.displayName = other.displayName &&
      s.type = other.type).map fun other => if other.path < s.path then 2 else 1

/-- The text for a session with what is appended to its name. -/
def label (texts : LabelTexts) (s : ModelSession) :
    Bool → Option Nat → QString
  | false, none => s.displayName
  | true, none => texts.typed s.type s.displayName
  | false, some index => texts.indexed s.displayName index
  | true, some index => texts.typedAndIndexed s.type s.displayName index

theorem getDisplay_eq (texts : LabelTexts) (sessions : List ModelSession)
    (s : ModelSession) :
    getDisplay texts sessions s =
      label texts s (appendsType sessions s) (appendedIndex sessions s) := by
  rw [getDisplay, appendedIndex, appendsType]
  cases sessions.find? _ <;> cases sessions.any _ <;> rfl

/-- The sessions with the name and the type of `s`. -/
def group (sessions : List ModelSession) (s : ModelSession) :
    List ModelSession :=
  sessions.filter fun other =>
    s.displayName = other.displayName && s.type = other.type

/-- Texts that differ in their index are different. -/
structure LabelTexts.TellApart (texts : LabelTexts) : Prop where
  indexed : ∀ name, Function.Injective (texts.indexed name)
  typedAndIndexed : ∀ type name,
    Function.Injective (texts.typedAndIndexed type name)

/-- Sessions of one name and type have different labels, each with the number
of its place by path. -/
structure LabelsNumbered (texts : LabelTexts) (sessions : List ModelSession) :
    Prop where
  distinct : ∀ (i j : Nat) (s t : ModelSession), sessions[i]? = some s →
    sessions[j]? = some t → i ≠ j → s.displayName = t.displayName →
      s.type = t.type →
        data texts sessions i .display ≠ data texts sessions j .display
  numbered : ∀ s ∈ sessions, 2 ≤ (group sessions s).length →
    appendedIndex sessions s =
      some (1 + rank ModelSession.path (group sessions s) s)
  indices : ∀ s ∈ sessions, 2 ≤ (group sessions s).length →
    ((group sessions s).map (appendedIndex sessions)).Perm
      ((List.range' 1 (group sessions s).length).map some)

variable {texts : LabelTexts} {sessions : List ModelSession}
  {s t : ModelSession}

theorem mem_group_iff : t ∈ group sessions s ↔
    t ∈ sessions ∧ s.displayName = t.displayName ∧ s.type = t.type := by
  rw [group, List.mem_filter, Bool.and_eq_true, decide_eq_true_eq,
    decide_eq_true_eq]

theorem group_eq_of_mem (h : t ∈ group sessions s) :
    group sessions t = group sessions s := by
  obtain ⟨_, hname, htype⟩ := mem_group_iff.1 h
  rw [group, group, hname, htype]

theorem data_display {i : Nat} (hi : sessions[i]? = some s) :
    data texts sessions i .display =
      .text (label texts s (appendsType sessions s)
        (appendedIndex sessions s)) := by
  rw [← getDisplay_eq, data, if_neg (by omega), Int.toNat_natCast, hi]

section distinctPaths

variable (hpaths : (sessions.map ModelSession.path).Nodup)

include hpaths

theorem eq_of_path_eq (hs : s ∈ sessions) (ht : t ∈ sessions)
    (hpath : s.path = t.path) : s = t :=
  List.inj_on_of_nodup_map hpaths hs ht hpath

/-- All sessions of a group get the type appended, or none. -/
theorem appendsType_of_mem_group (hs : s ∈ sessions)
    (ht : t ∈ group sessions s) :
    appendsType sessions t = appendsType sessions s := by
  obtain ⟨hmem, hname, htype⟩ := mem_group_iff.1 ht
  have hplain : ∀ u ∈ sessions, appendsType sessions u =
      sessions.any fun other =>
        u.displayName = other.displayName && u.type ≠ other.type := by
    intro u hu
    rw [appendsType, Bool.eq_iff_iff, List.any_eq_true, List.any_eq_true]
    apply exists_congr
    intro other
    apply and_congr_right
    intro hother
    have hpath : u.type ≠ other.type → u.path ≠ other.path := by
      intro hne heq
      exact hne (congrArg _ (eq_of_path_eq hpaths hu hother heq))
    simp only [Bool.and_eq_true, decide_eq_true_eq]
    tauto
  rw [hplain t hmem, hplain s hs, hname, htype]

omit hpaths in
theorem appendedIndex_of_other (ht : t ∈ group sessions s)
    (hother : s.path ≠ t.path) :
    appendedIndex sessions s = some 1 ∨ appendedIndex sessions s = some 2 := by
  obtain ⟨hmem, hname, htype⟩ := mem_group_iff.1 ht
  rw [appendedIndex]
  cases hfind : sessions.find? _ with
  | none =>
      have hnone := List.find?_eq_none.1 hfind t hmem
      simp [hother, hname, htype] at hnone
  | some other =>
      rw [Option.map_some]
      split
      · exact Or.inr rfl
      · exact Or.inl rfl

/-- In a group of two the search finds the other session. -/
theorem appendedIndex_of_two (hs : s ∈ sessions)
    (htwo : (group sessions s).length = 2) :
    appendedIndex sessions s =
      some (1 + rank ModelSession.path (group sessions s) s) := by
  have hself : s ∈ group sessions s := mem_group_iff.2 ⟨hs, rfl, rfl⟩
  have hnodup : ((group sessions s).map ModelSession.path).Nodup :=
    hpaths.sublist (List.filter_sublist.map _)
  obtain ⟨t, ht, hother, honly, hrank⟩ : ∃ t ∈ group sessions s,
      s.path ≠ t.path ∧ (∀ u ∈ group sessions s, s.path ≠ u.path → u = t) ∧
        rank ModelSession.path (group sessions s) s =
          if t.path < s.path then 1 else 0 := by
    obtain ⟨a, b, hab⟩ := List.length_eq_two.1 htwo
    rw [hab] at hself hnodup ⊢
    have hdiffer : a.path ≠ b.path := by simpa using hnodup
    rcases List.mem_pair.1 hself with rfl | rfl
    · refine ⟨b, by simp, hdiffer, ?_, ?_⟩
      · intro u hu hne
        rcases List.mem_pair.1 hu with rfl | rfl
        · exact absurd rfl hne
        · rfl
      · simp [rank, List.countP_cons, Std.lt_irrefl]
    · refine ⟨a, by simp, hdiffer.symm, ?_, ?_⟩
      · intro u hu hne
        rcases List.mem_pair.1 hu with rfl | rfl
        · rfl
        · exact absurd rfl hne
      · simp [rank, List.countP_cons, Std.lt_irrefl]
  obtain ⟨hmem, hname, htype⟩ := mem_group_iff.1 ht
  rw [appendedIndex, hrank]
  cases hfind : sessions.find? _ with
  | none =>
      have hnone := List.find?_eq_none.1 hfind t hmem
      simp [hother, hname, htype] at hnone
  | some u =>
      have hu := List.find?_some hfind
      simp only [Bool.and_eq_true, decide_eq_true_eq] at hu
      have hin : u ∈ group sessions s :=
        mem_group_iff.2 ⟨List.mem_of_find?_eq_some hfind, hu.1.2, hu.2⟩
      rw [honly u hin hu.1.1, Option.map_some]
      split <;> rfl

/-- Where no group has more than two sessions, they are numbered by path. -/
theorem appendedIndex_of_noThree
    (hfew : ∀ s ∈ sessions, (group sessions s).length ≤ 2) (hs : s ∈ sessions)
    (htwo : 2 ≤ (group sessions s).length) :
    appendedIndex sessions s =
      some (1 + rank ModelSession.path (group sessions s) s) :=
  appendedIndex_of_two hpaths hs (Nat.le_antisymm (hfew s hs) htwo)

/-- Two sessions of a group have different labels if they have different
indices. -/
theorem label_ne {m n : Nat} (htexts : texts.TellApart) (hs : s ∈ sessions)
    (ht : t ∈ group sessions s) (hm : appendedIndex sessions s = some m)
    (hn : appendedIndex sessions t = some n) (hne : m ≠ n) :
    label texts s (appendsType sessions s) (appendedIndex sessions s) ≠
      label texts t (appendsType sessions t) (appendedIndex sessions t) := by
  obtain ⟨_, hname, htype⟩ := mem_group_iff.1 ht
  rw [appendsType_of_mem_group hpaths hs ht, hm, hn]
  cases appendsType sessions s with
  | false =>
      simp only [label, hname]
      exact (htexts.indexed _).ne hne
  | true =>
      simp only [label, hname, htype]
      exact (htexts.typedAndIndexed _ _).ne hne

/-- Two sessions of a group have the same label if they have the same index. -/
theorem label_eq (hs : s ∈ sessions) (ht : t ∈ group sessions s)
    (hindex : appendedIndex sessions s = appendedIndex sessions t) :
    label texts s (appendsType sessions s) (appendedIndex sessions s) =
      label texts t (appendsType sessions t) (appendedIndex sessions t) := by
  obtain ⟨_, hname, htype⟩ := mem_group_iff.1 ht
  rw [appendsType_of_mem_group hpaths hs ht, hindex]
  cases appendsType sessions s <;> cases appendedIndex sessions t <;>
    simp only [label, hname, htype]

/-- Of three sessions of a group two have the same index. -/
theorem exists_same_index {a b c : ModelSession} (ha : a ∈ sessions)
    (hb : b ∈ group sessions a) (hc : c ∈ group sessions a)
    (hdistinct : [a, b, c].Nodup) :
    ∃ s ∈ sessions, ∃ t ∈ group sessions s, s ≠ t ∧
      appendedIndex sessions s = appendedIndex sessions t := by
  simp only [List.nodup_cons, List.mem_cons, List.not_mem_nil, or_false,
    not_or, not_false_eq_true] at hdistinct
  obtain ⟨⟨hab, hac⟩, hbc, _⟩ := hdistinct
  have hbmem := (mem_group_iff.1 hb).1
  have hcmem := (mem_group_iff.1 hc).1
  have haself : a ∈ group sessions a := mem_group_iff.2 ⟨ha, rfl, rfl⟩
  have hpath : ∀ {s t}, s ∈ sessions → t ∈ sessions → s ≠ t →
      s.path ≠ t.path := fun hs ht hne heq =>
    hne (eq_of_path_eq hpaths hs ht heq)
  have hca : c ∈ group sessions b := group_eq_of_mem hb ▸ hc
  have ha' := appendedIndex_of_other hb (hpath ha hbmem hab)
  have hb' := appendedIndex_of_other (group_eq_of_mem hb ▸ haself)
    (hpath hbmem ha (Ne.symm hab))
  have hc' := appendedIndex_of_other (group_eq_of_mem hc ▸ haself)
    (hpath hcmem ha (Ne.symm hac))
  by_cases hfirst : appendedIndex sessions a = appendedIndex sessions b
  · exact ⟨a, ha, b, hb, hab, hfirst⟩
  · by_cases hsecond : appendedIndex sessions a = appendedIndex sessions c
    · exact ⟨a, ha, c, hc, hac, hsecond⟩
    · refine ⟨b, hbmem, c, hca, hbc, ?_⟩
      rcases ha' with ha' | ha'
      · rw [ha'] at hfirst hsecond
        rw [hb'.resolve_left (Ne.symm hfirst),
          hc'.resolve_left (Ne.symm hsecond)]
      · rw [ha'] at hfirst hsecond
        rw [hb'.resolve_right (Ne.symm hfirst),
          hc'.resolve_right (Ne.symm hsecond)]

/-- A group of more than two has two sessions with one index. -/
theorem exists_same_index_of_many (hmany : 2 < (group sessions s).length) :
    ∃ u ∈ sessions, ∃ v ∈ group sessions u, u ≠ v ∧
      appendedIndex sessions u = appendedIndex sessions v := by
  obtain ⟨a, b, c, rest, hgroup⟩ : ∃ a b c rest,
      group sessions s = a :: b :: c :: rest := by
    match hg : group sessions s with
    | [] | [_] | [_, _] => simp [hg] at hmany
    | a :: b :: c :: rest => exact ⟨a, b, c, rest, rfl⟩
  have hmem : ∀ t ∈ [a, b, c], t ∈ group sessions s := by
    intro t ht
    rw [hgroup]
    simp only [List.mem_cons, List.not_mem_nil, or_false] at ht ⊢
    tauto
  have hthree : [a, b, c].Nodup := by
    have hnodup : (group sessions s).Nodup := (hpaths.of_map _).filter _
    rw [hgroup] at hnodup
    exact hnodup.sublist (by simp)
  have hgroupa := group_eq_of_mem (hmem a (by simp))
  exact exists_same_index hpaths (mem_group_iff.1 (hmem a (by simp))).1
    (hgroupa ▸ hmem b (by simp)) (hgroupa ▸ hmem c (by simp)) hthree

/-- Numbered sessions of one name and type have different labels. -/
theorem data_ne_of_numbered (htexts : texts.TellApart)
    (hnumbered : ∀ s ∈ sessions, 2 ≤ (group sessions s).length →
      appendedIndex sessions s =
        some (1 + rank ModelSession.path (group sessions s) s))
    {i j : Nat} (hi : sessions[i]? = some s) (hj : sessions[j]? = some t)
    (hij : i ≠ j) (hname : s.displayName = t.displayName)
    (htype : s.type = t.type) :
    data texts sessions i .display ≠ data texts sessions j .display := by
  have hs := List.mem_of_getElem? hi
  have ht := List.mem_of_getElem? hj
  have hpath : s.path ≠ t.path := by
    intro heq
    rw [eq_of_path_eq hpaths hs ht heq] at hi
    have hlength := (List.getElem?_eq_some_iff.1 hi).1
    apply hij
    exact (List.getElem?_inj hlength (hpaths.of_map _)).1 (hi.trans hj.symm)
  have hself : s ∈ group sessions s := mem_group_iff.2 ⟨hs, rfl, rfl⟩
  have hother : t ∈ group sessions s := mem_group_iff.2 ⟨ht, hname, htype⟩
  have htwo : 2 ≤ (group sessions s).length := by
    match hg : group sessions s with
    | [] => simp [hg] at hself
    | [u] =>
        rw [hg, List.mem_singleton] at hself hother
        exact absurd (congrArg _ (hself.trans hother.symm)) hpath
    | _ :: _ :: _ => simp
  have hsnumber := hnumbered s hs htwo
  have htnumber := hnumbered t ht (group_eq_of_mem hother ▸ htwo)
  rw [group_eq_of_mem hother] at htnumber
  rw [data_display hi, data_display hj, ne_eq, Value.text.injEq]
  refine label_ne hpaths htexts hs hother hsnumber htnumber ?_
  intro hsame
  exact hpath (key_eq_of_rank_eq hself hother (by omega))

/-- The numbers of a group are 1 to its size. -/
theorem indices_of_numbered
    (hnumbered : ∀ s ∈ sessions, 2 ≤ (group sessions s).length →
      appendedIndex sessions s =
        some (1 + rank ModelSession.path (group sessions s) s))
    (htwo : 2 ≤ (group sessions s).length) :
    ((group sessions s).map (appendedIndex sessions)).Perm
      ((List.range' 1 (group sessions s).length).map some) := by
  have hmap : (group sessions s).map (appendedIndex sessions) =
      ((group sessions s).map fun u =>
        1 + rank ModelSession.path (group sessions s) u).map some := by
    rw [List.map_map]
    apply List.map_congr_left
    intro u hu
    have hgroup := group_eq_of_mem hu
    rw [hnumbered u (mem_group_iff.1 hu).1 (hgroup ▸ htwo), hgroup]
    rfl
  rw [hmap]
  apply (map_rank_perm _).map
  exact hpaths.sublist (List.filter_sublist.map _)

/-- The labels are numbered as they should be exactly when no three sessions
share their name and their type. -/
theorem labelsNumbered_iff (htexts : texts.TellApart) :
    LabelsNumbered texts sessions ↔
      ∀ s ∈ sessions, (group sessions s).length ≤ 2 := by
  constructor
  · intro h s hs
    by_contra hmany
    obtain ⟨u, hu, v, hv, hne, hindex⟩ :=
      exists_same_index_of_many hpaths (Nat.lt_of_not_le hmany)
    obtain ⟨hvmem, hname, htype⟩ := mem_group_iff.1 hv
    obtain ⟨i, hi⟩ := List.mem_iff_getElem?.1 hu
    obtain ⟨j, hj⟩ := List.mem_iff_getElem?.1 hvmem
    refine h.distinct i j u v hi hj ?_ hname htype ?_
    · rintro rfl
      exact hne (Option.some.inj (hi.symm.trans hj))
    · rw [data_display hi, data_display hj, label_eq hpaths hu hv hindex]
  · intro hfew
    have hnumbered : ∀ s ∈ sessions, 2 ≤ (group sessions s).length →
        appendedIndex sessions s =
          some (1 + rank ModelSession.path (group sessions s) s) :=
      fun s hs htwo => appendedIndex_of_noThree hpaths hfew hs htwo
    constructor
    · intro i j s t hi hj hij hname htype
      exact data_ne_of_numbered hpaths htexts hnumbered hi hj hij hname htype
    · exact hnumbered
    · exact fun s _ htwo => indices_of_numbered hpaths hnumbered htwo

end distinctPaths

/-- The labels as they are without a translation. -/
def LabelTexts.untranslated : LabelTexts where
  typed type name := name ++ match type with
    | .x11 => (" (X11)" : QString)
    | .wayland => (" (Wayland)" : QString)
  indexed name index :=
    name ++ ((" (" : QString) ++ (QString.decimal index ++ (")" : QString)))
  typedAndIndexed type name index := name ++ ((match type with
    | .x11 => (" (X11) (" : QString)
    | .wayland => (" (Wayland) (" : QString)) ++
      (QString.decimal index ++ (")" : QString)))

theorem untranslated_tellApart : LabelTexts.untranslated.TellApart := by
  have hindex : ∀ (before after : QString), Function.Injective fun index =>
      before ++ (QString.decimal index ++ after) := by
    intro before after m n h
    have hdigits : QString.decimal m = QString.decimal n :=
      List.append_cancel_right (List.append_cancel_left h)
    have hvalue := congrArg QString.natOfDigits hdigits
    rwa [QString.natOfDigits_decimal, QString.natOfDigits_decimal,
      Option.some.injEq] at hvalue
  constructor
  · intro name m n h
    exact hindex _ _ (List.append_cancel_left h)
  · intro type name m n h
    exact hindex _ _ (List.append_cancel_left h)

/-- Wayland sessions of one name in the given files. -/
def plasmaSessions (files : List QString) : List ModelSession :=
  files.map fun path => ⟨.wayland, path, "Plasma", []⟩

theorem labelsNumbered_two :
    LabelsNumbered .untranslated (plasmaSessions ["/b", "/a"]) :=
  (labelsNumbered_iff (by decide) untranslated_tellApart).2 (by decide)

/-- The search for the second and for the third file ends at the first. -/
theorem not_labelsNumbered_three :
    LabelTexts.untranslated.TellApart ∧
      ((plasmaSessions ["/a", "/b", "/c"]).map ModelSession.path).Nodup ∧
      ¬ LabelsNumbered .untranslated (plasmaSessions ["/a", "/b", "/c"]) := by
  refine ⟨untranslated_tellApart, by decide, fun h => ?_⟩
  exact h.distinct 1 2 ⟨.wayland, "/b", "Plasma", []⟩
    ⟨.wayland, "/c", "Plasma", []⟩ rfl rfl (by decide) rfl rfl (by decide)

end SessionModel

end PlasmaLogin
