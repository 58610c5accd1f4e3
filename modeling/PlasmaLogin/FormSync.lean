/-
What the handlers of the forms keep: an assignment reaches the forms and the
property of `GreeterState` that go with it, and nothing else.
-/
import PlasmaLogin.GreeterForms

namespace PlasmaLogin

open TwoWay

/-- A list that is modified in one place, as a map sees it. -/
theorem map_modify_eq {α β : Type} {shows : α → β} {change : α → α}
    {change' : β → β} {i : Nat} {l : List α}
    (h : ∀ x, l[i]? = some x → shows (change x) = change' (shows x)) :
    (l.modify i change).map shows = (l.map shows).modify i change' := by
  apply List.ext_getElem?
  intro j
  rw [List.getElem?_map, List.getElem?_modify, List.getElem?_modify,
    List.getElem?_map]
  split
  next hij =>
    subst hij
    cases hx : l[i]? with
    | none => rfl
    | some x => exact congrArg some (h x hx)
  next => simp only [Option.map_eq_map, Option.map_id_fun', id]

theorem map_modify_of_fixed {α β : Type} {shows : α → β} {change' : β → β}
    {i : Nat} {l : List α}
    (h : ∀ x, l[i]? = some x → shows x = change' (shows x)) :
    l.map shows = (l.map shows).modify i change' := by
  have hmap : (l.modify i id).map shows = (l.map shows).modify i change' :=
    map_modify_eq h
  rwa [List.modify_id] at hmap

theorem Login.isUserList_congr {l l' : Login} (h : l'.shows = l.shows) :
    l'.isUserList = l.isUserList := by
  simp only [shows, Prod.mk.injEq] at h
  rw [isUserList, h.1, h.2, ← isUserList]

namespace Screen

theorem form_modifyForm (b b' : Bool) (change : Login → Login) (sc : Screen) :
    (sc.modifyForm b change).form b' =
      if b' = b then (sc.form b').map change else sc.form b' := by
  cases b <;> cases b' <;> rfl

theorem shows_modifyForm (b : Bool) {change : Login → Login}
    (h : ∀ l, (change l).shows = l.shows) (sc : Screen) :
    (sc.modifyForm b change).shows = sc.shows := by
  cases b with
  | false => simp only [modifyForm, shows, Bool.false_eq_true, if_false, h]
  | true =>
      simp only [modifyForm, shows, if_true, Option.map_map]
      rw [show Login.shows ∘ change = Login.shows from funext h]

end Screen

namespace GreeterUi

theorem form_modifyForm (f g : FormId) (change : Login → Login)
    (s : GreeterUi) :
    (s.modifyForm f change).form g =
      if g = f then (s.form g).map change else s.form g := by
  obtain ⟨i, b⟩ := f
  obtain ⟨j, c⟩ := g
  simp only [form, modifyForm, List.getElem?_modify, FormId.mk.injEq]
  cases s.screens[j]? with
  | none => simp
  | some sc =>
      by_cases hij : j = i
      · simp [hij, Screen.form_modifyForm]
      · simp [hij, Ne.symm hij]

theorem form_modifyForm_self {f : FormId} {s : GreeterUi} {l : Login}
    (h : s.form f = some l) (change : Login → Login) :
    (s.modifyForm f change).form f = some (change l) := by
  rw [form_modifyForm, if_pos rfl, h, Option.map_some]

theorem form_modifyForm_ne {f g : FormId} (h : g ≠ f)
    (change : Login → Login) (s : GreeterUi) :
    (s.modifyForm f change).form g = s.form g := by
  rw [form_modifyForm, if_neg h]

theorem mem_forms {kind : Login → Bool} {f : FormId} {s : GreeterUi} :
    f ∈ s.forms kind ↔ ∃ l, s.form f = some l ∧ kind l = true := by
  rw [← Option.any_eq_true]
  simp only [forms, List.mem_flatMap, List.mem_range, List.mem_filter]
  constructor
  · rintro ⟨_, _, _, hany⟩
    exact hany
  · intro hany
    refine ⟨f.screen, ?_, ?_, hany⟩
    · by_contra hlt
      rw [form, List.getElem?_eq_none (Nat.le_of_not_lt hlt)] at hany
      exact absurd hany (by simp)
    · obtain ⟨i, b⟩ := f
      cases b <;> simp

/-- Which forms there are depends on what they show. -/
theorem forms_congr {kind : Login → Bool} {s t : GreeterUi}
    (hlength : t.screens.length = s.screens.length)
    (h : ∀ f, (t.form f).any kind = (s.form f).any kind) :
    t.forms kind = s.forms kind := by
  simp only [forms, hlength, h]

/-- The same screens with the same forms, whatever is typed, in the same
mode. -/
structure SameScreens (s t : GreeterUi) : Prop where
  config : t.config = s.config
  loginState : t.loginState = s.loginState
  shows : t.screens.map Screen.shows = s.screens.map Screen.shows

theorem SameScreens.refl (s : GreeterUi) : SameScreens s s := ⟨rfl, rfl, rfl⟩

theorem SameScreens.trans {s t u : GreeterUi} (h : SameScreens s t)
    (h' : SameScreens t u) : SameScreens s u :=
  ⟨h'.config.trans h.config, h'.loginState.trans h.loginState,
    h'.shows.trans h.shows⟩

theorem SameScreens.length {s t : GreeterUi} (h : SameScreens s t) :
    t.screens.length = s.screens.length := by
  rw [← List.length_map Screen.shows, h.shows, List.length_map]

/-- A form shows what the form in its place showed. -/
theorem SameScreens.form {s t : GreeterUi} (h : SameScreens s t) (f : FormId) :
    (t.form f).map Login.shows = (s.form f).map Login.shows := by
  have hscreen : t.screens[f.screen]?.map Screen.shows =
      s.screens[f.screen]?.map Screen.shows := by
    rw [← List.getElem?_map, h.shows, List.getElem?_map]
  have hform : ∀ sc : Option Screen,
      (sc.bind (Screen.form f.prompt)).map Login.shows =
        (sc.map Screen.shows).bind fun x =>
          if f.prompt then x.2 else some x.1 := by
    intro sc
    cases sc with
    | none => rfl
    | some sc => cases hb : f.prompt <;> rfl
  rw [GreeterUi.form, GreeterUi.form, hform, hform, hscreen]

theorem SameScreens.any {s t : GreeterUi} (h : SameScreens s t)
    {kind : Login → Bool} (hkind : ∀ l l' : Login, l'.shows = l.shows →
      kind l' = kind l) (f : FormId) :
    (t.form f).any kind = (s.form f).any kind := by
  have hform := h.form f
  cases hs : s.form f with
  | none =>
      rw [hs, Option.map_none, Option.map_eq_none_iff] at hform
      rw [hform]
  | some l =>
      rw [hs, Option.map_some, Option.map_eq_some_iff] at hform
      obtain ⟨l', ht, hshows⟩ := hform
      rw [ht, Option.any_some, Option.any_some, hkind l l' hshows]

theorem SameScreens.isUserList {s t : GreeterUi} (h : SameScreens s t)
    (f : FormId) : t.isUserList f = s.isUserList f :=
  h.any (fun _ _ => Login.isUserList_congr) f

theorem SameScreens.isSome {s t : GreeterUi} (h : SameScreens s t)
    (f : FormId) : (t.form f).isSome = (s.form f).isSome := by
  have hform := congrArg Option.isSome (h.form f)
  rwa [Option.isSome_map, Option.isSome_map] at hform

theorem SameScreens.fields {s t : GreeterUi} (h : SameScreens s t)
    (p : SyncedProperty) : (sync p).fields t = (sync p).fields s :=
  forms_congr h.length fun f => h.any
    (fun _ _ hshows => congrArg p.guard (Login.isUserList_congr hshows)) f

theorem sameScreens_modifyForm {change : Login → Login}
    (h : ∀ l, (change l).shows = l.shows) (f : FormId) (s : GreeterUi) :
    SameScreens s (s.modifyForm f change) := by
  refine ⟨rfl, rfl, ?_⟩
  have hshows : (s.modifyForm f change).screens.map Screen.shows =
      (s.screens.map Screen.shows).modify f.screen id :=
    map_modify_eq fun sc _ => Screen.shows_modifyForm f.prompt h sc
  rw [hshows, List.modify_id]

theorem sameScreens_set (p : SyncedProperty) (v : p.Value) (s : GreeterUi) :
    SameScreens s (p.shared.set v s) :=
  ⟨p.shared.config_set v s, p.shared.loginState_set v s, by
    rw [p.shared.screens_set]⟩

end GreeterUi

open GreeterUi

theorem mem_fields {p : SyncedProperty} {f : FormId} {s : GreeterUi} :
    f ∈ (sync p).fields s ↔
      ∃ l, s.form f = some l ∧ p.guard l.isUserList = true :=
  mem_forms

theorem field_of_form (p : SyncedProperty) {f : FormId} {s : GreeterUi}
    {l : Login} (h : s.form f = some l) :
    (sync p).field f s = p.control.get l := by
  simp only [sync, h, Option.getD_some]

theorem sync_lawful (p : SyncedProperty) : (sync p).Lawful where
  shared_setShared := p.shared.get_set
  fields_setShared v s := (sameScreens_set p v s).fields p
  field_setShared f v s := by
    simp only [sync, form, p.shared.screens_set]
  shared_setField f v s := p.shared.get_screens _ s
  fields_setField f v s :=
    (sameScreens_modifyForm (p.control.shows_set v) f s).fields p
  field_setField f v s hf := by
    obtain ⟨l, hl, _⟩ := mem_fields.1 hf
    simp only [sync, form_modifyForm_self hl, Option.getD_some,
      p.control.get_set]
  field_setField_ne f g v s hne := by
    simp only [sync, form_modifyForm_ne hne]

/-- A change of one form that a property does not look at. -/
theorem same_modifyForm {p : SyncedProperty} {f : FormId} {s : GreeterUi}
    {change : Login → Login} (hshows : ∀ l, (change l).shows = l.shows)
    (h : ∀ l, s.form f = some l → p.guard l.isUserList = true →
      p.control.get (change l) = p.control.get l) :
    (sync p).Same s (s.modifyForm f change) where
  fields := (sameScreens_modifyForm hshows f s).fields p
  shared := p.shared.get_screens _ s
  field g hg := by
    obtain ⟨l, hl, hguard⟩ := mem_fields.1 hg
    rw [field_of_form p hl]
    by_cases hgf : g = f
    · subst hgf
      rw [field_of_form p (form_modifyForm_self hl change), h l hl hguard]
    · rw [field_of_form p ((form_modifyForm_ne hgf change s).trans hl)]

theorem shared_set_ne {p p' : SyncedProperty} (h : p ≠ p') (v : p.Value)
    (s : GreeterUi) :
    p'.shared.get (p.shared.set v s) = p'.shared.get s := by
  cases p <;> cases p' <;> first | rfl | exact absurd rfl h

/-- No form has two properties in one control. -/
theorem control_set_ne {p p' : SyncedProperty} (h : p ≠ p') {b : Bool}
    (hb : p.guard b = true) (hb' : p'.guard b = true) (v : p.Value)
    (l : Login) :
    p'.control.get (p.control.set v l) = p'.control.get l := by
  cases p <;> cases p' <;>
    first
    | rfl
    | exact absurd rfl h
    | exact absurd hb' (by revert hb; cases b <;> decide)

theorem sync_apart {p p' : SyncedProperty} (h : p ≠ p') :
    Apart (sync p) (sync p') where
  setShared v s :=
    ⟨(sameScreens_set p v s).fields p', shared_set_ne h v s, fun g _ => by
      simp only [sync, form, p.shared.screens_set]⟩
  setField f v s hf := by
    obtain ⟨l, hl, hguard⟩ := mem_fields.1 hf
    refine same_modifyForm (p.control.shows_set v) fun l' hl' hguard' => ?_
    rw [hl] at hl'
    cases hl'
    exact control_set_ne h hguard hguard' v l

namespace GreeterUi

/-- Nothing has changed but one property and the controls that mirror it. -/
structure Touches (p : SyncedProperty) (s t : GreeterUi) : Prop where
  screens : SameScreens s t
  others : ∀ p', p ≠ p' → (sync p').Same s t

theorem touches_assignField {p : SyncedProperty} {f : FormId} {s : GreeterUi}
    (hf : f ∈ (sync p).fields s) (v : p.Value) :
    Touches p s ((sync p).assignField f v s) :=
  ⟨Mirror.assignField_invariant (sync_lawful p)
      (fun v t ht => ht.trans (sameScreens_set p v t))
      (fun f v t _ ht => ht.trans
        (sameScreens_modifyForm (p.control.shows_set v) f t)) hf (.refl s) v,
    fun _ h => (sync_apart h).assignField (sync_lawful p) hf v⟩

theorem touches_assignShared (p : SyncedProperty) (v : p.Value)
    (s : GreeterUi) : Touches p s ((sync p).assignShared v s) :=
  ⟨Mirror.assignShared_invariant (sync_lawful p)
      (fun v t ht => ht.trans (sameScreens_set p v t))
      (fun f v t _ ht => ht.trans
        (sameScreens_modifyForm (p.control.shows_set v) f t)) (.refl s) v,
    fun _ h => (sync_apart h).assignShared (sync_lawful p) v s⟩

/-- Agreement needs a reason for the one property that is touched. -/
theorem Touches.agrees {p q : SyncedProperty} {s t : GreeterUi}
    (h : Touches q s t)
    (hq : q = p → (sync p).Agrees s → (sync p).Agrees t)
    (hs : (sync p).Agrees s) : (sync p).Agrees t := by
  by_cases hne : q = p
  · exact hq hne hs
  · exact hs.same (h.others p hne)

theorem Touches.agreesBut {p q : SyncedProperty} {f : FormId}
    {s t : GreeterUi} (h : Touches q s t)
    (hq : q = p → (sync p).AgreesBut f s → (sync p).Agrees t)
    (hs : (sync p).AgreesBut f s) : (sync p).AgreesBut f t := by
  by_cases hne : q = p
  · exact (hq hne hs).but f
  · exact hs.same (h.others p hne)

theorem assignField_agrees {p q : SyncedProperty} {f : FormId}
    {s : GreeterUi} (hf : f ∈ (sync q).fields s) (h : (sync p).Agrees s)
    (v : q.Value) : (sync p).Agrees ((sync q).assignField f v s) := by
  apply (touches_assignField hf v).agrees _ h
  rintro rfl hq
  exact hq.assignField (sync_lawful _) hf v

theorem assignShared_agrees {p : SyncedProperty} {s : GreeterUi}
    (h : (sync p).Agrees s) (q : SyncedProperty) (v : q.Value) :
    (sync p).Agrees ((sync q).assignShared v s) := by
  apply (touches_assignShared q v s).agrees _ h
  rintro rfl
  exact Mirror.agrees_assignShared (sync_lawful _) v

theorem isUserList_of_form {f : FormId} {s : GreeterUi} {l : Login}
    (h : s.form f = some l) : s.isUserList f = l.isUserList := by
  rw [isUserList, h, Option.any_some]

/-- A form is among those that mirror a property by what its guard says. -/
theorem mem_fields_iff {p : SyncedProperty} {f : FormId} {s : GreeterUi}
    (h : (s.form f).isSome) :
    f ∈ (sync p).fields s ↔ p.guard (s.isUserList f) = true := by
  obtain ⟨l, hl⟩ := Option.isSome_iff_exists.1 h
  rw [mem_fields, hl, isUserList_of_form hl]
  constructor
  · rintro ⟨l', hl', hguard⟩
    cases hl'
    exact hguard
  · exact fun hguard => ⟨l, rfl, hguard⟩

theorem mem_fields_of_list {f : FormId} {s : GreeterUi}
    (hf : (s.form f).isSome) (hlist : s.isUserList f = true) :
    f ∈ (sync .userListIndex).fields s ∧
      f ∈ (sync .userListPassword).fields s := by
  rw [mem_fields_iff hf, mem_fields_iff hf, hlist]
  exact ⟨rfl, rfl⟩

theorem mem_fields_of_prompt {f : FormId} {s : GreeterUi}
    (hf : (s.form f).isSome) (hlist : s.isUserList f = false) :
    f ∈ (sync .userPromptUsername).fields s ∧
      f ∈ (sync .userPromptPassword).fields s := by
  rw [mem_fields_iff hf, mem_fields_iff hf, hlist]
  exact ⟨rfl, rfl⟩

/-- The password that a form edits. -/
def passwordProperty (f : FormId) (s : GreeterUi) : SyncedProperty :=
  if s.isUserList f then .userListPassword else .userPromptPassword

theorem touches_modifyForm {p : SyncedProperty} {change : Login → Login}
    (hshows : ∀ l, (change l).shows = l.shows)
    (h : ∀ p', p ≠ p' → ∀ l, p'.control.get (change l) = p'.control.get l)
    (f : FormId) (s : GreeterUi) : Touches p s (s.modifyForm f change) :=
  ⟨sameScreens_modifyForm hshows f s, fun p' hne =>
    same_modifyForm hshows fun l _ _ => h p' hne l⟩

theorem setCurrentIndex_touches {f : FormId} {s : GreeterUi}
    (hf : (s.form f).isSome) (v : Int) :
    Touches .userListIndex s (s.setCurrentIndex f v) := by
  rw [setCurrentIndex]
  split
  next hlist => exact touches_assignField (mem_fields_of_list hf hlist).1 v
  next =>
    refine touches_modifyForm ?_ ?_ f s
    · exact fun _ => rfl
    · intro p hne l
      cases p <;> first | rfl | exact absurd rfl hne

theorem setUserName_touches {f : FormId} {s : GreeterUi}
    (hf : (s.form f).isSome) (v : QString) :
    Touches .userPromptUsername s (s.setUserName f v) := by
  rw [setUserName]
  split
  next =>
    refine touches_modifyForm ?_ ?_ f s
    · exact fun _ => rfl
    · intro p hne l
      cases p <;> first | rfl | exact absurd rfl hne
  next hlist =>
    rw [Bool.not_eq_true] at hlist
    exact touches_assignField (mem_fields_of_prompt hf hlist).1 v

theorem setPassword_touches {f : FormId} {s : GreeterUi}
    (hf : (s.form f).isSome) (v : QString) :
    Touches (s.passwordProperty f) s (s.setPassword f v) := by
  rw [setPassword, passwordProperty]
  split
  next hlist => exact touches_assignField (mem_fields_of_list hf hlist).2 v
  next hlist =>
    rw [Bool.not_eq_true] at hlist
    exact touches_assignField (mem_fields_of_prompt hf hlist).2 v

theorem mem_fields_showPassword {f : FormId} {s : GreeterUi}
    (hf : (s.form f).isSome) : f ∈ (sync .showPassword).fields s :=
  (mem_fields_iff hf).2 rfl

theorem setShowPassword_touches {f : FormId} {s : GreeterUi}
    (hf : (s.form f).isSome) (v : Bool) :
    Touches .showPassword s (s.setShowPassword f v) :=
  touches_assignField (mem_fields_showPassword hf) v

/-- The control of a form gets the value that is shared already. -/
structure Copies (p : SyncedProperty) (f : FormId) (s t : GreeterUi) :
    Prop where
  touches : Touches p s t
  shared : (sync p).shared t = (sync p).shared s
  agrees : (sync p).AgreesBut f s → (sync p).Agrees t

theorem copies_assignField {p : SyncedProperty} {f : FormId} {s : GreeterUi}
    (hf : f ∈ (sync p).fields s) :
    Copies p f s ((sync p).assignField f ((sync p).shared s) s) :=
  ⟨touches_assignField hf _,
    Mirror.shared_assignField (sync_lawful p) hf fun _ => rfl,
    fun h => h.assignField (sync_lawful p) hf fun _ => rfl⟩

theorem Copies.shared_eq {p : SyncedProperty} {f : FormId} {s t : GreeterUi}
    (h : Copies p f s t) (q : SyncedProperty) :
    (sync q).shared t = (sync q).shared s := by
  by_cases hne : p = q
  · exact hne ▸ h.shared
  · exact (h.touches.others q hne).shared

theorem Copies.keeps {p : SyncedProperty} {f : FormId} {s t : GreeterUi}
    (h : Copies p f s t) {q : SyncedProperty} (hq : (sync q).Agrees s) :
    (sync q).Agrees t := by
  apply h.touches.agrees _ hq
  rintro rfl hp
  exact h.agrees (hp.but f)

theorem Copies.keepsBut {p : SyncedProperty} {f : FormId} {s t : GreeterUi}
    (h : Copies p f s t) {q : SyncedProperty}
    (hq : (sync q).AgreesBut f s) : (sync q).AgreesBut f t := by
  apply h.touches.agreesBut _ hq
  rintro rfl
  exact h.agrees

theorem setPassword_of_list {f : FormId} {s : GreeterUi}
    (h : s.isUserList f = true) (v : QString) :
    s.setPassword f v = (sync .userListPassword).assignField f v s :=
  if_pos h

theorem setPassword_of_prompt {f : FormId} {s : GreeterUi}
    (h : s.isUserList f = false) (v : QString) :
    s.setPassword f v = (sync .userPromptPassword).assignField f v s :=
  if_neg (by rw [h]; exact Bool.false_ne_true)

/-- The user name of a prompt is the saved one once it is complete. -/
def nameCompleted (f : FormId) (s : GreeterUi) : GreeterUi :=
  (sync .userPromptUsername).assignField f s.config.lastLoggedInUser s

theorem onCompleted_of_list {f : FormId} {s : GreeterUi}
    (hf : (s.form f).isSome) (hlist : s.isUserList f = true) :
    ∃ t u, Copies .userListIndex f s t ∧ Copies .userListPassword f t u ∧
      Copies .showPassword f u (s.onCompleted f) := by
  have hindex : Copies .userListIndex f s
      (s.setCurrentIndex f s.userListIndex) := by
    rw [setCurrentIndex, if_pos hlist]
    exact copies_assignField (mem_fields_of_list hf hlist).1
  have ht := hindex.touches.screens
  have hft := (ht.isSome f).trans hf
  have hlist' := (ht.isUserList f).trans hlist
  have hpassword := copies_assignField (mem_fields_of_list hft hlist').2
  have hfu := (hpassword.touches.screens.isSome f).trans hft
  refine ⟨_, _, hindex, hpassword, ?_⟩
  rw [onCompleted, if_pos hlist, setPassword_of_list hlist']
  exact copies_assignField (mem_fields_showPassword hfu)

theorem nameCompleted_touches {f : FormId} {s : GreeterUi}
    (hf : (s.form f).isSome) (hlist : s.isUserList f = false) :
    Touches .userPromptUsername s (s.nameCompleted f) :=
  touches_assignField (mem_fields_of_prompt hf hlist).1 _

theorem onCompleted_of_prompt {f : FormId} {s : GreeterUi}
    (hf : (s.form f).isSome) (hlist : s.isUserList f = false) :
    ∃ u, Copies .userPromptPassword f (s.nameCompleted f) u ∧
      Copies .showPassword f u (s.onCompleted f) := by
  have hname : s.setUserName f s.config.lastLoggedInUser =
      s.nameCompleted f := by
    rw [setUserName, if_neg (by rw [hlist]; exact Bool.false_ne_true),
      nameCompleted]
  have ht := (nameCompleted_touches hf hlist).screens
  have hft := (ht.isSome f).trans hf
  have hlist' := (ht.isUserList f).trans hlist
  have hpassword := copies_assignField (mem_fields_of_prompt hft hlist').2
  have hfu := (hpassword.touches.screens.isSome f).trans hft
  refine ⟨_, hpassword, ?_⟩
  rw [onCompleted, if_neg (by rw [hlist]; exact Bool.false_ne_true), hname,
    setPassword_of_prompt hlist']
  exact copies_assignField (mem_fields_showPassword hfu)

theorem onCompleted_sameScreens {f : FormId} {s : GreeterUi}
    (hf : (s.form f).isSome) : SameScreens s (s.onCompleted f) := by
  cases hlist : s.isUserList f with
  | true =>
      obtain ⟨t, u, hindex, hpassword, hshow⟩ := onCompleted_of_list hf hlist
      exact hindex.touches.screens.trans
        (hpassword.touches.screens.trans hshow.touches.screens)
  | false =>
      obtain ⟨u, hpassword, hshow⟩ := onCompleted_of_prompt hf hlist
      exact (nameCompleted_touches hf hlist).screens.trans
        (hpassword.touches.screens.trans hshow.touches.screens)

/-- A new form changes nothing that is shared but the user name. -/
theorem onCompleted_shared {f : FormId} {s : GreeterUi}
    (hf : (s.form f).isSome) {p : SyncedProperty}
    (hp : p = .userPromptUsername → s.isUserList f = true) :
    (sync p).shared (s.onCompleted f) = (sync p).shared s := by
  cases hlist : s.isUserList f with
  | true =>
      obtain ⟨t, u, hindex, hpassword, hshow⟩ := onCompleted_of_list hf hlist
      rw [hshow.shared_eq, hpassword.shared_eq, hindex.shared_eq]
  | false =>
      obtain ⟨u, hpassword, hshow⟩ := onCompleted_of_prompt hf hlist
      have hne : .userPromptUsername ≠ p := fun heq => by
        rw [hp heq.symm] at hlist
        exact Bool.noConfusion hlist
      rw [hshow.shared_eq, hpassword.shared_eq]
      exact ((nameCompleted_touches hf hlist).others p hne).shared

theorem onCompleted_username {f : FormId} {s : GreeterUi}
    (hf : (s.form f).isSome) (hlist : s.isUserList f = false) :
    (s.onCompleted f).userPromptUsername =
      (s.nameCompleted f).userPromptUsername := by
  obtain ⟨u, hpassword, hshow⟩ := onCompleted_of_prompt hf hlist
  exact (hshow.shared_eq .userPromptUsername).trans
    (hpassword.shared_eq .userPromptUsername)

/-- The saved user name makes no difference to a form that has it. -/
theorem onCompleted_same {f : FormId} {s : GreeterUi}
    (hf : (s.form f).isSome) (hlist : s.isUserList f = false)
    (hfield : (sync .userPromptUsername).field f s =
      s.config.lastLoggedInUser) :
    (sync .userPromptUsername).Same s (s.onCompleted f) := by
  obtain ⟨u, hpassword, hshow⟩ := onCompleted_of_prompt hf hlist
  rw [nameCompleted, Mirror.assignField_of_eq hfield] at hpassword
  have hsame : (sync .userPromptUsername).Same s u :=
    hpassword.touches.others _ fun h => nomatch h
  exact hsame.trans (hshow.touches.others _ fun h => nomatch h)

theorem agrees_of_guard {p : SyncedProperty} {f : FormId} {s : GreeterUi}
    (hf : (s.form f).isSome) (h : (sync p).AgreesBut f s)
    (hguard : p.guard (s.isUserList f) = false) : (sync p).Agrees s := by
  apply h.agrees
  rw [mem_fields_iff hf, hguard]
  exact Bool.false_ne_true

/-- A new form agrees with what is shared and lets the others agree, unless
the saved user name is not new to it and not the shared one. -/
theorem onCompleted_agrees {f : FormId} {s : GreeterUi}
    (hf : (s.form f).isSome) {p : SyncedProperty}
    (h : (sync p).AgreesBut f s)
    (hp : p = .userPromptUsername → s.isUserList f = false →
      (sync .userPromptUsername).field f s = s.config.lastLoggedInUser →
        s.userPromptUsername = s.config.lastLoggedInUser) :
    (sync p).Agrees (s.onCompleted f) := by
  cases hlist : s.isUserList f with
  | true =>
      obtain ⟨t, u, hindex, hpassword, hshow⟩ := onCompleted_of_list hf hlist
      cases p with
      | userListIndex => exact hshow.keeps (hpassword.keeps (hindex.agrees h))
      | userListPassword =>
          exact hshow.keeps (hpassword.agrees (hindex.keepsBut h))
      | userPromptUsername =>
          have hagrees := agrees_of_guard hf h (by rw [hlist]; rfl)
          exact hshow.keeps (hpassword.keeps (hindex.keeps hagrees))
      | userPromptPassword =>
          have hagrees := agrees_of_guard hf h (by rw [hlist]; rfl)
          exact hshow.keeps (hpassword.keeps (hindex.keeps hagrees))
      | showPassword =>
          exact hshow.agrees (hpassword.keepsBut (hindex.keepsBut h))
  | false =>
      obtain ⟨u, hpassword, hshow⟩ := onCompleted_of_prompt hf hlist
      have htouches := nameCompleted_touches hf hlist
      cases p with
      | userListIndex =>
          have hagrees := agrees_of_guard hf h (by rw [hlist]; rfl)
          exact hshow.keeps (hpassword.keeps
            (htouches.agrees (fun heq => nomatch heq) hagrees))
      | userListPassword =>
          have hagrees := agrees_of_guard hf h (by rw [hlist]; rfl)
          exact hshow.keeps (hpassword.keeps
            (htouches.agrees (fun heq => nomatch heq) hagrees))
      | userPromptUsername =>
          have hmem := (mem_fields_of_prompt hf hlist).1
          have hname := h.assignField (sync_lawful _) hmem (hp rfl hlist)
          exact hshow.keeps (hpassword.keeps hname)
      | userPromptPassword =>
          exact hshow.keeps (hpassword.agrees
            (htouches.agreesBut (fun heq => nomatch heq) h))
      | showPassword =>
          exact hshow.agrees (hpassword.keepsBut
            (htouches.agreesBut (fun heq => nomatch heq) h))

theorem agrees_iff {p : SyncedProperty} {s : GreeterUi} :
    (sync p).Agrees s ↔ ∀ f l, s.form f = some l →
      p.guard l.isUserList = true → p.control.get l = p.shared.get s := by
  constructor
  · intro h f l hl hguard
    rw [← field_of_form p hl]
    exact h f (mem_fields.2 ⟨l, hl, hguard⟩)
  · intro h f hf
    obtain ⟨l, hl, hguard⟩ := mem_fields.1 hf
    rw [field_of_form p hl]
    exact h f l hl hguard

/-- Fewer forms, in other places. -/
theorem agrees_of_forms {p : SyncedProperty} {s t : GreeterUi}
    (h : (sync p).Agrees s) (hshared : (sync p).shared t = (sync p).shared s)
    (hforms : ∀ f l, t.form f = some l → ∃ g, s.form g = some l) :
    (sync p).Agrees t := by
  rw [agrees_iff] at h ⊢
  intro f l hl hguard
  obtain ⟨g, hg⟩ := hforms f l hl
  exact (h g l hg hguard).trans hshared.symm

/-- One more form. -/
theorem agreesBut_of_forms {p : SyncedProperty} {f : FormId} {s t : GreeterUi}
    (h : (sync p).Agrees s) (hshared : (sync p).shared t = (sync p).shared s)
    (hforms : ∀ g l, g ≠ f → t.form g = some l → s.form g = some l) :
    (sync p).AgreesBut f t := by
  intro g hg hne
  obtain ⟨l, hl, hguard⟩ := mem_fields.1 hg
  rw [field_of_form p hl, hshared]
  exact agrees_iff.1 h g l (hforms g l hne hl) hguard

end GreeterUi

end PlasmaLogin
