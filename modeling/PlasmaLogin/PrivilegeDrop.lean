/-
What a session program is executed with: in every run of the child that
returns, the credentials are the user's, unless groups were lost on the way.
-/
import PlasmaLogin.ChildModifier

namespace PlasmaLogin

open Calls

/-- The calls that change credentials, with whether they succeeded, and those
that create a file or a directory of the session log. -/
inductive DropCall where
  | setgid (gid : UInt32) (done : Bool)
  | setgroups (groups : List UInt32) (done : Bool)
  | setuid (uid : UInt32) (done : Bool)
  | create
deriving DecidableEq

namespace DropCall

def ofEvent : Event ChildCall.Answer → Option DropCall
  | ⟨.setgid gid, result⟩ => some (.setgid gid (result = 0))
  | ⟨.setgroups groups, result⟩ => some (.setgroups groups (result = 0))
  | ⟨.setuid uid, result⟩ => some (.setuid uid (result = 0))
  | ⟨.mkpath _, _⟩ | ⟨.openLog _, _⟩ => some .create
  | _ => none

def failed : DropCall → Bool
  | .setgid _ done | .setgroups _ done | .setuid _ done => !done
  | .create => false

end DropCall

/-- The credential calls and the created files of a run, in order. -/
def drops (t : ChildTrace) : List DropCall := t.filterMap DropCall.ofEvent

/-- The groups the process starts with and those of its user; the system
counts either in an `int`. -/
structure ProcessGroups where
  ambient : List UInt32
  user : List UInt32
  ambient_lt : ambient.length < 2 ^ 31
  user_lt : user.length < 2 ^ 31

/-- How getgroups(2) and getgrouplist(3) may answer.  A list of the user's
groups fits the array and has the primary group. -/
def ProcessGroups.Answered (groups : ProcessGroups) :
    Event ChildCall.Answer → Prop
  | ⟨.countGroups, count⟩ => count = -1 ∨ count = groups.ambient.length
  | ⟨.getgroups _, list⟩ => list = none ∨ list = some groups.ambient
  | ⟨.getgrouplist _ gid capacity, .groups list⟩ =>
      list = groups.user ∧ gid ∈ list ∧ (list.length : Int) ≤ capacity
  | _ => True

/-- The credentials are those of the passwd entry of the user, with all
groups, and they were changed while the child could still do so; no log was
created before. -/
def Dropped (user : QString) (groups : ProcessGroups) (t : ChildTrace) :
    Prop :=
  ∃ pw files, ⟨.getpwnam user, some pw⟩ ∈ t ∧
    drops t = [.setgid pw.gid true,
      .setgroups (groups.ambient ++ groups.user) true,
      .setuid pw.uid true] ++ files ∧
    ∀ c ∈ files, c = .create

/-- The system does not say how many ambient groups there are. -/
def Uncounted (t : ChildTrace) : Prop := ⟨.countGroups, (-1 : Int)⟩ ∈ t

/-- The count of the ambient groups does not fail where there are any, and an
`int` counts all groups. -/
def GroupsCounted (groups : ProcessGroups) (t : ChildTrace) : Prop :=
  (Uncounted t → groups.ambient = []) ∧
    groups.ambient.length + groups.user.length < 2 ^ 31

/-- A call that has no part in the credentials. -/
def ChildCall.quiet : ChildCall → Bool
  | .setgid _ | .setgroups _ | .setuid _ | .mkpath _ | .openLog _
  | .countGroups => false
  | _ => true

@[simp] theorem drops_append (t₁ t₂ : ChildTrace) :
    drops (t₁ ++ t₂) = drops t₁ ++ drops t₂ :=
  List.filterMap_append

@[simp] theorem uncounted_nil : ¬ Uncounted [] := List.not_mem_nil

@[simp] theorem uncounted_append {t₁ t₂ : ChildTrace} :
    Uncounted (t₁ ++ t₂) ↔ Uncounted t₁ ∨ Uncounted t₂ :=
  List.mem_append

/-- A quiet part of the child. -/
theorem drops_of_only {A : Type} {p : ChildProgram A} {t : ChildTrace}
    {o : Except HelperExitStatus A} (hrun : Run p t o)
    (h : p.Only fun op => op.quiet = true) :
    drops t = [] ∧ ¬ Uncounted t := by
  have hquiet := h.run hrun
  constructor
  · apply List.filterMap_eq_nil_iff.2
    intro ev hev
    obtain ⟨op, result⟩ := ev
    have hop := hquiet _ hev
    cases op <;> first | rfl | cases hop
  · intro hcount
    cases hquiet _ hcount

namespace UserSession

open Program

theorem only_replaceStream (fd target : Int) :
    (replaceStream fd target).Only fun op => op.quiet = true :=
  only_bind (only_perform rfl) fun _ => only_perform rfl

theorem only_openInput (vtNumber : Int32) :
    (openInput vtNumber).Only fun op => op.quiet = true := by
  refine only_bind (only_perform rfl) fun vtFd => ?_
  split
  · exact only_bind (only_replaceStream _ _) fun _ => trivial
  · exact only_bind (only_perform rfl) fun _ =>
      only_bind (only_replaceStream _ _) fun _ => trivial

theorem only_leadSession (takeControl : Bool) :
    (leadSession takeControl).Only fun op => op.quiet = true := by
  refine only_bind (only_perform rfl) fun pid => ?_
  refine only_bind only_require fun _ => ?_
  split
  · exact only_bind (only_perform rfl) fun _ => only_require
  · trivial

theorem only_enterNamespace (ns : QString) :
    (enterNamespace ns).Only fun op => op.quiet = true := by
  refine only_bind (only_perform rfl) fun fd => ?_
  refine only_bind only_require fun _ => ?_
  refine only_bind (only_perform rfl) fun result => ?_
  exact only_bind only_require fun _ => only_perform rfl

theorem only_jumpToVt (vtNumber : Int32) (x11Session : Bool) :
    (jumpToVt vtNumber x11Session).Only fun op => op.quiet = true := by
  unfold jumpToVt
  split
  · exact only_perform rfl
  · trivial

/-- Whatever the namespaces are, nothing is dropped before the switch of the
user. -/
theorem only_prepare (s : ChildSetup) :
    (prepare s).Only fun op => op.quiet = true := by
  unfold prepare
  generalize QString.toInt _ = vtNumber
  refine only_bind (only_openInput _) fun takeControl => ?_
  refine only_bind (only_leadSession _) fun _ => ?_
  refine only_bind (only_jumpToVt _ _) fun _ => ?_
  exact only_each only_enterNamespace _

theorem only_lookUpUser (user : QString) :
    (lookUpUser user).Only fun op => op.quiet = true := by
  refine only_bind (only_perform rfl) fun bufsize => ?_
  refine only_bind (only_perform rfl) fun allocated => ?_
  refine only_bind only_require fun _ => ?_
  refine only_bind (only_perform rfl) fun rpw => ?_
  cases rpw <;> trivial

theorem only_userGroups (pw : Passwd) :
    (userGroups pw).Only fun op => op.quiet = true := by
  refine only_bind (only_perform rfl) fun count => ?_
  cases count with
  | groups l => trivial
  | tooSmall n =>
      refine only_bind (only_perform rfl) fun list => ?_
      cases list <;> trivial

theorem only_enterHome (pw : Passwd) :
    (enterHome pw).Only fun op => op.quiet = true :=
  only_bind (only_perform rfl) fun _ => only_require

theorem only_redirect (fd target : Int) :
    (redirect fd target).Only fun op => op.quiet = true := by
  unfold redirect
  split
  · exact only_replaceStream _ _
  · trivial

theorem run_lookUpUser {user : QString} {t : ChildTrace} {pw : Passwd}
    (h : Run (lookUpUser user) t (.ok pw)) :
    ⟨.getpwnam user, some pw⟩ ∈ t := by
  obtain ⟨bufsize, t₁, rfl, h₁⟩ := run_call_bind_iff.1 h
  obtain ⟨allocated, t₂, rfl, h₂⟩ := run_call_bind_iff.1 h₁
  rcases run_require_bind_iff.1 h₂ with ⟨_, h₃⟩ | ⟨_, _, hexit⟩
  · obtain ⟨rpw, t₃, rfl, h₄⟩ := run_call_bind_iff.1 h₃
    cases rpw with
    | none => cases (run_exits_iff.1 h₄).2
    | some pw' =>
        obtain ⟨rfl, heq⟩ := run_returns_iff.1 h₄
        cases heq
        simp
  · cases hexit

theorem run_setGid {pw : Passwd} {t : ChildTrace} {u : PUnit}
    (h : Run (setGid pw) t (.ok u)) :
    drops t = [.setgid pw.gid true] ∧ ¬ Uncounted t := by
  obtain ⟨result, rfl, ⟨hdone, _⟩ | ⟨_, hexit⟩⟩ := run_call_require_iff.1 h
  · have hcall : drops [⟨.setgid pw.gid, result⟩] =
        [.setgid pw.gid (result = 0)] := rfl
    exact ⟨by rw [hcall, hdone], by simp [Uncounted]⟩
  · cases hexit

theorem run_setUid {pw : Passwd} {t : ChildTrace} {u : PUnit}
    (h : Run (setUid pw) t (.ok u)) :
    drops t = [.setuid pw.uid true] ∧ ¬ Uncounted t := by
  obtain ⟨result, rfl, ⟨hdone, _⟩ | ⟨_, hexit⟩⟩ := run_call_require_iff.1 h
  · have hcall : drops [⟨.setuid pw.uid, result⟩] =
        [.setuid pw.uid (result = 0)] := rfl
    exact ⟨by rw [hcall, hdone], by simp [Uncounted]⟩
  · cases hexit

/-- The ambient groups are lost exactly when they could not be counted. -/
theorem run_ambientGroups {groups : ProcessGroups} {t : ChildTrace}
    {l : List UInt32} (hlaw : ∀ ev ∈ t, groups.Answered ev)
    (h : Run ambientGroups t (.ok l)) :
    drops t = [] ∧ (Uncounted t → l = []) ∧
      (¬ Uncounted t → l = groups.ambient) := by
  obtain ⟨(count : Int), t', rfl, hnext⟩ := run_call_bind_iff.1 h
  rw [List.forall_mem_cons] at hlaw
  obtain ⟨hcount, hlaw⟩ := hlaw
  have hanswer : count = -1 ∨ count = (groups.ambient.length : Int) := hcount
  split at hnext
  next hpositive =>
    have hcounted : count ≠ -1 := by omega
    obtain ⟨list, t'', rfl, hlast⟩ := run_call_bind_iff.1 hnext
    have hlist : list = none ∨ list = some groups.ambient :=
      hlaw _ List.mem_cons_self
    rcases hlist with rfl | rfl
    · cases (run_exits_iff.1 hlast).2
    · obtain ⟨rfl, heq⟩ := run_returns_iff.1 hlast
      cases heq
      refine ⟨rfl, fun huncounted => ?_, fun _ => rfl⟩
      simp [Uncounted, hcounted.symm] at huncounted
  next hpositive =>
    obtain ⟨rfl, heq⟩ := run_returns_iff.1 hnext
    cases heq
    refine ⟨rfl, fun _ => rfl, fun hcounted => ?_⟩
    rcases hanswer with rfl | hlength
    · exact absurd List.mem_cons_self hcounted
    · have hnone : groups.ambient.length = 0 := by omega
      exact (List.length_eq_zero_iff.1 hnone).symm

/-- The user's groups are complete, and there are some. -/
theorem run_userGroups {groups : ProcessGroups} {pw : Passwd} {t : ChildTrace}
    {l : List UInt32} (hlaw : ∀ ev ∈ t, groups.Answered ev)
    (h : Run (userGroups pw) t (.ok l)) :
    l = groups.user ∧ pw.gid ∈ groups.user := by
  obtain ⟨count, t', rfl, hnext⟩ := run_call_bind_iff.1 h
  rw [List.forall_mem_cons] at hlaw
  cases count with
  | groups list =>
      have hlist : list = groups.user ∧ pw.gid ∈ list ∧
        (list.length : Int) ≤ 0 := hlaw.1
      obtain ⟨rfl, heq⟩ := run_returns_iff.1 hnext
      cases heq
      exact ⟨hlist.1, hlist.1 ▸ hlist.2.1⟩
  | tooSmall n =>
      obtain ⟨list, t'', rfl, hlast⟩ := run_call_bind_iff.1 hnext
      have hanswer := hlaw.2 _ List.mem_cons_self
      cases list with
      | groups list =>
          have hlist : list = groups.user ∧ pw.gid ∈ list ∧
            (list.length : Int) ≤ n := hanswer
          obtain ⟨rfl, heq⟩ := run_returns_iff.1 hlast
          cases heq
          exact ⟨hlist.1, hlist.1 ▸ hlist.2.1⟩
      | tooSmall n' => cases (run_exits_iff.1 hlast).2

/-- The sum of two counts is positive unless it overflows. -/
theorem count_pos_iff {m n : Nat} (hm : m < 2 ^ 31) (hn : n < 2 ^ 31) :
    0 < Int32.ofNat m + Int32.ofNat n ↔ 0 < m + n ∧ m + n < 2 ^ 31 := by
  rw [Int32.lt_iff_toInt_lt, Int32.toInt_add, Int32.toInt_ofNat_of_lt hm,
    Int32.toInt_ofNat_of_lt hn, Int.bmod_def]
  simp only [Int32.toInt_zero]
  split <;> omega

theorem run_setGroups {pamGroups groups : List UInt32} {t : ChildTrace}
    {u : PUnit} (hpam : pamGroups.length < 2 ^ 31)
    (hgroups : groups.length < 2 ^ 31) (hsome : groups ≠ [])
    (h : Run (setGroups pamGroups groups) t (.ok u)) :
    ¬ Uncounted t ∧
      (drops t = [.setgroups (pamGroups ++ groups) true] ∧
          pamGroups.length + groups.length < 2 ^ 31 ∨
        drops t = [] ∧ 2 ^ 31 ≤ pamGroups.length + groups.length) := by
  have hlength : 0 < groups.length := List.length_pos_iff.2 hsome
  unfold setGroups at h
  simp only at h
  split at h
  next hcount =>
    obtain ⟨result, rfl, ⟨hdone, _⟩ | ⟨_, hexit⟩⟩ := run_call_require_iff.1 h
    · have hcall : drops [⟨.setgroups (pamGroups ++ groups), result⟩] =
          [.setgroups (pamGroups ++ groups) (result = 0)] := rfl
      refine ⟨by simp [Uncounted], Or.inl ⟨by rw [hcall, hdone], ?_⟩⟩
      exact ((count_pos_iff hpam hgroups).1 hcount).2
    · cases hexit
  next hcount =>
    obtain ⟨rfl, _⟩ := run_returns_iff.1 h
    refine ⟨by simp [Uncounted], Or.inr ⟨rfl, ?_⟩⟩
    rw [count_pos_iff hpam hgroups] at hcount
    omega

/-- The switch of the user changes all three credentials in order, with the
groups it was told of; only an overflow of their number leaves one out. -/
theorem run_switchUser {groups : ProcessGroups} {user : QString}
    {t : ChildTrace} {pw : Passwd} (hlaw : ∀ ev ∈ t, groups.Answered ev)
    (h : Run (switchUser user) t (.ok pw)) :
    ⟨.getpwnam user, some pw⟩ ∈ t ∧
      ∃ pamGroups, (Uncounted t → pamGroups = []) ∧
        (¬ Uncounted t → pamGroups = groups.ambient) ∧
        (drops t = [.setgid pw.gid true,
              .setgroups (pamGroups ++ groups.user) true,
              .setuid pw.uid true] ∧
            pamGroups.length + groups.user.length < 2 ^ 31 ∨
          drops t = [.setgid pw.gid true, .setuid pw.uid true] ∧
            2 ^ 31 ≤ pamGroups.length + groups.user.length) := by
  obtain ⟨pw', t₁, r₁, h₁, hnext₁, rfl⟩ := run_bind_ok_iff.1 h
  obtain ⟨u₂, t₂, r₂, h₂, hnext₂, rfl⟩ := run_bind_ok_iff.1 hnext₁
  obtain ⟨pamGroups, t₃, r₃, h₃, hnext₃, rfl⟩ := run_bind_ok_iff.1 hnext₂
  obtain ⟨list, t₄, r₄, h₄, hnext₄, rfl⟩ := run_bind_ok_iff.1 hnext₃
  obtain ⟨u₅, t₅, t₆, h₅, hlast, rfl⟩ := run_bind_ok_iff.1 hnext₄
  obtain ⟨u₇, t₇, t₈, h₇, hreturn, rfl⟩ := run_bind_ok_iff.1 hlast
  obtain ⟨rfl, heq⟩ := run_returns_iff.1 hreturn
  cases heq
  simp only [List.forall_mem_append] at hlaw
  obtain ⟨hlist, hgid⟩ := run_userGroups hlaw.2.2.2.1 h₄
  subst hlist
  obtain ⟨hambient, hlost, hkept⟩ := run_ambientGroups hlaw.2.2.1 h₃
  have hquiet₁ := drops_of_only h₁ (only_lookUpUser user)
  have hquiet₄ := drops_of_only h₄ (only_userGroups pw)
  obtain ⟨hsetgid, hcounted₂⟩ := run_setGid h₂
  obtain ⟨hsetuid, hcounted₇⟩ := run_setUid h₇
  have hlength : pamGroups.length < 2 ^ 31 := by
    by_cases huncounted : Uncounted t₃
    · simp [hlost huncounted]
    · exact hkept huncounted ▸ groups.ambient_lt
  obtain ⟨hcounted₅, hset⟩ := run_setGroups hlength groups.user_lt
    (List.ne_nil_of_mem hgid) h₅
  have huncounted : Uncounted (t₁ ++ (t₂ ++ (t₃ ++ (t₄ ++
      (t₅ ++ (t₇ ++ [])))))) ↔ Uncounted t₃ := by
    simp [hquiet₁.2, hquiet₄.2, hcounted₂, hcounted₅, hcounted₇]
  refine ⟨List.mem_append_left _ (run_lookUpUser h₁), pamGroups, ?_, ?_, ?_⟩
  · rwa [huncounted]
  · rwa [huncounted]
  · simp only [drops_append, hquiet₁.1, hquiet₄.1, hambient, hsetgid, hsetuid]
    rcases hset with ⟨hset, hfits⟩ | ⟨hset, hmany⟩
    · exact Or.inl ⟨by rw [hset]; rfl, hfits⟩
    · exact Or.inr ⟨by rw [hset]; rfl, hmany⟩

/-- The log is all that is created. -/
theorem run_redirectOutput {log : SessionLog} {t : ChildTrace} {u : PUnit}
    (h : Run (redirectOutput log) t (.ok u)) :
    drops t = [.create, .create] ∧ ¬ Uncounted t := by
  obtain ⟨_, t₁, rfl, h₁⟩ := run_call_bind_iff.1 h
  obtain ⟨logFd, t₂, rfl, h₂⟩ := run_call_bind_iff.1 h₁
  obtain ⟨u₃, t₃, t₄, h₃, h₄, rfl⟩ := run_bind_ok_iff.1 h₂
  have hquiet₃ := drops_of_only h₃ (only_redirect _ _)
  have hquiet₄ := drops_of_only h₄
    (only_bind (only_perform rfl) fun _ => only_redirect _ _)
  have hcalls : drops (⟨.mkpath log, PUnit.unit⟩ :: ⟨.openLog log, logFd⟩ ::
      (t₃ ++ t₄)) = .create :: .create :: drops (t₃ ++ t₄) := rfl
  constructor
  · rw [hcalls, drops_append, hquiet₃.1, hquiet₄.1]
    rfl
  · have hrest : ¬ Uncounted (t₃ ++ t₄) := by
      rw [uncounted_append]
      exact not_or.2 ⟨hquiet₃.2, hquiet₄.2⟩
    simpa [Uncounted] using hrest

theorem run_enterSession {s : ChildSetup} {pw : Passwd} {t : ChildTrace}
    {u : PUnit} (h : Run (enterSession s pw) t (.ok u)) :
    (∀ c ∈ drops t, c = .create) ∧ ¬ Uncounted t := by
  obtain ⟨u₁, t₁, t₂, h₁, h₂, rfl⟩ := run_bind_ok_iff.1 h
  have hquiet := drops_of_only h₁ (only_enterHome pw)
  have hrest : (∀ c ∈ drops t₂, c = .create) ∧ ¬ Uncounted t₂ := by
    split at h₂
    · obtain ⟨hcalls, hcounted⟩ := run_redirectOutput h₂
      rw [hcalls]
      exact ⟨by simp, hcounted⟩
    · obtain ⟨rfl, _⟩ := run_returns_iff.1 h₂
      exact ⟨by simp [drops], uncounted_nil⟩
  rw [drops_append, hquiet.1, uncounted_append]
  exact ⟨hrest.1, not_or.2 ⟨hquiet.2, hrest.2⟩⟩

/-- A child that returns has switched the user, and created nothing before. -/
theorem run_childModifier {s : ChildSetup} {groups : ProcessGroups}
    {t : ChildTrace} {u : PUnit} (hlaw : ∀ ev ∈ t, groups.Answered ev)
    (h : Run (childModifier s) t (.ok u)) :
    ∃ pw pamGroups files, ⟨.getpwnam s.user, some pw⟩ ∈ t ∧
      (Uncounted t → pamGroups = []) ∧
      (¬ Uncounted t → pamGroups = groups.ambient) ∧
      (∀ c ∈ files, c = .create) ∧
      (drops t = [.setgid pw.gid true,
            .setgroups (pamGroups ++ groups.user) true,
            .setuid pw.uid true] ++ files ∧
          pamGroups.length + groups.user.length < 2 ^ 31 ∨
        drops t = [.setgid pw.gid true, .setuid pw.uid true] ++ files ∧
          2 ^ 31 ≤ pamGroups.length + groups.user.length) := by
  obtain ⟨u₁, t₁, t', h₁, hnext, rfl⟩ := run_bind_ok_iff.1 h
  obtain ⟨pw, t₂, t₃, h₂, hlast, rfl⟩ := run_bind_ok_iff.1 hnext
  simp only [List.forall_mem_append] at hlaw
  have hquiet := drops_of_only h₁ (only_prepare s)
  obtain ⟨hpasswd, pamGroups, hlost, hkept, hcalls⟩ :=
    run_switchUser hlaw.2.1 h₂
  obtain ⟨hfiles, hcounted⟩ := run_enterSession hlast
  have huncounted : Uncounted (t₁ ++ (t₂ ++ t₃)) ↔ Uncounted t₂ := by
    simp [hquiet.2, hcounted]
  refine ⟨pw, pamGroups, drops t₃, by simp [hpasswd], ?_, ?_, hfiles, ?_⟩
  · rwa [huncounted]
  · rwa [huncounted]
  · simp only [drops_append, hquiet.1, List.nil_append]
    refine hcalls.imp ?_ ?_
    · exact And.imp_left fun hcalls => by rw [hcalls]
    · exact And.imp_left fun hcalls => by rw [hcalls]

/-- Exactly the groups decide whether a child that returns is the user's:
those that are counted are kept. -/
theorem dropped_iff_groupsCounted {s : ChildSetup} {groups : ProcessGroups}
    {t : ChildTrace} {u : PUnit} (hlaw : ∀ ev ∈ t, groups.Answered ev)
    (h : Run (childModifier s) t (.ok u)) :
    Dropped s.user groups t ↔ GroupsCounted groups t := by
  obtain ⟨pw, pamGroups, files, hpasswd, hlost, hkept, hfiles, hcalls⟩ :=
    run_childModifier hlaw h
  constructor
  · rintro ⟨pw', files', _, hdrops, _⟩
    rcases hcalls with ⟨hcalls, hfits⟩ | ⟨hcalls, _⟩
    · rw [hcalls] at hdrops
      simp only [List.cons_append, List.cons.injEq,
        DropCall.setgroups.injEq] at hdrops
      have hambient : pamGroups = groups.ambient :=
        List.append_cancel_right hdrops.2.1.1
      subst hambient
      exact ⟨hlost, hfits⟩
    · rw [hcalls] at hdrops
      simp at hdrops
  · rintro ⟨hcounted, hfits⟩
    have hambient : pamGroups = groups.ambient := by
      by_cases huncounted : Uncounted t
      · rw [hlost huncounted, hcounted huncounted]
      · exact hkept huncounted
    subst hambient
    rcases hcalls with ⟨hcalls, _⟩ | ⟨_, hmany⟩
    · exact ⟨pw, files, hpasswd, hcalls, hfiles⟩
    · omega

/-- A child whose credential calls do not all succeed never returns. -/
theorem not_failed_of_run {s : ChildSetup} {groups : ProcessGroups}
    {t : ChildTrace} {u : PUnit} (hlaw : ∀ ev ∈ t, groups.Answered ev)
    (h : Run (childModifier s) t (.ok u)) :
    ∀ c ∈ drops t, c.failed = false := by
  obtain ⟨pw, pamGroups, files, _, _, _, hfiles, hcalls⟩ :=
    run_childModifier hlaw h
  have hdone : ∀ c ∈ files, c.failed = false := by
    intro c hc
    rw [hfiles c hc]
    rfl
  rcases hcalls with ⟨hcalls, _⟩ | ⟨hcalls, _⟩
  · rw [hcalls]
    simpa [DropCall.failed] using hdone
  · rw [hcalls]
    simpa [DropCall.failed] using hdone

/-- In every run of the child a credential call that fails ends the process,
and a child that returns has dropped its privileges exactly when no groups
were lost. -/
theorem childModifier_dropped_iff {s : ChildSetup} {groups : ProcessGroups}
    {t : ChildTrace} {o : Except HelperExitStatus PUnit}
    (h : Run (childModifier s) t o) (hlaw : ∀ ev ∈ t, groups.Answered ev) :
    ((∃ c ∈ drops t, c.failed = true) → ∃ e, o = .error e) ∧
      ∀ u, o = .ok u →
        (Dropped s.user groups t ↔ GroupsCounted groups t) := by
  cases o with
  | error e => exact ⟨fun _ => ⟨e, rfl⟩, fun _ hreturn => nomatch hreturn⟩
  | ok u =>
      refine ⟨?_, fun _ _ => dropped_iff_groupsCounted hlaw h⟩
      rintro ⟨c, hc, hfailed⟩
      cases (not_failed_of_run hlaw h c hc).symm.trans hfailed

/-- A system with a user of two groups and a process with an ambient one;
`count` is what it says about the number of that. -/
def answerGroups (count : Int) : (op : ChildCall) → op.Answer
  | .openTty _ | .openNull | .openNamespace _ | .openLog _ | .setsid
  | .takeControl => (4 : Int)
  | .setns _ | .setgid _ | .setgroups _ | .setuid _ | .chdir _ => (0 : Int)
  | .getpwSize => (1024 : Int)
  | .countGroups => count
  | .malloc _ => true
  | .getpwnam user => some ⟨user, 1000, 1000, "/home/alice", "/bin/bash"⟩
  | .getgroups _ => some [44]
  | .getgrouplist _ gid capacity =>
      if gid = 1000 ∧ 2 ≤ capacity then .groups [1000, 27] else .tooSmall 2
  | .dup2 _ _ | .close _ | .jumpToVt _ _ | .mkpath _ => ⟨⟩

def aliceGroups : ProcessGroups where
  ambient := [44]
  user := [1000, 27]
  ambient_lt := by decide
  user_lt := by decide

theorem answered_answerGroups {count : Int} (h : count = -1 ∨ count = 1) :
    ∀ op, aliceGroups.Answered ⟨op, answerGroups count op⟩ := by
  intro op
  cases op with
  | countGroups => exact h
  | getgroups n => exact Or.inr rfl
  | getgrouplist name gid capacity =>
      by_cases hfits : gid = 1000 ∧ 2 ≤ capacity
      · have hlist : answerGroups count (.getgrouplist name gid capacity) =
            GroupList.groups [1000, 27] := if_pos hfits
        rw [hlist, hfits.1]
        exact ⟨rfl, by decide, hfits.2⟩
      · have hlist : answerGroups count (.getgrouplist name gid capacity) =
            GroupList.tooSmall 2 := if_neg hfits
        rw [hlist]
        trivial
  | _ => trivial

/-- A session on the second terminal, in a network namespace. -/
def aliceSetup : ChildSetup where
  env := (∅ : QProcessEnvironment).insert "XDG_VTNR" "2"
  user := "alice"
  config := { namespaces := ["/run/netns/desktop"] }

theorem childModifier_dropped_alice :
    Dropped "alice" aliceGroups
      ((childModifier aliceSetup).exec (answerGroups 1)).2 := by
  have hanswered := exec_answered (answerGroups 1) (childModifier aliceSetup)
  have hlaw : ∀ ev ∈ ((childModifier aliceSetup).exec (answerGroups 1)).2,
      aliceGroups.Answered ev := by
    intro ev hev
    rw [hanswered ev hev]
    exact answered_answerGroups (Or.inr rfl) ev.op
  have hcounted : GroupsCounted aliceGroups
      ((childModifier aliceSetup).exec (answerGroups 1)).2 := by
    refine ⟨fun huncounted => ?_, by decide⟩
    cases hanswered _ huncounted
  exact ((childModifier_dropped_iff (run_exec _ _) hlaw).2 ⟨⟩ rfl).2 hcounted

/-- The ambient group cannot be counted: the session runs without it. -/
theorem childModifier_not_dropped :
    ∃ t, Run (childModifier aliceSetup) t (.ok ⟨⟩) ∧
      (∀ ev ∈ t, aliceGroups.Answered ev) ∧
      ¬ Dropped "alice" aliceGroups t := by
  refine ⟨_, run_exec (answerGroups (-1)) _, ?_, ?_⟩
  · intro ev hev
    rw [exec_answered _ _ ev hev]
    exact answered_answerGroups (Or.inl rfl) ev.op
  · have hdrops : drops
        ((childModifier aliceSetup).exec (answerGroups (-1))).2 =
        [.setgid 1000 true, .setgroups [1000, 27] true, .setuid 1000 true,
          .create, .create] := rfl
    rintro ⟨pw, files, _, hcalls, _⟩
    rw [hdrops] at hcalls
    simp [aliceGroups] at hcalls

end UserSession

end PlasmaLogin
