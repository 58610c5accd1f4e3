/-
`syncDBusEnvironment`, with which a starting greeter session updates the
environment of the systemd manager of its user.  The manager keeps what was
set over the bus until somebody changes it, on top of what its own
configuration gives it; the manager and the job that updates it are known by
what they are documented to do only.
-/
import PlasmaLogin.EnvironmentReaders

namespace PlasmaLogin

/-- `isShellVariable`. -/
def isShellVariable (name : QString) : Bool :=
  name = ("_" : QString) || name = ("SHELL" : QString) ||
    ("SHLVL" : QString).isPrefixOf name

/-- `isConfinementVariable`. -/
def isConfinementVariable (name : QString) : Bool :=
  name = ("SNAP" : QString) || ("SNAP_" : QString).isPrefixOf name

/-- `isSessionVariable`. -/
def isSessionVariable (name : QString) : Bool :=
  name = ("DISPLAY" : QString) || name = ("XAUTHORITY" : QString) ||
    name = ("WAYLAND_DISPLAY" : QString) ||
      name = ("WAYLAND_SOCKET" : QString) || ("XDG_" : QString).isPrefixOf name

namespace QProcessEnvironment

/-- `QProcessEnvironment::remove`, once for each of the names. -/
def removeAll (env : QProcessEnvironment) (names : List QString) :
    QProcessEnvironment :=
  names.foldl (fun env name => AList.erase name env) env

end QProcessEnvironment

/-- The variables of `dropSessionVarsFromSystemdEnvironment`. -/
def varsToDrop (process environment : QProcessEnvironment) : List QString :=
  environment.keys.filter fun name =>
    !decide (name ∈ process) && isSessionVariable name

/-- The environment the update is made for. -/
def launchEnvironment (process : QProcessEnvironment) : QProcessEnvironment :=
  process.removeAll (process.keys.filter fun name =>
    isShellVariable name || isConfinementVariable name)

/-- What `syncDBusEnvironment` calls: systemd's manager, which is asked for its
environment and told to forget variables, and `KUpdateLaunchEnvironmentJob`. -/
structure LaunchServices (S : Type) where
  getEnvironment : S → DBusReply
  unsetEnvironment : List QString → S → S
  updateLaunchEnvironment : QProcessEnvironment → S → S

/-- The variables of the manager that were set over the bus, and those of its
own configuration. -/
structure ManagerView (S : Type) where
  client : S → QProcessEnvironment
  own : S → QProcessEnvironment

/-- What programs are started with: what was set over the bus goes first. -/
def ManagerView.environment {S : Type} (view : ManagerView S) (s : S) :
    QProcessEnvironment :=
  (view.own s).insertAll (view.client s)

/-- A name that systemd takes. -/
def IsVariableName (name : QString) : Prop := name ≠ [] ∧ 61 ∉ name

instance (name : QString) : Decidable (IsVariableName name) :=
  inferInstanceAs (Decidable (name ≠ [] ∧ 61 ∉ name))

/-- Every name is one that systemd takes. -/
def NamesValid (env : QProcessEnvironment) : Prop :=
  ∀ name ∈ env, IsVariableName name

namespace LaunchServices

variable {S : Type} (services : LaunchServices S)

def dropSessionVarsFromSystemdEnvironment (process : QProcessEnvironment)
    (s : S) : S :=
  match getSystemdEnvironment (services.getEnvironment s) with
  | none => s
  | some environment =>
      services.unsetEnvironment (varsToDrop process environment) s

def syncDBusEnvironment (process : QProcessEnvironment) (s : S) : S :=
  services.updateLaunchEnvironment (launchEnvironment process)
    (services.dropSessionVarsFromSystemdEnvironment process s)

/-- The services do what they are documented to do when no call fails.  The
manager answers with all its variables, forgets only what was set over the
bus, and takes what the job passes on: the variables whose name and value the
job takes to be fit for that. -/
structure Documented (view : ManagerView S)
    (accepts : QString → QString → Bool) : Prop where
  names : ∀ s, NamesValid (view.environment s)
  get : ∀ s, services.getEnvironment s =
    .message [.variant (.stringList (view.environment s).toStringList)]
  own_unset : ∀ names s, view.own (services.unsetEnvironment names s) =
    view.own s
  client_unset : ∀ names s name,
    (view.client (services.unsetEnvironment names s)).lookup name =
      if name ∈ names then none else (view.client s).lookup name
  own_update : ∀ env s, view.own (services.updateLaunchEnvironment env s) =
    view.own s
  client_update : ∀ env s name,
    (view.client (services.updateLaunchEnvironment env s)).lookup name =
      ((env.lookup name).filter (accepts name)).or
        ((view.client s).lookup name)

end LaunchServices

section lookups

variable {env process : QProcessEnvironment} {name : QString}

theorem mem_iff_lookup : name ∈ env ↔ ∃ value, env.lookup name = some value := by
  rw [← AList.lookup_isSome, Option.isSome_iff_exists]

theorem lookup_removeAll (env : QProcessEnvironment) (names : List QString)
    (name : QString) : (env.removeAll names).lookup name =
      if name ∈ names then none else env.lookup name := by
  induction names generalizing env with
  | nil => rw [if_neg List.not_mem_nil]; rfl
  | cons first names ih =>
      have hrest := ih (AList.erase first env)
      rw [QProcessEnvironment.removeAll, List.foldl_cons]
      by_cases hname : name = first
      · subst hname
        rw [if_pos List.mem_cons_self]
        rw [AList.lookup_erase, ite_self] at hrest
        exact hrest
      · rw [AList.lookup_erase_ne hname] at hrest
        simp only [List.mem_cons, hname, false_or]
        exact hrest

theorem lookup_insertAll (env other : QProcessEnvironment) (name : QString) :
    (env.insertAll other).lookup name =
      (other.lookup name).or (env.lookup name) := by
  by_cases hmem : name ∈ other
  · obtain ⟨value, hvalue⟩ := mem_iff_lookup.1 hmem
    rw [QProcessEnvironment.insertAll, AList.lookup_union_left hmem, hvalue]
    rfl
  · rw [QProcessEnvironment.insertAll, AList.lookup_union_right hmem,
      AList.lookup_eq_none.2 hmem, Option.none_or]

/-- What is sent as a text is taken from it again. -/
theorem insertAssignment_entry {v : Sigma fun _ : QString => QString}
    (h : IsVariableName v.1) (env : QProcessEnvironment) :
    insertAssignment env (QProcessEnvironment.entry v) =
      env.insertEntry (QProcessEnvironment.entry v) := by
  have hposition : 0 < (QProcessEnvironment.entry v).indexOf 61 := by
    have hlength := List.length_pos_iff.2 h.1
    rw [QProcessEnvironment.entry, QString.indexOf, if_pos (by simp),
      List.idxOf_append_of_notMem h.2, List.idxOf_cons_self]
    omega
  rw [insertAssignment, if_pos hposition]
  rfl

/-- All the variables there are come out of the manager's answer. -/
theorem getSystemdEnvironment_toStringList (h : NamesValid env) :
    ∃ environment, getSystemdEnvironment
        (.message [.variant (.stringList env.toStringList)]) =
      some environment ∧ QProcessEnvironment.Same environment env := by
  have hnames : ∀ v ∈ env.entries, IsVariableName v.1 := fun v hv =>
    h v.1 (List.mem_map_of_mem hv)
  have htexts : env.toStringList.foldl insertAssignment ∅ =
      env.toStringList.foldl QProcessEnvironment.insertEntry ∅ := by
    rw [QProcessEnvironment.toStringList, List.foldl_map, List.foldl_map]
    exact List.foldl_ext _ _ _ fun env v hv =>
      insertAssignment_entry (hnames v hv) env
  refine ⟨env.toStringList.foldl insertAssignment ∅, rfl, fun name => ?_⟩
  rw [htexts, QProcessEnvironment.toStringList,
    QProcessEnvironment.lookup_foldl_insertEntry env.nodupKeys
      fun v hv => (hnames v hv).2]
  exact Option.or_none ..

theorem lookup_launchEnvironment (process : QProcessEnvironment)
    (name : QString) : (launchEnvironment process).lookup name =
      if isShellVariable name || isConfinementVariable name then none
      else process.lookup name := by
  rw [launchEnvironment, lookup_removeAll]
  by_cases hmem : name ∈ process
  · simp only [List.mem_filter, ← AList.mem_keys, hmem, true_and]
  · rw [AList.lookup_eq_none.2 hmem, ite_self, ite_self]

/-- No variable of a session is kept back as one of a shell or a snap. -/
theorem lookup_launchEnvironment_of_session
    (hname : isSessionVariable name = true) (process : QProcessEnvironment) :
    (launchEnvironment process).lookup name = process.lookup name := by
  have hkept : (isShellVariable name || isConfinementVariable name) =
      false := by
    simp only [isSessionVariable, Bool.or_eq_true, decide_eq_true_eq] at hname
    rcases hname with (((rfl | rfl) | rfl) | rfl) | hxdg
    · decide
    · decide
    · decide
    · decide
    · obtain ⟨rest, rfl⟩ := List.isPrefixOf_iff_prefix.1 hxdg
      rfl
  rw [lookup_launchEnvironment, hkept]
  rfl

end lookups

namespace LaunchServices

variable {S : Type} {services : LaunchServices S} {view : ManagerView S}
  {accepts : QString → QString → Bool}

theorem lookup_environment (view : ManagerView S) (s : S) (name : QString) :
    (view.environment s).lookup name =
      ((view.client s).lookup name).or ((view.own s).lookup name) :=
  lookup_insertAll (view.own s) (view.client s) name

/-- The session's variables that the process does not have are forgotten, as
far as they were set over the bus. -/
theorem Documented.drop (h : services.Documented view accepts)
    (process : QProcessEnvironment) (s : S) {name : QString}
    (hname : isSessionVariable name = true) :
    view.own (services.dropSessionVarsFromSystemdEnvironment process s) =
        view.own s ∧
      (view.client (services.dropSessionVarsFromSystemdEnvironment process
        s)).lookup name =
          if name ∈ process then (view.client s).lookup name else none := by
  obtain ⟨environment, hreply, hsame⟩ :=
    getSystemdEnvironment_toStringList (h.names s)
  rw [dropSessionVarsFromSystemdEnvironment, h.get, hreply]
  refine ⟨h.own_unset _ _, ?_⟩
  simp only [h.client_unset, varsToDrop, List.mem_filter, hname,
    Bool.and_true, Bool.not_eq_true', decide_eq_false_iff_not]
  by_cases hmem : name ∈ process
  · rw [if_pos hmem, if_neg fun hdropped => hdropped.2 hmem]
  · rw [if_neg hmem]
    by_cases hthere : name ∈ environment.keys
    · rw [if_pos ⟨hthere, hmem⟩]
    · -- what the manager does not list was not set over the bus either
      have hnone : environment.lookup name = none :=
        AList.lookup_eq_none.2 fun hname => hthere (AList.mem_keys.1 hname)
      rw [hsame name, lookup_environment, Option.or_eq_none_iff] at hnone
      rw [if_neg fun hdropped => hthere hdropped.1, hnone.1]

end LaunchServices

/-- Whatever the manager's environment has come to be, a start of the greeter
whose calls succeed leaves a session variable with the value it has in the
starting process, unless the job refuses it; one the process does not have is
left to the manager's own configuration. -/
theorem syncDBusEnvironment_session {S : Type} {services : LaunchServices S}
    {view : ManagerView S} {accepts : QString → QString → Bool}
    (h : services.Documented view accepts) (process : QProcessEnvironment)
    (s : S) (name : QString) (hname : isSessionVariable name = true) :
    (view.environment (services.syncDBusEnvironment process s)).lookup name =
      (process.lookup name).elim ((view.own s).lookup name) fun value =>
        if accepts name value then some value
        else (view.environment s).lookup name := by
  obtain ⟨hown, hclient⟩ := h.drop process s hname
  rw [LaunchServices.lookup_environment, LaunchServices.syncDBusEnvironment,
    h.client_update, h.own_update, hown, hclient,
    lookup_launchEnvironment_of_session hname]
  cases hvalue : process.lookup name with
  | none =>
      rw [if_neg (AList.lookup_eq_none.1 hvalue)]
      rfl
  | some value =>
      rw [if_pos (mem_iff_lookup.2 ⟨value, hvalue⟩), Option.elim_some,
        LaunchServices.lookup_environment, Option.filter_some]
      cases accepts name value <;> rfl

/-- Names of letters, digits and underscores, and values without control
characters, as far as ASCII goes. -/
def portable (name value : QString) : Bool :=
  name.head?.any (fun c => c = 95 || 65 ≤ c && c ≤ 90 || 97 ≤ c && c ≤ 122) &&
    name.all (fun c => c = 95 || 48 ≤ c && c ≤ 57 || 65 ≤ c && c ≤ 90 ||
      97 ≤ c && c ≤ 122) && value.all fun c => c = 9 || c = 10 || 32 ≤ c

theorem isVariableName_of_portable (name value : QString)
    (h : portable name value = true) : IsVariableName name := by
  rw [portable, Bool.and_eq_true, Bool.and_eq_true, List.all_eq_true] at h
  obtain ⟨⟨hhead, hall⟩, _⟩ := h
  constructor
  · rintro rfl
    cases hhead
  · exact fun hmem => absurd (hall 61 hmem) (by decide)

/-- A manager with names it takes. -/
structure SystemdManager where
  client : QProcessEnvironment
  own : QProcessEnvironment
  namesValid : NamesValid (own.insertAll client)

namespace SystemdManager

def view : ManagerView SystemdManager := ⟨client, own⟩

/-- The manager with other variables set over the bus. -/
def withClient (m : SystemdManager) (client : QProcessEnvironment)
    (h : ∀ name ∈ client, IsVariableName name) : SystemdManager where
  client := client
  own := m.own
  namesValid name hmem := by
    obtain ⟨value, hvalue⟩ := mem_iff_lookup.1 hmem
    rw [lookup_insertAll, Option.or_eq_some_iff] at hvalue
    rcases hvalue with hclient | ⟨_, hown⟩
    · exact h name (mem_iff_lookup.2 ⟨value, hclient⟩)
    · apply m.namesValid name
      rw [mem_iff_lookup, lookup_insertAll, hown]
      cases m.client.lookup name with
      | none => exact ⟨value, rfl⟩
      | some value => exact ⟨value, rfl⟩

theorem isVariableName_of_mem (m : SystemdManager) {name : QString}
    (h : name ∈ m.client) : IsVariableName name := by
  obtain ⟨value, hvalue⟩ := mem_iff_lookup.1 h
  apply m.namesValid name
  rw [mem_iff_lookup, lookup_insertAll, hvalue]
  exact ⟨value, rfl⟩

end SystemdManager

/-- What the job passes on of an environment. -/
def portableVariables (env : QProcessEnvironment) : QProcessEnvironment :=
  env.removeAll (env.keys.filter fun name => !portable name (env.value name))

theorem lookup_portableVariables (env : QProcessEnvironment) (name : QString) :
    (portableVariables env).lookup name =
      (env.lookup name).filter (portable name) := by
  rw [portableVariables, lookup_removeAll]
  cases hlookup : env.lookup name with
  | none => simp
  | some value =>
      have hmem : name ∈ env := mem_iff_lookup.2 ⟨value, hlookup⟩
      simp only [List.mem_filter, ← AList.mem_keys, hmem, true_and,
        QProcessEnvironment.value, hlookup, Option.getD_some,
        Option.filter_some]
      cases portable name value <;> rfl

/-- The services over such a manager. -/
def SystemdManager.services : LaunchServices SystemdManager where
  getEnvironment m :=
    .message [.variant (.stringList (view.environment m).toStringList)]
  unsetEnvironment names m := m.withClient (m.client.removeAll names)
    fun name hmem => by
      obtain ⟨value, hvalue⟩ := mem_iff_lookup.1 hmem
      rw [lookup_removeAll] at hvalue
      split at hvalue
      · cases hvalue
      · exact m.isVariableName_of_mem (mem_iff_lookup.2 ⟨value, hvalue⟩)
  updateLaunchEnvironment env m :=
    m.withClient (m.client.insertAll (portableVariables env))
      fun name hmem => by
        obtain ⟨value, hvalue⟩ := mem_iff_lookup.1 hmem
        rw [lookup_insertAll, lookup_portableVariables,
          Option.or_eq_some_iff] at hvalue
        rcases hvalue with hpassed | ⟨_, hclient⟩
        · exact isVariableName_of_portable name value
            (Option.filter_eq_some_iff.1 hpassed).2
        · exact m.isVariableName_of_mem (mem_iff_lookup.2 ⟨value, hclient⟩)

theorem SystemdManager.documented :
    services.Documented view portable where
  names := SystemdManager.namesValid
  get _ := rfl
  own_unset _ _ := rfl
  client_unset _ _ _ := lookup_removeAll _ _ _
  own_update _ _ := rfl
  client_update env _ name :=
    (lookup_insertAll _ _ name).trans
      (congrArg (Option.or · _) (lookup_portableVariables env name))

/-- What an X11 session has left, over what the configuration has. -/
def leftBehind : SystemdManager where
  client := QProcessEnvironment.insert ∅ "DISPLAY" ":0"
  own := QProcessEnvironment.insert ∅ "XDG_DATA_DIRS" "/usr/share"
  namesValid := show ∀ name ∈ (QProcessEnvironment.insertAll _ _).keys, _ by
    decide

/-- The environment of a greeter's session on Wayland. -/
def greeterProcess : QProcessEnvironment :=
  QProcessEnvironment.insert (QProcessEnvironment.insert ∅
    "XDG_SESSION_TYPE" "wayland") "SHELL" "/bin/sh"

/-- The old display is forgotten, the directories of the configuration are
not. -/
theorem syncDBusEnvironment_session_leftBehind :
    let after := SystemdManager.view.environment
      (SystemdManager.services.syncDBusEnvironment greeterProcess leftBehind)
    after.lookup ("DISPLAY" : QString) = none ∧
      after.lookup ("XDG_SESSION_TYPE" : QString) = some "wayland" ∧
      after.lookup ("XDG_DATA_DIRS" : QString) = some "/usr/share" :=
  ⟨(syncDBusEnvironment_session SystemdManager.documented greeterProcess
      leftBehind "DISPLAY" (by decide)).trans (by decide),
    (syncDBusEnvironment_session SystemdManager.documented greeterProcess
      leftBehind "XDG_SESSION_TYPE" (by decide)).trans (by decide),
    (syncDBusEnvironment_session SystemdManager.documented greeterProcess
      leftBehind "XDG_DATA_DIRS" (by decide)).trans (by decide)⟩

end PlasmaLogin
