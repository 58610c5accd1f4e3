/-
`Auth::SocketServer`, where helpers and anybody else connect, with the live
`Auth` objects and their processes.  A greeting that carries an id makes its
connection the channel of the `Auth` with that id, whoever sent it and
whatever channel there was.
-/
import PlasmaLogin.Auth
import PlasmaLogin.AuthWire
import PlasmaLogin.Mealy

namespace PlasmaLogin

open Mealy

/-- A connection to the daemon's socket server for helpers. -/
abbrev ConnectionId := Nat

/-- A live `Auth` with the channel of its helper. -/
structure LiveAuth where
  auth : Auth
  socket : Option ConnectionId := none

structure AuthServer where
  helpers : AList (fun _ : Int64 => LiveAuth) := ∅
  lastId : Int64 := 1

/-- What the surroundings deliver: the life of an `Auth` and of its process,
connections with their first frames, and bytes to read on a channel. -/
inductive AuthServerEvent where
  | created
  | destroyed (id : Int64)
  | started (id : Int64)
  | exited (id : Int64)
  | newConnection (connection : ConnectionId) (payload : QByteArray)
  | dataPending (id : Int64)

/-- A frame of a connection is taken for one of the helper of an `Auth`. -/
structure FrameTaken where
  id : Int64
  connection : ConnectionId
deriving DecidableEq

namespace AuthServer

/-- The id a first frame announces in `handleNewConnection`. -/
def greeting (payload : QByteArray) : Option Int64 :=
  let m := Msg.read .unknown ⟨payload, .ok⟩
  let id := m.2.readInt64.1
  if m.1 = .hello ∧ id ≠ 0 then some id else none

/-- A change to one `Auth`, when it is alive. -/
def update (id : Int64) (f : LiveAuth → LiveAuth) (s : AuthServer) :
    AuthServer :=
  match s.helpers.lookup id with
  | some a => { s with helpers := s.helpers.insert id (f a) }
  | none => s

/-- `Auth::Private::Private`. -/
def create (s : AuthServer) : AuthServer where
  helpers := s.helpers.insert s.lastId { auth := { id := s.lastId } }
  lastId := s.lastId + 1

/-- `Auth::Private::~Private`. -/
def destroy (id : Int64) (s : AuthServer) : AuthServer :=
  { s with helpers := s.helpers.erase id }

/-- `Auth::Private::setSocket`. -/
def setSocket (connection : ConnectionId) (a : LiveAuth) : LiveAuth :=
  { a with socket := some connection }

/-- `Auth::SocketServer::handleNewConnection`, for one connection. -/
def handleNewConnection (connection : ConnectionId) (payload : QByteArray)
    (s : AuthServer) : AuthServer :=
  match greeting payload with
  | some id => s.update id (setSocket connection)
  | none => s

/-- The connection frames are read from on behalf of an `Auth`. -/
def channel (s : AuthServer) (id : Int64) : Option ConnectionId :=
  (s.helpers.lookup id).bind LiveAuth.socket

def isRunning (s : AuthServer) (id : Int64) : Bool :=
  (s.helpers.lookup id).any fun a => a.auth.isActive

def answer (s : AuthServer) : AuthServerEvent → AuthServer × List FrameTaken
  | .created => (s.create, [])
  | .destroyed id => (s.destroy id, [])
  | .started id =>
      (s.update id fun a => { a with auth := a.auth.start }, [])
  | .exited id =>
      (s.update id fun a => { a with auth.child := .notRunning }, [])
  | .newConnection connection payload =>
      (s.handleNewConnection connection payload, [])
  | .dataPending id => (s, (s.channel id).toList.map (⟨id, ·⟩))

end AuthServer

/-- The socket server; anything can come at any time. -/
def authServerMachine : Machine AuthServer AuthServerEvent FrameTaken where
  enabled _ _ := True
  step := AuthServer.answer

namespace AuthServer

theorem lookup_update (id id' : Int64) (f : LiveAuth → LiveAuth)
    (s : AuthServer) :
    (s.update id f).helpers.lookup id' =
      if id' = id then (s.helpers.lookup id).map f
      else s.helpers.lookup id' := by
  rw [update]
  by_cases hid : id' = id
  · subst hid
    rw [if_pos rfl]
    cases hlookup : s.helpers.lookup id' with
    | none => exact hlookup
    | some a => exact AList.lookup_insert _
  · rw [if_neg hid]
    cases s.helpers.lookup id with
    | none => rfl
    | some a => exact AList.lookup_insert_ne hid

/-- A change that keeps the channel keeps every channel. -/
theorem channel_update_of_socket {f : LiveAuth → LiveAuth}
    (hf : ∀ a, (f a).socket = a.socket) (id id' : Int64) (s : AuthServer) :
    (s.update id f).channel id' = s.channel id' := by
  rw [channel, lookup_update, channel]
  split
  next heq =>
    rw [heq]
    cases s.helpers.lookup id with
    | none => rfl
    | some a => exact hf a
  · rfl

/-- An event that gives an `Auth` a new channel, or an end and none. -/
def Rebinds (s : AuthServer) (id : Int64) : AuthServerEvent → Prop
  | .created => s.lastId = id
  | .destroyed id' => id' = id
  | .newConnection _ payload => greeting payload = some id
  | _ => False

theorem channel_answer_of_not_rebinds {s : AuthServer} {id : Int64}
    {e : AuthServerEvent} (h : ¬ s.Rebinds id e) :
    (s.answer e).1.channel id = s.channel id := by
  cases e with
  | created =>
      change s.create.channel id = s.channel id
      rw [channel, create, AList.lookup_insert_ne (Ne.symm h), channel]
  | destroyed id' =>
      change (s.destroy id').channel id = s.channel id
      rw [channel, destroy, AList.lookup_erase_ne (Ne.symm h), channel]
  | started id' =>
      apply channel_update_of_socket
      exact fun _ => rfl
  | exited id' =>
      apply channel_update_of_socket
      exact fun _ => rfl
  | newConnection connection payload =>
      change (s.handleNewConnection connection payload).channel id = _
      rw [handleNewConnection]
      cases hgreeting : greeting payload with
      | none => rfl
      | some id' =>
          have hne : id ≠ id' := by
            rintro rfl
            exact h hgreeting
          rw [channel, lookup_update, if_neg hne, channel]
  | dataPending id' => rfl

/-- The channel after an event that rebinds it. -/
theorem channel_answer_of_rebinds {s : AuthServer} {id : Int64}
    {e : AuthServerEvent} {c : ConnectionId} (h : s.Rebinds id e) :
    (s.answer e).1.channel id = some c ↔
      ∃ payload, e = .newConnection c payload ∧
        (s.helpers.lookup id).isSome = true := by
  cases e with
  | created =>
      obtain rfl : s.lastId = id := h
      change s.create.channel s.lastId = some c ↔ _
      rw [channel, create, AList.lookup_insert]
      simp
  | destroyed id' =>
      obtain rfl : id' = id := h
      change (s.destroy id').channel id' = some c ↔ _
      rw [channel, destroy, AList.lookup_erase]
      simp
  | newConnection connection payload =>
      have hgreeting : greeting payload = some id := h
      change (s.handleNewConnection connection payload).channel id =
        some c ↔ _
      rw [handleNewConnection, hgreeting]
      simp only
      rw [channel, lookup_update, if_pos rfl]
      cases s.helpers.lookup id with
      | none => simp
      | some a => simp [setSocket]
  | _ => exact False.elim h

/-- The last connection of a run to announce the id of a live `Auth`, with
nothing after it that takes the channel away. -/
def LastToAnnounce (es : List AuthServerEvent) (id : Int64)
    (c : ConnectionId) : Prop :=
  ∃ pre payload post, es = pre ++ .newConnection c payload :: post ∧
    greeting payload = some id ∧
      ((authServerMachine.exec {} pre).helpers.lookup id).isSome = true ∧
        authServerMachine.Guarded (fun s e => ¬ s.Rebinds id e)
          (authServerMachine.exec {} (pre ++ [.newConnection c payload])) post

theorem lastToAnnounce_concat (es : List AuthServerEvent)
    (e : AuthServerEvent) (id : Int64) (c : ConnectionId) :
    LastToAnnounce (es ++ [e]) id c ↔
      (∃ payload, e = .newConnection c payload ∧ greeting payload = some id ∧
        ((authServerMachine.exec {} es).helpers.lookup id).isSome = true) ∨
      ¬ (authServerMachine.exec {} es).Rebinds id e ∧
        LastToAnnounce es id c := by
  constructor
  · rintro ⟨pre, payload, post, hsplit, hgreeting, hlive, hguarded⟩
    rcases List.eq_nil_or_concat post with rfl | ⟨post, e', rfl⟩
    · obtain ⟨rfl, hlast⟩ := List.append_inj' hsplit rfl
      obtain rfl := List.singleton_inj.1 hlast
      exact Or.inl ⟨payload, rfl, hgreeting, hlive⟩
    · rw [List.concat_eq_append] at hsplit hguarded
      rw [← List.cons_append, ← List.append_assoc] at hsplit
      obtain ⟨rfl, hlast⟩ := List.append_inj' hsplit rfl
      obtain rfl := List.singleton_inj.1 hlast
      rw [Machine.guarded_concat, ← Machine.exec_append, List.append_assoc,
        List.singleton_append] at hguarded
      exact Or.inr ⟨hguarded.2, pre, payload, post, rfl, hgreeting, hlive,
        hguarded.1⟩
  · rintro (⟨payload, rfl, hgreeting, hlive⟩ |
      ⟨hkept, pre, payload, post, rfl, hgreeting, hlive, hguarded⟩)
    · exact ⟨es, payload, [], rfl, hgreeting, hlive,
        Machine.guarded_nil _ _ _⟩
    · refine ⟨pre, payload, post ++ [e], by simp, hgreeting, hlive, ?_⟩
      rw [Machine.guarded_concat, ← Machine.exec_append, List.append_assoc,
        List.singleton_append]
      exact ⟨hguarded, hkept⟩

/-- After any run, the channel of an `Auth` is the last connection to announce
its id. -/
theorem channel_exec_iff (es : List AuthServerEvent) (id : Int64)
    (c : ConnectionId) :
    (authServerMachine.exec {} es).channel id = some c ↔
      LastToAnnounce es id c := by
  induction es using List.reverseRecOn with
  | nil =>
      constructor
      · intro h
        exact absurd h (by simp [channel])
      · rintro ⟨pre, payload, post, hsplit, _⟩
        exact absurd hsplit.symm (by simp)
  | append_singleton es e ih =>
      rw [lastToAnnounce_concat, Machine.exec_concat, ← ih]
      change ((authServerMachine.exec {} es).answer e).1.channel id =
        some c ↔ _
      by_cases h : (authServerMachine.exec {} es).Rebinds id e
      · rw [channel_answer_of_rebinds h]
        constructor
        · rintro ⟨payload, rfl, hlive⟩
          exact Or.inl ⟨payload, rfl, h, hlive⟩
        · rintro (⟨payload, rfl, _, hlive⟩ | ⟨hkept, _⟩)
          · exact ⟨payload, rfl, hlive⟩
          · exact absurd h hkept
      · rw [channel_answer_of_not_rebinds h]
        constructor
        · exact fun hchannel => Or.inr ⟨h, hchannel⟩
        · rintro (⟨payload, rfl, hgreeting, _⟩ | ⟨_, hchannel⟩)
          · exact absurd hgreeting h
          · exact hchannel

end AuthServer

open AuthServer in
/-- A connection is the channel of an `Auth` if and only if it was the last to
announce its id in a greeting, and the frames taken for those of the helper
come from that connection, whatever else there was before. -/
theorem exec_channel_last (es : List AuthServerEvent) (id : Int64)
    (c : ConnectionId) :
    ((authServerMachine.exec {} es).channel id = some c ↔
      LastToAnnounce es id c) ∧
    ∀ e, ⟨id, c⟩ ∈ (authServerMachine.step
      (authServerMachine.exec {} es) e).2 → LastToAnnounce es id c := by
  refine ⟨channel_exec_iff es id c, fun e htaken => ?_⟩
  rw [← channel_exec_iff]
  cases e with
  | dataPending id' =>
      obtain ⟨c', hchannel, heq⟩ : ∃ c',
          (authServerMachine.exec {} es).channel id' = some c' ∧
            FrameTaken.mk id' c' = ⟨id, c⟩ := by
        simpa [authServerMachine, answer] using htaken
      obtain ⟨rfl, rfl⟩ := FrameTaken.mk.inj heq
      exact hchannel
  | _ => exact absurd htaken List.not_mem_nil

/-- A first frame that announces an id. -/
def AuthServer.hello (id : Int64) : QByteArray :=
  Message.write (.hello id)

open AuthServer in
/-- A second connection takes over the channel of a helper that runs. -/
theorem exec_channel_not_first :
    ¬ ∀ (es : List AuthServerEvent) (id : Int64) (c c' : ConnectionId)
      (payload : QByteArray),
        (authServerMachine.exec {} es).channel id = some c →
          (authServerMachine.exec {} es).isRunning id = true →
            (authServerMachine.exec {}
              (es ++ [.newConnection c' payload])).channel id = some c := by
  intro hall
  have hfirst := hall [.created, .started 1, .newConnection 5 (hello 1)] 1 5 6
    (hello 1) (by decide) (by decide)
  exact absurd hfirst (by decide)

end PlasmaLogin
