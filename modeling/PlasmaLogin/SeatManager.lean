/-
`SeatManager` with the `LogindSeat` objects it listens to, the seat list of
`DisplayManager`, and the logind they mirror: its signals and its replies are
on their way until they are delivered, in any order.
-/
import PlasmaLogin.Mealy
import PlasmaLogin.QString
import Mathlib.Data.Finset.Basic
import Mathlib.Data.List.AList
import Mathlib.Logic.Function.Basic

namespace PlasmaLogin

open Mealy

/-- `Logind::seatIfaceName`. -/
def Logind.seatIfaceName : QString := "org.freedesktop.login1.Seat"

/-- `LogindSeat`; `alive` until it is deleted. -/
structure LogindSeat where
  name : QString
  canGraphical : Bool := false
  alive : Bool := true
deriving DecidableEq

/-- The query of `CanGraphical` by a `LogindSeat`. -/
structure SeatQuery where
  id : Nat
  name : QString
deriving DecidableEq

/-- `DisplayManagerSeat`, an object with its name. -/
structure DisplayManagerSeat where
  object : Nat
  name : QString
deriving DecidableEq

/-- The seats of `DisplayManager`; `created` counts the objects. -/
structure DisplayManager where
  seats : List DisplayManagerSeat := []
  created : Nat := 0
deriving DecidableEq

namespace DisplayManager

/-- `DisplayManager::AddSeat`. -/
def addSeat (name : QString) (m : DisplayManager) : DisplayManager where
  seats := m.seats ++ [⟨m.created, name⟩]
  created := m.created + 1

/-- The loop of `DisplayManager::RemoveSeat` from position `i` on, over an
array whose first `size` elements are the list.  The loop goes on to the old
end of the list, and behind the new one are the old elements. -/
def removeLoop (name : QString) :
    Nat → Nat → List DisplayManagerSeat × Nat → List DisplayManagerSeat × Nat
  | 0, _, r => r
  | turns + 1, i, (array, size) =>
      match array[i]? with
      | none => (array, size)
      | some seat =>
          if seat.name = name then
            let kept := (array.take size).filter fun s => s ≠ seat
            removeLoop name turns (i + 1)
              (kept ++ array.drop kept.length, kept.length)
          else removeLoop name turns (i + 1) (array, size)

/-- `DisplayManager::RemoveSeat`. -/
def removeSeat (name : QString) (m : DisplayManager) : DisplayManager :=
  let r := removeLoop name m.seats.length 0 (m.seats, m.seats.length)
  { m with seats := r.1.take r.2 }

end DisplayManager

/-- `SeatManager`.  `logindSeats` has every `LogindSeat` there has been, and
`systemSeats` the position of those in `m_systemSeats`; `seats` has the names
`m_seats` holds a `Seat` for, `alive` those of the `Seat` objects alive. -/
structure SeatManager where
  logindSeats : List LogindSeat := []
  systemSeats : QString → Option Nat := fun _ => none
  seats : Finset QString := ∅
  alive : List QString := []
  manager : DisplayManager := {}

namespace SeatManager

def createSeat (name : QString) (m : SeatManager) : SeatManager :=
  { m with
      alive := m.alive ++ [name],
      seats := insert name m.seats,
      manager := m.manager.addSeat name }

def removeSeat (name : QString) (m : SeatManager) : SeatManager :=
  if name ∈ m.seats then
    { m with
        alive := m.alive.erase name,
        seats := m.seats.erase name,
        manager := m.manager.removeSeat name }
  else m

/-- What `SeatManager` does about `LogindSeat::canGraphicalChanged`. -/
def canGraphicalChanged (seat : LogindSeat) (m : SeatManager) : SeatManager :=
  if seat.canGraphical then m.createSeat seat.name else m.removeSeat seat.name

/-- A `LogindSeat` takes a value over and emits `canGraphicalChanged`. -/
def setCanGraphical (id : Nat) (seat : LogindSeat) (value : Bool)
    (m : SeatManager) : SeatManager :=
  let seat := { seat with canGraphical := value }
  canGraphicalChanged seat { m with logindSeats := m.logindSeats.set id seat }

/-- The reply to the query of a `LogindSeat`, unless it is deleted.  An error
is ignored. -/
def queryAnswered (id : Nat) (reply : Option Bool) (m : SeatManager) :
    SeatManager :=
  match m.logindSeats[id]?, reply with
  | some seat, some value =>
      if seat.alive ∧ value ≠ seat.canGraphical then
        m.setCanGraphical id seat value
      else m
  | _, _ => m

/-- `LogindSeat::propertiesChanged` of one object, if it is connected to the
seat; `changed` is the value of `CanGraphical`, if that has changed. -/
def seatPropertiesChanged (name interface : QString) (changed : Option Bool)
    (m : SeatManager) (id : Nat) : SeatManager :=
  match m.logindSeats[id]?, changed with
  | some seat, some value =>
      if (seat.alive = true ∧ seat.name = name) ∧
          interface = Logind.seatIfaceName then
        m.setCanGraphical id seat value
      else m
  | _, _ => m

/-- A notification reaches every `LogindSeat` of the seat. -/
def propertiesChanged (name interface : QString) (changed : Option Bool)
    (m : SeatManager) : SeatManager :=
  (List.range m.logindSeats.length).foldl
    (seatPropertiesChanged name interface changed) m

/-- `SeatManager::logindSeatAdded`.  The new object is at the end, and asks
whether its seat is graphical. -/
def logindSeatAdded (name : QString) (m : SeatManager) :
    SeatManager × List SeatQuery :=
  ({ m with
      logindSeats := m.logindSeats ++ [{ name }],
      systemSeats :=
        Function.update m.systemSeats name (some m.logindSeats.length) },
    [⟨m.logindSeats.length, name⟩])

/-- The loop over the reply to `ListSeats`. -/
def seatsListed : List QString → SeatManager → SeatManager × List SeatQuery
  | [], m => (m, [])
  | name :: names, m => andThen (m.logindSeatAdded name) (seatsListed names)

/-- The object `SeatManager::logindSeatRemoved` deletes. -/
def deleteLogindSeat (name : QString) (m : SeatManager) : SeatManager :=
  match m.systemSeats name with
  | none => m
  | some id =>
      { m with
          logindSeats :=
            m.logindSeats.modify id fun seat => { seat with alive := false },
          systemSeats := Function.update m.systemSeats name none }

def logindSeatRemoved (name : QString) (m : SeatManager) : SeatManager :=
  (m.deleteLogindSeat name).removeSeat name

/-- `SeatManager::initialize`, which without logind makes do with one seat. -/
def initializeSeats (logindAvailable : Bool) : SeatManager :=
  if logindAvailable then {} else createSeat "seat0" {}

end SeatManager

/-- What logind sends. -/
inductive SeatMessage where
  | listSeats (names : List QString)
  | seatNew (name : QString)
  | seatRemoved (name : QString)
  | canGraphical (query : SeatQuery) (reply : Option Bool)
  | propertiesChanged (name interface : QString) (changed : Option Bool)
deriving DecidableEq

namespace SeatMessage

/-- The seats a message is about. -/
def about : SeatMessage → List QString
  | .listSeats names => names
  | .seatNew name | .seatRemoved name => [name]
  | .canGraphical query _ => [query.name]
  | .propertiesChanged name _ _ => [name]

/-- The seats a message reports, each of which gets a `LogindSeat`. -/
def reports : SeatMessage → List QString
  | .listSeats names => names
  | .seatNew name => [name]
  | _ => []

end SeatMessage

namespace SeatManager

/-- The slots a message reaches, with the queries they make. -/
def receive (m : SeatManager) : SeatMessage → SeatManager × List SeatQuery
  | .listSeats names => seatsListed names m
  | .seatNew name => m.logindSeatAdded name
  | .seatRemoved name => (m.logindSeatRemoved name, [])
  | .canGraphical query reply => (m.queryAnswered query.id reply, [])
  | .propertiesChanged name interface changed =>
      (m.propertiesChanged name interface changed, [])

end SeatManager

/-- Logind and the daemon.  `logind` has the seats with whether they are
graphical; `listing` until logind has answered `ListSeats`, `queries` are
those it has not answered yet. -/
structure SeatWorld where
  logind : AList fun _ : QString => Bool
  listing : Bool
  queries : List SeatQuery
  inflight : List SeatMessage
  daemon : SeatManager

/-- What can happen.  Logind may notify of a value that is no news. -/
inductive SeatWorldEvent where
  | seatNew (name : QString) (graphical : Bool)
  | seatRemoved (name : QString)
  | notify (name interface : QString) (changed : Option Bool)
  | answerList
  | answerQuery (k : Nat)
  | deliver (k : Nat)

namespace SeatWorld

/-- The daemon has just asked for the seats. -/
def start (logind : AList fun _ : QString => Bool) : SeatWorld where
  logind := logind
  listing := true
  queries := []
  inflight := []
  daemon := SeatManager.initializeSeats true

def send (message : SeatMessage) (w : SeatWorld) : SeatWorld :=
  { w with inflight := w.inflight ++ [message] }

/-- The daemon handles a message. -/
def deliverAt (k : Nat) (message : SeatMessage) (w : SeatWorld) : SeatWorld :=
  { w with
      inflight := w.inflight.eraseIdx k,
      queries := w.queries ++ (w.daemon.receive message).2,
      daemon := (w.daemon.receive message).1 }

def Enabled (w : SeatWorld) : SeatWorldEvent → Prop
  | .seatNew name _ => name ∉ w.logind
  | .seatRemoved name | .notify name _ _ => name ∈ w.logind
  | .answerList => w.listing = true
  | .answerQuery k => k < w.queries.length
  | .deliver k => k < w.inflight.length

/-- The value logind has after it has notified of a change. -/
def notified (name interface : QString) (changed : Option Bool)
    (w : SeatWorld) : AList fun _ : QString => Bool :=
  match changed with
  | some value =>
      if interface = Logind.seatIfaceName then w.logind.insert name value
      else w.logind
  | none => w.logind

def step (w : SeatWorld) : SeatWorldEvent → SeatWorld
  | .seatNew name graphical =>
      { w with logind := w.logind.insert name graphical }.send (.seatNew name)
  | .seatRemoved name =>
      { w with logind := w.logind.erase name }.send (.seatRemoved name)
  | .notify name interface changed =>
      { w with logind := w.notified name interface changed }.send
        (.propertiesChanged name interface changed)
  | .answerList => { w with listing := false }.send (.listSeats w.logind.keys)
  | .answerQuery k =>
      match w.queries[k]? with
      | none => w
      | some query =>
          { w with queries := w.queries.eraseIdx k }.send
            (.canGraphical query (w.logind.lookup query.name))
  | .deliver k =>
      match w.inflight[k]? with
      | none => w
      | some message => w.deliverAt k message

/-- Nothing is asked and nothing is on its way. -/
def Quiet (w : SeatWorld) : Prop :=
  w.listing = false ∧ w.queries = [] ∧ w.inflight = []

/-- The registries are what logind says: one `Seat` and one entry for each
graphical seat, and no others. -/
def Agrees (w : SeatWorld) : Prop :=
  ∀ name, (name ∈ w.daemon.seats ↔ w.logind.lookup name = some true) ∧
    w.daemon.alive.count name =
      (if w.logind.lookup name = some true then 1 else 0) ∧
    (w.daemon.manager.seats.map DisplayManagerSeat.name).count name =
      if w.logind.lookup name = some true then 1 else 0

end SeatWorld

/-- Logind and the daemon as one machine. -/
def seatWorld : Machine SeatWorld SeatWorldEvent Empty where
  enabled := SeatWorld.Enabled
  step w e := (w.step e, [])

end PlasmaLogin
