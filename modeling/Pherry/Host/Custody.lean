import Mathlib.Data.NNRat.Defs
import Pherry.Host.Dispatch
import Pherry.Lib.Concurrent
import Pherry.Lib.InsertionMap

/-!
# Custody

The reserve and claim handshake of a `CustodyDesk`, the registry it shares with the sessions a host
spawns itself, and `openSession`, which both go through. A spawn is settled from outside; between a
spawn that failed and the handler that gives the reservation back lies a turn of the event loop.
-/

namespace Pherry.Host

open Lib Protocol

/-! ## Sessions -/

/-- `OpenSessionOptions`. -/
structure OpenSessionOptions where
  ringBytes : Option ℕ
  scrollback : Option ℕ
  streamId : Option ℕ

/-- `{ ...desk, ...claim }`. -/
def OpenSessionOptions.merge (desk claim : OpenSessionOptions) : OpenSessionOptions where
  ringBytes := claim.ringBytes <|> desk.ringBytes
  scrollback := claim.scrollback <|> desk.scrollback
  streamId := claim.streamId <|> desk.streamId

/-- What a registered session was opened with. -/
structure Opened (Spec : Type) where
  spec : Spec
  options : OpenSessionOptions

/-! ## The desk -/

/-- `CustodyError`. -/
structure CustodyError where
  code : CustodyErrorCode
  message : JsString

/-- `ReservationRecord`, under its reference. -/
structure ReservationRecord (Spec : Type) where
  spec : Spec
  expiresAt : ℚ
  claimed : Bool

/-- The state of a desk with its clock and its registry; `drawn` counts the references drawn. -/
structure CustodyDesk (Spec : Type) where
  now : ℚ
  drawn : ℕ
  sessionOptions : OpenSessionOptions
  reservations : InsertionMap SessionRef (ReservationRecord Spec)
  registry : InsertionMap SessionRef (Opened Spec)

/-- A call that opens a session: a claim, or `spawnSession`. A claim whose spawn failed has yet to
give its reservation back. -/
inductive OpenCall (Spec : Type)
  | refused (error : CustodyError)
  | spawning (claim : Bool) (ref : SessionRef) (session : Opened Spec)
  | failing (ref : SessionRef)
  | failed (ref : SessionRef)
  | opened (claim : Bool) (ref : SessionRef)

/-- What happens at a desk. `settle` is the end of the spawn of a call: whether a handle came back and
a session could be made of it. -/
inductive CustodyEvent (Spec : Type)
  | advance (ms : ℚ≥0)
  | reserve (spec : Spec) (ttlMs : ℚ)
  | claim (ref : SessionRef) (options : OpenSessionOptions)
  | spawnSession (spec : Spec) (options : OpenSessionOptions)
  | settle (call : ℕ) (handle : Bool)
  | caught (call : ℕ)
  | sweepExpired
  | remove (ref : SessionRef)

/-- What a desk does to the outside: a receipt, or a spawn. -/
inductive CustodyEffect (Spec : Type)
  | reserved (ref : SessionRef) (expiresAt : ℚ)
  | spawn (spec : Spec)

/-- A desk and the calls on it. -/
abbrev Custody (Spec : Type) := Concurrent (CustodyDesk Spec) (OpenCall Spec)

namespace CustodyDesk

variable {Spec : Type}

/-- `isReserved`. -/
def isReserved (d : CustodyDesk Spec) (ref : SessionRef) : Bool :=
  match d.reservations.get ref with
  | none => false
  | some record => !record.claimed && d.now ≤ record.expiresAt

/-- `pending`. -/
def pending (d : CustodyDesk Spec) : List SessionRef :=
  (d.reservations.entries.filter fun entry =>
    !entry.2.claimed && d.now ≤ entry.2.expiresAt).map Prod.fst

/-- `sweepExpired`. -/
def sweepExpired (d : CustodyDesk Spec) : CustodyDesk Spec :=
  { d with reservations := d.reservations.filter fun _ record =>
      !(!record.claimed && record.expiresAt < d.now) }

/-- Write whether a reservation is claimed. -/
def setClaimed (d : CustodyDesk Spec) (ref : SessionRef) (claimed : Bool) : CustodyDesk Spec :=
  match d.reservations.get ref with
  | none => d
  | some record => { d with reservations := d.reservations.set ref { record with claimed } }

/-- `claimOpenSession` up to the spawn. -/
def claimOpenSession (d : CustodyDesk Spec) (ref : SessionRef) (options : OpenSessionOptions) :
    CustodyDesk Spec × OpenCall Spec :=
  match d.reservations.get ref with
  | none => (d, .refused ⟨.notFound, js "no reservation for " ++ ref.1⟩)
  | some record =>
    if record.claimed then (d, .refused ⟨.alreadyClaimed, ref.1 ++ js " was already claimed"⟩)
    else if d.now > record.expiresAt then
      ({ d with reservations := d.reservations.erase ref },
        .refused ⟨.expired, js "reservation " ++ ref.1 ++ js " expired"⟩)
    else
      (d.setClaimed ref true, .spawning true ref ⟨record.spec, d.sessionOptions.merge options⟩)

/-- `openSession` behind the spawn. -/
def settle (handle : Bool) (d : CustodyDesk Spec) : OpenCall Spec → CustodyDesk Spec × OpenCall Spec
  | .spawning claim ref session =>
    if handle && (d.registry.get ref).isNone then
      ({ d with registry := d.registry.set ref session }, .opened claim ref)
    else (d, if claim then .failing ref else .failed ref)
  | call => (d, call)

/-- The handler of a spawn that failed. -/
def caught (d : CustodyDesk Spec) : OpenCall Spec → CustodyDesk Spec × OpenCall Spec
  | .failing ref => (d.setClaimed ref false, .failed ref)
  | call => (d, call)

end CustodyDesk

/-- The spawn a call begins with. -/
def OpenCall.spawns {Spec : Type} : OpenCall Spec → List (CustodyEffect Spec)
  | .spawning _ _ session => [.spawn session.spec]
  | _ => []

variable {Spec : Type} (newSessionRef : ℕ → SessionRef)

/-- One event and its effects. A time to live that is not positive throws. -/
def Custody.react (s : Custody Spec) : CustodyEvent Spec → Custody Spec × List (CustodyEffect Spec)
  | .advance ms => ({ s with shared := { s.shared with now := s.shared.now + ms } }, [])
  | .reserve spec ttlMs =>
    if ttlMs ≤ 0 then (s, [])
    else
      let d := s.shared
      let ref := newSessionRef d.drawn
      ({ s with shared := { d with
          drawn := d.drawn + 1
          reservations := d.reservations.set ref ⟨spec, d.now + ttlMs, false⟩ } },
        [.reserved ref (d.now + ttlMs)])
  | .claim ref options =>
    let r := s.shared.claimOpenSession ref options
    (({ s with shared := r.1 } : Custody Spec).start r.2, r.2.spawns)
  | .spawnSession spec options =>
    let d := s.shared
    let call : OpenCall Spec := .spawning false (newSessionRef d.drawn) ⟨spec, options⟩
    (({ s with shared := { d with drawn := d.drawn + 1 } } : Custody Spec).start call, call.spawns)
  | .settle call handle => (s.advance call (CustodyDesk.settle handle), [])
  | .caught call => (s.advance call CustodyDesk.caught, [])
  | .sweepExpired => ({ s with shared := s.shared.sweepExpired }, [])
  | .remove ref =>
    ({ s with shared := { s.shared with registry := s.shared.registry.erase ref } }, [])

/-- A desk as a machine. -/
def custodyMachine (now : ℚ) (sessionOptions : OpenSessionOptions) :
    Machine (Custody Spec) (CustodyEvent Spec) where
  init := ⟨⟨now, 0, sessionOptions, .empty, .empty⟩, []⟩
  step s e := (s.react newSessionRef e).1

end Pherry.Host
