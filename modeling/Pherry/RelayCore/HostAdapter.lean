import Pherry.RelayCore.Endpoint
import Pherry.RelayCore.HostProof

/-!
# The host's control connection

`registerHostWithCell` as the consumer of its control connection. While the registration promise is
pending its handler answers the challenge; the handlers that serve the cell are put in place by the
code behind the `await`, which runs in a later microtask.
-/

namespace Pherry.RelayCore

/-- What a registration is made with: the primitives, the host's id and its static secret key. -/
structure RegisterHostOptions where
  crypto : Crypto
  hostId : JsString
  hostStaticSecret : Bytes

/-- What the promise resolves with: the data-leg key and the id its MACs bind. -/
structure RegisteredKeys where
  dataKey : Bytes
  cellId : JsString
deriving DecidableEq

/-- The registration promise. -/
inductive RegistrationPromise
  | pending
  | resolved (keys : RegisteredKeys)
  | rejected
deriving DecidableEq

/-- The error `onClose` is given: the cell's refusal, or an error of the framing. -/
inductive CloseError
  | relay (code : RelayCloseCode) (reason : Option JsString)
  | framing
deriving DecidableEq

/-- What the handlers of a registered host do: dial a data connection for a ticket, and the two
callbacks. -/
inductive HostAction
  | openData (ticket : Ticket) (bridgeNonce : Bytes32)
  | onDrain
  | onClose (error : Option CloseError)
deriving DecidableEq

/-- The variables of a registration. `serving` is whether the code behind the `await` has run;
`closed` is that of `teardown`. -/
structure HostControl where
  promise : RegistrationPromise
  registered : Option RegisteredKeys
  serving : Bool
  closed : Bool
  actions : List HostAction

/-- A registration before anything was received. -/
def HostControl.init : HostControl :=
  { promise := .pending, registered := none, serving := false, closed := false, actions := [] }

/-- What happens to a registration besides messages: the connection is made, the code behind the
`await` runs, and the caller closes. -/
inductive HostEvent
  | connected
  | resume
  | close
deriving DecidableEq

namespace HostControl

/-- `fail` of the registration promise. -/
def fail (c : HostControl) : Handled HostControl := ⟨{ c with promise := .rejected }, [.close], false⟩

/-- `teardown`. -/
def teardown (c : HostControl) (error : Option CloseError) : HostControl × List Call :=
  if c.closed then (c, [])
  else ({ c with closed := true, actions := c.actions ++ [.onClose error] }, [.close])

variable (o : RegisterHostOptions)

/-- Answer a challenge. An unusable ephemeral key makes `proveHost` throw. -/
def onChallenge (c : HostControl) (cellId : JsString) (nonce cellEphemeralPub : Bytes32) :
    Handled HostControl :=
  match o.crypto.getSharedSecret o.hostStaticSecret cellEphemeralPub.1 with
  | none => ⟨c, [], true⟩
  | some dh =>
    -- the transcript reads no secret of the challenge
    let mac := computeMac o.crypto dh o.hostId
      { cellId, nonce, cellEphemeralPub, cellEphemeralSecret := [] }
    let c := { c with registered := some ⟨deriveDataAuthKey o.crypto dh nonce.1, cellId⟩ }
    if h : mac.length = 32 then ⟨c, [.send (.hostProof ⟨mac, h⟩)], false⟩ else ⟨c, [], true⟩

/-- The message handler while the promise is pending. -/
def onRegistering (c : HostControl) (m : OuterMessage) : Handled HostControl :=
  match c.promise with
  | .pending =>
    match m with
    | .hostChallenge cellId nonce cellEphemeralPub => c.onChallenge o cellId nonce cellEphemeralPub
    | .hostRegistered _ =>
      match c.registered with
      | none => c.fail
      | some keys => ⟨{ c with promise := .resolved keys }, [], false⟩
    | _ => c.fail
  | _ => ⟨c, [], false⟩

/-- The message handler of a registered host. -/
def onServing (c : HostControl) (m : OuterMessage) : Handled HostControl :=
  match m with
  | .connOpen ticket nonce => ⟨{ c with actions := c.actions ++ [.openData ticket nonce] }, [], false⟩
  | .drain => ⟨{ c with actions := c.actions ++ [.onDrain] }, [], false⟩
  | .close code reason =>
    ⟨(c.teardown (some (.relay code reason))).1, (c.teardown (some (.relay code reason))).2, false⟩
  | _ => ⟨c, [], false⟩

/-- The error handler in place: that of the promise, or that of a registered host. -/
def onError (c : HostControl) : HostControl × Bool :=
  if c.serving then ((c.teardown (some .framing)).1, !c.closed)
  else
    match c.promise with
    | .pending => ({ c with promise := .rejected }, true)
    | _ => (c, false)

/-- Whatever is not a message. -/
def onEvent (c : HostControl) : HostEvent → HostControl × List Call
  | .connected => (c, [.send (.hostHello o.hostId)])
  | .resume =>
    match c.promise with
    | .resolved _ => ({ c with serving := true }, [])
    | _ => (c, [])
  | .close => if c.serving then c.teardown none else (c, [])

end HostControl

/-- `registerHostWithCell`. -/
def registerHostWithCell (o : RegisterHostOptions) : Consumer HostControl HostEvent where
  onMessage c m := if c.serving then c.onServing m else c.onRegistering o m
  onError c := c.onError
  onEvent c e := c.onEvent o e

end Pherry.RelayCore
