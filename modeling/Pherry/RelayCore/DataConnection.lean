import Pherry.RelayCore.Endpoint

/-!
# A data connection awaiting its bridge

The consumer both adapters put on a data connection: `awaitDataReady` sends the `data-auth` and waits
for the answer, and the duplex it resolves with is the raw phase.
-/

namespace Pherry.RelayCore

/-- How the promise of `awaitDataReady` stands. -/
inductive Answer
  | pending
  | ready
  | refused
deriving DecidableEq

/-- What the adapter and the holder of the duplex do: send the `data-auth`, and the three methods of
`rawDuplexOf`. -/
inductive DuplexCall
  | auth (message : OuterMessage)
  | send (bytes : Bytes)
  | onMessage
  | close

/-- `awaitDataReady` and the duplex of `rawDuplexOf`, which there is once the promise resolved. -/
def awaitDataReady : Consumer Answer DuplexCall where
  onMessage answer m :=
    match answer with
    | .pending =>
      match m with
      | .dataReady => ⟨.ready, [.toRaw], false⟩
      | _ => ⟨.refused, [.close], false⟩
    | _ => ⟨answer, [], false⟩
  onError answer :=
    match answer with
    | .pending => (.refused, true)
    | _ => (answer, false)
  onEvent answer e :=
    match e with
    | .auth message => (answer, if answer = .pending then [.send message] else [])
    | .send bytes => (answer, if answer = .ready then [.sendRaw bytes] else [])
    | .onMessage => (answer, if answer = .ready then [.onRaw] else [])
    | .close => (answer, if answer = .ready then [.close] else [])

end Pherry.RelayCore
