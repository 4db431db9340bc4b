import Mathlib.Data.List.Dedup

/-! Identifiers, addresses and envelopes as the router reads them. A `UUID` is a 128-bit value
that `std::map` orders as a number; the null identifier is reserved and never names a node. An
envelope is reduced to the parts routing looks at: its content class, its content (forwarded as
opaque bytes) and its destination list. -/
namespace Arras4

/-- `api::UUID`, ordered as the router's maps order it. -/
abbrev Uuid := Nat

def Uuid.null : Uuid := 0

/-- `api::Address`. A null node addresses the client of the session; a null computation on a
node addresses that node itself. -/
structure Address where
  session : Uuid
  node : Uuid
  computation : Uuid
deriving DecidableEq, Repr

/-- The content classes `RemoteEndpoint` inspects; every other class is application data. -/
inductive ClassId
  | controlMessage
  | executorHeartbeat
  | pongMessage
  | data (id : Nat)
deriving DecidableEq, Repr

/-- `impl::Envelope`: the class, the metadata's `to()` list (`destinations` in
`routeMessage`), and the content. -/
structure Envelope where
  classId : ClassId
  content : Nat
  destinations : List Address
deriving DecidableEq, Repr

/-- The copy `RemoteEndpoint::queueEnvelope(envelope, aTo)` pushes: same content, `to() = aTo`. -/
def Envelope.withTo (envelope : Envelope) (aTo : List Address) : Envelope :=
  { envelope with destinations := aTo }

@[simp] theorem Envelope.withTo_destinations (envelope : Envelope) (aTo : List Address) :
    (envelope.withTo aTo).destinations = aTo := rfl

end Arras4
