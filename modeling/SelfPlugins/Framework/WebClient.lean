import Mathlib.Init

/-!
# Web clients and timers

What the plugins see of the web clients and the timer pool they are given:
the connection states an `IWebClient` goes through, what one call of its
`Send()` does, and what a service is told about caching a request.
-/

namespace SelfPlugins

/-- The states of an `IWebClient`. -/
inductive ClientState where
  /-- Trying to establish a connection. -/
  | connecting
  /-- Connection established, ready to send and receive data. -/
  | connected
  /-- Set when `Close()` is invoked and before it is really closed. -/
  | closing
  /-- Connection has been closed gracefully. -/
  | closed
  /-- Connection has been lost. -/
  | disconnected
deriving DecidableEq, Repr, Inhabited

namespace ClientState

/-- There is no connection: `CLOSED` or `DISCONNECTED`. -/
def isDown : ClientState → Bool
  | closed | disconnected => true
  | connecting | connected | closing => false

/-- A connection exists or is being established. -/
def isOpen : ClientState → Bool
  | connecting | connected => true
  | closing | closed | disconnected => false

/-- The state after a call of `Close()`; a client that is down stays down. -/
def close : ClientState → ClientState
  | connecting | connected | closing => closing
  | closed => closed
  | disconnected => disconnected

theorem isDown_close (st : ClientState) : st.close.isDown = st.isDown := by
  cases st <;> rfl

theorem isDown_eq_false_of_isOpen {st : ClientState} (h : st.isOpen = true) :
    st.isDown = false := by
  cases st <;> first | rfl | contradiction

end ClientState

/-- One call of `Send()`: the state changes it reports before it returns, its
result, and the state it leaves the client in. -/
structure SendOutcome where
  notified : List ClientState
  ok : Bool
  after : ClientState
deriving DecidableEq, Repr, Inhabited

/-- `IService::CacheRequest`: the kind of a request, and what is hashed to tell
the requests of a kind apart.  A service may answer a request with what it has
kept of an earlier one. -/
structure CacheRequest (α : Type) where
  type : String
  hashed : α
deriving DecidableEq

end SelfPlugins
