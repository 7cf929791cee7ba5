import FrameConsole.Error

/-!
# Connection

A connection has at most one session at a time. A session belongs to the address that it was opened
with and keeps the frames that were sent on it, in order, until they are drained. Closing a session
drops what it still keeps.

## Main definitions

* `FrameConsole.Frame`, `FrameConsole.Session`, `FrameConsole.Connection`.
* `FrameConsole.Connection.connect`, `FrameConsole.Connection.send`,
  `FrameConsole.Connection.drain`, `FrameConsole.Connection.close`.
-/

namespace FrameConsole

/-- A message to the server. -/
inductive Frame where
  /-- A text message. -/
  | text (value : String)
  /-- A binary message. -/
  | binary (value : Bytes)
  deriving DecidableEq, Repr

/-- An open session. -/
structure Session where
  /-- The address that the session was opened with. -/
  url : String
  /-- The frames sent and not yet drained, the oldest first. -/
  outbox : List Frame
  deriving DecidableEq, Repr

/-- A connection: a session, if one is open. -/
structure Connection where
  /-- The open session. -/
  session : Option Session := none
  deriving DecidableEq, Repr

namespace Connection

/-- The address of the open session. -/
def url? (c : Connection) : Option String :=
  c.session.map Session.url

/-- Whether a session is open. -/
def isOpen (c : Connection) : Bool :=
  c.session.isSome

/-- The frames that wait in the open session. -/
def outbox (c : Connection) : List Frame :=
  match c.session with
  | some session => session.outbox
  | none => []

/-- Opens a session with no frames, unless one is open. -/
def connect (c : Connection) (url : String) : Except CommandError Connection :=
  match c.session with
  | some session => .error (.alreadyConnected session.url)
  | none => .ok ⟨some ⟨url, []⟩⟩

/-- Puts a frame at the end of those that wait in the open session. -/
def send (c : Connection) (frame : Frame) : Except CommandError Connection :=
  match c.session with
  | some session => .ok ⟨some { session with outbox := session.outbox ++ [frame] }⟩
  | none => .error .notConnected

/-- The connection with no frames waiting. -/
def drain (c : Connection) : Connection :=
  ⟨c.session.map fun session => { session with outbox := [] }⟩

/-- The connection without a session. -/
def close (_ : Connection) : Connection :=
  ⟨none⟩

end FrameConsole.Connection
