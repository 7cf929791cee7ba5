import FrameConsole.Registry
import FrameConsole.Text.Blank

/-!
# The commands of the console

Opening and closing a session, sending messages, and listing variables. A command that fails leaves
the console as it was: it logs only after the connection has accepted what it does.

## Main definitions

* `FrameConsole.Command.connect`, `FrameConsole.Command.disconnect` — open and close a session.
* `FrameConsole.Command.sendText`, `FrameConsole.Command.sendBinary` — send a message.
* `FrameConsole.Command.listVariables` — shows the variables.
* `FrameConsole.Registry.standard` — all of them.
-/

namespace FrameConsole

/-- An address of a server names one of the two schemes. -/
def isServerUrl (url : String) : Bool :=
  "ws://".toList.isPrefixOf url.toList || "wss://".toList.isPrefixOf url.toList

/-- A message with its size and its bytes in hexadecimal, as it is logged. -/
def binaryLine (bytes : Bytes) : String :=
  "<" ++ toString bytes.length ++ "B> " ++ String.ofList (Hex.encode bytes)

/-- A name with the kind of its value, the name filled up with spaces to a width of twelve. -/
def variableLine (name : String) (value : Value) : String :=
  String.ofList (name.toList.rightpad 12 ' ') ++ " " ++ value.dataType.name

namespace Command

variable {α : Type}

/-- Opens a session on the first word of the parameter. -/
def connect : Command α where
  names := ["connect"]
  takesTemplate := false
  info := "connect to a server"
  run payload s :=
    match firstWord? payload.toText with
    | none => (.error (.missingArgument "connect" "a url"), s)
    | some url =>
      if isServerUrl url then
        match s.connection.connect url with
        | .error e => (.error e, s)
        | .ok connection =>
          (.ok (), { s with connection := connection }.log .system ("Connecting to " ++ url))
      else (.error (.invalidUrl url), s)

/-- Closes the session, if one is open. -/
def disconnect : Command α where
  names := ["disconnect"]
  takesTemplate := false
  info := "disconnect from a server"
  run _ s :=
    match s.connection.url? with
    | some url =>
      (.ok (), { s with connection := s.connection.close }.log .system
        ("Closing connection to " ++ url))
    | none => (.ok (), s.log .warning "No connection to disconnect")

/-- Sends a frame and logs it. -/
def transmit (frame : Frame) (text : String) (s : Console α) : Outcome α CommandError Unit :=
  match s.connection.send frame with
  | .error e => (.error e, s)
  | .ok connection => (.ok (), { s with connection := connection }.log .sent text)

/-- Sends the parameter as a text message. -/
def sendText : Command α where
  names := ["send", "s"]
  takesTemplate := true
  info := "send a text message"
  run payload := transmit (.text payload.toText) payload.toText

/-- Sends the parameter as a binary message. -/
def sendBinary : Command α where
  names := ["binary", "b"]
  takesTemplate := true
  info := "send a binary message"
  run payload := transmit (.binary payload.toBytes) (binaryLine payload.toBytes)

/-- Lists the variables with the kinds of their values. -/
def listVariables : Command α where
  names := ["vars"]
  takesTemplate := false
  info := "list variables"
  run _ s :=
    if s.vars.bindings.isEmpty then (.ok (), s.log .system "No variables defined")
    else
      (.ok (), s.logAll .system
        (s.vars.bindings.entries.map fun entry => variableLine entry.1 entry.2))

end Command

/-- The registry of all commands of the console. -/
def Registry.standard {α : Type} : Registry α :=
  [Command.connect, Command.disconnect, Command.sendText, Command.sendBinary,
    Command.listVariables].foldl Registry.register .empty

end FrameConsole
