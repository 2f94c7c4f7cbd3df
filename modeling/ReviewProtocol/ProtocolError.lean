import ReviewProtocol.Lib.Framing

set_option autoImplicit false

namespace ReviewProtocol

/-- The `io::ErrorKind` values this crate and its transport tell apart. -/
inductive ErrorKind where
  | notFound
  | permissionDenied
  | connectionRefused
  | connectionReset
  | connectionAborted
  | notConnected
  | timedOut
  | invalidInput
  | invalidData
  | unexpectedEof
  | other
deriving DecidableEq, Repr

/-- The text of an `io::Error` that carries nothing but its kind. -/
def ErrorKind.description : ErrorKind → String
  | notFound => "entity not found"
  | permissionDenied => "permission denied"
  | connectionRefused => "connection refused"
  | connectionReset => "connection reset"
  | connectionAborted => "connection aborted"
  | notConnected => "not connected"
  | timedOut => "timed out"
  | invalidInput => "invalid input parameter"
  | invalidData => "invalid data"
  | unexpectedEof => "unexpected end of file"
  | other => "other error"

inductive ProtocolErrorKind where
  | notSupported
  | forbidden
  | invalidArgs
  | versionMismatch
  | other
deriving DecidableEq, Repr

structure DispatchError where
  kind : ProtocolErrorKind
  message : String
deriving DecidableEq, Repr

/-- An `io::Error` by what it wraps: nothing, a text, a classified dispatch
error, or another `io::Error`. -/
inductive IoError where
  | simple (kind : ErrorKind)
  | message (kind : ErrorKind) (text : String)
  | dispatch (kind : ErrorKind) (inner : DispatchError)
  | wrapped (kind : ErrorKind) (inner : IoError)
deriving DecidableEq, Repr

namespace IoError

def kind : IoError → ErrorKind
  | simple kind => kind
  | message kind _ => kind
  | dispatch kind _ => kind
  | wrapped kind _ => kind

/-- The `Display` text. -/
def text : IoError → String
  | simple kind => kind.description
  | message _ text => text
  | dispatch _ inner => inner.message
  | wrapped _ inner => inner.text

end IoError

/-- Classifies an error, keeping its `ErrorKind` and message. -/
def DispatchError.fromIo (kind : ProtocolErrorKind) (error : IoError) : IoError :=
  .dispatch error.kind ⟨kind, error.text⟩

/-- The classification an `io::Error` carries, or the one its kind falls back to. -/
def ProtocolErrorKind.ofIoError : IoError → ProtocolErrorKind
  | .dispatch _ inner => inner.kind
  | error =>
      match error.kind with
      | .permissionDenied => .forbidden
      | .invalidData => .notSupported
      | .invalidInput => .invalidArgs
      | _ => .other

inductive HandlerError where
  | recvError (error : IoError)
  | sendError (error : IoError)
deriving DecidableEq, Repr

def HandlerError.kind : HandlerError → ProtocolErrorKind
  | recvError error => ProtocolErrorKind.ofIoError error
  | sendError _ => .other

end ReviewProtocol
