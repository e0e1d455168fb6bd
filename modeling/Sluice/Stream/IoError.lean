/-
  Failures of an operation on a connection, a file or a socket: their kind and their wording.
-/

namespace Sluice

/-- The kind of a failed operation. -/
inductive IoErrorKind where
  | notFound
  | permissionDenied
  | connectionRefused
  | connectionReset
  | hostUnreachable
  | networkUnreachable
  | connectionAborted
  | notConnected
  | addrInUse
  | addrNotAvailable
  | networkDown
  | brokenPipe
  | alreadyExists
  | wouldBlock
  | invalidInput
  | invalidData
  | timedOut
  | writeZero
  | interrupted
  | unsupported
  | unexpectedEof
  | outOfMemory
  | other
  deriving DecidableEq, Repr

/-- A failed operation. -/
structure IoError where
  kind : IoErrorKind
  message : String
  deriving DecidableEq, Repr

namespace IoError

/-- Fewer octets were left than were asked for. -/
def earlyEof : IoError :=
  ⟨.unexpectedEof, "early eof"⟩

/-- No octet was left for a number. -/
def noOctet : IoError :=
  ⟨.unexpectedEof, "unexpected end of file"⟩

/-- The far side took none of the octets offered. -/
def nothingWritten : IoError :=
  ⟨.writeZero, "failed to write whole buffer"⟩

/-- What the operating system calls an error number, and the number. -/
def ofErrno (errno : Nat) : IoError :=
  let known : IoErrorKind × String :=
    match errno with
    | 1 => (.permissionDenied, "Operation not permitted")
    | 2 => (.notFound, "No such file or directory")
    | 4 => (.interrupted, "Interrupted system call")
    | 5 => (.other, "Input/output error")
    | 9 => (.other, "Bad file descriptor")
    | 11 => (.wouldBlock, "Resource temporarily unavailable")
    | 12 => (.outOfMemory, "Cannot allocate memory")
    | 13 => (.permissionDenied, "Permission denied")
    | 14 => (.other, "Bad address")
    | 17 => (.alreadyExists, "File exists")
    | 21 => (.other, "Is a directory")
    | 22 => (.invalidInput, "Invalid argument")
    | 23 => (.other, "Too many open files in system")
    | 24 => (.other, "Too many open files")
    | 32 => (.brokenPipe, "Broken pipe")
    | 38 => (.unsupported, "Function not implemented")
    | 88 => (.other, "Socket operation on non-socket")
    | 92 => (.other, "Protocol not available")
    | 93 => (.other, "Protocol not supported")
    | 95 => (.unsupported, "Operation not supported")
    | 97 => (.other, "Address family not supported by protocol")
    | 98 => (.addrInUse, "Address already in use")
    | 99 => (.addrNotAvailable, "Cannot assign requested address")
    | 100 => (.networkDown, "Network is down")
    | 101 => (.networkUnreachable, "Network is unreachable")
    | 103 => (.connectionAborted, "Software caused connection abort")
    | 104 => (.connectionReset, "Connection reset by peer")
    | 105 => (.other, "No buffer space available")
    | 107 => (.notConnected, "Transport endpoint is not connected")
    | 110 => (.timedOut, "Connection timed out")
    | 111 => (.connectionRefused, "Connection refused")
    | 113 => (.hostUnreachable, "No route to host")
    | n => (.other, s!"Unknown error {n}")
  ⟨known.1, s!"{known.2} (os error {errno})"⟩

end IoError

end Sluice
