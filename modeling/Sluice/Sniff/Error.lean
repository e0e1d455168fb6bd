import Sluice.Stream.IoError
import Sluice.Duration.Shown

/-
  Why the first octets of a connection told nothing.
-/

namespace Sluice

/-- A failure to learn what a client wants from its first octets. -/
inductive SniffError where
  /-- The client said nothing, or stopped inside its hello. -/
  | eof
  | io (error : IoError)
  | clientHello (reason : String)
  | http (reason : String)
  | timeout (after : Duration)
  deriving DecidableEq, Repr

namespace SniffError

/-- The wording of a failure. -/
def message : SniffError → String
  | eof => "connection closed before any protocol data was received"
  | io e => s!"read failed: {e.message}"
  | clientHello reason => s!"invalid TLS ClientHello: {reason}"
  | http reason => s!"invalid HTTP request: {reason}"
  | timeout d => s!"sniffing timed out after {d.shown}"

/-- A read that failed. A stream that ends too early is not told apart from one that never began. -/
def ofRead (e : IoError) : SniffError :=
  if e.kind = .unexpectedEof then .eof else .io e

end SniffError

end Sluice
