import Leasehold.Time.Span

/-!
# Settings of the blob client
-/

namespace Leasehold.Blob

/-- The settings of the blob client: the version of the service's interface that it speaks, how long
it waits for one reply, how often it sends a request at most, and the interval around which the
first delay between two requests is drawn. -/
structure Settings where
  version : String
  patience : Span
  tries : Nat
  retryDelay : Span
  deriving DecidableEq, Repr

namespace Settings

/-- The settings of a client for which no others are given. -/
def standard : Settings := ⟨"2016-05-31", .ofSeconds 30, 3, .ofMillis 500⟩

end Settings

end Leasehold.Blob
