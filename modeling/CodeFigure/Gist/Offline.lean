/-
  CodeFigure/Gist/Offline.lean
  ============================
  **A client without a network.**

  Before a client connects it takes the address apart, and an address that HTTP
  cannot be used with fails there.  `Offline.client` goes exactly that far.  What
  it finds no fault with, it fails to reach: a host that is known by its number
  because there is no way to it, any other because nobody can be asked for its
  number.

  Between the two the client adds the time limit to what the clock shows, and it
  breaks off where the clock cannot count that far (`Offline.breaksOff`).
-/
import CodeFigure.Gist.Client
import CodeFigure.Gist.Url

namespace CodeFigure.Offline

def unreachable (url : Url) : String :=
  if url.hasKnownHost then "io: Network is unreachable (os error 101)"
  else "io: failed to lookup address information: Temporary failure in name resolution"

def failure (url : String) : String :=
  match Url.ofHttp url with
  | .error error => error.message
  | .ok url => unreachable url

def client : Client := fun _ url => .error ⟨failure url, none⟩

/-- The last second that the clock can count to. -/
def lastSecond : Nat := 9223372036854775807

/-- A request for `url` that may take `limit` seconds would not end before the clock does. -/
def breaksOff (clock limit : Nat) (url : String) : Bool :=
  (Url.ofHttp url).isOk && decide (lastSecond < clock + limit)

end CodeFigure.Offline
