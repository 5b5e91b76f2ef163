import LedgerLookup.Http.Transport

/-!
# Recorders

A transport under observation.  It answers as the transport inside does, and keeps the URLs that
are handed to it.
-/

namespace LedgerLookup.Http

/-- A transport that keeps the URLs of its requests. -/
structure Recorder (τ : Type) where
  inside : τ
  requests : List String := []

namespace Recorder

variable {τ : Type} [Transport τ]

instance : Transport (Recorder τ) where
  get r url :=
    let (exchange, inside) := Transport.get r.inside url
    (exchange, ⟨inside, r.requests ++ [url]⟩)

@[simp] theorem get_exchange (r : Recorder τ) (url : String) :
    (Transport.get r url).1 = (Transport.get r.inside url).1 := rfl

@[simp] theorem get_inside (r : Recorder τ) (url : String) :
    (Transport.get r url).2.inside = (Transport.get r.inside url).2 := rfl

@[simp] theorem get_requests (r : Recorder τ) (url : String) :
    (Transport.get r url).2.requests = r.requests ++ [url] := rfl

end Recorder

end LedgerLookup.Http
