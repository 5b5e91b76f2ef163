/-!
# Replies

A complete answer to a request: its status and its body as text.
-/

namespace LedgerLookup.Http

/-- A complete answer. -/
structure Reply where
  status : Nat
  body : String
deriving DecidableEq

/-- Whether a status says that the request succeeded. -/
def isSuccess (status : Nat) : Bool :=
  200 ≤ status && status < 300

/-- Whether a reply says that the request succeeded. -/
def Reply.isSuccess (r : Reply) : Bool :=
  Http.isSuccess r.status

/-- How a request can fail before its answer is complete.  The URL is the one that was asked for,
in the form in which it is sent, unless an answer came: then it is the one that gave this answer. -/
inductive Fault where
  /-- The text is no URL, or it is one that no request can be sent to. -/
  | unusableUrl (url : Option String)
  /-- No answer came: the connection failed or was closed. -/
  | notSent (url : String)
  /-- No answer came in time. -/
  | timedOut (url : String)
  /-- The answer broke off inside its body. -/
  | bodyCut (url : String)
  /-- The answer redirects once more after the most redirects that are followed. -/
  | redirectedTooOften (url : String)
deriving DecidableEq

/-- The wording of a fault. -/
def Fault.message : Fault → String
  | unusableUrl none => "builder error"
  | unusableUrl (some url) => "builder error for url (" ++ url ++ ")"
  | notSent url | timedOut url => "error sending request for url (" ++ url ++ ")"
  | bodyCut url => "error decoding response body for url (" ++ url ++ ")"
  | redirectedTooOften url => "error following redirect for url (" ++ url ++ ")"

end LedgerLookup.Http
