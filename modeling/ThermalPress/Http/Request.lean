import ThermalPress.Http.Form
import ThermalPress.Http.Target

/-!
# Requests

A request (`Request`), and the framework that serves it (`Framework`).  What a body holds, a JSON value, a form or
plain text, is for the framework to read.  It may also fail to, and then it answers the request itself: all that is
known of that answer is its status.  Texts are made of characters, so half of a surrogate pair by itself is something
that the framework has to replace or refuse.
-/

namespace ThermalPress

/-- A request. -/
structure Request where
  method : String
  target : Target
  contentType : Option String
  body : Bytes
  deriving DecidableEq, Repr

/-- What reads requests and writes values.  Where a request cannot be read, there is the status of the answer. -/
class Framework where
  /-- Whether a body is longer than a limit. -/
  exceeds : (request : Request) → (limit : Option Int) → Bool
  /-- Whether a body is said to be JSON. -/
  isJson : Request → Bool
  /-- The JSON value of a body, if it holds one. -/
  json? : Request → Except Nat (Option Json)
  /-- The fields of the form in a body. -/
  form : Request → Except Nat Form
  /-- A body as plain text, after a form was looked for. -/
  text : Request → Except Nat (List Char)
  /-- The fields of a query. -/
  query : Request → Form
  /-- Whether a value can be written as text.  One that is nested too deeply cannot. -/
  writes : Json → Bool
  writes_texts : ∀ members : Members Json, (∀ member ∈ members, ∃ text, member.2 = .str text) →
    writes (.obj members) = true

end ThermalPress
