import ThermalPress.Json.Basic

/-!
# Responses

A response has a status, and where it says something, a JSON value (`Response`).  Pages from anywhere may use the
service (`Response.sharing`).
-/

namespace ThermalPress

/-- A response. -/
structure Response where
  status : Nat
  /-- The value that the body holds. -/
  body : Option Json
  /-- The methods with which the resource may be used, where the response says so. -/
  allow : Option (List String)
  deriving Repr

namespace Response

/-- The headers of every response by which a browser learns that pages from anywhere may use the service. -/
def sharing : List (String × String) := [
  ("Access-Control-Allow-Origin", "*"), ("Access-Control-Allow-Headers", "Content-Type"),
  ("Access-Control-Allow-Methods", "GET, POST, OPTIONS")]

/-- A response with a value. -/
def json (status : Nat) (value : Members Json) : Response := ⟨status, some (.obj value), none⟩

/-- A response without a value. -/
def bare (status : Nat) : Response := ⟨status, none, none⟩

/-- A response that says which methods there are. -/
def methods (status : Nat) (allowed : List String) : Response := ⟨status, none, some allowed⟩

/-- A response that says what went wrong. -/
def failure (status : Nat) (text : String) : Response :=
  json status [("success", .bool false), ("error", .str text)]

/-- The response to a request that asks for everything but the body. -/
def withoutBody (response : Response) : Response := { response with body := none }

end Response

end ThermalPress
