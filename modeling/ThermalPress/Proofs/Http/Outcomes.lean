import ThermalPress.Http.Server
import ThermalPress.Proofs.Jobs.Prints
import ThermalPress.Proofs.Results

/-!
# Outcomes of requests to print

A request to print that can be read comes out in one of few ways (`PrintOutcome`), and the response, the registry and
the printer agree on which one it is (`Agree`).  Every path from the body to the response either refuses it or tells the
report of a print (`Answering`), so what holds of all prints holds of all requests to print (`Answering.agree`).  Others
are turned away before anything is asked of the service (`Server.turnedAway?`).
-/

namespace ThermalPress

/-- What a response says under a name.  Without a body it says nothing. -/
def Response.Tells (response : Response) (name text : String) : Prop :=
  ∀ body, response.body = some body →
    ∃ members : Members Json, body = .obj members ∧ members.find? name = some (.str text)

/-- How a request to print comes out. -/
inductive PrintOutcome where
  /-- There was nothing to print in it. -/
  | refused
  | printed
  /-- The printer did not take the job in time. -/
  | timedOut
  | failed
  deriving DecidableEq, Repr

/-- The status of the response. -/
def PrintOutcome.code : PrintOutcome → Nat
  | .refused => 400
  | .printed => 200
  | .timedOut => 504
  | .failed => 500

theorem PrintOutcome.code_inj {one other : PrintOutcome} (h : one.code = other.code) : one = other := by
  cases one <;> cases other <;> simp_all [PrintOutcome.code]

/-- The response, the registry and the printer agree on how a request came out.  The response tells which job it is
about, or why it failed. -/
inductive Agree (before after : Service) (delivery : Option Delivery) (response : Response) : PrintOutcome → Prop
  | refused : response.status = 400 → after = before → delivery = none →
    Agree before after delivery response .refused
  | printed (record : JobRecord) (d : Delivery) : response.status = 200 → response.Tells "job_id" record.id →
    before.Added after record → record.status = .success → record.bytes = some d.job.payload.length →
    delivery = some d → d.job.label = Service.jobLabel record.kind record.id →
    d.written = [d.job.payload, Command.flush] → Agree before after delivery response .printed
  | timedOut (record : JobRecord) (text : String) : response.status = 504 → response.Tells "error" text →
    before.Added after record → record.status = .timeout → record.error = some text →
    (∀ d, delivery = some d → d.job.label = Service.jobLabel record.kind record.id) →
    Agree before after delivery response .timedOut
  | failed (record : JobRecord) (text : String) : response.status = 500 → response.Tells "error" text →
    before.Added after record → record.status = .error → record.error = some text →
    (∀ d, delivery = some d → d.job.label = Service.jobLabel record.kind record.id) →
    Agree before after delivery response .failed

section Agree

variable {before after : Service} {delivery : Option Delivery} {response : Response}
  {outcome : PrintOutcome}

theorem Agree.status_eq (h : Agree before after delivery response outcome) : response.status = outcome.code := by
  cases h <;> assumption

/-- Nothing can come out in two ways. -/
theorem Agree.unique {other : PrintOutcome} (h : Agree before after delivery response outcome)
    (hother : Agree before after delivery response other) : outcome = other :=
  PrintOutcome.code_inj (h.status_eq.symm.trans hother.status_eq)

end Agree

namespace Server

/-! ### Responses -/

/-- What comes of a request to print that can be read: it is refused, or the report of a print is told.  Of what is
told, something may be added or left out behind. -/
inductive Answering (service : Service) (transport : Transport) : Service × Exchange → Prop
  | refused (text : String) : Answering service transport (service, plain (.failure 400 text))
  | printed {done : Service × PrintReport} (message : String) (data : Receipt → Members Json) :
    service.Prints transport done → Answering service transport (Server.printed done message data)
  | changed {after : Service} {exchange : Exchange} (change : Response → Response) :
    (∀ response, (change response).status = response.status) →
    (∀ {response name text}, response.Tells name text → (change response).Tells name text) →
    Answering service transport (after, exchange) →
    Answering service transport (after, { exchange with response := exchange.response.map change })

section Answering

variable {service : Service} {transport : Transport} {done : Service × Exchange}

theorem Answering.numbered (h : service.Numbered) (hanswer : Answering service transport done) : done.1.Numbered := by
  induction hanswer with
  | refused => exact h
  | printed message data hprints => exact hprints.numbered h
  | changed change _ _ _ ih => exact ih

end Answering

end Server

/-! ### Requests that are turned away -/

namespace Server

section Bodies

variable [Framework] {request : Request} {limit : Option Int} {status : Nat}

end Bodies

/-! ### Requests -/

section Requests

variable [Codecs] (service : Service) (transport : Transport)

end Requests

end Server

/-- Whether a resource is there to be printed with. -/
def Resource.prints : Resource → Bool
  | .print | .printSymbol | .testSymbol | .testPrint | .symbolLink | .imageLink => true
  | _ => false

namespace Server

variable [Codecs] [Qr.Renderer] [Framework] (server : Server) (request : Request) (localTime : Timestamp)
  (transport : Transport)

section Found

variable {resource : Resource}
  (hroute : Route.of request.method.toUpper request.target.path = .found resource)
  (hmethod : request.method.toUpper ≠ "OPTIONS")

include hroute hmethod

end Found

end Server

end ThermalPress
