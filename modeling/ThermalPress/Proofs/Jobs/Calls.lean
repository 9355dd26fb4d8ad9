import ThermalPress.Proofs.Jobs.Prints

/-!
# Calls at one service

Several callers print with one service at a time.  A call goes through its stages (`Stage`) in steps that touch the
registry once at most (`Call.advance`): it creates its job, tells the record that the job runs or could not be built,
delivers it and closes the record, looks the record up, and a call for a symbol adds what is known of the symbol and
looks again.  Between any two steps of a call, other calls may come and go on, and the clock may be set to any time
(`Calls.after`).  Lookups of records by others change nothing and need no move.

A call that nothing comes between does what the print functions of the service do (`Printout.print_eq_run`), so a
print is one of the ways in which calls can go on.
-/

namespace ThermalPress

/-- The bytes of a job, and the symbol that they print, if there is one. -/
structure Product where
  payload : Bytes
  symbol : Option Qr.Job

/-- What a call is to print: what its record says of it, how long it waits, and what comes of building its bytes. -/
structure Plan where
  kind : JobKind
  preview : Option String
  caption : Option String
  timeout : Option Quantity
  product : Except JobError Product

namespace Plan

/-- Completes the record of a new job. -/
def fill (plan : Plan) (job : JobRecord) : JobRecord := { job with preview := plan.preview, caption := plan.caption }

def printJob (plan : Plan) (settings : Settings) (id : String) (payload : Bytes) : PrintJob :=
  ⟨payload, plan.timeout.getD (.real settings.printTimeout), Service.jobLabel plan.kind id⟩

/-- What is known of the symbol, if one is printed. -/
def report? (plan : Plan) : Option SymbolReport :=
  match plan.product with
  | .ok product => product.symbol.map SymbolReport.ofJob
  | .error _ => none

end Plan

/-- A job that was handed to the transport, and what came of it. -/
structure Sent where
  job : PrintJob
  delivery : Delivery

/-- How far a call has come. -/
inductive Stage where
  | asked
  /-- The job is created. -/
  | opened (id : String)
  /-- The bytes could not be built, and the call has ended. -/
  | unbuilt (id : String) (e : JobError)
  /-- The transport has the job. -/
  | running (id : String) (job : PrintJob)
  /-- The job could not be delivered, and the call has ended. -/
  | undelivered (id : String) (sent : Sent) (fault : Fault)
  /-- The record tells of the success. -/
  | closed (id : String) (sent : Sent)
  /-- The record was looked up, and the symbol is still to be told. -/
  | looked (id : String) (sent : Sent) (record : Option JobRecord)
  /-- The record tells of the symbol. -/
  | noted (id : String) (sent : Sent) (record : Option JobRecord)
  /-- The call has ended with a receipt. -/
  | returned (id : String) (sent : Sent) (receipt : Receipt)

namespace Stage

/-- The identity of the job, once it is created. -/
def id? : Stage → Option String
  | .asked => none
  | .opened id | .unbuilt id _ | .running id _ | .undelivered id _ _ | .closed id _ | .looked id _ _ | .noted id _ _
  | .returned id _ _ => some id

def handed? : Stage → Option PrintJob
  | .asked | .opened _ | .unbuilt .. => none
  | .running _ job => some job
  | .undelivered _ sent _ | .closed _ sent | .looked _ sent _ | .noted _ sent _ | .returned _ sent _ => some sent.job

def delivery? : Stage → Option Delivery
  | .asked | .opened _ | .unbuilt .. | .running .. => none
  | .undelivered _ sent _ | .closed _ sent | .looked _ sent _ | .noted _ sent _ | .returned _ sent _ =>
    some sent.delivery

/-- What the caller is told, once the call has ended. -/
def result? : Stage → Option (Except PrintError Receipt)
  | .unbuilt _ e => some (.error (.job e))
  | .undelivered _ _ fault => some (.error (.fault fault))
  | .returned _ _ receipt => some (.ok receipt)
  | _ => none

end Stage

/-- A call at a service: what it prints, what its job is delivered by, and how far it has come. -/
structure Call where
  plan : Plan
  transport : Transport
  stage : Stage

/-- The next step of a call. -/
def Call.advance (call : Call) (service : Service) : Service × Stage :=
  let plan := call.plan
  match call.stage with
  | .asked =>
    let (id, service) := service.openJob plan.kind plan.fill
    (service, .opened id)
  | .opened id =>
    match plan.product with
    | .error e =>
      (service.changeJob id fun job => { job with status := .error, error := some e.message }, .unbuilt id e)
    | .ok product =>
      (service.changeJob id fun job => { job with status := .running, bytes := some product.payload.length },
        .running id (plan.printJob service.settings id product.payload))
  | .running id job =>
    let sent : Sent := ⟨job, call.transport.deliver job service.settings.endpointName⟩
    match sent.delivery.error? with
    | some fault => (service.closeFailed id fault, .undelivered id sent fault)
    | none => (service.changeJob id fun job => { job with status := .success }, .closed id sent)
  | .closed id sent =>
    let record := service.registry.get? id
    (service, if plan.report?.isSome then .looked id sent record else .returned id sent ⟨id, record, none, none⟩)
  | .looked id sent record =>
    (service.changeJob id fun job => { job with symbol := plan.report? }, .noted id sent record)
  | .noted id sent record =>
    -- A record that is gone meanwhile is the one that was looked up, with what is known of the symbol.
    let record := (service.registry.get? id).or (record.map fun job => { job with symbol := plan.report? })
    (service, .returned id sent ⟨id, record, plan.report?, none⟩)
  | .unbuilt .. | .undelivered .. | .returned .. => (service, call.stage)

/-- A service and the calls at it, in the order in which they came. -/
structure Calls where
  service : Service
  all : List Call

namespace Calls

/-- What happens next: another call comes, one of the calls goes on, or the clock is set. -/
inductive Move where
  | ask (plan : Plan) (transport : Transport)
  | goOn (index : Nat)
  | setClock (clock : Clock)

/-- The service and its calls after a move. -/
def after (calls : Calls) : Move → Calls
  | .ask plan transport => { calls with all := calls.all ++ [⟨plan, transport, .asked⟩] }
  | .goOn index =>
    match calls.all[index]? with
    | none => calls
    | some call =>
      let (service, stage) := call.advance calls.service
      ⟨service, calls.all.set index { call with stage }⟩
  | .setClock clock => { calls with service := { calls.service with clock } }

def start (settings : Settings) (limit : Nat) (clock : Clock) : Calls := ⟨.ofSettings settings limit clock, []⟩

def run (calls : Calls) (moves : List Move) : Calls := moves.foldl after calls

/-! A new call stands behind the others, and the step of a call changes no other one. -/

section Moves

variable {calls : Calls} {i j : Nat} {call : Call}

theorem getElem?_ask {plan : Plan} {transport : Transport}
    (h : (calls.after (.ask plan transport)).all[i]? = some call) :
    calls.all[i]? = some call ∨ call = ⟨plan, transport, .asked⟩ := by
  rw [after, List.getElem?_append] at h
  split at h
  · exact .inl h
  · exact .inr (List.mem_singleton.1 (List.mem_of_getElem? h))

theorem after_goOn (h : calls.all[i]? = some call) : calls.after (.goOn i) =
    ⟨(call.advance calls.service).1, calls.all.set i { call with stage := (call.advance calls.service).2 }⟩ := by
  simp only [after, h]

theorem after_goOn_of_none (h : calls.all[i]? = none) : calls.after (.goOn i) = calls := by
  simp only [after, h]

theorem getElem?_goOn (hcall : calls.all[i]? = some call) {other : Call}
    (h : (calls.after (.goOn i)).all[j]? = some other) :
    (j ≠ i ∧ calls.all[j]? = some other) ∨
      (j = i ∧ other = { call with stage := (call.advance calls.service).2 }) := by
  rw [after_goOn hcall, List.getElem?_set] at h
  by_cases hij : i = j
  · rw [if_pos hij] at h
    split at h
    · exact .inr ⟨hij.symm, (Option.some.inj h).symm⟩
    · cases h
  · rw [if_neg hij] at h
    exact .inl ⟨Ne.symm hij, h⟩

end Moves

end Calls

/-! ### A call by itself -/

inductive Printout where
  | text (document : Json) (topMargin bottomFeed : Option Int)
  | symbol (data : Json)
  | captioned (data : Json) (caption : String)
  | image (data : Json) (caption : String)

namespace Printout

variable [Codecs] [Qr.Renderer]

def print (printout : Printout) (service : Service) (timeout : Option Quantity) (transport : Transport) :
    Service × PrintReport :=
  match printout with
  | .text document topMargin bottomFeed => service.printText document topMargin bottomFeed timeout transport
  | .symbol data => service.printSymbol data timeout transport
  | .captioned data caption => service.printCaptioned data caption timeout transport
  | .image data caption => service.printImage data caption timeout transport

def textPlan (settings : Settings) (text : List Char) (topMargin bottomFeed : Option Int) (timeout : Option Quantity) :
    Plan :=
  ⟨.text, some (String.ofList (preview previewLimit text)), none, timeout,
    (textJob settings (.text text) topMargin bottomFeed).map fun payload => ⟨payload, none⟩⟩

def symbolPlan (kind : JobKind) (caption : Option String) (timeout : Option Quantity)
    (built : Except JobError Qr.Job) : Plan :=
  ⟨kind, none, caption, timeout, built.map fun job => ⟨job.data, some job⟩⟩

/-- What a call is to print, unless it is blank. -/
def plan (printout : Printout) (settings : Settings) (timeout : Option Quantity) : Except PrintError Plan :=
  match printout with
  | .text document topMargin bottomFeed => (Service.nonblankText "text" document).map fun text =>
    textPlan settings text topMargin bottomFeed timeout
  | .symbol data => (Service.nonblankText "data_b64" data).map fun data =>
    symbolPlan .symbol none timeout (Qr.bareJob (.ofSettings settings (CodePoint.ofChars data)))
  | .captioned data caption => (Service.nonblankText "qr_string" data).map fun data =>
    symbolPlan .captionedSymbol (some caption) timeout
      (Qr.captionedJob (.ofSettings settings (CodePoint.ofChars data)) (some caption.toList) settings.autoFeedLines
        settings.encoding)
  | .image data caption => (Service.nonblankText "data" data).map fun data =>
    symbolPlan .imageSymbol (some caption) timeout
      (Qr.imageJob (.ofSettings settings (CodePoint.ofChars data)) (some caption.toList) settings.autoFeedLines
        settings.encoding (settings.rasterWidth?.getD 0) settings.printerProfile)

end Printout

/-- That many steps of a call, with nothing between them. -/
def Call.advanceTimes : Nat → Call → Service → Service × Stage
  | 0, call, service => (service, call.stage)
  | n + 1, call, service =>
    let (service, stage) := call.advance service
    advanceTimes n { call with stage } service

/-- A new call that goes on while no other one does makes its steps with nothing between them. -/
theorem Calls.run_undisturbed (calls : Calls) (plan : Plan) (transport : Transport) (n : Nat) :
    calls.run (.ask plan transport :: List.replicate n (.goOn calls.all.length)) =
      ⟨(Call.advanceTimes n ⟨plan, transport, .asked⟩ calls.service).1,
        calls.all ++ [⟨plan, transport, (Call.advanceTimes n ⟨plan, transport, .asked⟩ calls.service).2⟩]⟩ := by
  obtain ⟨service, others⟩ := calls
  have hsteps : ∀ (call : Call) (service : Service),
      (⟨service, others ++ [call]⟩ : Calls).run (List.replicate n (.goOn others.length)) =
        ⟨(call.advanceTimes n service).1, others ++ [{ call with stage := (call.advanceTimes n service).2 }]⟩ := by
    induction n with
    | zero => exact fun call service => rfl
    | succ n ih =>
      intro call service
      have hlast : (others ++ [call])[others.length]? = some call := List.getElem?_concat_length
      rw [List.replicate_succ, run, List.foldl_cons, after_goOn hlast]
      simp only [List.set_append, Nat.lt_irrefl, if_false, Nat.sub_self, List.set_cons_zero]
      exact ih _ _
  exact hsteps _ _

private theorem Call.advanceTimes_add (m n : Nat) (call : Call) (service : Service) :
    call.advanceTimes (m + n) service =
      Call.advanceTimes n { call with stage := (call.advanceTimes m service).2 } (call.advanceTimes m service).1 := by
  induction m generalizing call service with
  | zero => rw [Nat.zero_add]; rfl
  | succ m ih =>
    rw [Nat.succ_add]
    exact ih _ _

namespace Service

section ChangeJob

variable {service : Service} {id other : String} {change : JobRecord → JobRecord}

@[simp] theorem settings_changeJob (service : Service) (id : String) (change : JobRecord → JobRecord) :
    (service.changeJob id change).settings = service.settings := by
  unfold changeJob
  split <;> rfl

theorem mem_changeJob {job : JobRecord} (h : job ∈ (service.changeJob id change).registry.jobs) :
    ∃ old ∈ service.registry.jobs,
      (old.id ≠ id ∧ job = old) ∨ (old.id = id ∧ ∃ now, job = { change old with updatedAt := now }) := by
  unfold changeJob at h
  split at h
  · obtain ⟨old, hold, rfl⟩ := List.mem_map.1 h
    refine ⟨old, hold, ?_⟩
    split
    · next hid => exact .inr ⟨hid, _, rfl⟩
    · next hid => exact .inl ⟨hid, rfl⟩
  · next habsent =>
    refine ⟨job, h, .inl ⟨fun hid => habsent ?_, rfl⟩⟩
    rw [Registry.contains, Registry.isSome_get?_iff]
    exact ⟨job, h, hid⟩

theorem isSome_get?_changeJob (service : Service) (id other : String) (hchange : KeepsJob change) :
    ((service.changeJob id change).registry.get? other).isSome = (service.registry.get? other).isSome := by
  unfold changeJob
  split
  · rw [Bool.eq_iff_iff, Registry.isSome_get?_iff, Registry.isSome_get?_iff]
    constructor
    · rintro ⟨job, hjob, hid⟩
      obtain ⟨old, hold, rfl⟩ := List.mem_map.1 hjob
      refine ⟨old, hold, ?_⟩
      split at hid
      · exact (hchange old).1.symm.trans hid
      · exact hid
    · rintro ⟨old, hold, hid⟩
      refine ⟨_, List.mem_map_of_mem hold, ?_⟩
      split
      · exact (hchange old).1.trans hid
      · exact hid
  · rfl

end ChangeJob

/-- What came of a run, and the service and the stage of a call that has come as far. -/
private inductive RunAlike {α : Type} (plan : Plan) (product : α → Product) :
    Service × Except PrintError (String × α) × Option Delivery × List LogRecord → Service × Stage → Prop
  | unbuilt (s : Service) (id : String) (e : JobError) (records : List LogRecord) :
    RunAlike plan product (s, .error (.job e), none, records) (s, .unbuilt id e)
  | undelivered (s : Service) (id : String) (sent : Sent) (fault : Fault) (records : List LogRecord) :
    RunAlike plan product (s, .error (.fault fault), some sent.delivery, records) (s, .undelivered id sent fault)
  | closed (s : Service) (id : String) (sent : Sent) (a : α) (records : List LogRecord) :
    plan.product = .ok (product a) →
    RunAlike plan product (s, .ok (id, a), some sent.delivery, records) (s, .closed id sent)

private theorem run_alike {α : Type} (service : Service) (plan : Plan) (transport : Transport)
    (build : String → Build α) (product : α → Product)
    (hproduct : ∀ label, plan.product = (build label).result.map product) :
    RunAlike plan product
      (service.run plan.kind plan.fill plan.timeout build (fun a => (product a).payload) transport)
      (Call.advanceTimes 3 ⟨plan, transport, .asked⟩ service) := by
  -- the three steps create the job, build its bytes and deliver them
  unfold run
  split
  next id opened heq =>
  have hbuilt := hproduct (jobLabel plan.kind id)
  dsimp only
  cases hresult : (build (jobLabel plan.kind id)).result with
  | error e =>
    rw [hresult] at hbuilt
    simp only [Call.advanceTimes, Call.advance, heq, hbuilt, Except.map]
    exact .unbuilt ..
  | ok a =>
    rw [hresult] at hbuilt
    simp only [Call.advanceTimes, Call.advance, heq, hbuilt, Except.map, Plan.printJob, settings_changeJob]
    generalize hdelivery : transport.deliver _ _ = delivery
    cases herror : delivery.error? with
    | some fault => exact .undelivered _ id ⟨_, delivery⟩ fault _
    | none => exact .closed _ id ⟨_, delivery⟩ a _ hbuilt

/-- A print and a call came to the same. -/
structure Alike (done : Service × PrintReport) (alone : Service × Stage) : Prop where
  service : alone.1 = done.1
  result : alone.2.result? = some done.2.result
  delivery : alone.2.delivery? = done.2.delivery

private theorem or_of_isSome_eq {α : Type} {now before : Option α} (h : now.isSome = before.isSome) (f : α → α) :
    now.or (before.map f) = now := by
  cases now with
  | some a => rfl
  | none =>
    cases before with
    | some b => cases h
    | none => rfl

private theorem alike_runSymbol (service : Service) (kind : JobKind) (caption : Option String)
    (timeout : Option Quantity) {build : String → Build Qr.Job} {built : Except JobError Qr.Job}
    (hbuilt : ∀ label, (build label).result = built) (asked : String) (transport : Transport) :
    Alike (service.runSymbol kind caption timeout build asked transport)
      (Call.advanceTimes 6 ⟨Printout.symbolPlan kind caption timeout built, transport, .asked⟩ service) := by
  have halike := run_alike service (Printout.symbolPlan kind caption timeout built) transport build
    (fun job => ⟨job.data, some job⟩) fun label => by rw [hbuilt label]; rfl
  change RunAlike _ _ (service.run kind (fun job => { job with caption }) timeout build Qr.Job.data transport) _
    at halike
  rw [Call.advanceTimes_add 3 3]
  generalize Call.advanceTimes 3 _ service = begun at halike ⊢
  unfold runSymbol
  dsimp only
  generalize service.run _ _ _ _ _ _ = done at halike ⊢
  cases halike with
  | unbuilt s id e records => exact ⟨rfl, rfl, rfl⟩
  | undelivered s id sent fault records => exact ⟨rfl, rfl, rfl⟩
  | closed s id sent job records hproduct =>
    have hreport : (Printout.symbolPlan kind caption timeout built).report? = some (.ofJob job) := by
      rw [Plan.report?, hproduct]
      rfl
    let change (record : JobRecord) : JobRecord := { record with symbol := some (.ofJob job) }
    -- nothing comes between the two lookups, so the second one finds a record if the first one did
    have hstill : ((s.changeJob id change).registry.get? id).isSome = (s.registry.get? id).isSome :=
      isSome_get?_changeJob s id id fun _ => ⟨rfl, rfl⟩
    simp only [Call.advanceTimes, Call.advance, hreport, Option.isSome_some, if_true]
    rw [or_of_isSome_eq hstill]
    exact ⟨rfl, rfl, rfl⟩

private theorem alike_printText [Codecs] (service : Service) (text : List Char) (topMargin bottomFeed : Option Int)
    (timeout : Option Quantity) (transport : Transport) {document : Json}
    (htext : nonblankText "text" document = .ok text) :
    Alike (service.printText document topMargin bottomFeed timeout transport)
      (Call.advanceTimes 6 ⟨Printout.textPlan service.settings text topMargin bottomFeed timeout, transport, .asked⟩
        service) := by
  have halike := run_alike service
    (Printout.textPlan service.settings text topMargin bottomFeed timeout) transport
    (buildText service.settings text topMargin bottomFeed) (fun payload => ⟨payload, none⟩) fun _ => rfl
  have hreport : (Printout.textPlan service.settings text topMargin bottomFeed timeout).report? = none := by
    rw [Plan.report?, Printout.textPlan]
    cases textJob service.settings (.text text) topMargin bottomFeed <;> rfl
  change RunAlike _ _ (service.run .text
    (fun job => { job with preview := some (String.ofList (preview previewLimit text)) }) timeout
    (buildText service.settings text topMargin bottomFeed) id transport) _ at halike
  rw [Call.advanceTimes_add 3 3]
  generalize Call.advanceTimes 3 _ service = begun at halike ⊢
  unfold printText
  rw [htext]
  dsimp only
  generalize service.run _ _ _ _ _ _ = done at halike ⊢
  cases halike with
  | unbuilt s id e records => exact ⟨rfl, rfl, rfl⟩
  | undelivered s id sent fault records => exact ⟨rfl, rfl, rfl⟩
  | closed s id sent payload records hproduct =>
    simp only [Call.advanceTimes, Call.advance, hreport, Option.isSome_none, Bool.false_eq_true, if_false]
    exact ⟨rfl, rfl, rfl⟩

end Service

variable [Codecs] [Qr.Renderer]

/-- A print is what its call comes to when nothing comes between, and what is refused as blank is no call. -/
theorem Printout.print_alike (printout : Printout) (service : Service) (timeout : Option Quantity)
    (transport : Transport) :
    match printout.plan service.settings timeout with
    | .error e => printout.print service timeout transport = service.refuse e
    | .ok plan => Service.Alike (printout.print service timeout transport)
      (Call.advanceTimes 6 ⟨plan, transport, .asked⟩ service) := by
  cases printout with
  | text document topMargin bottomFeed =>
    simp only [plan, print]
    cases htext : Service.nonblankText "text" document with
    | error e => simp [Service.printText, htext, Except.map]
    | ok text => exact Service.alike_printText _ _ _ _ _ _ htext
  | symbol data =>
    simp only [plan, print, Service.printSymbol]
    cases Service.nonblankText "data_b64" data with
    | error e => rfl
    | ok data => exact Service.alike_runSymbol _ _ _ _ (fun _ => rfl) _ _
  | captioned data caption =>
    simp only [plan, print, Service.printCaptioned]
    cases Service.nonblankText "qr_string" data with
    | error e => rfl
    | ok data => exact Service.alike_runSymbol _ _ _ _ (fun _ => rfl) _ _
  | image data caption =>
    simp only [plan, print, Service.printImage]
    cases Service.nonblankText "data" data with
    | error e => rfl
    | ok data => exact Service.alike_runSymbol _ _ _ _ (fun _ => rfl) _ _

/-- A print is a run of moves: its call comes behind all others, and they rest until it has ended. -/
theorem Printout.print_eq_run (printout : Printout) (calls : Calls) (timeout : Option Quantity) (transport : Transport)
    {plan : Plan} (hplan : printout.plan calls.service.settings timeout = .ok plan) :
    ∃ stage, calls.run (.ask plan transport :: List.replicate 6 (.goOn calls.all.length)) =
        ⟨(printout.print calls.service timeout transport).1, calls.all ++ [⟨plan, transport, stage⟩]⟩ ∧
      stage.result? = some (printout.print calls.service timeout transport).2.result ∧
      stage.delivery? = (printout.print calls.service timeout transport).2.delivery := by
  have halike := printout.print_alike calls.service timeout transport
  rw [hplan] at halike
  refine ⟨_, ?_, halike.result, halike.delivery⟩
  rw [Calls.run_undisturbed, halike.service]

end ThermalPress
