import ThermalPress.Proofs.Jobs.Stages
import ThermalPress.Proofs.Qr.Fallback

/-!
# Receipts of symbols

What a receipt says of a symbol is found in it whether or not the record of the job is still there
(`Receipt.lookup_members`).  Each of the three ways to build a symbol job puts the frame of its request into the bytes,
unless they hold an image (`Qr.Job.Carries`).  So the receipt of a printed symbol tells what the printer was sent,
whatever other calls there were meanwhile (`receipt_tells_symbol`).
-/

namespace ThermalPress

/-! ### Named values -/

/-- The names that a record has values of its own for. -/
def JobRecord.names : List String :=
  ["id", "type", "status", "port", "created_at", "updated_at", "preview", "text", "bytes", "error"]

private theorem members_split (record : JobRecord) :
    ∃ own : Members Json, record.members = own ++ (record.symbol.map SymbolReport.members).getD [] ∧
      ∀ p ∈ own, p.1 ∈ JobRecord.names := by
  refine ⟨_, rfl, fun p hp => ?_⟩
  simp only [List.mem_append] at hp
  rcases hp with (((hp | hp) | hp) | hp) | hp
  · exact List.mem_append_left ["preview", "text", "bytes", "error"] (List.mem_map_of_mem hp)
  all_goals
    obtain ⟨value, -, rfl⟩ := List.mem_map.1 hp
    simp [JobRecord.names]

private theorem lookup_append_of_forall {α : Type} {own others : Members α} {key : String} {names : List String}
    (hown : ∀ p ∈ own, p.1 ∈ names) (hkey : key ∉ names) : (own ++ others).lookup key = others.lookup key := by
  have hnone : own.lookup key = none := by
    refine List.lookup_eq_none_iff.2 fun p hp => ?_
    simp only [bne_iff_ne, ne_eq]
    rintro rfl
    exact hkey (hown p hp)
  rw [List.lookup_append, hnone, Option.none_or]

/-- Whether or not there is a record, a receipt has what is known of the symbol. -/
theorem Receipt.lookup_members {receipt : Receipt} {report : SymbolReport} (hsymbol : receipt.symbol = some report)
    (hrecord : ∀ record, receipt.record = some record → record.symbol = some report) {key : String}
    (hkey : key ∉ JobRecord.names) (htest : key ≠ "test_data") :
    receipt.members.lookup key = report.members.lookup key := by
  have htestNone : (receipt.testData.toList.map fun data => ("test_data", Json.str data)).lookup key = none := by
    refine List.lookup_eq_none_iff.2 fun p hp => ?_
    obtain ⟨data, -, rfl⟩ := List.mem_map.1 hp
    simpa using htest
  unfold Receipt.members
  dsimp only
  rw [List.lookup_append, htestNone, Option.or_none]
  cases hheld : receipt.record with
  | none =>
    rw [hsymbol]
    refine lookup_append_of_forall (fun p hp => ?_) hkey
    have hnames : p.1 ∈ ["id", "status"] := List.mem_map_of_mem hp
    rcases List.mem_cons.1 hnames with h | h
    · rw [h]
      decide
    · rw [List.mem_singleton.1 h]
      decide
  | some record =>
    obtain ⟨own, hmembers, hown⟩ := members_split record
    dsimp only
    rw [hmembers, hrecord record hheld]
    exact lookup_append_of_forall hown hkey

/-! ### What the jobs hold -/

namespace Qr

variable [Codecs]

/-- The job has the frame of its request, and unless an image is printed its bytes carry it. -/
structure Job.Carries (job : Job) (request : Request) (caption : Option (List Char)) (bottomFeed : Int)
    (encoding : String) : Prop where
  framed : Qr.frame request = .ok job.frame
  bare : job.presentation = .bare →
    job.data = beforeSymbol ++ job.frame.commands ++ bareJobFeed ++ Command.align .left
  captioned : job.presentation = .caption → ∃ text, encodedCaption caption encoding = .ok text ∧
    job.data = beforeSymbol ++ job.frame.commands ++ behindSymbol text bottomFeed

section Builders

variable {request : Request} {caption : Option (List Char)} {bottomFeed : Int} {encoding : String} {job : Job}

private theorem captionedBytes_eq_ok {symbol data : Bytes}
    (h : captionedBytes symbol caption bottomFeed encoding = .ok data) :
    ∃ text, encodedCaption caption encoding = .ok text ∧
      data = beforeSymbol ++ symbol ++ behindSymbol text bottomFeed := by
  obtain ⟨text, htext, -⟩ := bind_eq_ok_iff.1 h
  rw [captionedBytes_eq htext] at h
  exact ⟨text, htext, (Except.ok.inj h).symm⟩

theorem carries_of_bareJob (h : bareJob request = .ok job) :
    job.Carries request caption bottomFeed encoding ∧ job.fallback = false := by
  simp only [bareJob, bind_eq_ok_iff, liftFrame_eq_ok_iff, pure_eq_ok_iff] at h
  obtain ⟨f, hf, rfl⟩ := h
  exact ⟨⟨hf, fun _ => rfl, fun hcaption => (by cases hcaption)⟩, rfl⟩

theorem carries_of_captionedJob (h : captionedJob request caption bottomFeed encoding = .ok job) :
    job.Carries request caption bottomFeed encoding ∧ job.fallback = false := by
  simp only [captionedJob, bind_eq_ok_iff, liftFrame_eq_ok_iff, liftEncoding_eq_ok_iff, pure_eq_ok_iff] at h
  obtain ⟨f, hf, data, hdata, rfl⟩ := h
  exact ⟨⟨hf, fun hbare => (by cases hbare), fun _ => captionedBytes_eq_ok hdata⟩, rfl⟩

theorem carries_of_imageJob [Renderer] {maxWidth : Int} {profile : Option String}
    (h : imageJob request caption bottomFeed encoding maxWidth profile = .ok job) :
    job.Carries request caption bottomFeed encoding := by
  simp only [imageJob, bind_eq_ok_iff, liftFrame_eq_ok_iff] at h
  obtain ⟨f, hf, h⟩ := h
  split at h
  · simp only [bind_eq_ok_iff, liftEncoding_eq_ok_iff, pure_eq_ok_iff] at h
    obtain ⟨data, -, rfl⟩ := h
    exact ⟨hf, fun hbare => (by cases hbare), fun hcaption => (by cases hcaption)⟩
  · split at h
    · simp only [bind_eq_ok_iff, liftEncoding_eq_ok_iff, pure_eq_ok_iff] at h
      obtain ⟨data, hdata, rfl⟩ := h
      exact ⟨hf, fun hbare => (by cases hbare), fun _ => captionedBytes_eq_ok hdata⟩
    · rw [pure_eq_ok_iff] at h
      subst h
      exact ⟨hf, fun _ => rfl, fun hcaption => (by cases hcaption)⟩
  · cases h

/-- Unless it is an image, the job prints the symbol and what is fed and written under it, between its alignments. -/
theorem Job.Carries.bytes (h : job.Carries request caption bottomFeed encoding) (hnative : job.presentation ≠ .image) :
    ∃ tail, job.data = Command.reset ++ Command.align .center ++ job.frame.commands ++ tail ++ Command.align .left ∧
      (job.presentation = .bare → tail = Command.lineFeed ++ Command.lineFeed ++ Command.lineFeed) ∧
      (job.presentation = .caption → ∃ text, encodedCaption caption encoding = .ok text ∧
        tail = Command.lineFeed ++ text ++ Command.blankLines bottomFeed) := by
  cases hpresentation : job.presentation with
  | image => exact absurd hpresentation hnative
  | bare =>
    refine ⟨bareJobFeed, ?_, fun _ => rfl, nofun⟩
    rw [h.bare hpresentation]
    rfl
  | caption =>
    obtain ⟨text, htext, hdata⟩ := h.captioned hpresentation
    refine ⟨_, ?_, nofun, fun _ => ⟨text, htext, rfl⟩⟩
    rw [hdata]
    simp only [beforeSymbol, behindSymbol, List.append_assoc]

end Builders

end Qr

namespace Printout

def data? : Printout → Option Json
  | .text .. => none
  | .symbol data | .captioned data _ | .image data _ => some data

def caption? : Printout → Option (List Char)
  | .text .. | .symbol _ => none
  | .captioned _ caption | .image _ caption => some caption.toList

theorem eq_shown_of_nonblankText {what : String} {value : Json} {text : List Char}
    (h : Service.nonblankText what value = .ok text) : text = value.shown := by
  unfold Service.nonblankText at h
  split at h
  · cases h
  · split at h
    · cases h
    · exact (Except.ok.inj h).symm

/-- What was built for a symbol carries it, and only an image can fall back. -/
theorem carries_of_plan [Codecs] [Qr.Renderer] {printout : Printout} {settings : Settings} {timeout : Option Quantity} {plan : Plan}
    (hplan : printout.plan settings timeout = .ok plan) {data : Json} (hdata : printout.data? = some data)
    {product : Product} (hproduct : plan.product = .ok product) :
    ∃ job, product = ⟨job.data, some job⟩ ∧
      job.Carries (.ofSettings settings (CodePoint.ofChars data.shown)) printout.caption? settings.autoFeedLines
        settings.encoding ∧
      (job.fallback = true → ∃ caption, printout = .image data caption) := by
  cases printout with
  | text document topMargin bottomFeed => cases hdata
  | symbol value =>
    obtain rfl := Option.some.inj hdata
    obtain ⟨text, htext, rfl⟩ := map_eq_ok_iff.1 hplan
    obtain ⟨job, hjob, rfl⟩ := map_eq_ok_iff.1 hproduct
    rw [eq_shown_of_nonblankText htext] at hjob
    obtain ⟨hcarries, hfallback⟩ := Qr.carries_of_bareJob hjob
    refine ⟨job, rfl, hcarries, fun h => ?_⟩
    rw [hfallback] at h
    cases h
  | captioned value caption =>
    obtain rfl := Option.some.inj hdata
    obtain ⟨text, htext, rfl⟩ := map_eq_ok_iff.1 hplan
    obtain ⟨job, hjob, rfl⟩ := map_eq_ok_iff.1 hproduct
    rw [eq_shown_of_nonblankText htext] at hjob
    obtain ⟨hcarries, hfallback⟩ := Qr.carries_of_captionedJob hjob
    refine ⟨job, rfl, hcarries, fun h => ?_⟩
    rw [hfallback] at h
    cases h
  | image value caption =>
    obtain rfl := Option.some.inj hdata
    obtain ⟨text, htext, rfl⟩ := map_eq_ok_iff.1 hplan
    obtain ⟨job, hjob, rfl⟩ := map_eq_ok_iff.1 hproduct
    rw [eq_shown_of_nonblankText htext] at hjob
    exact ⟨job, rfl, Qr.carries_of_imageJob hjob, fun _ => ⟨caption, rfl⟩⟩

end Printout

/-! ### What a receipt tells -/

/-- The receipt of a printed symbol tells what the printer was sent: `kept` is the part of the data that the symbol
holds. -/
structure TellsSymbol [Codecs] (receipt : Receipt) (sent : Sent) (settings : Settings) (caption : Option (List Char))
    (data kept : List Char) (mode : Qr.Presentation) (fallback : Bool) : Prop where
  tellsMode : receipt.members.lookup "mode" = some (.str mode.name)
  tellsFallback : receipt.members.lookup "fallback" = some (.bool fallback)
  tellsLength : receipt.members.lookup "qr_length" = some (.int (Utf8.encode kept).length)
  tellsTruncated : receipt.members.lookup "truncated" =
    some (.bool ((Utf8.encode kept).length < (Utf8.encode data).length))
  warns : receipt.members.lookup "warning" =
    if (Utf8.encode kept).length < (Utf8.encode data).length then
      some (.str (Qr.truncationText (Utf8.encode data).length (Utf8.encode kept).length))
    else none
  /-- No more characters of the data can be written within the limit. -/
  longest : kept <+: data ∧ (Utf8.encode kept).length ≤ settings.maxQrLength ∧
    ∀ other, other <+: data → (Utf8.encode other).length ≤ settings.maxQrLength → other <+: kept
  written : sent.delivery.written = [sent.job.payload, Command.flush]
  /-- Unless an image is printed, the bytes hold the five commands of the symbol and what comes under it. -/
  wire : mode ≠ .image → ∃ commands tail,
    sent.job.payload = Command.reset ++ Command.align .center ++ commands ++ tail ++ Command.align .left ∧
    (∀ rest, Printer.readTimes 5 (commands ++ rest) = some
      ([.selectModel 50, .moduleSize settings.qrSize, .errorCorrection settings.qrErrorLevel,
        .store (Utf8.encode kept), .printStored], rest)) ∧
    (mode = .bare → tail = Command.lineFeed ++ Command.lineFeed ++ Command.lineFeed) ∧
    (mode = .caption → ∃ text, Qr.encodedCaption caption settings.encoding = .ok text ∧
      tail = Command.lineFeed ++ text ++ Command.blankLines settings.autoFeedLines)

private theorem lookup_report (report : SymbolReport) :
    report.members.lookup "mode" = some (.str report.presentation.name) ∧
      report.members.lookup "fallback" = some (.bool report.fallback) ∧
      report.members.lookup "qr_length" = some (.int report.length) ∧
      report.members.lookup "truncated" = some (.bool report.truncated) ∧
      report.members.lookup "warning" = report.warning.map .str := by
  refine ⟨rfl, rfl, rfl, rfl, ?_⟩
  obtain ⟨presentation, fallback, length, truncated, warning⟩ := report
  cases warning <;> rfl

/-- Whatever calls there are at a service with validated settings, the receipt of a symbol that was printed tells what
the printer was sent, and only an image falls back. -/
theorem receipt_tells_symbol [Codecs] [Qr.Renderer] {values : Members Json} {settings : Settings}
    (hvalues : Settings.validate values = .ok settings) {limit : Nat} {clock : Clock} {moves : List Calls.Move}
    {call : Call} (hcall : call ∈ ((Calls.start settings limit clock).run moves).all) {printout : Printout}
    {timeout : Option Quantity} (hplan : printout.plan settings timeout = .ok call.plan) {data : Json}
    (hdata : printout.data? = some data) (hanswers : call.transport.Answers) {id : String} {sent : Sent}
    {receipt : Receipt} (hreturned : call.stage = .returned id sent receipt) :
    ∃ kept mode fallback,
      TellsSymbol receipt sent settings printout.caption? data.shown kept mode fallback ∧
        (fallback = true → ∃ caption, printout = .image data caption) := by
  obtain ⟨i, hcall⟩ := List.getElem?_of_mem hcall
  have hhonest := ((Calls.sound_start settings limit clock).run moves).honest i call hcall
  rw [Call.Honest, hreturned] at hhonest
  obtain ⟨⟨⟨⟨product, hproduct, hjob⟩, hdelivery⟩, hdone⟩, -, hsymbol, hrecord⟩ := hhonest
  obtain ⟨job, rfl, hcarries, hfallback⟩ := Printout.carries_of_plan hplan hdata hproduct
  have hreport : call.plan.report? = some (.ofJob job) := by
    rw [Plan.report?, hproduct]
    rfl
  rw [hreport] at hsymbol hrecord
  -- the record has no values of its own under these names, so all of them come from the report
  have hlookup : ∀ key, key ∉ JobRecord.names → key ≠ "test_data" →
      receipt.members.lookup key = (SymbolReport.ofJob job).members.lookup key :=
    fun key => Receipt.lookup_members hsymbol hrecord
  obtain ⟨hmode, hfalls, hlength, htruncated, hwarning⟩ := lookup_report (.ofJob job)
  have hlimit : 0 ≤ settings.maxQrLength :=
    Int.le_trans Int.one_nonneg (Settings.inRange_of_validate hvalues).maxQrLength.1
  obtain ⟨kept, hpayload, hlongest⟩ := Qr.cutPayload_longest hlimit data.shown
  obtain ⟨hkept, hlengths⟩ : job.frame.payload = Utf8.encode kept ∧
      job.frame.dataLength = (Utf8.encode data.shown).length := by
    have hframed := (Qr.frame_eq_ok_iff.1 hcarries.framed).1
    rw [Qr.payload_ofSettings, hpayload, Except.ok.injEq, Qr.Payload.mk.injEq] at hframed
    exact ⟨hframed.1.symm, hframed.2.symm⟩
  have hcut : job.frame.truncated = decide ((Utf8.encode kept).length < (Utf8.encode data.shown).length) := by
    rw [Qr.Frame.truncated, hkept, hlengths]
  refine ⟨kept, job.presentation, job.fallback, ⟨?_, ?_, ?_, ?_, ?_, hlongest, ?_, ?_⟩, hfallback⟩
  · rw [hlookup _ (by decide) (by decide), hmode]
    rfl
  · rw [hlookup _ (by decide) (by decide), hfalls]
    rfl
  · rw [hlookup _ (by decide) (by decide), hlength, ← hkept]
    rfl
  · rw [hlookup _ (by decide) (by decide), htruncated, ← hcut]
    rfl
  · rw [hlookup _ (by decide) (by decide), hwarning, SymbolReport.ofJob, hcut, hkept, hlengths]
    split <;> simp_all
  · rw [hdelivery] at hdone ⊢
    rcases (hanswers.error?_cases sent.job settings.endpointName).2 with ⟨-, hwritten⟩ | ⟨e, he⟩
    · exact hwritten
    · rw [hdone] at he
      cases he
  · intro hnative
    have hread : ∀ rest, Printer.readTimes 5 (job.frame.commands ++ rest) = some
        ([.selectModel 50, .moduleSize settings.qrSize, .errorCorrection settings.qrErrorLevel,
          .store (Utf8.encode kept), .printStored], rest) := by
      intro rest
      rw [Qr.Frame.read_commands hcarries.framed rest, Qr.Request.commands, hkept]
      rfl
    obtain ⟨tail, hdata, hbare, hcaption⟩ := hcarries.bytes hnative
    have hsent : sent.job.payload = job.data := congrArg PrintJob.payload hjob
    exact ⟨job.frame.commands, tail, hsent.trans hdata, hread, hbare, hcaption⟩

/-! A registry that keeps no records, and data of which half goes into the symbol. -/

section Euros

open scoped Libraries

private def narrow : Settings := { maxQrLength := 4 }

private def euros : Printout := .captioned (.str "€€") "Pay"

private def eurosPlan : Plan :=
  Printout.symbolPlan .captionedSymbol (some "Pay") none
    (Qr.captionedJob (.ofSettings narrow (CodePoint.ofChars ['€', '€'])) (some "Pay".toList) 4 "cp437")

private theorem openJob_of_limit_zero (settings : Settings) (clock : Clock) (kind : JobKind)
    (fill : JobRecord → JobRecord) :
    ((Service.ofSettings settings 0 clock).openJob kind fill).2.registry.jobs = [] := by
  simp [Service.openJob, Service.ofSettings, Registry.create, Registry.empty, Registry.dropOldestTimes,
    Registry.dropOldest, Registry.oldest?]

private theorem changeJob_of_jobs_nil {service : Service} (h : service.registry.jobs = []) (id : String)
    (change : JobRecord → JobRecord) : service.changeJob id change = service := by
  simp [Service.changeJob, Registry.contains, Registry.get?, h]

private theorem validate_narrow : Settings.validate [("max_qr_length", .int 4)] = .ok narrow := by rfl

private theorem returned_euros (clock : Clock) : ∃ id sent receipt,
    (Call.advanceTimes 6 ⟨eurosPlan, .sound, .asked⟩ (.ofSettings narrow 0 clock)).2 = .returned id sent receipt ∧
      receipt.record = none := by
  obtain ⟨f, hframe⟩ := Qr.exists_frame_ofSettings (Settings.inRange_of_validate validate_narrow) ['€', '€']
  obtain ⟨text, htext⟩ := Qr.exists_encodedCaption isPage_cp437.encode (some "Pay".toList)
  obtain ⟨job, hjob⟩ : ∃ job,
      Qr.captionedJob (.ofSettings narrow (CodePoint.ofChars ['€', '€'])) (some "Pay".toList) 4 "cp437" = .ok job :=
    ⟨_, Qr.captionedJob_of_frame hframe htext 4⟩
  have hproduct : eurosPlan.product = .ok ⟨job.data, some job⟩ := by
    rw [eurosPlan, hjob]
    rfl
  have hreport : eurosPlan.report? = some (.ofJob job) := by
    rw [Plan.report?, hproduct]
    rfl
  have hempty := openJob_of_limit_zero narrow clock eurosPlan.kind eurosPlan.fill
  simp only [Call.advanceTimes, Call.advance, hproduct, hreport, Transport.error?_sound, Option.isSome_some, if_true,
    changeJob_of_jobs_nil hempty]
  refine ⟨_, _, _, rfl, ?_⟩
  simp [Registry.get?, hempty]

/-- Of two characters the symbol holds the one that fits, and the receipt says so without a record. -/
theorem receipt_tells_symbol_evicted :
    ∃ call id sent receipt,
      call ∈ ((Calls.start narrow 0 ⟨0, 1⟩).run (.ask eurosPlan .sound :: List.replicate 6 (.goOn 0))).all ∧
      call.stage = .returned id sent receipt ∧ receipt.record = none ∧
      receipt.members.lookup "qr_length" = some (.int 3) ∧
      receipt.members.lookup "warning" = some (.str "QR data truncated from 6 to 3 bytes") := by
  obtain ⟨id, sent, receipt, hstage, hrecord⟩ := returned_euros ⟨0, 1⟩
  have hcall : (⟨eurosPlan, .sound, .returned id sent receipt⟩ : Call) ∈
      ((Calls.start narrow 0 ⟨0, 1⟩).run (.ask eurosPlan .sound :: List.replicate 6 (.goOn 0))).all := by
    have hrun := Calls.run_undisturbed (Calls.start narrow 0 ⟨0, 1⟩) eurosPlan .sound 6
    simp only [Calls.start, hstage] at hrun
    have hall := congrArg Calls.all hrun
    exact hall ▸ List.mem_singleton_self _
  have hplan : euros.plan narrow none = .ok eurosPlan := by rfl
  obtain ⟨kept, mode, fallback, htells, -⟩ :=
    receipt_tells_symbol validate_narrow hcall hplan rfl Transport.answers_sound rfl
  obtain ⟨hinitial, hwithin, hlongest⟩ := htells.longest
  have hkept : kept = ['€'] := by
    obtain ⟨rest, rfl⟩ : ['€'] <+: kept := hlongest _ (by decide) (by decide)
    cases rest with
    | nil => rfl
    | cons c rest =>
      obtain ⟨rfl, hrest⟩ := List.cons_prefix_cons.1 (List.cons_prefix_cons.1 hinitial).2
      obtain rfl := List.prefix_nil.1 hrest
      exact absurd hwithin (by decide)
  subst hkept
  exact ⟨_, id, sent, receipt, hcall, rfl, hrecord, htells.tellsLength, htells.warns⟩

end Euros

end ThermalPress
