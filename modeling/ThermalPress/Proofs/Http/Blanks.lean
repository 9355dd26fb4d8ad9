import ThermalPress.Proofs.Http.Sessions

/-!
# Blank requests

What comes of a request to print whose fields are all blank (`Server.receive_of_blank`).  A field of blanks is looked at
where it is printed and refused there, but an empty one is passed over for the next field (`document?_eq`), and behind
the last one stands the text of the whole object.  That is never blank (`isBlankText_text_obj`), so a request whose
fields are all empty has a job (`Server.receive_prints_empty_text`).
-/

namespace ThermalPress

namespace DocumentOrder

/-- The text that stands under a name, empty if none does. -/
def given (values : Members Json) (name : String) : String := ((values.find? name).bind Json.text?).getD ""

/-- What stands under the names of an order are blank texts. -/
def AllBlank (values : Members Json) : Prop :=
  ∀ name ∈ fieldNames, ∀ value ∈ values.find? name, ∃ text ∈ value.text?, isBlankText text.toList = true

instance (values : Members Json) : Decidable (AllBlank values) :=
  inferInstanceAs (Decidable (∀ name ∈ fieldNames, ∀ value ∈ values.find? name, ∃ text ∈ value.text?,
    isBlankText text.toList = true))

section AllBlank

variable {values : Members Json} (h : AllBlank values)

include h

theorem AllBlank.find?_eq {name : String} (hname : name ∈ fieldNames) {value : Json}
    (hvalue : values.find? name = some value) :
    ∃ text : String, value = .str text ∧ isBlankText text.toList = true := by
  obtain ⟨text, htext, hblank⟩ := h name hname value hvalue
  cases value with
  | str s =>
    obtain rfl : s = text := Option.some.inj htext
    exact ⟨s, rfl, hblank⟩
  | _ => cases htext

theorem AllBlank.isBlankText_given (name : String) (hname : name ∈ fieldNames) :
    isBlankText (given values name).toList = true := by
  unfold DocumentOrder.given
  cases hvalue : values.find? name with
  | none => rfl
  | some value =>
    obtain ⟨text, rfl, hblank⟩ := h.find?_eq hname hvalue
    exact hblank

theorem AllBlank.exists_order :
    ∃ order, ofValue (.obj values) = .ok order ∧ order.symbol.getD "" = DocumentOrder.given values "data_b64" ∧
      order.text.getD "" = DocumentOrder.given values "text" ∧
      order.message.getD "" = DocumentOrder.given values "message" := by
  have htexts : ∀ name ∈ fieldNames, ∀ value, values.find? name = some value → ∃ text, value = .str text := by
    intro name hname value hvalue
    obtain ⟨text, htext, -⟩ := h.find?_eq hname hvalue
    exact ⟨text, htext⟩
  exact ⟨_, ofValue_of_texts htexts, rfl, rfl, rfl⟩

end AllBlank

theorem isSymbol_eq (order : DocumentOrder) : order.isSymbol = decide (order.symbol.getD "" ≠ "") := by
  unfold isSymbol
  by_cases h : order.symbol.getD "" = "" <;> simp [h]

/-- An empty field is passed over. -/
theorem document?_eq (order : DocumentOrder) : order.document? =
    if order.text.getD "" ≠ "" then some (order.text.getD "")
    else if order.message.getD "" ≠ "" then some (order.message.getD "")
    else none := by
  have hnonempty : ∀ t : Option String, t.filter (!·.isEmpty) = if t.getD "" ≠ "" then some (t.getD "") else none := by
    intro t
    cases t with
    | none => rfl
    | some s => by_cases h : s = "" <;> simp [Option.filter, h]
  unfold document?
  simp only [hnonempty]
  by_cases htext : order.text.getD "" = ""
  · by_cases hmessage : order.message.getD "" = "" <;> simp [htext, hmessage]
  · simp [htext]

end DocumentOrder

/-- The text of an object is not blank: it starts with a brace. -/
theorem Json.isBlankText_text_obj (form : TextForm) (members : Members Json) :
    isBlankText (text form (.obj members)) = false := by
  have hbrace : isBlank '\x7b' = false := by decide
  cases members with
  | nil => simp [text, textAt, isBlankText, hbrace]
  | cons member members => simp [text, textAt, isBlankText, hbrace]

namespace Service

variable [Codecs] (service : Service) (transport : Transport)

/-- A document that is not blank has a job. -/
theorem created_printText {document : String} (h : isBlankText document.toList = false) :
    (service.printText (.str document) none none none transport).1.created = service.created + 1 := by
  have hnonblank : nonblankText "text" (.str document) = .ok document.toList := by
    unfold nonblankText
    dsimp only
    rw [Json.shown, h]
    rfl
  unfold printText
  rw [hnonblank]
  exact created_run ..

end Service

/-- A request holds named values, in an object or in a form that has fields, all of them with names. -/
def Request.Holds [Framework] (request : Request) (values : Members Json) : Prop :=
  (Framework.isJson request = true ∧ Framework.json? request = .ok (some (.obj values))) ∨
    (Framework.isJson request = false ∧
      ∃ form : Form, Framework.form request = .ok form ∧ form ≠ [] ∧ form.hasUnnamed = false ∧ form.values = values)

namespace Server

/-- A blank document is refused. -/
theorem printDocument_of_blank [Codecs] (service : Service) (transport : Transport) {text : String}
    (h : isBlankText text.toList = true) :
    printDocument service text.toList transport = (service, plain (.failure 400 "text must not be empty")) := by
  have hblank : service.printText (.str text) none none none transport = service.refuse (.blank "text") := by
    unfold Service.printText Service.nonblankText
    dsimp only
    rw [Json.shown, h]
    rfl
  rw [printDocument, String.ofList_toList, hblank]
  rfl

/-- Blank data of a symbol are refused. -/
theorem printBareSymbol_of_blank (service : Service) (transport : Transport) {data : String}
    (h : isBlankText data.toList = true) :
    printBareSymbol service data transport = (service, plain (.failure 400 "data_b64 must not be empty")) := by
  have hblank : service.printSymbol (.str data) none transport = service.refuse (.blank "data_b64") := by
    unfold Service.printSymbol Service.nonblankText
    dsimp only
    rw [Json.shown, h]
    rfl
  rw [printBareSymbol, hblank]
  rfl

section Blank

variable [Framework]

theorem printBody_of_holds {request : Request} {values : Members Json} (h : request.Holds values) :
    printBody request = orderBody (DocumentOrder.ofValue (.obj values)) (.obj values) := by
  unfold printBody
  rcases h with ⟨hkind, hjson⟩ | ⟨hkind, form, hform, hfields, hnamed, rfl⟩
  · rw [if_pos hkind, hjson]
    rfl
  · rw [if_neg (Bool.eq_false_iff.1 hkind), hform]
    cases form with
    | nil => exact absurd rfl hfields
    | cons field form =>
      show orderBody (DocumentOrder.ofForm (field :: form)) _ = _
      rw [DocumentOrder.ofForm, hnamed]
      rfl

variable [Codecs]

/-- What a request is taken for whose fields are all blank, by those of them that are not empty. -/
theorem printRequest_of_blank (service : Service) {request : Request} (transport : Transport) {values : Members Json}
    (hvalues : request.Holds values) (hblank : DocumentOrder.AllBlank values) :
    printRequest service request transport =
      if DocumentOrder.given values "data_b64" ≠ "" then
        (service, plain (.failure 400 "data_b64 must not be empty"))
      else if DocumentOrder.given values "text" ≠ "" ∨ DocumentOrder.given values "message" ≠ "" then
        (service, plain (.failure 400 "text must not be empty"))
      else if Framework.writes (.obj values) then
        printDocument service (Json.text Json.plainForm (.obj values)) transport
      else (service, plain (.bare 500)) := by
  obtain ⟨order, horder, hsymbol, htext, hmessage⟩ := hblank.exists_order
  have hdata := hblank.isBlankText_given "data_b64" (by decide)
  have hblankText := hblank.isBlankText_given "text" (by decide)
  have hblankMessage := hblank.isBlankText_given "message" (by decide)
  rw [printRequest, printBody_of_holds hvalues, horder, orderBody]
  rw [DocumentOrder.isSymbol_eq, DocumentOrder.document?_eq, hsymbol, htext, hmessage]
  by_cases hgiven : DocumentOrder.given values "data_b64" = ""
  · rw [if_neg (by simpa using hgiven), if_neg (not_not.2 hgiven)]
    by_cases hgivenText : DocumentOrder.given values "text" = ""
    · by_cases hgivenMessage : DocumentOrder.given values "message" = ""
      · by_cases hwrites : Framework.writes (.obj values) = true <;>
          simp [hgivenText, hgivenMessage, writtenBody, hwrites]
      · rw [if_neg (not_not.2 hgivenText), if_pos hgivenMessage, if_pos (.inr hgivenMessage)]
        exact printDocument_of_blank service transport hblankMessage
    · rw [if_pos hgivenText, if_pos (.inl hgivenText)]
      exact printDocument_of_blank service transport hblankText
  · rw [if_pos (by simpa using hgiven), if_pos hgiven]
    exact printBareSymbol_of_blank service transport hdata

variable [Qr.Renderer]

/-- What comes of a request whose fields are all blank, by those of them that are not empty.  Unless it is too long,
it is refused for the symbol or for the text, but one whose fields are all empty is a document of its own text.  That
text can always be written unless the request holds something else than texts. -/
theorem receive_of_blank (server : Server) {visit : Visit} {values : Members Json}
    (hmethod : visit.request.method.toUpper = "POST")
    (hroute : Route.of "POST" visit.request.target.path = .found .print)
    (hvalues : visit.request.Holds values) (hblank : DocumentOrder.AllBlank values) :
    let given := DocumentOrder.given values
    let done := server.receive visit
    if Framework.exceeds visit.request server.bodyLimit then done = (server, plain (.bare 413))
    else if given "data_b64" ≠ "" then done = (server, plain (.failure 400 "data_b64 must not be empty"))
    else if given "text" ≠ "" ∨ given "message" ≠ "" then done = (server, plain (.failure 400 "text must not be empty"))
    else if Framework.writes (.obj values) then
      let printing := printDocument server.service (Json.text Json.plainForm (.obj values)) visit.transport
      printing.1.created = server.service.created + 1 ∧ done = ({ server with service := printing.1 }, printing.2)
    else done = (server, plain (.bare 500)) ∧
      ∃ member ∈ values, ∀ text, member.2 ≠ .str text := by
  intro given done
  have hdone : done = _ := server.receive_print hmethod hroute
  rw [printRequest_of_blank server.service visit.transport hvalues hblank] at hdone
  split
  · next hexceeds => rw [hdone, if_pos hexceeds]
  next hexceeds =>
  rw [if_neg hexceeds] at hdone
  split
  · next hdata => rw [hdone, if_pos hdata]
  next hdata =>
  rw [if_neg hdata] at hdone
  split
  · next htext => rw [hdone, if_pos htext]
  next htext =>
  rw [if_neg htext] at hdone
  split
  · next hwrites =>
    rw [if_pos hwrites] at hdone
    refine ⟨?_, hdone⟩
    -- the text of the object is not blank, so it has a job
    rw [printDocument]
    refine Service.created_printText _ _ ?_
    rw [String.toList_ofList]
    exact Json.isBlankText_text_obj ..
  · next hwrites =>
    rw [if_neg hwrites] at hdone
    refine ⟨hdone, ?_⟩
    by_contra hnone
    push Not at hnone
    exact hwrites (Framework.writes_texts values hnone)

end Blank

open scoped Libraries

/-- What is posted to be printed. -/
private def posted (contentType body : String) : Request where
  method := "POST"
  target := .ofText "/print".toList
  contentType := some contentType
  body := Utf8.encode body.toList

/-- A form with empty data and a message of one blank is refused for its text. -/
theorem receive_of_blank_message :
    let server : Server := ⟨Service.ofSettings {} 200 ⟨0, 1⟩, some defaultBodyLimit⟩
    let visit : Visit := ⟨posted "application/x-www-form-urlencoded" "data_b64=&message=+", 0, .sound⟩
    let values : Members Json := [("data_b64", .str ""), ("message", .str " ")]
    visit.request.Holds values ∧ DocumentOrder.AllBlank values ∧
      server.receive visit = (server, plain (.failure 400 "text must not be empty")) := by
  intro server visit values
  have hvalues : visit.request.Holds values := by
    refine .inr ⟨by decide +kernel, [⟨some "data_b64", ""⟩, ⟨some "message", " "⟩], ?_⟩
    decide +kernel
  have hblank : DocumentOrder.AllBlank values := by decide +kernel
  have hmethod : visit.request.method.toUpper = "POST" := by decide +kernel
  have hroute : Route.of "POST" visit.request.target.path = .found .print := by decide +kernel
  have hreceive := receive_of_blank server hmethod hroute hvalues hblank
  rw [if_neg (by decide +kernel), if_neg (by decide +kernel), if_pos (by decide +kernel)] at hreceive
  exact ⟨hvalues, hblank, hreceive⟩

/-- An object with nothing but an empty text is printed. -/
theorem receive_prints_empty_text :
    let server : Server := ⟨Service.ofSettings {} 200 ⟨0, 1⟩, some defaultBodyLimit⟩
    let visit : Visit := ⟨posted "application/json" "\x7b\"text\": \"\"\x7d", 0, .sound⟩
    let values : Members Json := [("text", .str "")]
    let done := server.receive visit
    visit.request.Holds values ∧ DocumentOrder.AllBlank values ∧
      done.2.response.toOption.map (·.status) = some 200 ∧
      done.1.service.registry.jobs.map (fun job => (job.status, job.preview)) =
        [(.success, some "\x7b\"text\": \"\"\x7d")] ∧
      done.2.delivery.map (·.written.length) = some 2 := by
  refine ⟨.inl ⟨?_, ?_⟩, ?_, ?_, ?_, ?_⟩ <;> decide +kernel

end Server

end ThermalPress
