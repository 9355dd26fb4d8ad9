import ThermalPress.Libraries.Encodings
import ThermalPress.Proofs.Printer.SymbolCommands
import ThermalPress.Proofs.Settings.Ranges
import ThermalPress.Proofs.Text.CodePoints
import ThermalPress.Proofs.Text.Utf8Prefixes
import ThermalPress.Qr.Request

/-!
# Frames

The commands for a symbol can be written exactly if the data are characters and the size, the level and the length of
the payload fit their places (`frame_eq_error_iff`), which validated settings see to (`fits_ofSettings_iff`).  A printer reads the frame as the five
commands of the request and is then at the first byte behind it, whatever the payload holds (`Frame.read_commands`), so
a frame tells all that it was made of (`frame_read_back`).
-/

namespace ThermalPress.Qr

/-- A payload does not go beyond the limit. -/
theorem length_cutPayload_le {limit : Int} (h : 0 ≤ limit) (encoded : Bytes) :
    ((cutPayload encoded limit).length : Int) ≤ limit := by
  unfold cutPayload
  split
  · next hfits => exact hfits
  · have hcut := Utf8.length_encode_decodeKeeping_le (takeUpTo limit encoded)
    have htake : (takeUpTo limit encoded).length ≤ limit.toNat := by
      rw [takeUpTo, if_pos h]
      exact List.length_take_le ..
    omega

/-- A payload is what can be written of the data within the limit, in whole characters. -/
theorem cutPayload_encode {limit : Int} (h : 0 ≤ limit) (data : List Char) :
    cutPayload (Utf8.encode data) limit = Utf8.encode (Utf8.fitting limit.toNat data) := by
  unfold cutPayload
  split
  · rw [Utf8.fitting_of_length_le (by omega)]
  · rw [takeUpTo, if_pos h, Utf8.decodeKeeping_take_encode]

/-- A request has a payload exactly if its data are characters. -/
theorem payload_eq_ok_iff {request : Request} {p : Payload} : request.payload = .ok p ↔
    ∃ data, request.data = CodePoint.ofChars data ∧
      p = ⟨cutPayload (Utf8.encode data) request.maxLength, (Utf8.encode data).length⟩ := by
  simp only [Request.payload, truncate, bind_eq_ok_iff, pure_eq_ok_iff, Utf8.encodeStrict_eq_ok_iff]
  constructor
  · rintro ⟨_, ⟨data, hdata, rfl⟩, rfl⟩
    exact ⟨data, hdata, rfl⟩
  · rintro ⟨data, hdata, rfl⟩
    exact ⟨_, ⟨data, hdata, rfl⟩, rfl⟩

/-- Characters are cut to the limit of the settings. -/
theorem payload_ofSettings (settings : Settings) (data : List Char) :
    (Request.ofSettings settings (CodePoint.ofChars data)).payload =
      .ok ⟨cutPayload (Utf8.encode data) settings.maxQrLength, (Utf8.encode data).length⟩ :=
  payload_eq_ok_iff.2 ⟨data, rfl, rfl⟩

theorem exists_payload_iff {request : Request} :
    (∃ p, request.payload = .ok p) ↔ ∀ n, CodePoint.surrogate n ∉ request.data := by
  rw [← CodePoint.exists_ofChars_iff]
  constructor
  · rintro ⟨p, hp⟩
    obtain ⟨data, hdata, -⟩ := payload_eq_ok_iff.1 hp
    exact ⟨data, hdata⟩
  · rintro ⟨data, hdata⟩
    exact ⟨_, payload_eq_ok_iff.2 ⟨data, hdata, rfl⟩⟩

/-- The payload is the longest initial part of the data that can be written within the limit. -/
theorem cutPayload_longest {limit : Int} (h : 0 ≤ limit) (data : List Char) :
    ∃ kept, cutPayload (Utf8.encode data) limit = Utf8.encode kept ∧ kept <+: data ∧
      (Utf8.encode kept).length ≤ limit ∧
      ∀ other, other <+: data → (Utf8.encode other).length ≤ limit → other <+: kept := by
  have hwithin := Utf8.length_encode_fitting_le limit.toNat data
  refine ⟨_, cutPayload_encode h data, Utf8.fitting_isPrefix _ data, by omega, ?_⟩
  intro other hinitial hother
  refine Utf8.isPrefix_fitting hinitial ?_
  omega

/-! ### The commands of a frame -/

theorem symbolCommands_eq_ok_iff {size errorLevel : Int} {payload commands : Bytes} :
    symbolCommands size errorLevel payload = .ok commands ↔
      ∃ model sized levelled stored, Command.selectModel Command.symbolModel = .ok model ∧
        Command.moduleSize size = .ok sized ∧ Command.errorCorrection errorLevel = .ok levelled ∧
        Command.store payload = .ok stored ∧
        commands = model ++ sized ++ levelled ++ stored ++ Command.printStored := by
  simp only [symbolCommands, bind_eq_ok_iff, pure_eq_ok_iff]
  constructor
  · rintro ⟨model, hmodel, sized, hsized, levelled, hlevelled, stored, hstored, rfl⟩
    exact ⟨model, sized, levelled, stored, hmodel, hsized, hlevelled, hstored, rfl⟩
  · rintro ⟨model, sized, levelled, stored, hmodel, hsized, hlevelled, hstored, rfl⟩
    exact ⟨model, hmodel, sized, hsized, levelled, hlevelled, stored, hstored, rfl⟩

/-- A size, a level and a payload can be written exactly if each fits its place. -/
theorem exists_symbolCommands_iff {size errorLevel : Int} {payload : Bytes} :
    (∃ commands, symbolCommands size errorLevel payload = .ok commands) ↔
      (1 ≤ size ∧ size ≤ 16) ∧ (48 ≤ errorLevel ∧ errorLevel ≤ 51) ∧ payload.length ≤ 65532 := by
  constructor
  · rintro ⟨commands, hcommands⟩
    obtain ⟨_, _, _, _, -, hsized, hlevelled, hstored, -⟩ := symbolCommands_eq_ok_iff.1 hcommands
    exact ⟨(Command.moduleSize_eq_ok_iff.1 hsized).1, (Command.errorCorrection_eq_ok_iff.1 hlevelled).1,
      (Command.store_eq_ok_iff.1 hstored).1⟩
  · rintro ⟨hsize, hlevel, hlength⟩
    obtain ⟨bytes, hbytes⟩ : ∃ bytes, Command.lengthPrefix ([49, 80, 48] ++ payload).length = .ok bytes := by
      rw [Command.lengthPrefix, if_pos (by simp only [List.length_append, List.length_cons, List.length_nil]; omega)]
      exact ⟨_, rfl⟩
    exact ⟨_, symbolCommands_eq_ok_iff.2 ⟨_, _, _, _, Command.selectModel_symbolModel,
      Command.moduleSize_eq_ok_iff.2 ⟨hsize, rfl⟩, Command.errorCorrection_eq_ok_iff.2 ⟨hlevel, rfl⟩,
      Command.store_eq_ok_iff.2 ⟨hlength, bytes, hbytes, rfl⟩, rfl⟩⟩

/-- A frame holds the payload of the request and the commands for it. -/
theorem frame_eq_ok_iff {request : Request} {f : Frame} : frame request = .ok f ↔
    request.payload = .ok ⟨f.payload, f.dataLength⟩ ∧
      symbolCommands request.size request.errorLevel f.payload = .ok f.commands := by
  unfold frame buildFrame
  cases hpayload : request.payload with
  | error e => simp
  | ok p =>
    simp only [bind_eq_ok_iff, mapError_eq_ok_iff, pure_eq_ok_iff, Except.ok.injEq]
    constructor
    · rintro ⟨commands, hcommands, rfl⟩
      exact ⟨rfl, hcommands⟩
    · rintro ⟨rfl, hcommands⟩
      exact ⟨f.commands, hcommands, rfl⟩

theorem payload_of_frame {request : Request} {f : Frame} {p : Payload} (h : frame request = .ok f)
    (hp : request.payload = .ok p) : f.payload = p.bytes := by
  have hkept := (frame_eq_ok_iff.1 h).1
  rw [hp, Except.ok.injEq] at hkept
  rw [hkept]

/-- Building a frame warns once exactly if the payload lacks some of the data. -/
theorem warnings_buildFrame {request : Request} {p : Payload} (h : request.payload = .ok p) :
    (buildFrame request).warnings =
      if p.bytes.length < p.dataLength then [⟨p.dataLength, p.bytes.length⟩] else [] := by
  unfold buildFrame
  rw [h]

/-- The values of a request fit their places in the commands, and there is a payload. -/
def Request.Fits (request : Request) : Prop :=
  (1 ≤ request.size ∧ request.size ≤ 16) ∧ (48 ≤ request.errorLevel ∧ request.errorLevel ≤ 51) ∧
    ∃ p, request.payload = .ok p ∧ p.bytes.length ≤ 65532

theorem exists_frame_iff (request : Request) : (∃ f, frame request = .ok f) ↔ request.Fits := by
  constructor
  · rintro ⟨f, hf⟩
    obtain ⟨hpayload, hcommands⟩ := frame_eq_ok_iff.1 hf
    obtain ⟨hsize, hlevel, hlength⟩ := exists_symbolCommands_iff.1 ⟨_, hcommands⟩
    exact ⟨hsize, hlevel, _, hpayload, hlength⟩
  · rintro ⟨hsize, hlevel, p, hpayload, hlength⟩
    obtain ⟨commands, hcommands⟩ := exists_symbolCommands_iff.2 ⟨hsize, hlevel, hlength⟩
    exact ⟨⟨commands, p.bytes, p.dataLength⟩, frame_eq_ok_iff.2 ⟨hpayload, hcommands⟩⟩

/-- A frame is refused exactly if something does not fit or there is no payload. -/
theorem frame_eq_error_iff (request : Request) : (∃ e, frame request = .error e) ↔
    ¬ (1 ≤ request.size ∧ request.size ≤ 16) ∨ ¬ (48 ≤ request.errorLevel ∧ request.errorLevel ≤ 51) ∨
      (∃ n, CodePoint.surrogate n ∈ request.data) ∨ ∃ p, request.payload = .ok p ∧ 65532 < p.bytes.length := by
  have hrefused : (∃ e, frame request = .error e) ↔ ¬ request.Fits := by
    rw [← exists_frame_iff]
    cases frame request with
    | error e => simp
    | ok f => simp
  rw [hrefused, Request.Fits, not_and_or, not_and_or (b := ∃ p, _)]
  refine or_congr_right (or_congr_right ?_)
  by_cases hsurrogate : ∃ n, CodePoint.surrogate n ∈ request.data
  · have hnone : ¬ ∃ p, request.payload = .ok p := by
      rw [exists_payload_iff]
      rintro hclean
      obtain ⟨n, hn⟩ := hsurrogate
      exact hclean n hn
    refine iff_of_true ?_ (.inl hsurrogate)
    rintro ⟨p, hp, -⟩
    exact hnone ⟨p, hp⟩
  · obtain ⟨p, hp⟩ := exists_payload_iff.2 fun n hn => hsurrogate ⟨n, hn⟩
    simp [hsurrogate, hp]

/-- What a printer is told by the frame of a request. -/
def Request.commands (request : Request) (payload : Bytes) : List SymbolCommand :=
  [.selectModel 50, .moduleSize request.size, .errorCorrection request.errorLevel, .store payload, .printStored]

/-- A printer reads the frame of a request as its five commands, and nothing of what follows. -/
theorem Frame.read_commands {request : Request} {f : Frame} (h : frame request = .ok f) (rest : Bytes) :
    Printer.readTimes 5 (f.commands ++ rest) = some (request.commands f.payload, rest) := by
  obtain ⟨model, sized, levelled, stored, hmodel, hsized, hlevelled, hstored, hcommands⟩ :=
    symbolCommands_eq_ok_iff.1 (frame_eq_ok_iff.1 h).2
  rw [hcommands]
  simp only [List.append_assoc]
  exact Printer.readTimes_succ (Printer.read_symbolModel hmodel _) <|
    Printer.readTimes_succ (Printer.read_moduleSize hsized _) <|
    Printer.readTimes_succ (Printer.read_errorCorrection hlevelled _) <|
    Printer.readTimes_succ (Printer.read_store hstored _) <|
    Printer.readTimes_succ (Printer.read_printStored _) rfl

/-- Two frames are alike exactly if they agree in what the printer is told. -/
theorem Frame.commands_inj {request other : Request} {f g : Frame} (hf : frame request = .ok f)
    (hg : frame other = .ok g) : f.commands = g.commands ↔
      request.size = other.size ∧ request.errorLevel = other.errorLevel ∧ f.payload = g.payload := by
  constructor
  · intro heq
    have hread := Frame.read_commands hf []
    rw [heq, Frame.read_commands hg, Option.some.injEq, Prod.mk.injEq] at hread
    simpa [Request.commands, eq_comm] using hread.1
  · rintro ⟨hsize, hlevel, hpayload⟩
    have hcommands := (frame_eq_ok_iff.1 hf).2
    rw [hsize, hlevel, hpayload, (frame_eq_ok_iff.1 hg).2, Except.ok.injEq] at hcommands
    exact hcommands.symm

/-- A request made from validated settings fits exactly if its data are characters. -/
theorem fits_ofSettings_iff [Codecs] {settings : Settings} (h : settings.InRange) (data : List CodePoint) :
    (Request.ofSettings settings data).Fits ↔ ∀ n, CodePoint.surrogate n ∉ data := by
  refine Iff.trans ?_ (@exists_payload_iff (.ofSettings settings data))
  constructor
  · rintro ⟨-, -, p, hp, -⟩
    exact ⟨p, hp⟩
  · rintro ⟨p, hp⟩
    refine ⟨h.qrSize, h.qrErrorLevel, p, hp, ?_⟩
    obtain ⟨characters, -, rfl⟩ := payload_eq_ok_iff.1 hp
    obtain ⟨hleast, hmost⟩ := h.maxQrLength
    have hlength := length_cutPayload_le (Int.le_trans Int.one_nonneg hleast) (Utf8.encode characters)
    show (cutPayload (Utf8.encode characters) settings.maxQrLength).length ≤ 65532
    omega

theorem exists_frame_ofSettings [Codecs] {settings : Settings} (h : settings.InRange) (data : List Char) :
    ∃ f, frame (.ofSettings settings (CodePoint.ofChars data)) = .ok f :=
  (exists_frame_iff _).2 <| (fits_ofSettings_iff h _).2 fun n => CodePoint.surrogate_not_mem_ofChars n data

/-- The commands for a symbol are refused exactly if the size or the level is not one that a printer knows, the data
hold half of a surrogate pair, or the payload is longer than a command can carry.  Otherwise a printer reads them as the
five commands of the request, in front of whatever follows.  Two requests are written alike exactly if they agree in
size, level and payload, and one made from validated settings is refused for nothing but a surrogate. -/
theorem frame_read_back [Codecs] (request : Request) :
    ((∃ e, frame request = .error e) ↔
      ¬ (1 ≤ request.size ∧ request.size ≤ 16) ∨ ¬ (48 ≤ request.errorLevel ∧ request.errorLevel ≤ 51) ∨
        (∃ n, CodePoint.surrogate n ∈ request.data) ∨ ∃ p, request.payload = .ok p ∧ 65532 < p.bytes.length) ∧
    (∀ f, frame request = .ok f → request.payload = .ok ⟨f.payload, f.dataLength⟩ ∧ ∀ rest,
      Printer.readTimes 5 (f.commands ++ rest) = some
        ([.selectModel 50, .moduleSize request.size, .errorCorrection request.errorLevel, .store f.payload,
          .printStored], rest) ∧
      Printer.readSymbolCommands (f.commands ++ rest) =
        ([.selectModel 50, .moduleSize request.size, .errorCorrection request.errorLevel, .store f.payload,
          .printStored] ++ (Printer.readSymbolCommands rest).1, (Printer.readSymbolCommands rest).2)) ∧
    (∀ other f g, frame request = .ok f → frame other = .ok g → (f.commands = g.commands ↔
      request.size = other.size ∧ request.errorLevel = other.errorLevel ∧ f.payload = g.payload)) ∧
    ∀ values settings, Settings.validate values = .ok settings → ∀ data,
      (∃ f, frame (Request.ofSettings settings data) = .ok f) ↔ ∀ n, CodePoint.surrogate n ∉ data := by
  refine ⟨frame_eq_error_iff request, ?_, ?_, ?_⟩
  · intro f hf
    refine ⟨(frame_eq_ok_iff.1 hf).1, fun rest => ?_⟩
    have hread := Frame.read_commands hf rest
    exact ⟨hread, Printer.readSymbolCommands_of_readTimes hread⟩
  · exact fun other f g hf hg => Frame.commands_inj hf hg
  · intro values settings hsettings data
    rw [exists_frame_iff, fits_ofSettings_iff (Settings.inRange_of_validate hsettings)]

/-- Data that are themselves a command to print a symbol. -/
private def commandAsData : Request :=
  { data := CodePoint.ofChars ['\x1D', '(', 'k', '\x03', '\x00', '1', 'Q', '0'] }

/-- The same payload, cut from longer data. -/
private def longerCommandAsData : Request :=
  { data := CodePoint.ofChars ['\x1D', '(', 'k', '\x03', '\x00', '1', 'Q', '0', '\u20AC'], maxLength := 10 }

open scoped Libraries in
/-- Data that read as a command are written alike whether or not more data were cut off, and read as five commands, not
six, with the reset behind them unread.  Default settings do not refuse them. -/
theorem frame_read_back_commandAsData :
    (∃ f, frame commandAsData = .ok f ∧ (∃ g, frame longerCommandAsData = .ok g ∧ f.commands = g.commands) ∧
      Printer.readSymbolCommands (f.commands ++ Command.reset) =
        ([.selectModel 50, .moduleSize 6, .errorCorrection 48, .store [0x1D, 0x28, 0x6B, 3, 0, 49, 81, 48],
          .printStored], Command.reset)) ∧
      ∃ f, frame (Request.ofSettings {} commandAsData.data) = .ok f := by
  obtain ⟨-, hread, halike, hsettings⟩ := frame_read_back commandAsData
  have hpayload : commandAsData.payload = .ok ⟨[0x1D, 0x28, 0x6B, 3, 0, 49, 81, 48], 8⟩ := by decide +kernel
  have hlonger : longerCommandAsData.payload = .ok ⟨[0x1D, 0x28, 0x6B, 3, 0, 49, 81, 48], 11⟩ := by decide +kernel
  obtain ⟨f, hf⟩ := (exists_frame_iff commandAsData).2 ⟨by decide, by decide, _, hpayload, by decide⟩
  obtain ⟨g, hg⟩ := (exists_frame_iff longerCommandAsData).2 ⟨by decide, by decide, _, hlonger, by decide⟩
  obtain ⟨-, hback⟩ := hread f hf
  have hfpayload : f.payload = [0x1D, 0x28, 0x6B, 3, 0, 49, 81, 48] := payload_of_frame hf hpayload
  have hgpayload : g.payload = [0x1D, 0x28, 0x6B, 3, 0, 49, 81, 48] := payload_of_frame hg hlonger
  have hcommands : f.commands = g.commands := (halike _ f g hf hg).2 ⟨rfl, rfl, hfpayload.trans hgpayload.symm⟩
  have hclean : ∀ n, CodePoint.surrogate n ∉ commandAsData.data :=
    fun n => CodePoint.surrogate_not_mem_ofChars n _
  refine ⟨⟨f, hf, ⟨g, hg, hcommands⟩, ?_⟩, (hsettings [] {} rfl commandAsData.data).2 hclean⟩
  have hreset : Printer.readSymbolCommands Command.reset = ([], Command.reset) := by
    rw [Printer.readSymbolCommands]
    rfl
  rw [(hback _).2, hreset, hfpayload]
  rfl

open scoped Libraries in
/-- Half of a surrogate pair is refused, though the size and the level are known ones and the settings are valid. -/
theorem frame_refuses_surrogate :
    let request : Request := { data := [.surrogate 0] }
    (1 ≤ request.size ∧ request.size ≤ 16) ∧ (48 ≤ request.errorLevel ∧ request.errorLevel ≤ 51) ∧
      frame request = .error (.surrogates ⟨0, [.surrogate 0]⟩) ∧
      Settings.validate [] = .ok {} ∧ ¬ ∃ f, frame (Request.ofSettings {} [.surrogate 0]) = .ok f := by
  refine ⟨by decide, by decide, rfl, rfl, ?_⟩
  rintro ⟨f, hf⟩
  cases hf

end ThermalPress.Qr
