import ThermalPress.Proofs.Libraries.Symbols
import ThermalPress.Proofs.Qr.Frames
import ThermalPress.Proofs.Text.Encodings
import ThermalPress.Qr.Job

/-!
# Symbol jobs that fall back

A job with a caption puts the symbol between two stretches of bytes that do not depend on it (`captionedBytes_eq`).  An
image differs from the commands of the same symbol in no other place, and where it is unsupported the job is the one
that would have been built without asking for an image (`imageJob_refines`).  Of the renderer it is assumed that it
refuses a payload before it has made a symbol of it (`Renderer.Draws`).
-/

namespace ThermalPress.Qr

/-! ### Captions -/

/-- The caption has something to see in it. -/
def Shown (caption : Option (List Char)) : Prop := ∃ s, caption = some s ∧ ∃ c ∈ s, isBlank c = false

theorem shownCaption?_eq_some_iff {caption : Option (List Char)} {s : List Char} :
    shownCaption? caption = some s ↔ caption = some s ∧ ∃ c ∈ s, isBlank c = false := by
  simp [shownCaption?, Option.filter_eq_some_iff, isBlankText]

theorem isSome_shownCaption?_iff {caption : Option (List Char)} : (shownCaption? caption).isSome ↔ Shown caption := by
  simp only [Option.isSome_iff_exists, shownCaption?_eq_some_iff, Shown]

theorem bareJob_of_frame {request : Request} {f : Frame} (h : frame request = .ok f) :
    bareJob request = .ok ⟨bareBytes f.commands, f, .bare, none⟩ := by
  rw [bareJob, h]
  rfl

section Codecs

variable [Codecs]

/-- A caption has bytes if it is blank or the codec takes it, and otherwise the error of the codec. -/
theorem encodedCaption_cases (caption : Option (List Char)) (encoding : String) :
    (∃ text, encodedCaption caption encoding = .ok text ∧ ∀ s ∈ shownCaption? caption,
      ∃ bytes, Codecs.encode encoding (splitLineEnds (unifyLineEnds s)) = .ok bytes) ∨
    ∃ e, encodedCaption caption encoding = .error e ∧
      ∃ s ∈ shownCaption? caption, Codecs.encode encoding (splitLineEnds (unifyLineEnds s)) = .error e := by
  unfold encodedCaption
  cases hshown : shownCaption? caption with
  | none => exact .inl ⟨[], rfl, nofun⟩
  | some s =>
    dsimp only
    cases hencoded : Codecs.encode encoding (splitLineEnds (unifyLineEnds s)) with
    | ok bytes =>
      refine .inl ⟨_, rfl, ?_⟩
      rintro _ ⟨⟩
      exact ⟨bytes, hencoded⟩
    | error e => exact .inr ⟨e, rfl, s, rfl, hencoded⟩

theorem exists_encodedCaption {encoding : String} {encode : List Char → Bytes}
    (hencode : ∀ s, Codecs.encode encoding s = .ok (encode s)) (caption : Option (List Char)) :
    ∃ text, encodedCaption caption encoding = .ok text := by
  rcases encodedCaption_cases caption encoding with ⟨text, htext, -⟩ | ⟨e, -, s, -, hfailed⟩
  · exact ⟨text, htext⟩
  · rw [hencode] at hfailed
    cases hfailed

/-! ### Jobs -/

section Jobs

variable {request : Request} {f : Frame} {caption : Option (List Char)} {encoding : String} {text : Bytes}

/-- What is sent before a symbol with a caption. -/
def beforeSymbol : Bytes := Command.reset ++ Command.align .center

/-- What is sent behind a symbol with a caption. -/
def behindSymbol (text : Bytes) (bottomFeed : Int) : Bytes :=
  Command.lineFeed ++ text ++ Command.blankLines bottomFeed ++ Command.align .left

theorem captionedBytes_eq (h : encodedCaption caption encoding = .ok text) (symbol : Bytes) (bottomFeed : Int) :
    captionedBytes symbol caption bottomFeed encoding =
      .ok (beforeSymbol ++ symbol ++ behindSymbol text bottomFeed) := by
  rw [captionedBytes, h]
  simp [beforeSymbol, behindSymbol, bind, Except.bind, pure, Except.pure]

private theorem captionedJob_eq_map (h : frame request = .ok f) (caption : Option (List Char)) (bottomFeed : Int)
    (encoding : String) : captionedJob request caption bottomFeed encoding =
      ((captionedBytes f.commands caption bottomFeed encoding).mapError .encoding).map
        fun data => ⟨data, f, .caption, none⟩ := by
  have hframe : captionedJob request caption bottomFeed encoding =
      ((captionedBytes f.commands caption bottomFeed encoding).mapError .encoding >>=
        fun data => pure ⟨data, f, .caption, none⟩) := by
    rw [captionedJob, h]
    rfl
  rw [hframe]
  cases captionedBytes f.commands caption bottomFeed encoding <;> rfl

theorem captionedJob_of_frame (h : frame request = .ok f) (htext : encodedCaption caption encoding = .ok text)
    (bottomFeed : Int) : captionedJob request caption bottomFeed encoding =
      .ok ⟨beforeSymbol ++ f.commands ++ behindSymbol text bottomFeed, f, .caption, none⟩ := by
  rw [captionedJob_eq_map h, captionedBytes_eq htext]
  rfl

theorem captionedJob_eq_error (h : frame request = .ok f) {e : EncodingError}
    (htext : encodedCaption caption encoding = .error e) (bottomFeed : Int) :
    captionedJob request caption bottomFeed encoding = .error (.encoding e) := by
  rw [captionedJob_eq_map h, captionedBytes, htext]
  rfl

end Jobs

/-! ### Jobs with images -/

section Images

variable [Renderer] {request : Request} {f : Frame} {caption : Option (List Char)} {encoding : String} {text : Bytes}

private theorem imageJob_of_frame (h : frame request = .ok f) (caption : Option (List Char))
    (bottomFeed maxWidth : Int) (encoding : String) (profile : Option String) :
    imageJob request caption bottomFeed encoding maxWidth profile =
      match rasterize f.payload request.size request.errorLevel maxWidth profile with
      | .ok raster => do
        let data ← (captionedBytes raster caption bottomFeed encoding).mapError .encoding
        return ⟨data, f, .image, none⟩
      | .error (.unsupported e) =>
        if (shownCaption? caption).isSome then do
          let data ← (captionedBytes f.commands caption bottomFeed encoding).mapError .encoding
          return ⟨data, f, .caption, some e⟩
        else return ⟨bareBytes f.commands, f, .bare, some e⟩
      | .error (.drawing e) => .error (.drawing e) := by
  rw [imageJob, h]
  rfl

theorem imageJob_of_raster (h : frame request = .ok f) (htext : encodedCaption caption encoding = .ok text)
    (bottomFeed maxWidth : Int) {profile : Option String} {raster : Bytes}
    (hraster : rasterize f.payload request.size request.errorLevel maxWidth profile = .ok raster) :
    imageJob request caption bottomFeed encoding maxWidth profile =
      .ok ⟨beforeSymbol ++ raster ++ behindSymbol text bottomFeed, f, .image, none⟩ := by
  rw [imageJob_of_frame h, hraster]
  dsimp only
  rw [captionedBytes_eq htext]
  rfl

theorem imageJob_of_unsupported (h : frame request = .ok f) (htext : encodedCaption caption encoding = .ok text)
    (bottomFeed maxWidth : Int) {profile : Option String} {e : RenderError}
    (hraster : rasterize f.payload request.size request.errorLevel maxWidth profile = .error (.unsupported e)) :
    imageJob request caption bottomFeed encoding maxWidth profile =
      .ok (if (shownCaption? caption).isSome then
        ⟨beforeSymbol ++ f.commands ++ behindSymbol text bottomFeed, f, .caption, some e⟩
      else ⟨bareBytes f.commands, f, .bare, some e⟩) := by
  rw [imageJob_of_frame h, hraster]
  dsimp only
  rw [captionedBytes_eq htext]
  split <;> rfl

/-- Whatever can be asked for as an image in the default code page has a job, for the frame that a job without an
image would have.  If the image is unsupported the job falls back to the one with a caption, or without a caption to show
to the bare one.  If it is sent, the job is the one with a caption, but that the image stands in the place of the symbol
commands. -/
theorem imageJob_refines (hdraws : Renderer.Draws) (h : frame request = .ok f)
    (hpage : Codecs.IsPage encoding .ibm437) (caption : Option (List Char)) (bottomFeed maxWidth : Int)
    (profile : Option String) :
    ∃ job bare captioned, imageJob request caption bottomFeed encoding maxWidth profile = .ok job ∧
      bareJob request = .ok bare ∧ captionedJob request caption bottomFeed encoding = .ok captioned ∧
      job.frame = f ∧ bare.frame = f ∧ captioned.frame = f ∧
      (∀ e, rasterize f.payload request.size request.errorLevel maxWidth profile = .error (.unsupported e) →
        job.fallback = true ∧
          (Shown caption → job.data = captioned.data ∧ job.presentation = captioned.presentation) ∧
          (¬ Shown caption → job.data = bare.data ∧ job.presentation = bare.presentation)) ∧
      (∀ raster, rasterize f.payload request.size request.errorLevel maxWidth profile = .ok raster →
        job.fallback = false ∧ job.presentation = .image ∧
          ∃ text, encodedCaption caption encoding = .ok text ∧
            captioned.data = beforeSymbol ++ f.commands ++ behindSymbol text bottomFeed ∧
            job.data = beforeSymbol ++ raster ++ behindSymbol text bottomFeed) := by
  obtain ⟨text, htext⟩ := exists_encodedCaption hpage.encode caption
  have hbare := bareJob_of_frame h
  have hcaptioned := captionedJob_of_frame h htext bottomFeed
  obtain ⟨raster, hraster⟩ | ⟨e, hraster⟩ :=
    hdraws.rasterize_cases f.payload request.size request.errorLevel maxWidth profile
  · refine ⟨_, _, _, imageJob_of_raster h htext bottomFeed maxWidth hraster, hbare, hcaptioned, rfl, rfl, rfl, ?_, ?_⟩
    · intro e he
      rw [hraster] at he
      cases he
    · intro raster' hraster'
      rw [hraster, Except.ok.injEq] at hraster'
      subst hraster'
      exact ⟨rfl, rfl, text, htext, rfl, rfl⟩
  · have hjob := imageJob_of_unsupported h htext bottomFeed maxWidth hraster
    have hnone : ∀ raster, rasterize f.payload request.size request.errorLevel maxWidth profile ≠ .ok raster := by
      intro raster hsent
      rw [hraster] at hsent
      cases hsent
    by_cases hshown : Shown caption
    · rw [if_pos (isSome_shownCaption?_iff.2 hshown)] at hjob
      refine ⟨_, _, _, hjob, hbare, hcaptioned, rfl, rfl, rfl, ?_, fun raster hsent => absurd hsent (hnone raster)⟩
      exact fun _ _ => ⟨rfl, fun _ => ⟨rfl, rfl⟩, fun hblank => absurd hshown hblank⟩
    · rw [if_neg fun hsome => hshown (isSome_shownCaption?_iff.1 hsome)] at hjob
      refine ⟨_, _, _, hjob, hbare, hcaptioned, rfl, rfl, rfl, ?_, fun raster hsent => absurd hsent (hnone raster)⟩
      exact fun _ _ => ⟨rfl, fun hvisible => absurd hvisible hshown, fun _ => ⟨rfl, rfl⟩⟩

end Images

end Codecs

open scoped Libraries in
/-- On a line without room for a dot, a symbol with a caption is printed by commands, and so is one with a blank
caption, which is then left out. -/
theorem imageJob_refines_no_room :
    let request : Request := { data := CodePoint.ofChars ['A'] }
    ∃ job other captioned bare,
      imageJob request (some "a\nb".toList) 4 "cp437" (-1) none = .ok job ∧
        captionedJob request (some "a\nb".toList) 4 "cp437" = .ok captioned ∧
        job.fallback = true ∧ job.data = captioned.data ∧
        imageJob request (some " \n".toList) 4 "cp437" (-1) none = .ok other ∧
        bareJob request = .ok bare ∧ other.fallback = true ∧ other.data = bare.data := by
  intro request
  have hpayload : request.payload = .ok ⟨[0x41], 1⟩ := by decide +kernel
  obtain ⟨f, hf⟩ := (exists_frame_iff request).2 ⟨by decide, by decide, _, hpayload, by decide⟩
  obtain ⟨e, hrefused⟩ : ∃ e, rasterize f.payload 6 48 (-1) none = .error (.unsupported e) := by
    refine (Libraries.draws_renderer.rasterize_cases f.payload 6 48 (-1) none).resolve_left ?_
    rintro ⟨raster, hraster⟩
    obtain ⟨symbol, image, -, hwidth, -⟩ := rasterize_eq_ok_iff.1 hraster
    rw [imageSide] at hwidth
    omega
  have hshown : Shown (some "a\nb".toList) := ⟨_, rfl, 'a', by decide, by decide⟩
  have hblank : ¬ Shown (some " \n".toList) := by
    rintro ⟨s, hs, c, hc, hvisible⟩
    cases hs
    have hall : isBlankText " \n".toList = true := by decide
    rw [List.all_eq_true.1 hall c hc] at hvisible
    cases hvisible
  obtain ⟨job, _, captioned, hjob, -, hcaptioned, -, -, -, hfallback, -⟩ :=
    imageJob_refines Libraries.draws_renderer hf isPage_cp437 (some "a\nb".toList) 4 (-1) none
  obtain ⟨other, bare, _, hother, hbare, -, -, -, -, hotherFallback, -⟩ :=
    imageJob_refines Libraries.draws_renderer hf isPage_cp437 (some " \n".toList) 4 (-1) none
  obtain ⟨hfalls, hsame, -⟩ := hfallback e hrefused
  obtain ⟨hotherFalls, -, hotherSame⟩ := hotherFallback e hrefused
  exact ⟨job, other, captioned, bare, hjob, hcaptioned, hfalls, (hsame hshown).1, hother, hbare, hotherFalls,
    (hotherSame hblank).1⟩

end ThermalPress.Qr
