import Mathlib.Algebra.BigOperators.Group.List.Basic
import ThermalPress.Proofs.Printer.RasterCommands
import ThermalPress.Proofs.Qr.Fallback

/-!
# Images that are read back

The bands of a picture have the dots that they announce (`length_flatMap_packDots`), and together they are all of its
rows.  So if the picture is the square that the renderer is assumed to draw (`Renderer.Faithful`), its commands print
that square (`printsSquare_ofRows`), and its side is the one that was compared with the width of the line before there
was a picture.  A printer that has read the commands is at the first byte behind the image, in a job at the line feed in
front of the caption (`rasterize_read_back`).
-/

namespace ThermalPress.Qr

/-! ### Rows of dots -/

/-- Eight dots are a byte, and so are the last ones if they are fewer. -/
theorem length_packDots (dots : List Bool) : (packDots dots).length = (dots.length + 7) / 8 := by
  fun_induction packDots dots with
  | case1 => rfl
  | case2 d rest byte ih =>
    rw [List.length_cons, ih, List.length_drop, List.length_cons]
    omega

/-- Rows of one length have as many bytes as a command for them announces. -/
theorem length_flatMap_packDots {width : Nat} {rows : List (List Bool)} (h : ∀ row ∈ rows, row.length = width) :
    (rows.flatMap packDots).length = (width + 7) / 8 * rows.length := by
  induction rows with
  | nil => rfl
  | cons row rows ih =>
    have hrow : row.length = width := h row (List.mem_cons_self ..)
    rw [List.flatMap_cons, List.length_append, ih fun other hother => h other (List.mem_cons_of_mem _ hother),
      length_packDots, hrow, List.length_cons, Nat.mul_succ, Nat.add_comm]

/-! ### The commands of an image -/

/-- Commands that print a square of so many dots on a side: each prints some rows of it, all the dots of a row. -/
structure PrintsSquare (side : Nat) (commands : List RasterCommand) : Prop where
  fits : ∀ c ∈ commands, c.Fits
  width : ∀ c ∈ commands, c.width = (side + 7) / 8
  height : ∀ c ∈ commands, 0 < c.height ∧ c.height ≤ bandHeight
  rows : (commands.map RasterCommand.height).sum = side

/-- The bands of a square print it, if its side fits the two bytes of a width. -/
theorem printsSquare_ofRows {image : Image} {bands : List (List (List Bool))}
    (hsquare : image.rows.length = image.width) (hside : image.width < 0x10000) (hrows : bands.flatten = image.rows)
    (hbands : ∀ band ∈ bands, 0 < band.length ∧ band.length ≤ bandHeight) :
    PrintsSquare image.width (bands.map (RasterCommand.ofRows image.width)) := by
  have hcommand : ∀ c ∈ bands.map (RasterCommand.ofRows image.width),
      ∃ band ∈ bands, c = RasterCommand.ofRows image.width band := by
    intro c hc
    obtain ⟨band, hband, rfl⟩ := List.mem_map.1 hc
    exact ⟨band, hband, rfl⟩
  refine ⟨fun c hc => ?_, fun c hc => ?_, fun c hc => ?_, ?_⟩
  · obtain ⟨band, hband, rfl⟩ := hcommand c hc
    refine ⟨?_, ?_, length_flatMap_packDots fun row hrow => image.length_row row ?_⟩
    · show (image.width + 7) / 8 < 0x10000
      omega
    · exact Nat.lt_of_le_of_lt (hbands band hband).2 (by decide)
    · rw [← hrows]
      exact List.mem_flatten_of_mem hband hrow
  · obtain ⟨band, -, rfl⟩ := hcommand c hc
    rfl
  · obtain ⟨band, hband, rfl⟩ := hcommand c hc
    exact hbands band hband
  · have hlengths : (bands.map (RasterCommand.ofRows image.width)).map RasterCommand.height =
        bands.map List.length := by
      rw [List.map_map]
      rfl
    rw [hlengths, ← List.length_flatten, hrows, hsquare]

/-- The dots of the bands are those of all rows. -/
theorem dots_ofRows {width : Nat} {rows : List (List Bool)} {bands : List (List (List Bool))}
    (hrows : bands.flatten = rows) :
    (bands.map (RasterCommand.ofRows width)).flatMap RasterCommand.dots = rows.flatMap packDots := by
  subst hrows
  rw [List.flatMap_map]
  induction bands with
  | nil => rfl
  | cons band bands ih =>
    rw [List.flatMap_cons, List.flatten_cons, List.flatMap_append, ih]
    rfl

/-! ### Jobs with an image -/

/-- What follows an image begins with a line feed, so a printer is done with raster commands. -/
theorem readRasterCommands_behindSymbol (text : Bytes) (bottomFeed : Int) :
    Printer.readRasterCommands (behindSymbol text bottomFeed) = ([], behindSymbol text bottomFeed) :=
  Printer.readRasterCommands_of_head_ne (by decide) _

section Jobs

variable [Codecs] [Renderer] {request : Request} {caption : Option (List Char)} {bottomFeed maxWidth : Int}
  {encoding : String} {profile : Option String} {job : Job} {text : Bytes}

/-- A job with an image has it between what is sent before a symbol and the caption. -/
theorem data_of_imageJob (h : imageJob request caption bottomFeed encoding maxWidth profile = .ok job)
    (himage : job.presentation = .image) :
    ∃ raster text, frame request = .ok job.frame ∧ encodedCaption caption encoding = .ok text ∧
      rasterize job.frame.payload request.size request.errorLevel maxWidth profile = .ok raster ∧
      job.data = beforeSymbol ++ raster ++ behindSymbol text bottomFeed := by
  simp only [imageJob, bind_eq_ok_iff, liftFrame_eq_ok_iff] at h
  obtain ⟨f, hf, h⟩ := h
  split at h
  · next raster hraster =>
    simp only [bind_eq_ok_iff, liftEncoding_eq_ok_iff, pure_eq_ok_iff] at h
    obtain ⟨data, hdata, rfl⟩ := h
    cases htext : encodedCaption caption encoding with
    | error e =>
      rw [captionedBytes, htext] at hdata
      cases hdata
    | ok text =>
      rw [captionedBytes_eq htext, Except.ok.injEq] at hdata
      exact ⟨raster, text, hf, rfl, hraster, hdata.symm⟩
  · split at h
    · simp only [bind_eq_ok_iff, liftEncoding_eq_ok_iff, pure_eq_ok_iff] at h
      obtain ⟨_, -, rfl⟩ := h
      cases himage
    · rw [pure_eq_ok_iff] at h
      subst h
      cases himage
  · cases h

end Jobs

/-! ### What a printer makes of an image -/

section Images

variable [Renderer]

/-- The square that a symbol of so many modules is printed as: as many dots on a side as were compared with the width of
the line, and all the dots of its picture. -/
structure IsSquareImage (payload raster : Bytes) (size errorLevel maxWidth : Int) (side : Nat)
    (commands : List RasterCommand) : Prop where
  printsSquare : PrintsSquare side commands
  raster : raster = commands.flatMap RasterCommand.bytes
  width : (side : Int) ≤ maxWidth
  symbol : ∃ symbol image, makeSymbol payload size errorLevel = .ok symbol ∧ symbol.image = .ok image ∧
    (side : Int) = (symbol.modules + 8 : Nat) * size ∧
    commands.flatMap RasterCommand.dots = image.rows.flatMap packDots

/-- An image that is sent is the commands of its square, which is no wider than it may be. -/
theorem Renderer.Faithful.isSquareImage (h : Renderer.Faithful) {payload raster : Bytes}
    {size errorLevel maxWidth : Int} {profile : Option String} (hsize : size ≤ 16)
    (hraster : rasterize payload size errorLevel maxWidth profile = .ok raster) :
    ∃ side commands, IsSquareImage payload raster size errorLevel maxWidth side commands := by
  obtain ⟨symbol, image, hsymbol, hwidth, himage, hprinted⟩ := rasterize_eq_ok_iff.1 hraster
  obtain ⟨level, -, hmake⟩ := makeSymbol_eq_ok_iff.1 hsymbol
  obtain ⟨hside, hsquare⟩ := h.square hmake himage
  obtain ⟨bands, hrows, hbands, hbytes⟩ := h.banded hprinted
  have hmodules := h.modules_le hmake
  have hmost : (symbol.modules + 2 * quietZone : Nat) * size ≤ 185 * 16 := by
    have hfactor : (symbol.modules + 2 * quietZone : Nat) ≤ (185 : Int) := by
      rw [quietZone]
      omega
    calc (symbol.modules + 2 * quietZone : Nat) * size
        ≤ (symbol.modules + 2 * quietZone : Nat) * 16 := Int.mul_le_mul_of_nonneg_left hsize (Int.natCast_nonneg _)
      _ ≤ 185 * 16 := Int.mul_le_mul_of_nonneg_right hfactor (by decide)
  refine ⟨image.width, bands.map (RasterCommand.ofRows image.width), ?_⟩
  exact {
    printsSquare := printsSquare_ofRows hsquare (by omega) hrows hbands
    raster := by rw [hbytes, List.flatMap_map]
    width := hside ▸ hwidth
    symbol := ⟨symbol, image, hsymbol, himage, hside, dots_ofRows hrows⟩ }

/-- An image that is sent is a sequence of raster commands, which together print the square of the symbol with its
margins, no wider than it may be.  A printer reads them back and takes nothing of what follows for dots, so in a job with
an image the line feed, the caption and the alignment behind it are left to be read. -/
theorem rasterize_read_back [Codecs] (h : Renderer.Faithful) :
    (∀ (payload raster : Bytes) (size errorLevel maxWidth : Int) (profile : Option String), size ≤ 16 →
      rasterize payload size errorLevel maxWidth profile = .ok raster →
      ∃ side commands, IsSquareImage payload raster size errorLevel maxWidth side commands ∧
        ∀ rest, Printer.readRasterCommands (raster ++ rest) =
          (commands ++ (Printer.readRasterCommands rest).1, (Printer.readRasterCommands rest).2)) ∧
    ∀ (request : Request) (caption : Option (List Char)) (bottomFeed maxWidth : Int) (encoding : String)
      (profile : Option String) (job : Job),
      imageJob request caption bottomFeed encoding maxWidth profile = .ok job → job.presentation = .image →
      ∃ raster text side commands,
        rasterize job.frame.payload request.size request.errorLevel maxWidth profile = .ok raster ∧
        encodedCaption caption encoding = .ok text ∧
        job.data = beforeSymbol ++ raster ++ behindSymbol text bottomFeed ∧
        IsSquareImage job.frame.payload raster request.size request.errorLevel maxWidth side commands ∧
        Printer.readRasterCommands (raster ++ behindSymbol text bottomFeed) =
          (commands, behindSymbol text bottomFeed) := by
  constructor
  · intro payload raster size errorLevel maxWidth profile hsize hraster
    obtain ⟨side, commands, hsquare⟩ := h.isSquareImage hsize hraster
    refine ⟨side, commands, hsquare, fun rest => ?_⟩
    rw [hsquare.raster, Printer.readRasterCommands_append hsquare.printsSquare.fits]
  · intro request caption bottomFeed maxWidth encoding profile job hjob himage
    obtain ⟨raster, text, hframe, htext, hraster, hdata⟩ := data_of_imageJob hjob himage
    have hsize : request.size ≤ 16 := ((exists_frame_iff request).1 ⟨_, hframe⟩).1.2
    obtain ⟨side, commands, hsquare⟩ := h.isSquareImage hsize hraster
    refine ⟨raster, text, side, commands, hraster, htext, hdata, hsquare, ?_⟩
    rw [hsquare.raster, Printer.readRasterCommands_append hsquare.printsSquare.fits,
      readRasterCommands_behindSymbol, List.append_nil]

end Images

open scoped Libraries in
/-- A letter is rendered on a line just as wide as its symbol of twenty-one modules and the margins, two dots each. -/
theorem rasterize_read_back_letter :
    ∃ raster commands, (2 : Int) ≤ 16 ∧ rasterize [0x41] 2 48 58 none = .ok raster ∧ PrintsSquare 58 commands ∧
      Printer.readRasterCommands raster = (commands, []) ∧
      ∃ job text others,
        imageJob { data := CodePoint.ofChars ['A'], size := 2 } (some ['a']) 4 "cp437" 58 none = .ok job ∧
        job.presentation = .image ∧ job.data = beforeSymbol ++ raster ++ behindSymbol text 4 ∧
        Printer.readRasterCommands (raster ++ behindSymbol text 4) = (others, behindSymbol text 4) := by
  have hversion : Libraries.version? .low (Libraries.segments [0x41]) = some 1 := by decide +kernel
  have hblocks : (Libraries.codewords? 1 .low (Libraries.segments [0x41])).isSome := by decide +kernel
  obtain ⟨codewords, hcodewords⟩ := Option.isSome_iff_exists.1 hblocks
  obtain ⟨grid, hgrid⟩ : ∃ grid, Libraries.symbolOf .low [0x41] = .ok grid :=
    ⟨_, Libraries.symbolOf_eq_ok_iff.2 ⟨1, codewords, hversion, hcodewords, rfl⟩⟩
  have hside : grid.side = 21 := by
    obtain ⟨version, hleast, hgridSide⟩ := Libraries.side_of_symbolOf hgrid
    rw [hversion, Option.some.injEq] at hleast
    rw [hgridSide, ← hleast]
    rfl
  have hsymbol : makeSymbol [0x41] 2 48 = .ok ⟨grid.side, .ok (Libraries.picture 4 2 grid)⟩ :=
    makeSymbol_eq_ok_iff.2 ⟨.low, rfl, Libraries.makeSymbol_eq_ok_iff.2 ⟨by decide, grid, hgrid, rfl⟩⟩
  have hwidth : imageSide grid.side 2 ≤ 58 := by
    rw [hside]
    decide
  obtain ⟨raster, hraster⟩ : ∃ raster, rasterize [0x41] 2 48 58 none = .ok raster :=
    ⟨_, rasterize_eq_ok_iff.2 ⟨_, _, hsymbol, hwidth, rfl, rfl⟩⟩
  obtain ⟨hread, hjobs⟩ := rasterize_read_back Libraries.faithful_renderer
  obtain ⟨side, commands, hsquare, hback⟩ := hread [0x41] raster 2 48 58 none (by decide) hraster
  have hfiftyEight : side = 58 := by
    obtain ⟨symbol, image, hmade, -, hdots, -⟩ := hsquare.symbol
    rw [hsymbol, Except.ok.injEq] at hmade
    subst hmade
    change (side : Int) = (grid.side + 8 : Nat) * 2 at hdots
    omega
  have hempty : Printer.readRasterCommands [] = ([], []) := by
    rw [Printer.readRasterCommands]
    rfl
  have hwhole := hback []
  rw [List.append_nil, hempty, List.append_nil] at hwhole
  have hpayload : Request.payload { data := CodePoint.ofChars ['A'], size := 2 } = .ok ⟨[0x41], 1⟩ := by
    decide +kernel
  obtain ⟨f, hf⟩ := (exists_frame_iff _).2 ⟨by decide, by decide, _, hpayload, by decide⟩
  have hfpayload : f.payload = [0x41] := payload_of_frame hf hpayload
  have hfraster : rasterize f.payload 2 48 58 none = .ok raster := by rw [hfpayload, hraster]
  obtain ⟨text, htext⟩ := exists_encodedCaption isPage_cp437.encode (some ['a'])
  have hjob := imageJob_of_raster hf htext 4 58 hfraster
  obtain ⟨raster', text', -, others, hsame, -, hdata, -, hothers⟩ := hjobs _ _ _ _ _ _ _ hjob rfl
  rw [hfraster, Except.ok.injEq] at hsame
  subst hsame
  exact ⟨raster, commands, by decide, hraster, hfiftyEight ▸ hsquare.printsSquare, hwhole, _, text', others, hjob, rfl,
    hdata, hothers⟩

end ThermalPress.Qr
