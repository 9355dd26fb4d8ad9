import ThermalPress.Libraries.Renderer
import ThermalPress.Proofs.Qr.Rasters

/-!
# What the renderer of one system does

A symbol is drawn for the least version that holds the data, unless a block of it is all zeros (`symbolOf_eq_ok_iff`).
Drawing, masking and choosing a mask leave the number of modules on a side as the version has it (`side_of_symbolOf`),
and cutting a picture into bands loses no row of it (`flatten_bands`).  So this renderer draws what it makes
(`draws_renderer`) and prints squares in bands (`faithful_renderer`), as is assumed of one elsewhere.
-/

namespace ThermalPress.Libraries

open Qr (ErrorLevel)

/-! ### The side of a symbol -/

private theorem side_drawAll (grid : Grid) (places : List ((Nat × Nat) × Nat)) (bits : Nat) :
    (places.foldl (fun grid place => grid.draw place.1 (bits.testBit place.2)) grid).side = grid.side := by
  induction places generalizing grid with
  | nil => rfl
  | cons place places ih => rw [List.foldl_cons, ih, Grid.side_draw]

@[simp] theorem Grid.side_withFormat (grid : Grid) (version : Nat) (level : ErrorLevel) (mask : Nat) :
    (grid.withFormat version level mask).side = grid.side := by
  unfold Grid.withFormat
  dsimp only
  split <;> simp only [side_drawAll, Grid.side_draw]

@[simp] theorem Canvas.side_best (canvas : Canvas) : canvas.best.1.side = canvas.grid.side := by
  unfold Canvas.best
  dsimp only
  have hchosen : ∀ found : Option (Nat × Grid × Nat),
      (∀ choice, found = some choice → choice.2.1.side = canvas.grid.side) →
        ((found.map (·.2)).getD (canvas.grid, 0)).1.side = canvas.grid.side := by
    rintro (_ | choice) hfound
    · rfl
    · exact hfound choice rfl
  apply hchosen
  -- the best one so far is one of the masked grids
  refine List.foldlRecOn (motive := fun found : Option (Nat × Grid × Nat) => ∀ choice, found = some choice →
    choice.2.1.side = canvas.grid.side) _ _ (by nofun) ?_
  intro found hfound choice hchoice
  have hside : choice.2.1.side = canvas.grid.side := by
    obtain ⟨mask, -, rfl⟩ := List.mem_map.1 hchoice
    rfl
  cases found with
  | none =>
    rintro _ ⟨⟩
    exact hside
  | some best =>
    intro kept hkept
    dsimp only at hkept
    split at hkept
    · cases hkept
      exact hside
    · exact hfound kept hkept

/-- A version lies between the first and the last. -/
theorem version_range {level : ErrorLevel} {parts : List Segment} {version : Nat}
    (h : version? level parts = some version) : 1 ≤ version ∧ version ≤ lastVersion := by
  have hmem := List.mem_of_find?_eq_some h
  rw [List.mem_range'_1] at hmem
  omega

theorem symbolOf_eq_ok_iff {level : ErrorLevel} {data : Bytes} {grid : Grid} : symbolOf level data = .ok grid ↔
    ∃ version codewords, version? level (segments data) = some version ∧
      codewords? version level (segments data) = some codewords ∧
      grid = (Canvas.of version codewords).best.1.withFormat version level (Canvas.of version codewords).best.2 := by
  unfold symbolOf
  dsimp only
  cases hversion : version? level (segments data) with
  | none => simp
  | some version =>
    cases hcodewords : codewords? version level (segments data) with
    | none => simp [hcodewords]
    | some codewords =>
      simp only [hcodewords, pure_eq_ok_iff, Option.some.injEq]
      constructor
      · rintro rfl
        exact ⟨version, codewords, rfl, hcodewords, rfl⟩
      · rintro ⟨_, codewords', rfl, hcodewords', rfl⟩
        rw [hcodewords, Option.some.injEq] at hcodewords'
        rw [hcodewords']

/-- A symbol has as many modules on a side as its version says. -/
theorem side_of_symbolOf {level : ErrorLevel} {data : Bytes} {grid : Grid} (h : symbolOf level data = .ok grid) :
    ∃ version, version? level (segments data) = some version ∧ grid.side = side version := by
  obtain ⟨version, codewords, hversion, -, rfl⟩ := symbolOf_eq_ok_iff.1 h
  exact ⟨version, hversion, by simp⟩

/-- No symbol has more modules on a side than one of the last version. -/
theorem side_le_of_symbolOf {level : ErrorLevel} {data : Bytes} {grid : Grid} (h : symbolOf level data = .ok grid) :
    grid.side ≤ 177 := by
  obtain ⟨version, hversion, hside⟩ := side_of_symbolOf h
  have hlast := (version_range hversion).2
  rw [hside, side]
  rw [lastVersion] at hlast
  omega

/-- A symbol is made for a positive size of its modules. -/
theorem makeSymbol_eq_ok_iff {level : ErrorLevel} {boxSize : Int} {border : Nat} {payload : Bytes} {symbol : Qr.Symbol} :
    makeSymbol level boxSize border payload = .ok symbol ↔ 0 < boxSize ∧ ∃ grid, symbolOf level payload = .ok grid ∧
      symbol = ⟨grid.side, .ok (picture border boxSize.toNat grid)⟩ := by
  unfold makeSymbol
  by_cases hsize : boxSize ≤ 0
  · have hnot : ¬ 0 < boxSize := by omega
    simp [hsize, hnot]
  · have hpos : 0 < boxSize := by omega
    rw [if_neg hsize]
    cases symbolOf level payload with
    | error e => cases e <;> simp
    | ok grid => simp [hpos, eq_comm]

/-! ### Pictures -/

theorem length_pictureRows (border boxSize : Nat) (grid : Grid) :
    (pictureRows border boxSize grid).length = pictureSide border boxSize grid := by
  simp only [pictureRows, Grid.rows, List.length_flatMap, List.length_append, List.length_replicate, List.map_const',
    List.sum_replicate_nat, List.length_map, List.length_range, pictureSide]
  congr 1
  omega

section Bands

variable {height : Nat} {rows band : List (List Bool)}

/-- Bands hold all the rows that were cut, in order. -/
theorem flatten_bands (height : Nat) (rows : List (List Bool)) : (bands height rows).flatten = rows := by
  fun_induction bands height rows with
  | case1 => rfl
  | case2 row rest ih => rw [List.flatten_cons, ih, List.cons_append, List.take_append_drop]

theorem length_of_mem_bands (hheight : 0 < height) (h : band ∈ bands height rows) :
    0 < band.length ∧ band.length ≤ height := by
  fun_induction bands height rows with
  | case1 => cases h
  | case2 row rest ih =>
    rcases List.mem_cons.1 h with rfl | hlater
    · have htake := List.length_take_le (height - 1) rest
      rw [List.length_cons]
      omega
    · exact ih hlater

end Bands

theorem printImage_eq_ok_iff {profile : Option String} {image : Qr.Image} {bytes : Bytes} :
    printImage profile image = .ok bytes ↔ checkProfile profile image.width = .ok () ∧
      bytes = (bands bandHeight image.rows).flatMap fun band => (RasterCommand.ofRows image.width band).bytes := by
  simp only [printImage, bind_eq_ok_iff, pure_eq_ok_iff]
  constructor
  · rintro ⟨_, hprofile, rfl⟩
    exact ⟨hprofile, rfl⟩
  · rintro ⟨hprofile, rfl⟩
    exact ⟨(), hprofile, rfl⟩

theorem draws_renderer : Qr.Renderer.Draws where
  drawn := by
    intro level boxSize border payload symbol h
    obtain ⟨-, grid, -, rfl⟩ := makeSymbol_eq_ok_iff.1 h
    exact ⟨_, rfl⟩

theorem faithful_renderer : Qr.Renderer.Faithful where
  modules_le := by
    intro level boxSize border payload symbol h
    obtain ⟨-, grid, hgrid, rfl⟩ := makeSymbol_eq_ok_iff.1 h
    exact side_le_of_symbolOf hgrid
  square := by
    intro level boxSize border payload symbol image h himage
    obtain ⟨hsize, grid, -, rfl⟩ := makeSymbol_eq_ok_iff.1 h
    cases himage
    refine ⟨?_, length_pictureRows ..⟩
    obtain ⟨size, rfl⟩ := Int.eq_ofNat_of_zero_le (Int.le_of_lt hsize)
    exact Int.natCast_mul ..
  banded := by
    intro profile image bytes h
    obtain ⟨-, rfl⟩ := printImage_eq_ok_iff.1 h
    exact ⟨_, flatten_bands bandHeight image.rows, fun band => length_of_mem_bands (by decide), rfl⟩

end ThermalPress.Libraries
