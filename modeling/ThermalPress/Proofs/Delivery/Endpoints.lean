import ThermalPress.Delivery.Connection
import ThermalPress.Proofs.Delivery.Traffic
import ThermalPress.Proofs.Number.Hexadecimal
import ThermalPress.Proofs.Results

/-!
# Names of endpoints

Deliveries take turns by the names of their endpoints (`Settings.excludes_iff`).  The name of a USB device tells the
spellings of its identities in small letters, which are read as numbers when it is opened.  So one name is one device,
but one device has as many names as its identities have spellings; only among spellings of one form is the name the
device (`Settings.endpointName_of_usb`).
-/

namespace ThermalPress

namespace Settings

/-! ### Turns -/

/-- Whatever happens, two deliveries of these settings never have their turn at once. -/
def Excludes (s t : Settings) : Prop :=
  ∀ (moves : List Move) (traffic : Traffic), Traffic.idle.run moves = some traffic →
    ∀ (i j : Nat) (d d' : Delivery), traffic.deliveries[i]? = some d → traffic.deliveries[j]? = some d' →
      d.endpoint = s.endpointName → d'.endpoint = t.endpointName → d.hasTurn = true → d'.hasTurn = true → i = j

/-- Two deliveries, one behind the other, that have come to their turn. -/
private def bothStarted (job : PrintJob) (one other : String) : List Move :=
  [.submit job one, .submit job other, .event 0 (.work none), .event 0 (.work none), .event 1 (.work none),
    .event 1 (.work none)]

/-- At different endpoints both have their turn. -/
private theorem run_bothStarted (job : PrintJob) {one other : String} (h : one ≠ other) :
    ∃ traffic d d', Traffic.idle.run (bothStarted job one other) = some traffic ∧
      traffic.deliveries[0]? = some d ∧ traffic.deliveries[1]? = some d' ∧ d.endpoint = one ∧ d'.endpoint = other ∧
      d.hasTurn = true ∧ d'.hasTurn = true := by
  simp [bothStarted, Traffic.run, Traffic.step, Traffic.submit, Traffic.update, Traffic.idle, Line.handle,
    Delivery.ofJob, Delivery.handle, Delivery.advance, Delivery.hasTurn, h.symm]

/-- Deliveries take turns exactly at one name. -/
theorem excludes_iff (s t : Settings) : s.Excludes t ↔ s.endpointName = t.endpointName := by
  constructor
  · intro hexcludes
    by_contra hne
    obtain ⟨traffic, d, d', hrun, hd, hd', hone, hother, hturn, hturn'⟩ :=
      run_bothStarted ⟨[], .whole 1, "job"⟩ hne
    have hsame := hexcludes _ traffic hrun 0 1 d d' hd hd' hone hother hturn hturn'
    cases hsame
  · intro hname moves traffic hrun i j d d' hd hd' hone hother hturn hturn'
    have horderly := Traffic.orderly_idle.run hrun
    exact horderly.eq_of_hasTurn hd hd' (by rw [hone, hother, hname]) hturn hturn'

/-! ### USB devices -/

/-- The identities of the USB device of the settings are read as numbers. -/
theorem deviceOf_usb {s : Settings} (hs : s.attachment = .usb) {d : Device} (h : deviceOf s = .ok d) :
    ∃ vendor product, Integer.read? 16 s.usbVendorId.toList = some vendor ∧
      Integer.read? 16 s.usbProductId.toList = some product ∧ d = .usb vendor product := by
  have hread : ∀ {text : String} {n : Int}, Integer.read 16 text = .ok n → Integer.read? 16 text.toList = some n := by
    intro text n hn
    unfold Integer.read at hn
    split at hn
    · next m hm => rw [hm, Except.ok.inj hn]
    · cases hn
  unfold deviceOf at h
  rw [hs] at h
  simp only [bind_eq_ok_iff, pure_eq_ok_iff, mapError_eq_ok_iff] at h
  obtain ⟨vendor, hvendor, product, hproduct, rfl⟩ := h
  exact ⟨vendor, product, hread hvendor, hread hproduct, rfl⟩

/-- A number in small letters. -/
theorem toList_lowerString_of_read? {text : String} {n : Int} (h : Integer.read? 16 text.toList = some n) :
    (lowerString text).toList = text.toList.map Char.toLower := by
  rw [lowerString, String.toList_ofList]
  exact lower_eq_map fun c hc => (Integer.isNumeral_of_read? h c hc).isAsciiCased

/-- There is no colon in a number. -/
theorem colon_notMem_of_read? {text : String} {n : Int} (h : Integer.read? 16 text.toList = some n) :
    ':' ∉ (lowerString text).toList := by
  rw [toList_lowerString_of_read? h]
  intro hmem
  obtain ⟨c, hc, hcolon⟩ := List.mem_map.1 hmem
  exact (Integer.isNumeral_of_read? h c hc).ne_colon ((toLower_eq_iff (by decide) c).1 hcolon)

/-- The identities of both USB devices are spelled alike, but for the case of letters. -/
def SpelledAlike (s t : Settings) : Prop :=
  lowerString s.usbVendorId = lowerString t.usbVendorId ∧ lowerString s.usbProductId = lowerString t.usbProductId

/-- The identities of both USB devices have the mark and as many digits. -/
def FormedAlike (s t : Settings) : Prop :=
  (∃ width, Integer.isMarked width s.usbVendorId.toList = true ∧ Integer.isMarked width t.usbVendorId.toList = true) ∧
    ∃ width, Integer.isMarked width s.usbProductId.toList = true ∧ Integer.isMarked width t.usbProductId.toList = true

section Usb

variable {s t : Settings}

theorem endpointName_eq_iff_spelledAlike (hs : s.attachment = .usb) (ht : t.attachment = .usb) {vendor product : Int}
    (hvendor : Integer.read? 16 s.usbVendorId.toList = some vendor)
    (hproduct : Integer.read? 16 s.usbProductId.toList = some product) :
    s.endpointName = t.endpointName ↔ s.SpelledAlike t := by
  have hname : ∀ {r : Settings}, r.attachment = .usb → r.endpointName.toList =
      "usb:".toList ++ ((lowerString r.usbVendorId).toList ++ ':' :: (lowerString r.usbProductId).toList) := by
    intro r hr
    simp [endpointName, hr]
  -- the first colon behind the kind of the device parts the identities
  rw [← String.toList_inj, hname hs, hname ht, List.append_cancel_left_eq,
    List.append_cons_inj_of_notMem (colon_notMem_of_read? hvendor) (colon_notMem_of_read? hproduct),
    SpelledAlike, ← String.toList_inj, ← String.toList_inj]
  simp

/-- Numbers that are the same in small letters are the same. -/
theorem read?_eq_of_lowerString_eq {text text' : String} {n m : Int} (h : Integer.read? 16 text.toList = some n)
    (h' : Integer.read? 16 text'.toList = some m) (hlower : lowerString text = lowerString text') : n = m := by
  have hletters : text.toList.map Char.toLower = text'.toList.map Char.toLower := by
    rw [← toList_lowerString_of_read? h, hlower, toList_lowerString_of_read? h']
  rw [← Integer.read?_map_toLower, hletters, Integer.read?_map_toLower, h'] at h
  exact (Option.some.inj h).symm

theorem lowerString_eq_of_marked {width : Nat} {text text' : String} {n : Int}
    (hmarked : Integer.isMarked width text.toList = true) (hmarked' : Integer.isMarked width text'.toList = true)
    (h : Integer.read? 16 text.toList = some n) (h' : Integer.read? 16 text'.toList = some n) :
    lowerString text = lowerString text' := by
  have hletters := Integer.map_toLower_eq_of_marked hmarked hmarked' (h.trans h'.symm)
  rw [← String.toList_inj, toList_lowerString_of_read? h, toList_lowerString_of_read? h', hletters]

/-- USB devices have one name exactly if their identities are spelled alike, and then deliveries to them take turns.
One name is one device, and one device has one name among identities that are formed alike. -/
theorem endpointName_of_usb (hs : s.attachment = .usb) (ht : t.attachment = .usb) {d d' : Device}
    (hd : deviceOf s = .ok d) (hd' : deviceOf t = .ok d') :
    (s.endpointName = t.endpointName ↔ s.SpelledAlike t) ∧ (s.Excludes t ↔ s.endpointName = t.endpointName) ∧
      (s.endpointName = t.endpointName → d = d') ∧
      (d = d' → s.FormedAlike t → s.endpointName = t.endpointName) := by
  obtain ⟨vendor, product, hvendor, hproduct, rfl⟩ := deviceOf_usb hs hd
  obtain ⟨vendor', product', hvendor', hproduct', rfl⟩ := deviceOf_usb ht hd'
  have hspelled := endpointName_eq_iff_spelledAlike hs ht hvendor hproduct
  refine ⟨hspelled, excludes_iff s t, ?_, ?_⟩
  · intro hname
    obtain ⟨hvendors, hproducts⟩ := hspelled.1 hname
    rw [read?_eq_of_lowerString_eq hvendor hvendor' hvendors, read?_eq_of_lowerString_eq hproduct hproduct' hproducts]
  · rintro ⟨⟩ ⟨⟨_, hmarked, hmarked'⟩, _, hmarkedProduct, hmarkedProduct'⟩
    exact hspelled.2 ⟨lowerString_eq_of_marked hmarked hmarked' hvendor hvendor',
      lowerString_eq_of_marked hmarkedProduct hmarkedProduct' hproduct hproduct'⟩

end Usb

/-- The case of letters in the identities and in their marks does not matter. -/
theorem endpointName_of_usb_capitals :
    let s : Settings := { attachment := .usb, usbVendorId := "0x04B8", usbProductId := "0x0E28" }
    let t : Settings := { attachment := .usb, usbVendorId := "0X04b8", usbProductId := "0x0e28" }
    deviceOf s = .ok (.usb 0x04B8 0x0E28) ∧ deviceOf t = .ok (.usb 0x04B8 0x0E28) ∧ s.FormedAlike t ∧
      s.endpointName = t.endpointName ∧ s.Excludes t := by
  intro s t
  have hs : deviceOf s = .ok (.usb 0x04B8 0x0E28) := by decide +kernel
  have ht : deviceOf t = .ok (.usb 0x04B8 0x0E28) := by decide +kernel
  have hformed : s.FormedAlike t := ⟨⟨4, by decide +kernel⟩, 4, by decide +kernel⟩
  obtain ⟨-, hexcludes, -, hsame⟩ := endpointName_of_usb rfl rfl hs ht
  have hname := hsame rfl hformed
  exact ⟨hs, ht, hformed, hname, hexcludes.2 hname⟩

/-- Without its mark the identity of the vendor makes another name for the same device, so that deliveries to it do not
wait for each other. -/
theorem not_excludes_of_unmarked :
    let s : Settings := { attachment := .usb, usbVendorId := "0x04b8" }
    let t : Settings := { attachment := .usb, usbVendorId := "04b8" }
    deviceOf s = .ok (.usb 0x04B8 0x0E28) ∧ deviceOf t = .ok (.usb 0x04B8 0x0E28) ∧
      s.endpointName ≠ t.endpointName ∧ ¬ s.Excludes t := by
  intro s t
  have hname : s.endpointName ≠ t.endpointName := by decide +kernel
  exact ⟨by decide +kernel, by decide +kernel, hname, fun hexcludes => hname ((excludes_iff s t).1 hexcludes)⟩

end Settings

end ThermalPress
