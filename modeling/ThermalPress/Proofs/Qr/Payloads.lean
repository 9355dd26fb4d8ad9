import ThermalPress.Proofs.Qr.Frames

/-!
# Cut payloads

Data that is too long for its limit is cut at a byte, and what the cut leaves of a character is dropped with it.  So
the payload is well formed and holds the longest initial part of the data that can be written within the limit, and
there are at most three bytes between its end and the limit (`limit_le_length_cutPayload`).  Whether something was cut
depends on nothing but the length of the whole data (`length_cutPayload_lt_iff`).
-/

namespace ThermalPress.Qr

variable {data : List Char} {limit : Int}

private theorem cutPayload_of_length_le (h : (Utf8.encode data).length ≤ limit) :
    cutPayload (Utf8.encode data) limit = Utf8.encode data := by
  rw [cutPayload, if_pos h]

/-- Where the data goes beyond the limit, there is no room for a character of four bytes behind the payload. -/
theorem limit_le_length_cutPayload (hlimit : 0 ≤ limit) (h : limit < (Utf8.encode data).length) :
    limit ≤ (cutPayload (Utf8.encode data) limit).length + 3 := by
  have hcut : limit.toNat < (Utf8.encode data).length := by omega
  have hroom := Utf8.limit_le_length_encode_fitting hcut
  rw [cutPayload_encode hlimit]
  omega

/-- The payload lacks some of the data exactly if the whole data goes beyond the limit. -/
theorem length_cutPayload_lt_iff (hlimit : 0 ≤ limit) :
    (cutPayload (Utf8.encode data) limit).length < (Utf8.encode data).length ↔
      limit < (Utf8.encode data).length := by
  by_cases h : limit < (Utf8.encode data).length
  · have hwithin := length_cutPayload_le hlimit (Utf8.encode data)
    omega
  · rw [cutPayload_of_length_le (Int.not_lt.1 h)]
    omega

/-- The payload of a request for some characters is well formed.  It holds the longest initial part of the data that can
be written within the limit, and if it does not hold all of the data, there are at most three bytes left of the limit.
Building the frame issues one warning, with the lengths of data and payload, exactly if the data goes beyond the limit,
and the frame tells the same of its payload.  It is never refused for its data as long as the limit is one that a
command can carry. -/
theorem payload_longest {request : Request} (hdata : request.data = CodePoint.ofChars data)
    (hlimit : 0 ≤ request.maxLength) :
    ∃ payload, request.payload = .ok ⟨payload, (Utf8.encode data).length⟩ ∧
      (∃ kept, payload = Utf8.encode kept ∧ kept <+: data ∧ (Utf8.encode kept).length ≤ request.maxLength ∧
        (∀ other, other <+: data → (Utf8.encode other).length ≤ request.maxLength → other <+: kept) ∧
        Utf8.decode? payload = some kept) ∧
      payload <+: Utf8.encode data ∧
      (payload ≠ Utf8.encode data → request.maxLength ≤ payload.length + 3) ∧
      (buildFrame request).warnings = (if request.maxLength < (Utf8.encode data).length then
        [⟨(Utf8.encode data).length, payload.length⟩] else []) ∧
      (∀ f, (buildFrame request).result = .ok f → f.payload = payload ∧ f.dataLength = (Utf8.encode data).length ∧
        (f.truncated = true ↔ request.maxLength < (Utf8.encode data).length)) ∧
      (1 ≤ request.size ∧ request.size ≤ 16 → 48 ≤ request.errorLevel ∧ request.errorLevel ≤ 51 →
        request.maxLength ≤ 65532 → ∃ f, (buildFrame request).result = .ok f) := by
  have hpayload : request.payload = .ok ⟨cutPayload (Utf8.encode data) request.maxLength, (Utf8.encode data).length⟩ :=
    payload_eq_ok_iff.2 ⟨data, hdata, rfl⟩
  obtain ⟨kept, hkept, hinitial, hwithin, hlongest⟩ := cutPayload_longest hlimit data
  refine ⟨_, hpayload, ⟨kept, hkept, hinitial, hwithin, hlongest, ?_⟩, ?_, ?_, ?_, ?_, ?_⟩
  · rw [hkept, Utf8.decode?_encode]
  · rw [hkept]
    exact Utf8.encode_isPrefix hinitial
  · intro hcut
    by_cases h : request.maxLength < (Utf8.encode data).length
    · exact limit_le_length_cutPayload hlimit h
    · exact absurd (cutPayload_of_length_le (Int.not_lt.1 h)) hcut
  · rw [warnings_buildFrame hpayload]
    simp only [length_cutPayload_lt_iff hlimit]
  · intro f hf
    obtain ⟨hsame, -⟩ := frame_eq_ok_iff.1 hf
    rw [hpayload, Except.ok.injEq, Payload.mk.injEq] at hsame
    obtain ⟨hbytes, hlength⟩ := hsame
    refine ⟨hbytes.symm, hlength.symm, ?_⟩
    rw [Frame.truncated, ← hbytes, ← hlength, decide_eq_true_iff, length_cutPayload_lt_iff hlimit]
  · intro hsize hlevel hcommand
    have hlength := length_cutPayload_le hlimit (Utf8.encode data)
    exact (exists_frame_iff request).2 ⟨hsize, hlevel, _, hpayload, by dsimp only; omega⟩

/-- Characters of one to four bytes, of which the last one is cut before its last byte. -/
private def mixedData : Request := { data := CodePoint.ofChars ['a', 'é', '€', '😀'], maxLength := 9 }

theorem payload_longest_mixed :
    mixedData.payload = .ok ⟨Utf8.encode ['a', 'é', '€'], 10⟩ ∧
      (buildFrame mixedData).warnings.map Truncation.message = ["QR data truncated from 10 to 6 bytes"] ∧
      ∃ f, frame mixedData = .ok f ∧ f.payload.length = 6 ∧ f.dataLength = 10 ∧ f.truncated = true := by
  obtain ⟨payload, hpayload, -, -, -, hwarnings, hframe, hexists⟩ :=
    @payload_longest ['a', 'é', '€', '😀'] mixedData rfl (by decide)
  have hmixed : mixedData.payload = .ok ⟨Utf8.encode ['a', 'é', '€'], 10⟩ := by decide +kernel
  obtain rfl : payload = Utf8.encode ['a', 'é', '€'] := by
    rw [hmixed, Except.ok.injEq, Payload.mk.injEq] at hpayload
    exact hpayload.1.symm
  obtain ⟨f, hf⟩ := hexists (by decide) (by decide) (by decide)
  obtain ⟨hkept, hlength, htruncated⟩ := hframe f hf
  refine ⟨hmixed, ?_, f, hf, ?_, hlength, htruncated.2 (by decide)⟩
  · rw [hwarnings]
    decide +kernel
  · rw [hkept]
    rfl

end ThermalPress.Qr
