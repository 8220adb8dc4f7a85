import Mathlib.Tactic.Lemma
import ScriptHost.Snapshot.Envelope

/-!
# The format of sealed bytes

Sealed bytes are looked at by their places: magic and version, the size of the name, the name, the
digest and the payload behind it. `IsSealed` says what stands where. Sealing an envelope gives the
bytes of this format and opening accepts them and no others, so every envelope that can be sealed
has exactly one sealed form, whatever the digest is.

## Main definitions

* `ScriptHost.Envelope.nameSize`, `ScriptHost.Envelope.nameIn`, `ScriptHost.Envelope.recordedIn`,
  `ScriptHost.Envelope.payloadIn` — the parts of bytes, by their places.
* `ScriptHost.Envelope.IsSealed` — the format.

## Main results

* `ScriptHost.Envelope.ofBytes_eq_ok_iff` — bytes of the format are opened, and no others.
* `ScriptHost.Envelope.toBytes_eq_ok_iff` — an envelope is sealed as bytes of the format.
* `ScriptHost.Envelope.ofBytes_toBytes` — a sealed envelope is opened to what was sealed.
* `ScriptHost.Envelope.opened_iff_sealed` — what is opened is what can be sealed.
-/

namespace ScriptHost.Envelope

/-! ## The parts of bytes -/

/-- The size of the name that the header gives, the higher byte first. -/
def nameSize (bytes : List UInt8) : Nat :=
  256 * (bytes.getD 5 0).toNat + (bytes.getD 6 0).toNat

/-- The name behind the header. -/
def nameIn (bytes : List UInt8) : List UInt8 :=
  (bytes.drop headerSize).take (nameSize bytes)

/-- The place of the recorded digest, which is behind the name. -/
def digestPlace (bytes : List UInt8) : Nat :=
  headerSize + nameSize bytes

/-- The recorded digest. -/
def recordedIn (bytes : List UInt8) : List UInt8 :=
  (bytes.drop (digestPlace bytes)).take digestSize

/-- The payload, which is all that stands behind the digest. -/
def payloadIn (bytes : List UInt8) : List UInt8 :=
  bytes.drop (digestPlace bytes + digestSize)

/-- The bytes hold an envelope: what stands where. -/
structure IsSealed (digest : Digest) (bytes : List UInt8) (envelope : Envelope) : Prop where
  /-- The magic bytes come first. -/
  magic : bytes.take 4 = magic
  /-- The version of the format stands behind them. -/
  version : bytes[4]? = some formatVersion
  /-- The next two bytes hold the size of the name. -/
  size : nameSize bytes = (Text.bytes envelope.backend).length
  /-- The name follows. -/
  name : nameIn bytes = Text.bytes envelope.backend
  /-- The digest of name and payload follows. -/
  recorded : recordedIn bytes = (digest (digested (nameIn bytes) (payloadIn bytes))).toList
  /-- The rest is the payload. -/
  payload : payloadIn bytes = envelope.payload

/-- Bytes of the format reach behind the digest. -/
lemma IsSealed.le_length {digest : Digest} {bytes : List UInt8} {envelope : Envelope}
    (h : IsSealed digest bytes envelope) : digestPlace bytes + digestSize ≤ bytes.length := by
  have hlength := congrArg List.length h.recorded
  rw [recordedIn, List.length_take, List.length_drop, Vector.length_toList] at hlength
  simp only [digestSize] at hlength ⊢
  omega

/-! ## Behind the header -/

section Header

variable {start body : List UInt8} {version high low : UInt8}

/-- Bytes that are not too short begin with a header. -/
lemma exists_header {bytes : List UInt8} (h : headerSize ≤ bytes.length) :
    ∃ start version high low body, start.length = magic.length ∧
      bytes = start ++ version :: high :: low :: body := by
  have hrest : 3 ≤ (bytes.drop magic.length).length := by
    rw [List.length_drop]
    exact Nat.le_sub_of_add_le h
  obtain ⟨version, high, low, body, hdrop⟩ : ∃ version high low body,
      bytes.drop magic.length = version :: high :: low :: body := by
    match bytes.drop magic.length, hrest with
    | version :: high :: low :: body, _ => exact ⟨version, high, low, body, rfl⟩
  refine ⟨bytes.take magic.length, version, high, low, body, ?_, ?_⟩
  · rw [List.length_take]
    exact Nat.min_eq_left (Nat.le_trans (by decide) h)
  · rw [← hdrop, List.take_append_drop]

/-- Behind a header with magic bytes and version the name, the digest and the payload are read. -/
lemma ofBytes_header (digest : Digest) (hstart : start.length = magic.length) :
    ofBytes digest (start ++ version :: high :: low :: body) =
      if start ≠ magic then .error .noMagic
      else if version ≠ formatVersion then .error (.version version)
      else ofBody digest (256 * high.toNat + low.toNat) body := by
  have hlong : ¬ (start ++ version :: high :: low :: body).length < headerSize := by
    rw [List.length_append, hstart]
    simp only [List.length_cons, magic, headerSize, List.length_nil]
    omega
  rw [ofBytes, if_neg hlong, List.take_left' hstart, List.drop_left' hstart]

/-- The header holds the size of the name. -/
lemma nameSize_header (hstart : start.length = magic.length) :
    nameSize (start ++ version :: high :: low :: body) = 256 * high.toNat + low.toNat := by
  have hlength : start.length = 4 := hstart
  simp [nameSize, List.getElem?_append_right, hlength]

/-- The body stands behind the header. -/
lemma drop_header (hstart : start.length = magic.length) (k : Nat) :
    (start ++ version :: high :: low :: body).drop (headerSize + k) = body.drop k := by
  have hheader : (start ++ [version, high, low]).length = headerSize := by
    simp [hstart, magic, headerSize]
  have hbytes : start ++ version :: high :: low :: body =
      (start ++ [version, high, low]) ++ body := by
    simp
  rw [hbytes, ← List.drop_drop, List.drop_left' hheader]

/-- The parts behind a header are found by the size of the name. -/
lemma parts_header {n : Nat} (hstart : start.length = magic.length)
    (hn : nameSize (start ++ version :: high :: low :: body) = n) :
    nameIn (start ++ version :: high :: low :: body) = body.take n ∧
      recordedIn (start ++ version :: high :: low :: body) = (body.drop n).take digestSize ∧
      payloadIn (start ++ version :: high :: low :: body) = body.drop (n + digestSize) := by
  refine ⟨?_, ?_, ?_⟩
  · rw [nameIn, hn]
    exact congrArg (List.take n) (drop_header hstart 0)
  · rw [recordedIn, digestPlace, hn, drop_header hstart]
  · rw [payloadIn, digestPlace, hn, Nat.add_assoc, drop_header hstart]

/-- What stands where behind a header. -/
lemma isSealed_header {digest : Digest} {envelope : Envelope} {n : Nat}
    (hname : (Text.bytes envelope.backend).length = n) (hstart : start.length = magic.length) :
    IsSealed digest (start ++ version :: high :: low :: body) envelope ↔
      start = magic ∧ version = formatVersion ∧ 256 * high.toNat + low.toNat = n ∧
        body.take n = Text.bytes envelope.backend ∧
        (body.drop n).take digestSize =
          (digest (digested (Text.bytes envelope.backend) envelope.payload)).toList ∧
        body.drop (n + digestSize) = envelope.payload := by
  have htake : (start ++ version :: high :: low :: body).take 4 = start :=
    List.take_left' hstart
  have hversion : (start ++ version :: high :: low :: body)[4]? = some version := by
    have hlength : start.length = 4 := hstart
    simp [hlength]
  have hsize : nameSize (start ++ version :: high :: low :: body) =
      256 * high.toNat + low.toNat := nameSize_header hstart
  constructor
  · intro h
    have hn := h.size.trans hname
    obtain ⟨hnameIn, hrecordedIn, hpayloadIn⟩ := parts_header hstart hn
    refine ⟨htake.symm.trans h.magic, Option.some.inj (hversion.symm.trans h.version),
      hsize.symm.trans hn, hnameIn.symm.trans h.name, ?_, hpayloadIn.symm.trans h.payload⟩
    rw [← hrecordedIn, h.recorded, h.name, h.payload]
  · rintro ⟨hmagic, hformat, hn, hbodyName, hbodyDigest, hbodyPayload⟩
    obtain ⟨hnameIn, hrecordedIn, hpayloadIn⟩ := parts_header hstart (hsize.trans hn)
    refine ⟨htake.trans hmagic, hversion.trans (congrArg some hformat),
      (hsize.trans hn).trans hname.symm, hnameIn.trans hbodyName, ?_,
      hpayloadIn.trans hbodyPayload⟩
    rw [hrecordedIn, hbodyDigest, hnameIn, hbodyName, hpayloadIn, hbodyPayload]

end Header

/-! ## Opening -/

/-- A body is opened just when name, digest and payload stand where they are looked for. -/
lemma ofBody_eq_ok_iff (digest : Digest) (n : Nat) (body : List UInt8) (envelope : Envelope) :
    ofBody digest n body = .ok envelope ↔
      n = (Text.bytes envelope.backend).length ∧ body.take n = Text.bytes envelope.backend ∧
        (body.drop n).take digestSize =
          (digest (digested (Text.bytes envelope.backend) envelope.payload)).toList ∧
        body.drop (n + digestSize) = envelope.payload := by
  constructor
  · intro h
    unfold ofBody at h
    split at h
    · cases h
    · rename_i hlong
      dsimp only at h
      split at h
      · cases h
      · rename_i hsum
        have hsum := Decidable.not_not.mp hsum
        split at h
        · cases h
        · rename_i backend hbackend
          cases h
          have hname := Text.bytes_of_ofBytes? hbackend
          refine ⟨?_, hname.symm, ?_, rfl⟩
          · rw [hname, List.length_take]
            omega
          · rw [← hsum, hname]
  · rintro ⟨hn, hname, hsum, hpayload⟩
    have hlong : ¬ body.length < n + digestSize := by
      have hlength := congrArg List.length hsum
      rw [List.length_take, List.length_drop, Vector.length_toList] at hlength
      simp only [digestSize] at hlength ⊢
      omega
    obtain ⟨backend, payload⟩ := envelope
    unfold ofBody
    rw [if_neg hlong]
    dsimp only at hname hsum hpayload ⊢
    rw [hname, hpayload, if_neg (not_not_intro hsum.symm), Text.ofBytes?_bytes]

/-- **Opening.** Bytes are opened to an envelope just when they are of the format and hold it. -/
theorem ofBytes_eq_ok_iff (digest : Digest) (bytes : List UInt8) (envelope : Envelope) :
    ofBytes digest bytes = .ok envelope ↔ IsSealed digest bytes envelope := by
  by_cases hlong : headerSize ≤ bytes.length
  · obtain ⟨start, version, high, low, body, hstart, rfl⟩ := exists_header hlong
    rw [ofBytes_header digest hstart, isSealed_header rfl hstart]
    by_cases hmagic : start = magic
    · by_cases hversion : version = formatVersion
      · rw [if_neg (not_not_intro hmagic), if_neg (not_not_intro hversion), ofBody_eq_ok_iff]
        constructor
        · rintro ⟨hn, hrest⟩
          rw [hn] at hrest
          exact ⟨hmagic, hversion, hn, hrest⟩
        · rintro ⟨-, -, hn, hrest⟩
          rw [hn]
          exact ⟨rfl, hrest⟩
      · simp [hmagic, hversion]
    · simp [hmagic]
  · have hshort : bytes.length < headerSize := Nat.lt_of_not_le hlong
    rw [ofBytes, if_pos hshort]
    refine ⟨nofun, fun h => ?_⟩
    have hlength := h.le_length
    rw [digestPlace] at hlength
    omega

/-! ## Sealing -/

/-- Two bytes hold the size of a name that fits them. -/
lemma sizeBytes_eq_iff {n : Nat} {high low : UInt8} (h : n < nameBound) :
    sizeBytes n = [high, low] ↔ 256 * high.toNat + low.toNat = n := by
  rw [nameBound, UInt16.size] at h
  have hhigh := high.toNat_lt
  have hlow := low.toNat_lt
  simp only [sizeBytes, List.cons.injEq, and_true, ← UInt8.toNat_inj, UInt8.toNat_ofNat']
  omega

/-- An envelope is sealed when its name fits the header, and is laid out then. -/
lemma toBytes_eq_ok_iff_layout (digest : Digest) (bytes : List UInt8) (envelope : Envelope) :
    toBytes digest envelope = .ok bytes ↔ (Text.bytes envelope.backend).length < nameBound ∧
      bytes = layout digest (Text.bytes envelope.backend) envelope.payload := by
  unfold toBytes
  dsimp only
  split
  · simp [*, eq_comm]
  · simp [*]

/-- Bytes that are laid out begin with a header. -/
lemma layout_eq (digest : Digest) (name payload : List UInt8) {high low : UInt8}
    (h : sizeBytes name.length = [high, low]) :
    layout digest name payload = magic ++ formatVersion :: high :: low ::
      (name ++ ((digest (digested name payload)).toList ++ payload)) := by
  simp [layout, h]

/-- **Sealing.** An envelope is sealed as the bytes of the format that hold it, if there are any.

**Proof sketch.** The parts of a layout stand where they are looked for. Bytes of the format are
their parts one after the other, and two bytes hold no size of a name that is too long. -/
theorem toBytes_eq_ok_iff (digest : Digest) (bytes : List UInt8) (envelope : Envelope) :
    toBytes digest envelope = .ok bytes ↔ IsSealed digest bytes envelope := by
  rw [toBytes_eq_ok_iff_layout]
  obtain ⟨name, hname⟩ : ∃ name, Text.bytes envelope.backend = name := ⟨_, rfl⟩
  obtain ⟨sum, hsum⟩ : ∃ sum, (digest (digested name envelope.payload)).toList = sum := ⟨_, rfl⟩
  have hlength : sum.length = digestSize := hsum ▸ Vector.length_toList
  constructor
  · rintro ⟨hfits, rfl⟩
    obtain ⟨high, low, hsize⟩ : ∃ high low, sizeBytes name.length = [high, low] := ⟨_, _, rfl⟩
    rw [hname] at hfits
    rw [hname, layout_eq digest name envelope.payload hsize, isSealed_header rfl rfl, hname, hsum]
    refine ⟨rfl, rfl, (sizeBytes_eq_iff hfits).mp hsize, List.take_left, ?_, ?_⟩
    · rw [List.drop_left, List.take_left' hlength]
    · rw [← List.drop_drop, List.drop_left, List.drop_left' hlength]
  · intro h
    have hlong : headerSize ≤ bytes.length := by
      have hlength := h.le_length
      rw [digestPlace] at hlength
      omega
    obtain ⟨start, version, high, low, body, hstart, rfl⟩ := exists_header hlong
    obtain ⟨rfl, rfl, hn, htake, hdigest, hdrop⟩ := (isSealed_header rfl hstart).mp h
    rw [hname] at hn htake hdrop
    rw [hname, hsum] at hdigest
    have hfits : name.length < nameBound := by
      have hhigh := high.toNat_lt
      have hlow := low.toNat_lt
      rw [nameBound, UInt16.size]
      omega
    have hbody : body = name ++ (sum ++ envelope.payload) := by
      rw [← htake, ← hdigest, ← hdrop, ← List.drop_drop, List.take_append_drop,
        List.take_append_drop]
    rw [hname]
    refine ⟨hfits, ?_⟩
    rw [layout_eq digest name envelope.payload ((sizeBytes_eq_iff hfits).mpr hn), hsum, hbody]

/-- An envelope cannot be sealed just when its name is too long for two bytes. -/
lemma toBytes_eq_error_iff (digest : Digest) (envelope : Envelope) :
    (∃ fault, toBytes digest envelope = .error fault) ↔
      65535 < (Text.bytes envelope.backend).length := by
  unfold toBytes
  dsimp only
  rw [nameBound, UInt16.size]
  split
  · simp; omega
  · simp; omega

/-- A sealed envelope is opened to what was sealed. -/
theorem ofBytes_toBytes {digest : Digest} {envelope : Envelope} {bytes : List UInt8}
    (h : toBytes digest envelope = .ok bytes) : ofBytes digest bytes = .ok envelope :=
  (ofBytes_eq_ok_iff digest bytes envelope).mpr ((toBytes_eq_ok_iff digest bytes envelope).mp h)

/-- **What is opened is what can be sealed.** Whatever the digest is, bytes are opened to an
envelope just when the envelope is sealed as these bytes, which are the bytes of the format that
hold it; and an envelope cannot be sealed just when the name of its backend is longer than 65535
bytes. -/
theorem opened_iff_sealed (digest : Digest) (bytes : List UInt8) (envelope : Envelope) :
    (ofBytes digest bytes = .ok envelope ↔ toBytes digest envelope = .ok bytes) ∧
      (toBytes digest envelope = .ok bytes ↔ IsSealed digest bytes envelope) ∧
      ((∃ fault, toBytes digest envelope = .error fault) ↔
        65535 < (Text.bytes envelope.backend).length) := by
  refine ⟨?_, toBytes_eq_ok_iff digest bytes envelope, toBytes_eq_error_iff digest envelope⟩
  rw [ofBytes_eq_ok_iff, toBytes_eq_ok_iff]

end ScriptHost.Envelope
