import ScriptHost.Proofs.Snapshot.Envelope

/-!
# Damaged seals

Sealed bytes that were cut off, or changed anywhere but at the size of the name and at the recorded
digest, are refused, unless the digest has a collision: different contents with the same digest. The
digest is any function from bytes to 32 bytes, so that the trust in a digest in use carries over to
the seals. Sealed bytes in which only the recorded digest was changed, or in which a magic byte or
the version was, are always refused.

Opening recovers at most one envelope, so the damaged bytes that are opened hold another envelope
than the one that was sealed. The place of the digest is the same in both, and with it the digest.

## Main definitions

* `ScriptHost.Envelope.content` — the bytes that the digest of an envelope is taken of.
* `ScriptHost.Envelope.Collides` — different bytes with the same digest.
* `ScriptHost.Envelope.Damage` — damages that only a collision hides.
* `ScriptHost.Envelope.PlainDamage` — damages that nothing hides.

## Main results

* `ScriptHost.Envelope.IsSealed.eq_of_content` — sealed bytes with the same content and the same
  size of the name are the same.
* `ScriptHost.Envelope.damage_refused` — damaged bytes are refused.
-/

namespace ScriptHost.Envelope

/-! ## Damages -/

/-- The bytes that the digest of an envelope is taken of. -/
def content (envelope : Envelope) : List UInt8 :=
  digested (Text.bytes envelope.backend) envelope.payload

/-- Different bytes with the same digest. -/
def Collides (digest : Digest) (xs ys : List UInt8) : Prop :=
  xs ≠ ys ∧ digest xs = digest ys

/-- Damages of sealed bytes that only a collision of the digest hides. -/
inductive Damage (bytes damaged : List UInt8) : Prop
  /-- Bytes are cut off at the end. -/
  | cut (h : damaged <+: bytes)
  /-- The size of the name and the digest stand where they stood, whatever else is changed, cut off
  or appended. -/
  | around (hsize : (damaged.drop 5).take 2 = (bytes.drop 5).take 2)
      (hrecorded : (damaged.drop (digestPlace bytes)).take digestSize = recordedIn bytes)

/-- Damages of sealed bytes that nothing hides. -/
inductive PlainDamage (bytes damaged : List UInt8) : Prop
  /-- No byte is changed but in the digest. -/
  | within (h : ∀ i, i < digestPlace bytes ∨ digestPlace bytes + digestSize ≤ i →
      damaged[i]? = bytes[i]?)
  /-- A magic byte or the version is changed, whatever else is. -/
  | header {i : Nat} (hi : i < 5) (h : damaged[i]? ≠ bytes[i]?)

/-! ## Parts of damaged bytes -/

section Parts

variable {bytes damaged : List UInt8}

/-- Bytes that agree at the places of a part have the same part. -/
lemma take_drop_congr {place size : Nat}
    (h : ∀ i, place ≤ i → i < place + size → damaged[i]? = bytes[i]?) :
    (damaged.drop place).take size = (bytes.drop place).take size := by
  refine List.ext_getElem? fun i => ?_
  rw [List.getElem?_take, List.getElem?_take]
  split
  · rw [List.getElem?_drop, List.getElem?_drop]
    exact h _ (Nat.le_add_right _ _) (by omega)
  · rfl

/-- The size of the name is that of the two bytes that hold it. -/
lemma nameSize_congr (h : (damaged.drop 5).take 2 = (bytes.drop 5).take 2) :
    nameSize damaged = nameSize bytes := by
  have hget (xs : List UInt8) (i : Nat) (hi : i < 2) : ((xs.drop 5).take 2)[i]? = xs[5 + i]? := by
    rw [List.getElem?_take, if_pos hi, List.getElem?_drop]
  have hhigh : damaged[5]? = bytes[5]? := by
    rw [← hget damaged 0 (by decide), h, hget bytes 0 (by decide)]
  have hlow : damaged[6]? = bytes[6]? := by
    rw [← hget damaged 1 (by decide), h, hget bytes 1 (by decide)]
  rw [nameSize, nameSize, List.getD_eq_getElem?_getD, List.getD_eq_getElem?_getD,
    List.getD_eq_getElem?_getD, List.getD_eq_getElem?_getD, hhigh, hlow]

end Parts

/-! ## Sealed bytes -/

section Sealed

variable {digest : Digest} {bytes damaged : List UInt8} {envelope other : Envelope}

/-- Sealed bytes with the same content and the same size of the name are the same.

**Proof sketch.** The size of the name tells where the name ends in the content, so that both hold
the same envelope, and an envelope is sealed in one way. -/
theorem IsSealed.eq_of_content (h : IsSealed digest bytes envelope)
    (h' : IsSealed digest damaged other) (hsize : nameSize damaged = nameSize bytes)
    (hcontent : other.content = envelope.content) : damaged = bytes := by
  have hlength : (Text.bytes other.backend).length = (Text.bytes envelope.backend).length := by
    rw [← h'.size, hsize, h.size]
  obtain ⟨hname, hpayload⟩ := List.append_inj hcontent hlength
  have hbackend : other.backend = envelope.backend := by
    have hread := Text.ofBytes?_bytes other.backend
    rw [hname, Text.ofBytes?_bytes] at hread
    exact (Option.some.inj hread).symm
  obtain rfl : other = envelope := by
    cases other
    cases envelope
    simp_all
  have hsame := (toBytes_eq_ok_iff digest bytes other).mpr h
  rw [(toBytes_eq_ok_iff digest damaged other).mpr h'] at hsame
  exact Except.ok.inj hsame

/-- The digest of the content is the recorded one. -/
lemma IsSealed.digest_content (h : IsSealed digest bytes envelope) :
    (digest envelope.content).toList = recordedIn bytes := by
  rw [h.recorded, h.name, h.payload]
  rfl

/-- Damaged bytes that are opened while the size of the name and the digest stand where they stood
show a collision. -/
lemma IsSealed.collides (h : IsSealed digest bytes envelope) (h' : IsSealed digest damaged other)
    (hne : damaged ≠ bytes) (hsize : nameSize damaged = nameSize bytes)
    (hrecorded : (damaged.drop (digestPlace bytes)).take digestSize = recordedIn bytes) :
    Collides digest envelope.content other.content := by
  refine ⟨fun hcontent => hne (h.eq_of_content h' hsize hcontent.symm), ?_⟩
  have hplace : digestPlace damaged = digestPlace bytes := by
    rw [digestPlace, digestPlace, hsize]
  apply Vector.toList_inj.mp
  rw [h.digest_content, h'.digest_content, ← hrecorded, recordedIn, hplace]

/-- Bytes that were cut off and are still opened have the size of the name and the digest where
these stood: what was cut off is payload. -/
lemma IsSealed.damage_around (h' : IsSealed digest damaged other) (hcut : damaged <+: bytes) :
    (damaged.drop 5).take 2 = (bytes.drop 5).take 2 ∧
      (damaged.drop (digestPlace bytes)).take digestSize = recordedIn bytes := by
  have hlong := h'.le_length
  have hsame {i : Nat} (hi : i < damaged.length) : damaged[i]? = bytes[i]? := by
    obtain ⟨rest, rfl⟩ := hcut
    rw [List.getElem?_append_left hi]
  have hsize : (damaged.drop 5).take 2 = (bytes.drop 5).take 2 :=
    take_drop_congr fun i _ hi => hsame (by simp only [digestPlace, headerSize] at hlong; omega)
  have hplace : digestPlace damaged = digestPlace bytes := by
    rw [digestPlace, digestPlace, nameSize_congr hsize]
  rw [hplace] at hlong
  exact ⟨hsize, take_drop_congr fun i _ hi => hsame (by omega)⟩

/-- Sealed bytes in which only the digest was changed hold the same content. -/
lemma IsSealed.content_of_within (h : IsSealed digest bytes envelope)
    (h' : IsSealed digest damaged other)
    (hwithin : ∀ i, i < digestPlace bytes ∨ digestPlace bytes + digestSize ≤ i →
      damaged[i]? = bytes[i]?) :
    nameSize damaged = nameSize bytes ∧ other.content = envelope.content := by
  have hsize : nameSize damaged = nameSize bytes :=
    nameSize_congr (take_drop_congr fun i _ hi =>
      hwithin i (.inl (by simp only [digestPlace, headerSize]; omega)))
  have hname : nameIn damaged = nameIn bytes := by
    rw [nameIn, nameIn, hsize]
    exact take_drop_congr fun i _ hi => hwithin i (.inl hi)
  have hpayload : payloadIn damaged = payloadIn bytes := by
    have hplace : digestPlace damaged = digestPlace bytes := by
      rw [digestPlace, digestPlace, hsize]
    refine List.ext_getElem? fun i => ?_
    rw [payloadIn, payloadIn, hplace, List.getElem?_drop, List.getElem?_drop]
    exact hwithin _ (.inr (Nat.le_add_right _ _))
  refine ⟨hsize, ?_⟩
  rw [content, content, ← h'.name, ← h'.payload, hname, hpayload, h.name, h.payload]

/-- Sealed bytes have the same magic bytes and version. -/
lemma IsSealed.header_eq (h : IsSealed digest bytes envelope) (h' : IsSealed digest damaged other)
    {i : Nat} (hi : i < 5) : damaged[i]? = bytes[i]? := by
  rcases Nat.lt_succ_iff_lt_or_eq.mp hi with hlt | rfl
  · have hget (xs : List UInt8) : (xs.take 4)[i]? = xs[i]? := by
      rw [List.getElem?_take, if_pos hlt]
    rw [← hget, h'.magic, ← h.magic, hget]
  · rw [h'.version, h.version]

end Sealed

/-! ## Damaged bytes are refused -/

/-- Bytes that hold no envelope are refused. -/
lemma exists_fault {digest : Digest} {bytes : List UInt8}
    (h : ∀ envelope, ¬ IsSealed digest bytes envelope) :
    ∃ fault, ofBytes digest bytes = .error fault := by
  rcases ho : ofBytes digest bytes with fault | envelope
  · exact ⟨fault, rfl⟩
  · exact absurd ((ofBytes_eq_ok_iff _ _ _).mp ho) (h envelope)

/-- **Damaged seals are refused.** Whatever the digest is, sealed bytes that are cut off, or changed
anywhere but at the size of the name and at the digest, are refused, or they are opened to an
envelope whose content has the digest of the content that was sealed and is different. Sealed bytes
in which only the digest is changed, or in which a magic byte or the version is, are refused.

**Proof sketch.** Suppose that the damaged bytes are opened. What was cut off was cut off the
payload then, so in both cases the size of the name and the digest stand where they stood, and
`IsSealed.collides` applies. If only the digest was changed, the content is the same and so are the
bytes. Magic bytes and version are the same in all sealed bytes. -/
theorem damage_refused {digest : Digest} {envelope : Envelope} {bytes : List UInt8}
    (h : toBytes digest envelope = .ok bytes) (damaged : List UInt8) (hne : damaged ≠ bytes) :
    (Damage bytes damaged → (∃ fault, ofBytes digest damaged = .error fault) ∨
        ∃ other, ofBytes digest damaged = .ok other ∧
          Collides digest envelope.content other.content) ∧
      (PlainDamage bytes damaged → ∃ fault, ofBytes digest damaged = .error fault) := by
  have hsealed := (toBytes_eq_ok_iff digest bytes envelope).mp h
  constructor
  · intro hdamage
    rcases ho : ofBytes digest damaged with fault | other
    · exact .inl ⟨fault, rfl⟩
    have hother := (ofBytes_eq_ok_iff digest damaged other).mp ho
    refine .inr ⟨other, rfl, ?_⟩
    cases hdamage with
    | cut hcut =>
      obtain ⟨hsize, hrecorded⟩ := hother.damage_around hcut
      exact hsealed.collides hother hne (nameSize_congr hsize) hrecorded
    | around hsize hrecorded =>
      exact hsealed.collides hother hne (nameSize_congr hsize) hrecorded
  · intro hdamage
    refine exists_fault fun other hother => ?_
    cases hdamage with
    | within hwithin =>
      obtain ⟨hsize, hcontent⟩ := hsealed.content_of_within hother hwithin
      exact hne (hsealed.eq_of_content hother hsize hcontent)
    | header hi hchanged => exact hchanged (hsealed.header_eq hother hi)

/-! ## A sealed state -/

/-- The digest that consists of the sum of all bytes. -/
def byteSum : Digest := fun bytes => .replicate 32 (bytes.foldl (· + ·) 0)

/-- Three bytes of the backend `wire`, sealed with the sum of all bytes. -/
def summed : List UInt8 :=
  [0x54, 0x54, 0x48, 0x52, 1, 0, 4, 0x77, 0x69, 0x72, 0x65] ++ List.replicate 32 0xBD ++ [1, 2, 3]

/-- A byte less at the end is found, for the sum is another one, and so is a changed sum. -/
theorem damage_refused_summed :
    toBytes byteSum ⟨"wire", [1, 2, 3]⟩ = .ok summed ∧
      ((∃ fault, ofBytes byteSum summed.dropLast = .error fault) ∨
        ∃ other, ofBytes byteSum summed.dropLast = .ok other ∧
          Collides byteSum (content ⟨"wire", [1, 2, 3]⟩) other.content) ∧
      ∃ fault, ofBytes byteSum (summed.set 20 0xBE) = .error fault := by
  have hsealed : toBytes byteSum ⟨"wire", [1, 2, 3]⟩ = .ok summed :=
    (toBytes_eq_ok_iff_layout _ _ _).mpr ⟨by decide +kernel, by decide +kernel⟩
  refine ⟨hsealed, (damage_refused hsealed _ (by decide)).1 (.cut (List.dropLast_prefix _)),
    (damage_refused hsealed _ (by decide)).2 (.within fun i hi => ?_)⟩
  have hplace : digestPlace summed = 11 := rfl
  rw [List.getElem?_set_ne]
  rintro rfl
  simp only [hplace, digestSize] at hi
  omega

end ScriptHost.Envelope
