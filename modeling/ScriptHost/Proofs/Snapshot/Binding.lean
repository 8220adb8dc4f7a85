import ScriptHost.Proofs.Snapshot.Damage

/-!
# What a recorded digest binds

The digest of an envelope is taken of the name and the payload, the one right behind the other.
Where the name ends is told by the header, which no digest is taken of. So the same content can be
split at another place, which gives another backend and another payload with the same digest, and
nobody needs to know the digest for that: in the sealed bytes only the size of the name and the
place of the recorded digest are changed. Apart from such a split two envelopes have the same digest
only when the digest has a collision.

Which backends a seal can be turned to is told by its content: those whose names it begins with. So
backends of which no name begins with another are told apart.

## Main definitions

* `ScriptHost.Envelope.SplitLater`, `ScriptHost.Envelope.Resplit` — envelopes that are the same
  content, split at different places.
* `ScriptHost.Envelope.resplit` — sealed bytes with their content split at another place.

## Main results

* `ScriptHost.Envelope.content_eq_iff` — envelopes with the same content are equal or the same
  content split at different places.
* `ScriptHost.Envelope.ofBytes_resplit` — sealed bytes are opened when they are split at another
  place.
* `ScriptHost.Envelope.recorded_eq_iff` — when sealed envelopes have the same digest.
* `ScriptHost.Envelope.resplit_opened` — a seal of one backend that is turned to another.
-/

namespace ScriptHost.Envelope

/-! ## One content, two envelopes -/

/-- The content of an envelope is split at a later place in the other: what stands last in the name
of the other one stands first in the payload. -/
def SplitLater (envelope other : Envelope) : Prop :=
  ∃ moved, moved ≠ [] ∧ Text.bytes other.backend = Text.bytes envelope.backend ++ moved ∧
    envelope.payload = moved ++ other.payload

/-- Two envelopes are the same content, split at different places. -/
def Resplit (a b : Envelope) : Prop :=
  SplitLater a b ∨ SplitLater b a

/-- Texts with the same bytes are equal. -/
lemma backend_eq_of_bytes {a b : String} (h : Text.bytes a = Text.bytes b) : a = b := by
  have hread := Text.ofBytes?_bytes a
  rw [h, Text.ofBytes?_bytes] at hread
  exact (Option.some.inj hread).symm

/-- A content that is split at a later place is the same content. -/
lemma SplitLater.content_eq {a b : Envelope} (h : SplitLater a b) : a.content = b.content := by
  obtain ⟨moved, -, hname, hpayload⟩ := h
  rw [content, content, digested, digested, hname, hpayload, List.append_assoc]

/-- When the name of one envelope begins with that of the other and the contents agree, the
envelopes are equal or the content is split later. -/
lemma eq_or_splitLater {a b : Envelope} {moved : List UInt8}
    (hname : Text.bytes b.backend = Text.bytes a.backend ++ moved)
    (hpayload : a.payload = moved ++ b.payload) : a = b ∨ SplitLater a b := by
  by_cases hmoved : moved = []
  · rw [hmoved, List.append_nil] at hname
    rw [hmoved, List.nil_append] at hpayload
    have hbackend : a.backend = b.backend := (backend_eq_of_bytes hname).symm
    cases a
    cases b
    cases hbackend
    cases hpayload
    exact .inl rfl
  · exact .inr ⟨moved, hmoved, hname, hpayload⟩

/-- **One content.** Two envelopes have the same content just when they are equal or are the same
content split at different places. -/
theorem content_eq_iff (a b : Envelope) : a.content = b.content ↔ a = b ∨ Resplit a b := by
  constructor
  · intro h
    rcases List.append_eq_append_iff.mp h with ⟨moved, hname, hpayload⟩ | ⟨moved, hname, hpayload⟩
    · exact (eq_or_splitLater hname hpayload).imp id .inl
    · exact (eq_or_splitLater hname hpayload).imp Eq.symm .inr
  · rintro (rfl | hlater | hlater)
    · rfl
    · exact hlater.content_eq
    · exact hlater.content_eq.symm

/-- Backends of which neither name begins with the other have no content in common. -/
theorem content_ne_of_names {a b : Envelope}
    (h : ¬ Text.bytes a.backend <+: Text.bytes b.backend)
    (h' : ¬ Text.bytes b.backend <+: Text.bytes a.backend) : a.content ≠ b.content := by
  intro heq
  have hfront : Text.bytes a.backend <+: b.content := heq ▸ List.prefix_append _ _
  exact (List.prefix_or_prefix_of_prefix hfront (List.prefix_append _ _)).elim h h'

/-- The backend in the same process and the one behind a channel have no content in common. -/
example (p q : List UInt8) : content ⟨"thread", p⟩ ≠ content ⟨"wire", q⟩ := by
  have hthread : ¬ Text.bytes "thread" <+: Text.bytes "wire" := by decide +kernel
  have hwire : ¬ Text.bytes "wire" <+: Text.bytes "thread" := by decide +kernel
  exact content_ne_of_names hthread hwire

/-! ## Splitting sealed bytes at another place -/

/-- Sealed bytes with the same content and the same digest, in which the name has another size. -/
def resplit (bytes : List UInt8) (size : Nat) : List UInt8 :=
  let content := nameIn bytes ++ payloadIn bytes
  magic ++ [formatVersion] ++ sizeBytes size ++ content.take size ++ recordedIn bytes ++
    content.drop size

section Sealed

variable {digest : Digest} {bytes other : List UInt8} {a b : Envelope}

/-- The name and the payload of sealed bytes make up the content. -/
lemma IsSealed.content_eq (h : IsSealed digest bytes a) :
    nameIn bytes ++ payloadIn bytes = a.content := by
  rw [h.name, h.payload]
  rfl

/-- A content that begins with a name is the content of an envelope with this name. -/
lemma content_drop {name : String} (hname : Text.bytes name <+: a.content) :
    content ⟨name, a.content.drop (Text.bytes name).length⟩ = a.content := by
  obtain ⟨rest, hrest⟩ := hname
  rw [← hrest, List.drop_left]
  rfl

/-- Sealed bytes that are split behind a name are the seal of the envelope with this name. -/
lemma IsSealed.toBytes_resplit (h : IsSealed digest bytes a) {name : String}
    (hname : Text.bytes name <+: a.content) (hfits : (Text.bytes name).length < nameBound) :
    toBytes digest ⟨name, a.content.drop (Text.bytes name).length⟩ =
      .ok (resplit bytes (Text.bytes name).length) := by
  have htake : a.content.take (Text.bytes name).length = Text.bytes name :=
    (List.prefix_iff_eq_take.mp hname).symm
  have hdigested : digested (Text.bytes name) (a.content.drop (Text.bytes name).length) =
      a.content := content_drop hname
  rw [toBytes_eq_ok_iff_layout, resplit, layout, hdigested, h.digest_content, h.content_eq, htake]
  exact ⟨hfits, rfl⟩

/-- **Splitting at another place.** Sealed bytes whose content begins with a name that fits are
opened as the seal of the backend of this name, when they are split behind it; the digest is the
recorded one, and what the digest is does not matter. -/
theorem ofBytes_resplit (h : IsSealed digest bytes a) (name : String)
    (hname : Text.bytes name <+: a.content) (hfits : (Text.bytes name).length < nameBound) :
    ofBytes digest (resplit bytes (Text.bytes name).length) =
        .ok ⟨name, a.content.drop (Text.bytes name).length⟩ ∧
      recordedIn (resplit bytes (Text.bytes name).length) = recordedIn bytes := by
  have hsealed := h.toBytes_resplit hname hfits
  refine ⟨ofBytes_toBytes hsealed, ?_⟩
  rw [← ((toBytes_eq_ok_iff _ _ _).mp hsealed).digest_content, content_drop hname,
    h.digest_content]

/-- Sealed envelopes record the same digest when their contents are equal or collide. -/
lemma IsSealed.recorded_eq_iff_content (ha : IsSealed digest bytes a)
    (hb : IsSealed digest other b) : recordedIn bytes = recordedIn other ↔
      a.content = b.content ∨ Collides digest a.content b.content := by
  rw [← ha.digest_content, ← hb.digest_content, Vector.toList_inj]
  constructor
  · intro h
    by_cases hcontent : a.content = b.content
    · exact .inl hcontent
    · exact .inr ⟨hcontent, h⟩
  · rintro (hcontent | hcollides)
    · rw [hcontent]
    · exact hcollides.2

end Sealed

/-! ## When digests agree -/

/-- **When sealed envelopes have the same digest.** Whatever the digest is, it is taken of the same
bytes for two sealed envelopes just when these are equal or the same content split at different
places; and the same digest is recorded for them just then, or when the digest has a collision. The
seal of an envelope can be split behind every name that its content begins with and that fits, and
is opened then under this name with the digest that is recorded in it.

**Proof sketch.** Two ways to write the content as a name and a payload agree up to the end of the
shorter name; the rest of the longer name is what the payload of the other envelope begins with. If
it is empty the envelopes are equal. -/
theorem recorded_eq_iff {digest : Digest} {a b : Envelope} {bytes other : List UInt8}
    (ha : toBytes digest a = .ok bytes) (hb : toBytes digest b = .ok other) :
    (a.content = b.content ↔ a = b ∨ Resplit a b) ∧
      (recordedIn bytes = recordedIn other ↔
        a = b ∨ Resplit a b ∨ Collides digest a.content b.content) ∧
      ∀ name, Text.bytes name <+: a.content → (Text.bytes name).length < nameBound →
        ofBytes digest (resplit bytes (Text.bytes name).length) =
            .ok ⟨name, a.content.drop (Text.bytes name).length⟩ ∧
          recordedIn (resplit bytes (Text.bytes name).length) = recordedIn bytes := by
  have hsealed := (toBytes_eq_ok_iff digest bytes a).mp ha
  have hother := (toBytes_eq_ok_iff digest other b).mp hb
  refine ⟨content_eq_iff a b, ?_, ofBytes_resplit hsealed⟩
  rw [hsealed.recorded_eq_iff_content hother, content_eq_iff, or_assoc]

/-- The backend `wire2` and its state, sealed with the sum of all bytes. -/
def summedLonger : List UInt8 :=
  [0x54, 0x54, 0x48, 0x52, 1, 0, 5, 0x77, 0x69, 0x72, 0x65, 0x32] ++ List.replicate 32 0xEA ++ [1]

/-- The backend `wire` and a state that begins with the last character of the other name, sealed
with the sum of all bytes. -/
def summedShorter : List UInt8 :=
  [0x54, 0x54, 0x48, 0x52, 1, 0, 4, 0x77, 0x69, 0x72, 0x65] ++ List.replicate 32 0xEA ++ [0x32, 1]

/-- Two sealed envelopes that are the same content record the same digest, and the one is opened
when the other is split behind the shorter name. -/
theorem recorded_eq_iff_summed :
    toBytes byteSum ⟨"wire2", [1]⟩ = .ok summedLonger ∧
      toBytes byteSum ⟨"wire", [0x32, 1]⟩ = .ok summedShorter ∧
      recordedIn summedLonger = recordedIn summedShorter ∧
      ofBytes byteSum (resplit summedLonger 4) = .ok ⟨"wire", [0x32, 1]⟩ := by
  have hlonger : toBytes byteSum ⟨"wire2", [1]⟩ = .ok summedLonger :=
    (toBytes_eq_ok_iff_layout _ _ _).mpr ⟨by decide +kernel, by decide +kernel⟩
  have hshorter : toBytes byteSum ⟨"wire", [0x32, 1]⟩ = .ok summedShorter :=
    (toBytes_eq_ok_iff_layout _ _ _).mpr ⟨by decide +kernel, by decide +kernel⟩
  have hlater : SplitLater ⟨"wire", [0x32, 1]⟩ ⟨"wire2", [1]⟩ :=
    ⟨[0x32], by decide, by decide +kernel, rfl⟩
  obtain ⟨-, hrecorded, hsplit⟩ := recorded_eq_iff hlonger hshorter
  exact ⟨hlonger, hshorter, hrecorded.mpr (.inr (.inl (.inr hlater))),
    (hsplit "wire" (by decide +kernel) (by decide +kernel)).1⟩

/-- A seal of the backend `wire2` is opened as one of the backend `wire` when it is split behind
this name, whatever the digest is: both envelopes have the same content, and with it the same
digest. -/
theorem resplit_opened :
    (⟨"wire2", [1]⟩ : Envelope) ≠ ⟨"wire", [0x32, 1]⟩ ∧
      content ⟨"wire2", [1]⟩ = content ⟨"wire", [0x32, 1]⟩ ∧
      ∀ digest : Digest, ∃ bytes, toBytes digest ⟨"wire2", [1]⟩ = .ok bytes ∧
        ofBytes digest (resplit bytes 4) = .ok ⟨"wire", [0x32, 1]⟩ ∧
        recordedIn (resplit bytes 4) = recordedIn bytes := by
  refine ⟨by decide, by decide +kernel, fun digest => ?_⟩
  have hsealed : toBytes digest ⟨"wire2", [1]⟩ = .ok (layout digest (Text.bytes "wire2") [1]) :=
    (toBytes_eq_ok_iff_layout _ _ _).mpr ⟨by decide +kernel, rfl⟩
  exact ⟨_, hsealed, ofBytes_resplit ((toBytes_eq_ok_iff _ _ _).mp hsealed) "wire"
    (by decide +kernel) (by decide +kernel)⟩

end ScriptHost.Envelope
