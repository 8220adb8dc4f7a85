import Mathlib.Tactic.Lemma
import ScriptHost.Backend.Remote
import ScriptHost.Backend.Worker

/-!
# Backends raise nothing

An error that a script raised is one thing, a breach of the protocol and a failure of the channel
are others. An engine answers with an error of its script, be it in the result of a run or in
progress, and no backend fails with one. A backend over a channel fails with what it hears of the
far end or of the channel, or because it cannot read a reply, which is a breach of the protocol.

## Main definitions

* `ScriptHost.Failure.isRaised` — a failure is an error that a script raised.
* `ScriptHost.Backend.RaisesNothing` — a backend does not fail with such an error.

## Main results

* `ScriptHost.Worker.raisesNothing`, `ScriptHost.Remote.raisesNothing` — neither backend fails with
  an error of a script.
* `ScriptHost.Remote.malformed_of_reply` — what cannot be read in a reply is a breach of the
  protocol.
-/

namespace ScriptHost

variable {ω α β : Type}

/-! ## Outcomes -/

/-- Whether a failure is an error that a script raised. -/
def Failure.isRaised : Failure → Bool
  | sandbox .. => true
  | _ => false

/-- An outcome is no error that a script raised. -/
def IsUnraised (outcome : Except Failure α) : Prop :=
  ∀ failure, outcome = .error failure → failure.isRaised = false

namespace IsUnraised

/-- A value is no error. -/
lemma ok (a : α) : IsUnraised (.ok a) := nofun

/-- A failure of another kind is no error that a script raised. -/
lemma error {failure : Failure} (h : failure.isRaised = false) :
    IsUnraised (.error failure : Except Failure α) := by
  rintro _ ⟨⟩
  exact h

/-- Reading a value adds none. -/
lemma bind {outcome : Except Failure α} {f : α → Except Failure β} (h : IsUnraised outcome)
    (hf : ∀ a, IsUnraised (f a)) : IsUnraised (outcome.bind f) := by
  cases outcome with
  | error failure => exact error (h failure rfl)
  | ok a => exact hf a

/-- Changing a value adds none. -/
lemma map {outcome : Except Failure α} (h : IsUnraised outcome) (f : α → β) :
    IsUnraised (outcome.map f) :=
  h.bind fun a => ok (f a)

end IsUnraised

/-! ## Backends -/

/-- A backend does not fail with an error that a script raised. -/
def Backend.RaisesNothing (backend : Backend ω) : Prop :=
  ∀ c world, IsUnraised (backend.call c world).1

/-- A record of the calls changes nothing. -/
lemma Backend.RaisesNothing.recorded {backend : Backend ω} (h : backend.RaisesNothing) :
    backend.recorded.RaisesNothing :=
  fun c recorded => h c recorded.world

/-! ## Engines on a worker -/

namespace Worker

variable {ι : Type}

/-- What a worker fails with is that its channel is closed. -/
lemma isUnraised_ask (factory : Engine.Factory ι ω) (c : Engine.Call) (worker : Worker ι ω) :
    IsUnraised (ask factory c worker).1 := by
  unfold ask
  rcases worker.engine with _ | engine
  · exact .error rfl
  · dsimp only
    rcases factory.call engine c worker.world with ⟨panic | answer, world⟩
    · exact .error rfl
    · exact .ok answer

/-- What an engine refuses is no error of a script. -/
lemma isUnraised_lift {outcome : Except Failure (Except EngineFault α)} (h : IsUnraised outcome) :
    IsUnraised (lift outcome) := by
  rcases outcome with failure | fault | value
  · exact .error (h failure rfl)
  · exact .error (by cases fault <;> rfl)
  · exact .ok value

/-- **A worker does not fail with an error of a script.** -/
theorem raisesNothing (factory : Engine.Factory ι ω) : (backend factory).RaisesNothing := by
  intro c worker
  cases c with
  | init =>
    show IsUnraised (start factory worker).1
    unfold start
    rcases worker.engine with _ | engine
    · dsimp only
      rcases factory.setUp worker.world with ⟨(reason | panic) | ⟨engine, capabilities⟩, world⟩
      · exact .ok false
      · exact .error rfl
      · exact .ok true
    · exact .ok true
  | run script =>
    exact (isUnraised_ask factory (.run (script.rename nameOrEmpty)) worker).map Reply.typed
  | drive step =>
    exact (isUnraised_lift
      (isUnraised_ask factory (.drive (step.rename nameOrEmpty)) worker)).map Reply.typed
  | snapshot => exact isUnraised_lift (isUnraised_ask factory .snapshot worker)
  | restore bytes => exact isUnraised_lift (isUnraised_ask factory (.restore bytes) worker)
  | globals => exact (isUnraised_lift (isUnraised_ask factory .globals worker)).map Reply.typed
  | dispose => exact .ok ()

end Worker

/-! ## Engines behind a channel -/

namespace Remote

variable {κ : Type} (channel : Channel κ)

/-- What the far end reports is no error of a script. -/
lemma isRaised_liftChannel (command : String) (fault : ChannelFault) :
    (liftChannel command fault).isRaised = false := by
  cases fault with
  | remote fault =>
    rw [liftChannel, lift]
    split <;> rfl
  | _ => rfl

/-- Sending fails with no error of a script. -/
lemma isUnraised_send (c : Backend.Call) (remote : Remote κ) :
    IsUnraised (send channel c remote).1 := by
  unfold send
  rcases channel.call c.word (params c) remote.channel with ⟨fault | result, world⟩
  · exact .error (isRaised_liftChannel c.word fault)
  · exact .ok result

/-- Capabilities that cannot be read are malformed. -/
lemma capabilitiesOf_eq_error {reply : Json} {failure : Failure}
    (h : capabilitiesOf reply = .error failure) :
    failure = .protocol (.malformed .capabilities) := by
  unfold capabilitiesOf at h
  split at h
  · cases h
  · split at h
    · cases h
    · cases h
      rfl

/-- Of the initialization nothing else fails than sending it and reading the capabilities. -/
lemma connect_eq_error {remote : Remote κ} {failure : Failure}
    (h : (connect channel remote).1 = .error failure) :
    (send channel .init remote).1 = .error failure ∨
      failure = .protocol (.malformed .capabilities) := by
  unfold connect at h
  split at h
  · cases h
  · rcases hsend : send channel .init remote with ⟨unsent | reply, sent⟩
    · rw [hsend] at h
      cases h
      exact .inl rfl
    · rw [hsend] at h
      dsimp only at h
      split at h
      · rcases hread : capabilitiesOf reply with unread | capabilities
        · rw [hread] at h
          cases h
          exact .inr (capabilitiesOf_eq_error hread)
        · rw [hread] at h
          cases h
      · cases h

/-- Of a capture nothing else fails than sending it and reading the bytes. -/
lemma bytesOf_eq_error {reply : Json} {failure : Failure} (h : bytesOf reply = .error failure) :
    failure = .protocol (.malformed .snapshotBytes) := by
  unfold bytesOf at h
  split at h
  · cases h
  · cases h
    rfl

/-- **A backend over a channel does not fail with an error of a script**, whatever is at the far
end. -/
theorem raisesNothing : (backend channel).RaisesNothing := by
  have hclose (closed : Except ChannelFault Unit) :
      IsUnraised (closed.mapError Failure.channel) := by
    rcases closed with fault | done
    · exact .error rfl
    · exact .ok done
  intro c remote
  cases c with
  | init =>
    intro failure h
    rcases connect_eq_error channel h with h | rfl
    · exact isUnraised_send channel .init remote failure h
    · rfl
  | run script => exact (isUnraised_send channel _ remote).map _
  | drive step => exact (isUnraised_send channel _ remote).map _
  | snapshot =>
    refine (isUnraised_send channel _ remote).bind fun reply failure h => ?_
    rw [bytesOf_eq_error h]
    rfl
  | restore bytes => exact (isUnraised_send channel _ remote).map _
  | globals => exact (isUnraised_send channel _ remote).map _
  | dispose => exact (isUnraised_send channel .dispose remote).bind fun _ => hclose _

/-- **What cannot be read in a reply is a breach of the protocol.** A call to which the far end
replied, and which fails all the same, fails because of a malformed record. -/
theorem malformed_of_reply {c : Backend.Call} (hc : c ≠ .dispose) {remote : Remote κ} {reply : Json}
    (hreply : (send channel c remote).1 = .ok reply) {failure : Failure}
    (h : ((backend channel).call c remote).1 = .error failure) :
    ∃ fault, failure = .protocol (.malformed fault) := by
  have hmap {β : Type} (f : Json → β) (h : (send channel c remote).1.map f = .error failure) :
      False := by
    rw [hreply] at h
    cases h
  cases c with
  | init =>
    rcases connect_eq_error channel h with h | rfl
    · cases hreply.symm.trans h
    · exact ⟨_, rfl⟩
  | run script => exact (hmap _ h).elim
  | drive step => exact (hmap _ h).elim
  | snapshot =>
    have hread : (send channel .snapshot remote).1.bind bytesOf = .error failure := h
    rw [hreply] at hread
    exact ⟨_, bytesOf_eq_error hread⟩
  | restore bytes => exact (hmap _ h).elim
  | globals => exact (hmap _ h).elim
  | dispose => exact absurd rfl hc

end Remote

end ScriptHost
