import ScriptHost.Proofs.Backend.Mirror
import ScriptHost.Proofs.Context.Action

/-!
# Actions on contexts over two backends

Two contexts agree when they are in the same state and their backends, a worker and a server behind
a channel, have the same engine. Actions simulate each other when they take contexts that agree to
contexts that agree, with outcomes that are alike. The rules here follow the building blocks of
actions: the guards, asking the backend, a step of an execution, and one action after the other.

Answers must be legible to be carried over a channel. Which answers were given can be told from the
world behind them, so a simulation may ask for a property of the world behind the action, which
vouches for the answers before it.

## Main definitions

* `ScriptHost.Context.Agrees` — contexts that are in the same state over the same engine.
* `ScriptHost.Context.Simulates`, `ScriptHost.Context.AlwaysSimulates` — actions that simulate each
  other.

## Main results

* `ScriptHost.Context.AlwaysSimulates.bind`, `ScriptHost.Context.Simulates.read` — one action after
  the other.
* `ScriptHost.Context.simulates_ask`, `ScriptHost.Context.simulates_advance` — asking the backend,
  and a step of an execution.
-/

namespace ScriptHost.Context

open Backend

variable {ι ω α β γ δ : Type}

/-- Contexts that are in the same state over the same engine, and are not disposed. -/
structure Agrees (c : Context (Worker ι ω)) (d : Context (Remote (Ndjson (Connection ι ω)))) :
    Prop where
  /-- The backends have the same engine. -/
  mirrors : Mirrors c.world d.world
  /-- The settings are the same. -/
  config : d.config = c.config
  /-- The states are the same. -/
  lifecycle : d.lifecycle = c.lifecycle
  /-- Both backends are initialized, or neither. -/
  initialized : d.initialized = c.initialized
  /-- The same calls were waited for. -/
  seen : d.seen = c.seen
  /-- The same calls were put off. -/
  outstanding : d.outstanding = c.outstanding
  /-- The contexts are not disposed. -/
  live : c.lifecycle ≠ .disposed

/-- Actions that take contexts that agree to contexts that agree, with outcomes that are alike, when
the world of the factory behind them has a property. -/
def Simulates (good : ω → Prop) (values : α → β → Prop) (x : Action (Worker ι ω) α)
    (y : Action (Remote (Ndjson (Connection ι ω))) β) : Prop :=
  ∀ c d, Agrees c d → good (x c).2.world.world →
    Alike values (x c).1 (y d).1 ∧ Agrees (x c).2 (y d).2

/-- Actions that simulate each other whatever the world behind them is. -/
abbrev AlwaysSimulates (values : α → β → Prop) (x : Action (Worker ι ω) α)
    (y : Action (Remote (Ndjson (Connection ι ω))) β) : Prop :=
  Simulates (fun _ => True) values x y

variable {good : ω → Prop} {factory : Engine.Factory ι ω}

/-! ## One action after the other -/

lemma AlwaysSimulates.simulates {values : α → β → Prop} {x : Action (Worker ι ω) α}
    {y : Action (Remote (Ndjson (Connection ι ω))) β} (h : AlwaysSimulates values x y) :
    Simulates good values x y :=
  fun c d hagrees _ => h c d hagrees trivial

/-- Actions after others, the first of which need nothing of the world behind them. -/
lemma AlwaysSimulates.bind {values : α → β → Prop} {results : γ → δ → Prop}
    {x : Action (Worker ι ω) α} {y : Action (Remote (Ndjson (Connection ι ω))) β}
    {f : α → Action (Worker ι ω) γ} {g : β → Action (Remote (Ndjson (Connection ι ω))) δ}
    (hx : AlwaysSimulates values x y)
    (hf : ∀ a b, values a b → Simulates good results (f a) (g b)) :
    Simulates good results (x >>= f) (y >>= g) := by
  intro c d hagrees hgood
  obtain ⟨halike, hafter⟩ := hx c d hagrees trivial
  rw [bind_apply] at hgood ⊢
  rw [bind_apply]
  rcases hxc : x c with ⟨failure | a, c'⟩ <;> rcases hyd : y d with ⟨failure' | b, d'⟩ <;>
    rw [hxc, hyd] at halike hafter
  · exact ⟨halike, hafter⟩
  · exact halike.elim
  · exact halike.elim
  · rw [hxc] at hgood
    exact hf a b halike c' d' hafter hgood

/-- An outcome that is read after an action, which leaves the world alone. -/
lemma Simulates.read {values : α → β → Prop} {results : γ → δ → Prop}
    {x : Action (Worker ι ω) α} {y : Action (Remote (Ndjson (Connection ι ω))) β}
    {f : α → Action (Worker ι ω) γ} {g : β → Action (Remote (Ndjson (Connection ι ω))) δ}
    (hx : Simulates good values x y) (hworld : ∀ a c, (f a c).2.world = c.world)
    (hf : ∀ a b, values a b → AlwaysSimulates results (f a) (g b)) :
    Simulates good results (x >>= f) (y >>= g) := by
  intro c d hagrees hgood
  have hgood' : good (x c).2.world.world := by
    rw [bind_apply] at hgood
    rcases hxc : x c with ⟨failure | a, c'⟩ <;> rw [hxc] at hgood
    · exact hgood
    · rwa [hworld a c'] at hgood
  obtain ⟨halike, hafter⟩ := hx c d hagrees hgood'
  rw [bind_apply, bind_apply]
  rcases hxc : x c with ⟨failure | a, c'⟩ <;> rcases hyd : y d with ⟨failure' | b, d'⟩ <;>
    rw [hxc, hyd] at halike hafter
  · exact ⟨halike, hafter⟩
  · exact halike.elim
  · exact halike.elim
  · exact hf a b halike c' d' hafter trivial

/-! ## Building blocks -/

lemma simulates_pure {values : α → β → Prop} {a : α} {b : β} (h : values a b) :
    Simulates (ι := ι) good values (pure a) (pure b) :=
  fun _ _ hagrees _ => ⟨h, hagrees⟩

lemma simulates_throw {values : α → β → Prop} {failure failure' : Failure}
    (h : failure.Alike failure') :
    Simulates (ι := ι) good values (throw failure) (throw failure') :=
  fun _ _ hagrees _ => ⟨h, hagrees⟩

lemma simulates_ofExcept {values : α → β → Prop} {a : Except Failure α} {b : Except Failure β}
    (h : Alike values a b) :
    Simulates (ι := ι) good values (MonadExcept.ofExcept a) (MonadExcept.ofExcept b) := by
  intro c d hagrees _
  rw [ofExcept_apply, ofExcept_apply]
  exact ⟨h, hagrees⟩

lemma alwaysSimulates_get : AlwaysSimulates (ι := ι) (ω := ω) Agrees get get :=
  fun _ _ hagrees _ => ⟨hagrees, hagrees⟩

lemma alwaysSimulates_modify {f : Context (Worker ι ω) → Context (Worker ι ω)}
    {g : Context (Remote (Ndjson (Connection ι ω))) → Context (Remote (Ndjson (Connection ι ω)))}
    (h : ∀ c d, Agrees c d → Agrees (f c) (g d)) :
    AlwaysSimulates (fun _ _ => True) (modify f) (modify g) :=
  fun c d hagrees _ => ⟨trivial, h c d hagrees⟩

lemma alwaysSimulates_require (operation : String) (allowed : List Lifecycle) :
    AlwaysSimulates (ι := ι) (ω := ω) (fun _ _ => True) (require operation allowed)
      (require operation allowed) := by
  intro c d hagrees _
  rw [require_apply, require_apply, hagrees.lifecycle]
  split
  · exact ⟨trivial, hagrees⟩
  · exact ⟨rfl, hagrees⟩

lemma alwaysSimulates_demand (offered : Capabilities → Bool) (operation : String) :
    AlwaysSimulates (fun _ _ => True) (demand (Worker.backend factory) offered operation)
      (demand (overChannel factory) offered operation) := by
  intro c d hagrees _
  have hoffers : (overChannel factory).offers d.world = (Worker.backend factory).offers c.world :=
    hagrees.mirrors.capabilities
  rw [demand_apply, demand_apply, hoffers]
  split
  · exact ⟨trivial, hagrees⟩
  · exact ⟨trivial, hagrees⟩

lemma alwaysSimulates_requireUnlessIdle (lifecycle : Lifecycle) (condition : Bool) :
    AlwaysSimulates (ι := ι) (ω := ω) (fun _ _ => True) (requireUnlessIdle lifecycle condition)
      (requireUnlessIdle lifecycle condition) := by
  intro c d hagrees _
  rw [requireUnlessIdle_apply, requireUnlessIdle_apply]
  split
  · exact ⟨rfl, hagrees⟩
  · exact ⟨trivial, hagrees⟩

/-! ## Asking the backend -/

/-- Outcomes that are alike say the same about the far end. -/
lemma saysGone_eq {values : α → β → Prop} {near : Except Failure α} {far : Except Failure β}
    (h : Alike values near far) : saysGone far = saysGone near := by
  rcases near with failure | a <;> rcases far with failure' | b
  · exact Failure.Alike.isClosed_eq h
  · exact h.elim
  · exact h.elim
  · rfl

/-- Backends that answer alike leave contexts that agree. -/
lemma agrees_ask {c : Context (Worker ι ω)} {d : Context (Remote (Ndjson (Connection ι ω)))}
    (hagrees : Agrees c d) {call : Backend.Call}
    (h : Mirrors.Matches call ((Worker.backend factory).call call c.world)
      ((overChannel factory).call call d.world)) :
    Alike call.Alike (ask (Worker.backend factory) call c).1 (ask (overChannel factory) call d).1 ∧
      Agrees (ask (Worker.backend factory) call c).2 (ask (overChannel factory) call d).2 := by
  obtain ⟨halike, hmirrors⟩ := h
  have hgone : saysGone (ask (overChannel factory) call d).1 =
      saysGone (ask (Worker.backend factory) call c).1 := saysGone_eq halike
  refine ⟨halike, ?_⟩
  rw [ask_context, ask_context, hgone]
  exact { mirrors := hmirrors
          config := hagrees.config
          lifecycle := hagrees.lifecycle
          initialized := by simp only [hagrees.initialized]
          seen := hagrees.seen
          outstanding := hagrees.outstanding
          live := hagrees.live }

/-- The answer to a call can be told from the world behind it. -/
lemma simulates_ask (hgood : Vouches factory good) (call : Backend.Call)
    (hcall : call.isLegible = true) (hnamed : call.isNamed = true) {asked : Engine.Call}
    (hasked : call.command = .call asked) :
    Simulates good call.Alike (ask (Worker.backend factory) call)
      (ask (overChannel factory) call) := by
  intro c d hagrees hworld
  rw [ask_world] at hworld
  exact agrees_ask hagrees (hagrees.mirrors.call hcall hnamed hasked hgood hworld)

lemma alwaysSimulates_init :
    AlwaysSimulates (fun _ _ => True) (init (Worker.backend factory))
      (init (overChannel factory)) := by
  intro c d hagrees _
  rw [init_apply _ hagrees.live, init_apply _ (hagrees.lifecycle ▸ hagrees.live),
    hagrees.initialized]
  split
  · exact ⟨trivial, hagrees⟩
  · have hinit : Mirrors.Matches .init ((Worker.backend factory).call .init c.world)
        ((overChannel factory).call .init d.world) := hagrees.mirrors.init
    obtain ⟨halike, hafter⟩ := agrees_ask hagrees hinit
    rcases hc : ask (Worker.backend factory) .init c with ⟨failure | b, c'⟩ <;>
      rcases hd : ask (overChannel factory) .init d with ⟨failure' | b', d'⟩ <;>
      rw [hc, hd] at halike hafter
    · exact ⟨halike, hafter⟩
    · exact halike.elim
    · exact halike.elim
    · obtain rfl : b' = b := halike
      cases b'
      · exact ⟨rfl, hafter⟩
      · exact ⟨trivial, { hafter with initialized := rfl }⟩

/-! ## Steps -/

/-- Progress that is alike settles contexts alike.

**Proof sketch.** The normal form of progress is of the same kind, keeps the number of a call, and
is an error just when it was one. -/
lemma agrees_settle {c : Context (Worker ι ω)} {d : Context (Remote (Ndjson (Connection ι ω)))}
    (hagrees : Agrees c d) {near far : Except Failure Progress}
    (h : Alike (fun p q => q = p.norm) near far) :
    Alike (fun p q => q = p.norm) (settle near c).1 (settle far d).1 ∧
      Agrees (settle near c).2 (settle far d).2 := by
  have hidle : Lifecycle.idle ≠ .disposed := by decide
  have hactive : Lifecycle.active ≠ .disposed := by decide
  have hfinish : Agrees c.finish d.finish :=
    { hagrees with lifecycle := rfl, seen := rfl, outstanding := rfl, live := hidle }
  rcases near with failure | p <;> rcases far with failure' | q
  · exact ⟨h, hfinish⟩
  · exact h.elim
  · exact h.elim
  · obtain rfl : q = p.norm := h
    cases p with
    | complete result =>
      rcases herror : result.error with _ | e
      · have hcomplete : result.norm.error = none := by
          rw [RunResult.error_norm, herror]
          rfl
        rw [Progress.norm, settle_complete herror, settle_complete hcomplete]
        exact ⟨rfl, hfinish⟩
      · have hraised : result.norm.error = some e.norm := by
          rw [RunResult.error_norm, herror]
          rfl
        rw [Progress.norm, settle_raised herror, settle_raised hraised, RunResult.usage_norm]
        exact ⟨⟨rfl, rfl⟩, hfinish⟩
    | pending call =>
      have hid : call.norm.callId = call.callId := rfl
      rw [Progress.norm, settle_pending, settle_pending, hid, hagrees.seen]
      split
      · exact ⟨rfl, hfinish⟩
      · exact ⟨rfl,
          { hagrees with lifecycle := rfl, seen := rfl, outstanding := rfl, live := hactive }⟩
    | futures ids =>
      exact ⟨rfl, { hagrees with lifecycle := rfl, outstanding := rfl, live := hactive }⟩

/-- A step of an execution. -/
lemma simulates_advance (hgood : Vouches factory good) {step : Step (Option String)}
    (hstep : step.isLegible = true) (hnamed : (Backend.Call.drive step).isNamed = true) :
    Simulates good (fun p q => q = p.norm) (advance (Worker.backend factory) step)
      (advance (overChannel factory) step) := by
  intro c d hagrees hworld
  rw [advance_apply, settle_world] at hworld
  rw [advance_apply, advance_apply]
  obtain ⟨halike, hafter⟩ :=
    simulates_ask hgood (.drive step) hstep hnamed rfl c d hagrees hworld
  refine agrees_settle hafter (halike.bind fun a b hab => ?_)
  obtain ⟨p, rfl, rfl⟩ := hab
  have hread : valueOf Record.progress (.record p.toRecord) = .ok p.norm := by
    rw [valueOf, Reply.value, Record.progress_toRecord]
    rfl
  change Alike _ (.ok p) (valueOf Record.progress (.record p.toRecord))
  rw [hread]
  rfl

end ScriptHost.Context
