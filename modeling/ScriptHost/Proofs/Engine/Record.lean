import Mathlib.Tactic.Lemma
import ScriptHost.Engine.Basic

/-!
# What a recorded factory notes

Every call of a recorded factory adds one event to the record, and so does every call of one of its
engines. An engine has the number of events before it was built, so engines that were built one
after the other have different numbers.

## Main definitions

* `ScriptHost.Engine.Event.isBuild`, `ScriptHost.Engine.Event.isPanic`,
  `ScriptHost.Engine.Event.isOn` — what an event tells of, and of which engine.

## Main results

* `ScriptHost.Engine.Factory.recorded_build`, `ScriptHost.Engine.Factory.recorded_call` — what is
  noted of a call of the factory, and of a call of an engine.
* `ScriptHost.Engine.Factory.setUp_eq_ok`, `ScriptHost.Engine.Factory.setUp_events` — what is asked
  when an engine is set up.
-/

namespace ScriptHost

variable {ι ω : Type}

/-! ## Events -/

namespace Engine

namespace Event

/-- Whether an event is that the factory was asked. -/
def isBuild : Event → Bool
  | build _ => true
  | call .. => false

/-- Whether an engine broke down when it was asked. -/
def isPanic : Event → Bool
  | call _ _ (.error _) => true
  | _ => false

/-- Whether an event is that the engine with a number was asked. -/
def isOn (n : Nat) : Event → Bool
  | build _ => false
  | call builtAt _ _ => builtAt == n

end Event

namespace Factory

variable {factory : Factory ι ω} {world after : Recorded Event ω}

/-- A recorded engine is asked once in a call. -/
lemma recorded_call {engine : Instance ι} {c : Call} {outcome : Except Panic c.Answer}
    (h : factory.recorded.call engine c world = (outcome, after)) :
    after.events = world.events ++ [.call engine.builtAt c outcome] := by
  obtain ⟨rfl, rfl⟩ := Prod.ext_iff.mp h
  exact Recorded.after_events _ _ _

/-- A recorded factory is asked once when it builds an engine, whose number is that of the events
before. -/
lemma recorded_build {outcome : Except BuildFault (Instance ι)}
    (h : factory.recorded.build world = (outcome, after)) :
    after.events = world.events ++ [.build (outcome.map fun _ => ())] ∧
      ∀ engine, outcome = .ok engine → engine.builtAt = world.events.length := by
  obtain ⟨rfl, rfl⟩ := Prod.ext_iff.mp h
  have hbuilt : (factory.recorded.build world).1 =
      (factory.build world.world).1.map fun engine => ⟨engine, world.events.length⟩ := rfl
  have hevents : (factory.recorded.build world).2.events =
      world.events ++ [.build ((factory.build world.world).1.map fun _ => ())] := rfl
  rw [hevents, hbuilt]
  rcases (factory.build world.world).1 with fault | engine
  · exact ⟨rfl, nofun⟩
  · refine ⟨rfl, ?_⟩
    rintro _ ⟨⟩
    rfl

/-- An engine that is set up is built, and says what it offers. -/
lemma setUp_eq_ok {factory : Factory ι ω} {world after : ω} {engine : ι}
    {capabilities : Capabilities}
    (h : factory.setUp world = (.ok (engine, capabilities), after)) :
    factory.build world = (.ok engine, after) ∧
      factory.capabilities engine after = .ok capabilities := by
  unfold setUp at h
  rcases hbuild : factory.build world with ⟨fault | built, next⟩
  · rw [hbuild] at h
    cases h
  · rw [hbuild] at h
    dsimp only at h
    split at h
    · rename_i hoffers
      cases h
      exact ⟨rfl, hoffers⟩
    · cases h

/-- A recorded factory is asked to build one engine when it sets one up. -/
lemma setUp_events (factory : Factory ι ω) (world : Recorded Event ω) :
    ∃ outcome, (factory.recorded.setUp world).2.events = world.events ++ [.build outcome] := by
  have hbuild : (factory.recorded.build world).2.events =
      world.events ++ [.build ((factory.build world.world).1.map fun _ => ())] := rfl
  refine ⟨_, Eq.trans ?_ hbuild⟩
  unfold setUp
  rcases factory.recorded.build world with ⟨fault | built, after⟩
  · rfl
  · dsimp only
    split <;> rfl

end Factory

end Engine

end ScriptHost
