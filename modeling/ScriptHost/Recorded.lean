/-!
# Recorded worlds

What engines and backends do to the world around them is kept in a value, the world. To see what was
asked of them, a world is put together with a record of events.

## Main definitions

* `ScriptHost.Recorded` — a world and the events so far.
-/

namespace ScriptHost

/-- A world and the events so far, the oldest first. -/
structure Recorded (ε ω : Type) where
  /-- The world. -/
  world : ω
  /-- The events. -/
  events : List ε
deriving DecidableEq

namespace Recorded

variable {ε ω α : Type}

/-- A world in which nothing has happened yet. -/
def fresh (world : ω) : Recorded ε ω :=
  ⟨world, []⟩

/-- Lets the world act and notes an event that tells what came of it. -/
def after (event : α → ε) (act : ω → α × ω) (recorded : Recorded ε ω) : α × Recorded ε ω :=
  let (answer, world) := act recorded.world
  (answer, ⟨world, recorded.events ++ [event answer]⟩)

/-- A recorded action adds one event. -/
@[simp]
theorem after_events (event : α → ε) (act : ω → α × ω) (recorded : Recorded ε ω) :
    (after event act recorded).2.events = recorded.events ++ [event (act recorded.world).1] :=
  rfl

end Recorded

end ScriptHost
