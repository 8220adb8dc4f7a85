import ScriptHost.Proofs.Backend.Turn
import ScriptHost.Scripted.Engine

/-!
# An engine that broke down is not used again

An engine may break down in any of its calls, and also when it has just been built and is asked what
it offers. Behind either adapter the call that it breaks down in says that the channel is closed,
and the engine is dropped: it is asked nothing any more, and until an initialization succeeds
nothing is asked of any engine and nothing is offered. The initialization that succeeds builds
another engine, and that one is asked from then on.

Engines are told apart by the number of events before they were built. What is asked of which engine
is in the record of a recorded factory.

## Main definitions

* `ScriptHost.Adapter.Moves` — what a call adds to the record, and the engine behind it.
* `ScriptHost.Adapter.Numbered`, `ScriptHost.Adapter.Retired` — what the number of an engine says of
  the engine that is there.
* `ScriptHost.Adapter.BreaksDown` — a call in which an engine breaks down.
* `ScriptHost.Adapter.Unset` — no initialization among some calls succeeds.
* `ScriptHost.Adapter.Serves` — an engine is asked since it was built.
* `ScriptHost.Adapter.Renews` — an initialization sets another engine up, which is asked from then
  on.

## Main results

* `ScriptHost.Adapter.Turn.exists_moves` — what a call adds to the record.
* `ScriptHost.Adapter.Retired.afterCalls` — an engine that is gone is asked nothing any more.
* `ScriptHost.Adapter.panicked_engine_unused` — an engine that broke down is not used again.
-/

namespace ScriptHost

variable {ι ω : Type}

namespace Adapter

open Engine (Instance Event)
open Backend (Call afterCalls)

variable {factory : Engine.Factory ι ω}

/-! ## What a call adds to the record -/

/-- What a call with an outcome adds to the record of a factory, and the engine behind it. -/
inductive Moves {c : Call} (outcome : Except Failure c.Answer)
    (before : Server (Instance ι) (Recorded Event ω)) :
    List Event → Server (Instance ι) (Recorded Event ω) → Prop
  /-- Nothing changes. -/
  | rested : Moves outcome before [] before
  /-- The engine is released. -/
  | released (hc : c = .dispose) : Moves outcome before [] before.drop
  /-- Another engine is set up. -/
  | built {engine : Instance ι} (hc : c = .init) (hnone : before.engine = none)
      (hnumber : engine.builtAt = before.world.events.length) (world : Recorded Event ω) :
      Moves outcome before [.build (.ok ())] ⟨world, some engine⟩
  /-- No engine is set up. -/
  | unbuilt (hc : c = .init) (hnone : before.engine = none)
      (built : Except Engine.BuildFault Unit) (world : Recorded Event ω) :
      Moves outcome before [.build built] ⟨world, none⟩
  /-- The engine answers. -/
  | answered {engine : Instance ι} (hengine : before.engine = some engine) (asked : Engine.Call)
      (answer : asked.Answer) (world : Recorded Event ω) :
      Moves outcome before [.call engine.builtAt asked (.ok answer)] ⟨world, some engine⟩
  /-- The engine breaks down, and the channel is closed. -/
  | panicked {engine : Instance ι} (hengine : before.engine = some engine) (asked : Engine.Call)
      (panic : Engine.Panic) (world : Recorded Event ω)
      (hclosed : ∃ reason, outcome = .error (.closed reason)) :
      Moves outcome before [.call engine.builtAt asked (.error panic)] ⟨world, none⟩

section Record

variable {c : Call} {outcome : Except Failure c.Answer}
  {before after : Server (Instance ι) (Recorded Event ω)} {new : List Event}

/-- The initialization asks the factory for an engine where there is none. -/
lemma SetsUp.exists_moves {outcome : Except Failure (Call.Answer .init)}
    (h : SetsUp factory.recorded before outcome after) :
    ∃ new, after.world.events = before.world.events ++ new ∧ Moves outcome before new after := by
  have hfailed {fault : Engine.BuildFault} {world : Recorded Event ω}
      (hnone : before.engine = none)
      (hsetUp : factory.recorded.setUp before.world = (.error fault, world)) :
      ∃ new, world.events = before.world.events ++ new ∧
        Moves outcome before new ⟨world, none⟩ := by
    obtain ⟨built, hevents⟩ := Engine.Factory.setUp_events factory before.world
    rw [hsetUp] at hevents
    exact ⟨_, hevents, .unbuilt rfl hnone built world⟩
  cases h with
  | present | unreached => exact ⟨[], (List.append_nil _).symm, .rested⟩
  | built hnone hsetUp =>
    obtain ⟨hbuild, -⟩ := Engine.Factory.setUp_eq_ok hsetUp
    obtain ⟨hevents, hnumber⟩ := Engine.Factory.recorded_build hbuild
    exact ⟨_, hevents, .built rfl hnone (hnumber _ rfl) _⟩
  | refused hnone hsetUp => exact hfailed hnone hsetUp
  | panicked hnone hsetUp => exact hfailed hnone hsetUp

/-- **What a call adds to the record.** A call asks the factory for an engine where there is none,
or it asks the one engine that there is, or it asks nothing. -/
theorem Turn.exists_moves (h : Turn factory.recorded c before outcome after) :
    ∃ new, after.world.events = before.world.events ++ new ∧ Moves outcome before new after := by
  rcases c.init_or_dispose_or_ne with rfl | rfl | ⟨hinit, hdispose⟩
  · exact SetsUp.exists_moves h
  · have hafter : after = before.drop := h
    rw [hafter]
    exact ⟨[], (List.append_nil _).symm, .released rfl⟩
  · rw [turn_iff_asked hinit hdispose] at h
    cases h with
    | unserved => exact ⟨[], (List.append_nil _).symm, .rested⟩
    | answered hengine _ hcall =>
      exact ⟨_, Engine.Factory.recorded_call hcall, .answered hengine _ _ _⟩
    | panicked hengine _ hcall =>
      exact ⟨_, Engine.Factory.recorded_call hcall, .panicked hengine _ _ _ ⟨_, rfl⟩⟩

/-! ## The numbers of engines -/

/-- The engine was built among the events so far. -/
def Numbered (server : Server (Instance ι) (Recorded Event ω)) : Prop :=
  ∀ engine, server.engine = some engine → engine.builtAt < server.world.events.length

/-- The engine with a number was there, and another one is there now or none. -/
structure Retired (n : Nat) (server : Server (Instance ι) (Recorded Event ω)) : Prop where
  /-- The number was given to an event so far. -/
  past : n < server.world.events.length
  /-- The engine that is there has another number. -/
  gone : ∀ engine, server.engine = some engine → engine.builtAt ≠ n

/-- An engine is built before it is asked anything. -/
lemma Moves.numbered (h : Moves outcome before new after)
    (hevents : after.world.events = before.world.events ++ new) (hbefore : Numbered before) :
    Numbered after := by
  intro engine hengine
  cases h with
  | rested => exact hbefore engine hengine
  | released => cases hengine
  | built _ _ hnumber =>
    cases hengine
    rw [hevents, hnumber]
    simp
  | unbuilt => cases hengine
  | answered hbuilt =>
    cases hengine
    rw [hevents, List.length_append]
    exact Nat.lt_add_right _ (hbefore _ hbuilt)
  | panicked => cases hengine

/-- An engine that is gone does not come back, and is not asked. -/
lemma Moves.retired (h : Moves outcome before new after)
    (hevents : after.world.events = before.world.events ++ new) {n : Nat}
    (hbefore : Retired n before) :
    Retired n after ∧ ∀ event ∈ new, event.isOn n = false := by
  have hpast : n < after.world.events.length := by
    rw [hevents, List.length_append]
    exact Nat.lt_add_right _ hbefore.past
  cases h with
  | rested => exact ⟨hbefore, List.forall_mem_nil _⟩
  | released => exact ⟨⟨hpast, fun _ h => by cases h⟩, List.forall_mem_nil _⟩
  | built _ _ hnumber =>
    refine ⟨⟨hpast, ?_⟩, by simp [Event.isOn]⟩
    rintro _ ⟨⟩
    rw [hnumber]
    exact (Nat.ne_of_lt hbefore.past).symm
  | unbuilt => exact ⟨⟨hpast, fun _ h => by cases h⟩, by simp [Event.isOn]⟩
  | answered hengine =>
    refine ⟨⟨hpast, ?_⟩, by simpa [Event.isOn] using hbefore.gone _ hengine⟩
    rintro _ ⟨⟩
    exact hbefore.gone _ hengine
  | panicked hengine =>
    exact ⟨⟨hpast, fun _ h => by cases h⟩, by simpa [Event.isOn] using hbefore.gone _ hengine⟩

/-! ## Breaking down -/

/-- The engine with a number breaks down in a call: it panics when it is asked, or it is built in
the call and panics when it is asked what it offers. -/
inductive BreaksDown (factory : Engine.Factory ι ω) (n : Nat)
    (before after : Server (Instance ι) (Recorded Event ω)) : Prop
  /-- The engine was asked. -/
  | asked {asked : Engine.Call} {panic : Engine.Panic}
      (hevents : after.world.events = before.world.events ++ [.call n asked (.error panic)])
  /-- The engine was just built. -/
  | offering {engine : Instance ι} {panic : Engine.Panic} (hnumber : engine.builtAt = n)
      (hbuild : factory.recorded.build before.world = (.ok engine, after.world))
      (hpanic : factory.recorded.capabilities engine after.world = .error panic)

/-- The initialization in which the new engine breaks down says that the channel is closed. -/
lemma SetsUp.closed_of_panic {outcome : Except Failure Bool}
    (h : SetsUp factory.recorded before outcome after)
    {engine : Instance ι} {panic : Engine.Panic}
    (hbuild : factory.recorded.build before.world = (.ok engine, after.world))
    (hpanic : factory.recorded.capabilities engine after.world = .error panic) :
    (∃ reason, outcome = .error (.closed reason)) ∧ after.engine = none := by
  have hpanicked :
      factory.recorded.setUp before.world = (.error (.panicked panic), after.world) := by
    simp only [Engine.Factory.setUp, hbuild, hpanic]
  -- The factory was asked, so this is none of the outcomes that leave everything as it was.
  have hchanged : after ≠ before := by
    intro hsame
    obtain ⟨hevents, -⟩ := Engine.Factory.recorded_build hbuild
    rw [hsame] at hevents
    simpa using congrArg List.length hevents
  cases h with
  | present => exact absurd rfl hchanged
  | unreached => exact absurd rfl hchanged
  | built _ hsetUp =>
    rw [hpanicked] at hsetUp
    cases hsetUp
  | refused _ hsetUp =>
    rw [hpanicked] at hsetUp
    cases hsetUp
  | panicked => exact ⟨⟨_, rfl⟩, rfl⟩

/-- **The call in which an engine breaks down says that the channel is closed**, and the engine is
gone. -/
theorem Turn.closed_of_breaksDown (h : Turn factory.recorded c before outcome after)
    (hbefore : Numbered before) {n : Nat} (hbreaks : BreaksDown factory n before after) :
    (∃ reason, outcome = .error (.closed reason)) ∧ after.engine = none ∧
      n < after.world.events.length := by
  obtain ⟨new, hevents, hmoves⟩ := h.exists_moves
  cases hbreaks with
  | asked hasked =>
    obtain rfl := List.append_cancel_left (hevents.symm.trans hasked)
    rw [hevents, List.length_append]
    cases hmoves with
    | panicked hengine _ _ _ hclosed =>
      exact ⟨hclosed, rfl, Nat.lt_add_right _ (hbefore _ hengine)⟩
  | offering hnumber hbuild hpanic =>
    obtain ⟨hbuilt, hlength⟩ := Engine.Factory.recorded_build hbuild
    obtain rfl := List.append_cancel_left (hevents.symm.trans hbuilt)
    -- Only the initialization asks the factory.
    have hc : c = .init := by
      cases hmoves with
      | built hc => exact hc
      | unbuilt hc => exact hc
    subst hc
    obtain ⟨hclosed, hnone⟩ := SetsUp.closed_of_panic h hbuild hpanic
    refine ⟨hclosed, hnone, ?_⟩
    rw [hevents, ← hnumber, hlength _ rfl]
    simp

end Record

/-! ## Serving -/

/-- An engine is asked since it was built: as long as no other is built it is the only one that is
asked, and it stays until it is released or breaks down. -/
structure Serves (engine : Instance ι) (calls : List Call) (since : List Event)
    (server : Server (Instance ι) (Recorded Event ω)) : Prop where
  /-- Before another engine is built no other engine is asked. -/
  only : ∀ event ∈ since.takeWhile fun event => !event.isBuild, event.isOn engine.builtAt = true
  /-- Before another engine is built no other engine is there. -/
  there : (∀ event ∈ since, event.isBuild = false) →
    ∀ other, server.engine = some other → other = engine
  /-- Before it is released or breaks down it is there. -/
  stays : .dispose ∉ calls → (∀ event ∈ since, event.isPanic = false) →
    server.engine = some engine

section Serving

variable {c : Call} {outcome : Except Failure c.Answer} {engine : Instance ι} {calls : List Call}
  {before after : Server (Instance ι) (Recorded Event ω)} {since new : List Event}

/-- What holds of the entries up to a mark holds of them in a longer list when it does of what comes
behind a list without a mark. -/
lemma forall_mem_takeWhile_append {α : Type} {p : α → Bool} {q : α → Prop} {xs ys : List α}
    (hxs : ∀ x ∈ xs.takeWhile p, q x)
    (hys : (∀ x ∈ xs, p x = true) → ∀ y ∈ ys.takeWhile p, q y) :
    ∀ x ∈ (xs ++ ys).takeWhile p, q x := by
  by_cases hall : ∀ x ∈ xs, p x = true
  · rw [List.takeWhile_append_of_pos hall]
    intro x hx
    rw [List.takeWhile_eq_self_iff.mpr hall] at hxs
    exact (List.mem_append.mp hx).elim (hxs x) (hys hall x)
  · -- The mark is among the first entries, and what comes behind it is cut off.
    have hshort : (xs.takeWhile p).length ≠ xs.length := by
      intro hlength
      exact hall (List.takeWhile_eq_self_iff.mp ((List.takeWhile_prefix p).eq_of_length hlength))
    rw [List.takeWhile_append, if_neg hshort]
    exact hxs

/-- Another engine is built only when the one that served is gone. -/
lemma Serves.build (h : Serves engine calls since before) (hnone : before.engine = none)
    (built : Except Engine.BuildFault Unit)
    (after : Server (Instance ι) (Recorded Event ω)) :
    Serves engine (c :: calls) (since ++ [.build built]) after where
  only := forall_mem_takeWhile_append h.only fun _ => List.forall_mem_nil _
  there hall := by
    have hbuild := hall (.build built) List.mem_concat_self
    cases hbuild
  stays hdispose hpanics := by
    have hengine := h.stays (fun hmem => hdispose (List.mem_cons_of_mem c hmem))
      (List.forall_mem_append.mp hpanics).1
    cases hnone.symm.trans hengine

/-- The engine that is asked is the one that serves, as long as no other is built. -/
lemma Serves.only_call (h : Serves engine calls since before) {asked : Engine.Call}
    {other : Instance ι} (hother : before.engine = some other)
    (outcome : Except Engine.Panic asked.Answer) :
    ∀ event ∈ (since ++ [Event.call other.builtAt asked outcome]).takeWhile fun event =>
      !event.isBuild, event.isOn engine.builtAt = true := by
  refine forall_mem_takeWhile_append h.only fun hall => ?_
  have hsame : other = engine := h.there (by simpa using hall) other hother
  simp [Event.isBuild, Event.isOn, hsame]

/-- **An engine serves on** through every call.

**Proof sketch.** By cases on what the call adds. The engine is asked itself, or it is gone: then
nothing is asked until another one is built. -/
theorem Serves.cons (h : Serves engine calls since before)
    (hmoves : Moves outcome before new after) :
    Serves engine (c :: calls) (since ++ new) after := by
  have hcalls (hdispose : .dispose ∉ c :: calls) : .dispose ∉ calls :=
    fun hmem => hdispose (List.mem_cons_of_mem c hmem)
  cases hmoves with
  | rested =>
    rw [List.append_nil]
    exact ⟨h.only, h.there, fun hdispose => h.stays (hcalls hdispose)⟩
  | released hc =>
    rw [List.append_nil]
    refine ⟨h.only, fun _ _ hother => ?_, fun hdispose => ?_⟩
    · cases hother
    · exact absurd (hc ▸ List.mem_cons_self) hdispose
  | built _ hnone => exact h.build hnone _ _
  | unbuilt _ hnone built => exact h.build hnone built _
  | answered hengine asked answer =>
    refine ⟨h.only_call hengine _, fun hall other hother => ?_, fun hdispose hpanics => ?_⟩
    · cases hother
      exact h.there (List.forall_mem_append.mp hall).1 _ hengine
    · exact hengine.symm.trans (h.stays (hcalls hdispose) (List.forall_mem_append.mp hpanics).1)
  | panicked hengine asked panic =>
    refine ⟨h.only_call hengine _, fun _ _ hother => ?_, fun _ hpanics => ?_⟩
    · cases hother
    · have hpanic := hpanics (.call _ asked (.error panic)) List.mem_concat_self
      cases hpanic

end Serving

/-! ## Runs of calls -/

/-- No initialization among some calls succeeds, the latest call first. -/
def Unset {κ : Type} (backend : Backend κ) (start : κ) (calls : List Call) : Prop :=
  ∀ later earlier, calls = later ++ .init :: earlier →
    (backend.call .init (afterCalls backend start earlier)).1 ≠ .ok true

/-- The record of the factory behind an adapter. -/
def log (a : Adapter) (s : a.World (Instance ι) (Recorded Event ω)) : List Event :=
  (a.server s).world.events

/-- An initialization sets an engine up, which is asked from then on. -/
structure Renews (a : Adapter) (factory : Engine.Factory ι ω)
    (s : a.World (Instance ι) (Recorded Event ω)) (engine : Instance ι) : Prop where
  /-- The factory builds the engine. -/
  built : factory.recorded.build (a.server s).world =
    (.ok engine, (a.server ((a.backend factory.recorded).call .init s).2).world)
  /-- It serves from then on. -/
  serves : ∀ calls,
    let set := ((a.backend factory.recorded).call .init s).2
    let now := afterCalls (a.backend factory.recorded) set calls
    ∃ since, a.log now = a.log set ++ since ∧ Serves engine calls since (a.server now)
  /-- A call of the engine asks the engine that is there, and is answered by it. -/
  asks : ∀ calls c, c ≠ .init → c ≠ .dispose →
    let set := ((a.backend factory.recorded).call .init s).2
    let now := afterCalls (a.backend factory.recorded) set calls
    Asked factory.recorded c (a.server now) ((a.backend factory.recorded).call c now).1
      (a.server ((a.backend factory.recorded).call c now).2)

section Runs

variable {a : Adapter} {s : a.World (Instance ι) (Recorded Event ω)} {n : Nat}

/-- What is known of the engine stays right behind all calls. -/
lemma isSound_afterCalls (factory : Engine.Factory ι ω) {s : a.World ι ω} (h : a.IsSound s)
    (calls : List Call) : a.IsSound (afterCalls (a.backend factory) s calls) := by
  induction calls with
  | nil => exact h
  | cons c calls ih => exact (a.reaches factory).sound_call _ ih c

/-- There is no engine when nothing was asked for. -/
lemma numbered_idle (a : Adapter) (world : Recorded Event ω) :
    Numbered (a.server (a.idle world : a.World (Instance ι) (Recorded Event ω))) := by
  intro engine hengine
  cases a <;> cases hengine

/-- Engines are built before they are asked anything. -/
lemma numbered_afterCalls (factory : Engine.Factory ι ω) (h : a.IsSound s)
    (hnumbered : Numbered (a.server s)) (calls : List Call) :
    Numbered (a.server (afterCalls (a.backend factory.recorded) s calls)) := by
  induction calls with
  | nil => exact hnumbered
  | cons c calls ih =>
    obtain ⟨new, hevents, hmoves⟩ :=
      (turn factory.recorded (isSound_afterCalls factory.recorded h calls) c).exists_moves
    exact hmoves.numbered hevents ih

/-- **An engine that is gone is asked nothing any more.** -/
theorem Retired.afterCalls (factory : Engine.Factory ι ω) (h : a.IsSound s)
    (hretired : Retired n (a.server s)) (calls : List Call) :
    let now := afterCalls (a.backend factory.recorded) s calls
    Retired n (a.server now) ∧
      ∃ since, a.log now = a.log s ++ since ∧ ∀ event ∈ since, event.isOn n = false := by
  induction calls with
  | nil => exact ⟨hretired, [], (List.append_nil _).symm, List.forall_mem_nil _⟩
  | cons c calls ih =>
    obtain ⟨hbefore, since, hsince, hunasked⟩ := ih
    obtain ⟨new, hevents, hmoves⟩ :=
      (turn factory.recorded (isSound_afterCalls factory.recorded h calls) c).exists_moves
    obtain ⟨hafter, hnew⟩ := hmoves.retired hevents hbefore
    refine ⟨hafter, since ++ new, ?_, List.forall_mem_append.mpr ⟨hunasked, hnew⟩⟩
    rw [← List.append_assoc, ← hsince]
    exact hevents

/-- Without an initialization that succeeds there is no engine. -/
lemma engine_afterCalls (factory : Engine.Factory ι ω) {s : a.World ι ω} (h : a.IsSound s)
    (hnone : (a.server s).engine = none) {calls : List Call}
    (hunset : Unset (a.backend factory) s calls) :
    (a.server (afterCalls (a.backend factory) s calls)).engine = none := by
  induction calls with
  | nil => exact hnone
  | cons c calls ih =>
    have hbefore := ih fun later earlier hcalls =>
      hunset (c :: later) earlier (by rw [hcalls, List.cons_append])
    have hturn := turn factory (isSound_afterCalls factory h calls) c
    rcases c.init_or_dispose_or_ne with rfl | rfl | ⟨hinit, hdispose⟩
    · exact SetsUp.of_ne hturn hbefore (hunset [] calls rfl)
    · exact congrArg Server.engine hturn
    · obtain ⟨-, hsame⟩ := ((turn_iff_asked hinit hdispose).mp hturn).of_none hbefore
      exact (congrArg Server.engine hsame).trans hbefore

/-- An engine that was set up serves from then on. -/
lemma serves_afterCalls (factory : Engine.Factory ι ω) (h : a.IsSound s) {engine : Instance ι}
    (hengine : (a.server s).engine = some engine) (calls : List Call) :
    let now := afterCalls (a.backend factory.recorded) s calls
    ∃ since, a.log now = a.log s ++ since ∧ Serves engine calls since (a.server now) := by
  induction calls with
  | nil =>
    refine ⟨[], (List.append_nil _).symm, List.forall_mem_nil _, fun _ other hother => ?_,
      fun _ _ => hengine⟩
    exact Option.some.inj (hother.symm.trans hengine)
  | cons c calls ih =>
    obtain ⟨since, hsince, hserves⟩ := ih
    obtain ⟨new, hevents, hmoves⟩ :=
      (turn factory.recorded (isSound_afterCalls factory.recorded h calls) c).exists_moves
    refine ⟨since ++ new, ?_, hserves.cons hmoves⟩
    rw [← List.append_assoc, ← hsince]
    exact hevents

/-- Without an engine the initialization that succeeds sets one up, which is asked from then on. -/
lemma exists_renews (factory : Engine.Factory ι ω) (h : a.IsSound s)
    (hnone : (a.server s).engine = none)
    (hok : ((a.backend factory.recorded).call .init s).1 = .ok true) :
    ∃ engine, engine.builtAt = (a.log s).length ∧ Renews a factory s engine := by
  have hsetUp : SetsUp factory.recorded (a.server s)
      ((a.backend factory.recorded).call .init s).1
      (a.server ((a.backend factory.recorded).call .init s).2) := turn factory.recorded h .init
  rw [hok] at hsetUp
  obtain ⟨engine, capabilities, hengine, hsetUp⟩ := hsetUp.of_ok hnone
  obtain ⟨hbuild, -⟩ := Engine.Factory.setUp_eq_ok hsetUp
  have hset : a.IsSound ((a.backend factory.recorded).call .init s).2 :=
    (a.reaches factory.recorded).sound_call s h .init
  refine ⟨engine, (Engine.Factory.recorded_build hbuild).2 engine rfl, hbuild,
    serves_afterCalls factory hset hengine, fun calls c hinit hdispose => ?_⟩
  exact (turn_iff_asked hinit hdispose).mp
    (turn factory.recorded (isSound_afterCalls factory.recorded hset calls) c)

end Runs

/-- **An engine that broke down is not used again.** Whatever a backend was asked before, whatever
engines and factories do and whatever is asked later: the call in which an engine breaks down says
that the channel is closed, and that engine is asked nothing any more. Until an initialization
succeeds nothing is offered, and every call of the engine fails with a failure of the channel and
asks nothing. The initialization that succeeds has another engine built, which is asked from then on
until it is gone itself. -/
theorem panicked_engine_unused (a : Adapter) (factory : Engine.Factory ι ω) (world : ω)
    (earlier : List Call) (c : Call) (n : Nat) :
    let backend := a.backend factory.recorded
    let before := afterCalls backend (a.idle (Recorded.fresh world)) earlier
    let broken := (backend.call c before).2
    BreaksDown factory n (a.server before) (a.server broken) →
      (∃ reason, (backend.call c before).1 = .error (.closed reason)) ∧
      ∀ later,
        let now := afterCalls backend broken later
        (Retired n (a.server now) ∧
          ∃ since, a.log now = a.log broken ++ since ∧ ∀ event ∈ since, event.isOn n = false) ∧
        (Unset backend broken later →
          backend.offers now = .none ∧
          (∀ c, c ≠ .init → c ≠ .dispose →
            (∃ fault, (backend.call c now).1 = .error (.channel fault)) ∧
              a.server (backend.call c now).2 = a.server now) ∧
          ((backend.call .init now).1 = .ok true →
            ∃ engine, engine.builtAt ≠ n ∧ Renews a factory now engine)) := by
  intro backend before broken hbreaks
  have hidle : a.IsSound (a.idle (Recorded.fresh world) :
      a.World (Instance ι) (Recorded Event ω)) := a.isSound_idle _
  have hbefore : a.IsSound before := isSound_afterCalls factory.recorded hidle earlier
  have hbroken : a.IsSound broken := (a.reaches factory.recorded).sound_call before hbefore c
  have hnumbered : Numbered (a.server before) :=
    numbered_afterCalls factory hidle (a.numbered_idle _) earlier
  obtain ⟨hclosed, hnone, hpast⟩ :=
    (turn factory.recorded hbefore c).closed_of_breaksDown hnumbered hbreaks
  have hretired : Retired n (a.server broken) := by
    refine ⟨hpast, fun engine hengine => ?_⟩
    cases hnone.symm.trans hengine
  refine ⟨hclosed, fun later => ?_⟩
  have hunused := hretired.afterCalls factory hbroken later
  refine ⟨hunused, fun hunset => ?_⟩
  have hsound := isSound_afterCalls factory.recorded hbroken later
  have hgone := engine_afterCalls factory.recorded hbroken hnone hunset
  refine ⟨offers_of_none factory.recorded hsound hgone, fun c hinit hdispose => ?_, fun hok => ?_⟩
  · exact ((turn_iff_asked hinit hdispose).mp (turn factory.recorded hsound c)).of_none hgone
  · obtain ⟨engine, hnumber, hrenews⟩ := exists_renews factory hsound hgone hok
    refine ⟨engine, ?_, hrenews⟩
    -- The new engine is numbered by the record so far, which already holds the old one.
    rw [hnumber]
    exact (Nat.ne_of_lt hunused.1.past).symm

/-- A worker whose engine panics when it is asked for global names closes the channel; the next
initialization has another engine built. -/
theorem panicked_engine_unused_globals :
    let factory := Scripted.factory .none
    let backend := Adapter.worker.backend factory.recorded
    let before := afterCalls backend
      (Adapter.worker.idle (Recorded.fresh ⟨[], [.panic ⟨some "out of memory"⟩]⟩)) [.init]
    let broken := (backend.call .globals before).2
    BreaksDown factory 0 (Adapter.worker.server before) (Adapter.worker.server broken) ∧
      (∃ reason, (backend.call .globals before).1 = .error (.closed reason)) ∧
      ∃ engine, engine.builtAt ≠ 0 ∧ Renews .worker factory broken engine := by
  intro factory backend before broken
  have hbreaks : BreaksDown factory 0 (Adapter.worker.server before)
      (Adapter.worker.server broken) := .asked rfl
  obtain ⟨hclosed, hlater⟩ := panicked_engine_unused .worker factory
    ⟨[], [.panic ⟨some "out of memory"⟩]⟩ [.init] .globals 0 hbreaks
  have hunset : Unset backend broken [] := by
    intro later earlier hcalls
    simp at hcalls
  obtain ⟨-, -, hrenewed⟩ := (hlater []).2 hunset
  exact ⟨hbreaks, hclosed, hrenewed rfl⟩

end Adapter

end ScriptHost
