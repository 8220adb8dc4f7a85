import ScriptHost.Proofs.Engine.Record
import ScriptHost.Proofs.Server.Handling
import ScriptHost.Proofs.Server.Serving

/-!
# The life of the engine of a server

A server gets lines in any order and with anything in them. Whatever they say, an engine is built
only by an initialization that finds none and that names no other version of the protocol. Behind a
line there is an engine just when there was one or the initialization had one built, unless there
was a panic or the line released the engine. What is refused for what stands in the request, or for
want of an engine, is refused without asking any engine or the factory; what the engine refuses
leaves the engine there.

## Main definitions

* `ScriptHost.Server.commandOf`, `ScriptHost.Server.Requests` — the command that a line asks for,
  and the word in it.
* `ScriptHost.Server.Panics`, `ScriptHost.Server.PanicsOn` — what panics when a command is carried
  out, and when a line is answered.
* `ScriptHost.Server.Carried` — what carrying out a command adds to the record.
* `ScriptHost.Server.Accords` — what becomes of the engine when a line is answered.

## Main results

* `ScriptHost.Server.exists_carried` — what carrying out a command adds to the record.
* `ScriptHost.Server.engine_lifecycle` — what becomes of the engine behind any lines.
-/

namespace ScriptHost

variable {ι ω : Type}

/-! ## Whether there is an engine -/

namespace Server

@[simp]
lemma isActive_some (world : ω) (engine : ι) : isActive ⟨world, some engine⟩ = true :=
  rfl

@[simp]
lemma isActive_none (world : ω) : (⟨world, none⟩ : Server ι ω).isActive = false :=
  rfl

@[simp]
lemma isActive_drop (server : Server ι ω) : server.drop.isActive = false :=
  rfl

lemma isActive_eq_false_iff {server : Server ι ω} :
    server.isActive = false ↔ server.engine = none := by
  simp [isActive]

lemma isActive_iff {server : Server ι ω} :
    server.isActive = true ↔ ∃ engine, server.engine = some engine :=
  Option.isSome_iff_exists

end Server

/-! ## The command of a line -/

namespace Command

variable {word : String} {params : Json}

/-- An engine is to be set up only by the word for it, and only when no other version is named. -/
lemma of_read_init (h : read word params = .ok .init) :
    word = "init" ∧ ∀ version, params.get? "protocol_version" = some (.str version) →
      version = protocolVersion := by
  by_cases hinit : word = "init"
  · refine ⟨hinit, fun version hversion => ?_⟩
    subst hinit
    by_contra hother
    have hrefused : read "init" params = .error (.version version) := by
      simp only [read, checkVersion, hversion, if_neg hother]
      rfl
    cases hrefused.symm.trans h
  · by_cases hdispose : word = "dispose"
    · subst hdispose
      cases h
    · obtain ⟨asked, -, hcall⟩ := readsCall_read hinit hdispose params _ h
      cases hcall

/-- The engine is to be released only by the word for it, whatever else is said. -/
lemma read_eq_dispose_iff : read word params = .ok .dispose ↔ word = "dispose" := by
  refine ⟨fun h => ?_, fun h => by rw [h]; rfl⟩
  by_contra hdispose
  by_cases hinit : word = "init"
  · subst hinit
    change (checkVersion params).map _ = _ at h
    cases hversion : checkVersion params with
    | error refusal => rw [hversion] at h; cases h
    | ok _ => rw [hversion] at h; cases h
  · obtain ⟨asked, -, hcall⟩ := readsCall_read hinit hdispose params _ h
    cases hcall

end Command

namespace Server

open Refusal

/-- The command that a line asks for, or why it asks for none. -/
def commandOf (codec : Codec) (line : List UInt8) : Except Refusal Command :=
  match codec.request? line with
  | none => .error .unreadable
  | some request => Command.read request.command request.params

/-- A line is a request with a word. -/
def Requests (codec : Codec) (line : List UInt8) (word : String) : Prop :=
  ∃ request, codec.request? line = some request ∧ request.command = word

section Lines

variable {codec : Codec} {factory : Engine.Factory ι ω} {line : List UInt8} {server : Server ι ω}

/-- A line that asks for no command is refused for what stands in it. -/
lemma blames_commandOf (codec : Codec) (line : List UInt8) : Blames (commandOf codec line) := by
  unfold commandOf
  split
  · exact blames_error rfl
  · exact Command.blames_read _ _

/-- A line that asks for no command is refused, and the server stays as it is. -/
lemma respond_of_error {refusal : Refusal} (h : commandOf codec line = .error refusal) :
    respond codec factory line server = (⟨askedId codec line, .error refusal⟩, server) := by
  unfold commandOf at h
  unfold respond askedId
  cases hrequest : codec.request? line with
  | none =>
    rw [hrequest] at h
    cases h
    rfl
  | some request =>
    rw [hrequest] at h
    simp only [handle, h]
    rfl

/-- A line that asks for a command is answered with what carrying it out results in. -/
lemma respond_of_ok {command : Command} (h : commandOf codec line = .ok command) :
    respond codec factory line server =
      (⟨askedId codec line, (execute factory command server).1⟩,
        (execute factory command server).2) := by
  unfold commandOf at h
  unfold respond askedId
  cases hrequest : codec.request? line with
  | none =>
    rw [hrequest] at h
    cases h
  | some request =>
    rw [hrequest] at h
    simp only [handle, h]
    rfl

/-- A line that has an engine set up is a request for it and names no other version. -/
lemma exists_request_of_init (h : commandOf codec line = .ok .init) :
    ∃ request, codec.request? line = some request ∧ request.command = "init" ∧
      ∀ version, request.params.get? "protocol_version" = some (.str version) →
        version = protocolVersion := by
  unfold commandOf at h
  split at h
  · cases h
  · rename_i request hrequest
    exact ⟨request, hrequest, Command.of_read_init h⟩

/-- A line releases the engine just when it is a request for that. -/
lemma commandOf_eq_dispose_iff :
    commandOf codec line = .ok .dispose ↔ Requests codec line "dispose" := by
  unfold commandOf Requests
  cases codec.request? line with
  | none => simp
  | some request => simp [Command.read_eq_dispose_iff]

end Lines

/-! ## Panics -/

/-- What panics when a command is carried out. -/
inductive Panics (factory : Engine.Factory ι ω) (server : Server ι ω) :
    Command → Engine.Panic → Prop
  /-- The factory, when it is to build an engine. -/
  | building {panic : Engine.Panic} {world : ω} (hnone : server.engine = none)
      (hbuild : factory.build server.world = (.error (.panicked panic), world)) :
      Panics factory server .init panic
  /-- A new engine, when it is asked what it offers. -/
  | built {engine : ι} {panic : Engine.Panic} {world : ω} (hnone : server.engine = none)
      (hbuild : factory.build server.world = (.ok engine, world))
      (hpanic : factory.capabilities engine world = .error panic) :
      Panics factory server .init panic
  /-- The engine that is there, when it is asked what it offers. -/
  | offering {engine : ι} {panic : Engine.Panic} (hengine : server.engine = some engine)
      (hpanic : factory.capabilities engine server.world = .error panic) :
      Panics factory server .init panic
  /-- The engine that is there, when it is asked. -/
  | asked {engine : ι} {c : Engine.Call} {panic : Engine.Panic} {world : ω}
      (hengine : server.engine = some engine)
      (hpanic : factory.call engine c server.world = (.error panic, world)) :
      Panics factory server (.call c) panic

/-- Something panics when a line is answered. -/
def PanicsOn (codec : Codec) (factory : Engine.Factory ι ω) (line : List UInt8)
    (server : Server ι ω) (panic : Engine.Panic) : Prop :=
  ∃ command, commandOf codec line = .ok command ∧ Panics factory server command panic

/-- A panic is answered as one. -/
lemma execute_of_panics {factory : Engine.Factory ι ω} {server : Server ι ω} {command : Command}
    {panic : Engine.Panic} (h : Panics factory server command panic) :
    (execute factory command server).1 = .error (.panicked panic) := by
  cases h with
  | building hnone hbuild => simp [execute, init, Engine.Factory.setUp, hnone, hbuild]
  | built hnone hbuild hpanic => simp [execute, init, Engine.Factory.setUp, hnone, hbuild, hpanic]
  | offering hengine hpanic => simp [execute, init, hengine, hpanic]
  | asked hengine hpanic => simp [execute, ask, hengine, hpanic]

/-! ## What a command adds to the record -/

section Record

open Engine (Instance Event)

/-- What carrying out a command results in, what it adds to the record of the factory, and the
server behind it. -/
inductive Carried (factory : Engine.Factory ι ω)
    (before : Server (Instance ι) (Recorded Event ω)) : Command → Except Refusal Json →
      List Event → Server (Instance ι) (Recorded Event ω) → Prop
  /-- There is an engine, which says what it offers. -/
  | offered (hactive : before.isActive = true) (capabilities : Capabilities) :
      Carried factory before .init (.ok (initResult capabilities)) [] before
  /-- There is an engine, which breaks down when it is asked what it offers. -/
  | wornOut (hactive : before.isActive = true) {panic : Engine.Panic}
      (hpanics : Panics factory.recorded before .init panic) :
      Carried factory before .init (.error (.panicked panic)) [] before.drop
  /-- An engine is built, and says what it offers. -/
  | built (hnone : before.isActive = false) (capabilities : Capabilities) (engine : Instance ι)
      (world : Recorded Event ω) :
      Carried factory before .init (.ok (initResult capabilities)) [.build (.ok ())]
        ⟨world, some engine⟩
  /-- The factory refuses to build an engine. -/
  | refused (hnone : before.isActive = false) (reason : String) (world : Recorded Event ω) :
      Carried factory before .init (.ok (initRefused reason)) [.build (.error (.refused reason))]
        ⟨world, none⟩
  /-- The factory breaks down, or the engine that it builds does. -/
  | spoiled (hnone : before.isActive = false) (built : Except Engine.BuildFault Unit)
      {panic : Engine.Panic} (hpanics : Panics factory.recorded before .init panic)
      (world : Recorded Event ω) :
      Carried factory before .init (.error (.panicked panic)) [.build built] ⟨world, none⟩
  /-- There is no engine to be asked. -/
  | unasked (hnone : before.isActive = false) (c : Engine.Call) :
      Carried factory before (.call c) (.error .notInitialized) [] before
  /-- The engine answers. -/
  | answered {engine : Instance ι} (hengine : before.engine = some engine) (c : Engine.Call)
      (answer : c.Answer) (world : Recorded Event ω) :
      Carried factory before (.call c) (result c answer) [.call engine.builtAt c (.ok answer)]
        ⟨world, some engine⟩
  /-- The engine breaks down. -/
  | panicked {engine : Instance ι} (c : Engine.Call) {panic : Engine.Panic}
      (hpanics : Panics factory.recorded before (.call c) panic) (world : Recorded Event ω) :
      Carried factory before (.call c) (.error (.panicked panic))
        [.call engine.builtAt c (.error panic)] ⟨world, none⟩
  /-- The engine is released. -/
  | released (json : Json) : Carried factory before .dispose (.ok json) [] before.drop

variable {factory : Engine.Factory ι ω} {command : Command} {outcome : Except Refusal Json}
  {before after : Server (Instance ι) (Recorded Event ω)} {new : List Event}

variable (factory command before) in
/-- **What carrying out a command adds to the record.** -/
theorem exists_carried :
    ∃ new, (execute factory.recorded command before).2.world.events = before.world.events ++ new ∧
      Carried factory before command (execute factory.recorded command before).1 new
        (execute factory.recorded command before).2 := by
  have hnothing : before.world.events = before.world.events ++ [] := (List.append_nil _).symm
  cases command with
  | init =>
    rcases hengine : before.engine with _ | engine
    · have hnone : before.isActive = false := isActive_eq_false_iff.mpr hengine
      rcases hbuild : factory.recorded.build before.world with
        ⟨(reason | panic) | engine, world⟩
      · obtain ⟨hevents, -⟩ := Engine.Factory.recorded_build hbuild
        simp only [execute, init, Engine.Factory.setUp, hengine, hbuild]
        exact ⟨_, hevents, .refused hnone reason world⟩
      · obtain ⟨hevents, -⟩ := Engine.Factory.recorded_build hbuild
        simp only [execute, init, Engine.Factory.setUp, hengine, hbuild]
        exact ⟨_, hevents, .spoiled hnone _ (.building hengine hbuild) world⟩
      · obtain ⟨hevents, -⟩ := Engine.Factory.recorded_build hbuild
        rcases hoffers : factory.recorded.capabilities engine world with panic | capabilities
        · simp only [execute, init, Engine.Factory.setUp, hengine, hbuild, hoffers]
          exact ⟨_, hevents, .spoiled hnone _ (.built hengine hbuild hoffers) world⟩
        · simp only [execute, init, Engine.Factory.setUp, hengine, hbuild, hoffers]
          exact ⟨_, hevents, .built hnone capabilities engine world⟩
    · have hactive : before.isActive = true := isActive_iff.mpr ⟨engine, hengine⟩
      rcases hoffers : factory.recorded.capabilities engine before.world with panic | capabilities
      · simp only [execute, init, hengine, hoffers]
        exact ⟨[], hnothing, .wornOut hactive (.offering hengine hoffers)⟩
      · simp only [execute, init, hengine, hoffers]
        exact ⟨[], hnothing, .offered hactive capabilities⟩
  | call c =>
    rcases hengine : before.engine with _ | engine
    · simp only [execute, ask, hengine]
      exact ⟨[], hnothing, .unasked (isActive_eq_false_iff.mpr hengine) c⟩
    · rcases hcall : factory.recorded.call engine c before.world with ⟨panic | answer, world⟩
      · simp only [execute, ask, hengine, hcall]
        exact ⟨_, Engine.Factory.recorded_call hcall, .panicked c (.asked hengine hcall) world⟩
      · simp only [execute, ask, hengine, hcall]
        exact ⟨_, Engine.Factory.recorded_call hcall, .answered hengine c answer world⟩
  | dispose => exact ⟨[], hnothing, .released _⟩

/-- Only the initialization asks the factory for an engine, and only where there is none. -/
lemma Carried.of_build (h : Carried factory before command outcome new after)
    {built : Except Engine.BuildFault Unit} (hbuilt : .build built ∈ new) :
    command = .init ∧ before.isActive = false := by
  cases h with
  | built hnone => exact ⟨rfl, hnone⟩
  | refused hnone => exact ⟨rfl, hnone⟩
  | spoiled hnone => exact ⟨rfl, hnone⟩
  | _ => simp at hbuilt

/-- What is answered as a panic is one. -/
lemma Carried.panics (h : Carried factory before command outcome new after) {panic : Engine.Panic}
    (hpanic : outcome = .error (.panicked panic)) :
    Panics factory.recorded before command panic := by
  cases h with
  | wornOut _ hpanics => cases hpanic; exact hpanics
  | spoiled _ _ hpanics => cases hpanic; exact hpanics
  | panicked _ hpanics => cases hpanic; exact hpanics
  | answered =>
    obtain ⟨fault, hfault⟩ := exists_fault_of_result hpanic
    cases hfault
  | _ => cases hpanic

/-- Whether there is an engine behind a command. -/
lemma Carried.isActive_iff (h : Carried factory before command outcome new after) :
    after.isActive = true ↔
      (∀ panic, outcome ≠ .error (.panicked panic)) ∧ command ≠ .dispose ∧
        (before.isActive = true ∨ command = .init ∧ .build (.ok ()) ∈ new) := by
  cases h with
  | offered hactive => simp [hactive]
  | wornOut => simp
  | built => simp
  | refused hnone => simp [hnone]
  | spoiled => simp
  | unasked hnone => simp [hnone]
  | answered hengine c answer =>
    have hactive : before.isActive = true := isActive_iff.mpr ⟨_, hengine⟩
    have hanswered (panic : Engine.Panic) : result c answer ≠ .error (.panicked panic) := by
      intro hpanic
      obtain ⟨fault, hfault⟩ := exists_fault_of_result hpanic
      cases hfault
    simp [hactive, hanswered]
  | panicked => simp
  | released => simp

/-- What is refused for want of an engine is refused whatever the factory is. -/
lemma Carried.of_notInitialized (h : Carried factory before command outcome new after)
    (hrefused : outcome = .error .notInitialized) :
    new = [] ∧ after = before ∧
      ∀ other, execute other command before = (.error .notInitialized, before) := by
  cases h with
  | unasked hnone c =>
    refine ⟨rfl, rfl, fun other => ?_⟩
    simp only [execute, ask, isActive_eq_false_iff.mp hnone]
  | answered =>
    obtain ⟨fault, hfault⟩ := exists_fault_of_result hrefused
    cases hfault
  | _ => cases hrefused

/-- No command is refused for what stands in the request. -/
lemma Carried.isOfRequest_eq_false (h : Carried factory before command outcome new after)
    {refusal : Refusal} (hrefused : outcome = .error refusal) : refusal.isOfRequest = false := by
  cases h with
  | answered =>
    obtain ⟨fault, rfl⟩ := exists_fault_of_result hrefused
    rfl
  | wornOut | spoiled | unasked | panicked =>
    cases hrefused
    rfl
  | _ => cases hrefused

/-- What the engine refuses leaves it there. -/
lemma Carried.of_engine (h : Carried factory before command outcome new after)
    {fault : EngineFault} (hrefused : outcome = .error (.engine fault)) :
    after.isActive = true ∧ after.engine = before.engine := by
  cases h with
  | answered hengine => exact ⟨rfl, hengine.symm⟩
  | _ => cases hrefused

end Record

/-! ## Codes -/

/-- The codes of what is refused without asking an engine. -/
def idleCodes : List String :=
  ["parse_error", "invalid_params", "unsupported_command", "not_initialized"]

/-- The codes of what an engine refuses. -/
def engineCodes : List String :=
  ["unsupported", "invalid_state", "malformed_snapshot"]

/-- What is refused without asking an engine is told by its code. -/
lemma of_code_mem_idleCodes {refusal : Refusal} (h : refusal.code ∈ idleCodes) :
    refusal.isOfRequest = true ∨ refusal = .notInitialized := by
  cases refusal with
  | notInitialized => exact .inr rfl
  | panicked panic => exact absurd h (by simp [Refusal.code, idleCodes])
  | engine fault =>
    exact absurd h (by cases fault <;> simp [Refusal.code, EngineFault.code, idleCodes])
  | _ => exact .inl rfl

/-- What an engine refuses is told by its code. -/
lemma of_code_mem_engineCodes {refusal : Refusal} (h : refusal.code ∈ engineCodes) :
    ∃ fault, refusal = .engine fault := by
  cases refusal with
  | engine fault => exact ⟨fault, rfl⟩
  | _ => exact absurd h (by simp [Refusal.code, engineCodes])

/-! ## Any lines -/

/-- What becomes of the engine when a line is answered. -/
structure Accords (codec : Codec) (factory : Engine.Factory ι ω) (line : List UInt8)
    (before : Server (Engine.Instance ι) (Recorded Engine.Event ω)) (response : Response)
    (new : List Engine.Event)
    (after : Server (Engine.Instance ι) (Recorded Engine.Event ω)) : Prop where
  /-- The factory is asked for an engine only by an initialization that finds none and names no
  other version. -/
  build : ∀ built, .build built ∈ new → before.isActive = false ∧
    ∃ request, codec.request? line = some request ∧ request.command = "init" ∧
      ∀ version, request.params.get? "protocol_version" = some (.str version) →
        version = protocolVersion
  /-- A panic is answered as one, and nothing else is. -/
  panicked : ∀ panic, response.outcome = .error (.panicked panic) ↔
    PanicsOn codec factory.recorded line before panic
  /-- There is an engine when there was one or the initialization had one built, unless something
  panicked or the engine was released. -/
  active : after.isActive = true ↔
    (∀ panic, ¬PanicsOn codec factory.recorded line before panic) ∧
      ¬Requests codec line "dispose" ∧
      (before.isActive = true ∨ Requests codec line "init" ∧ .build (.ok ()) ∈ new)
  /-- What is refused for what stands in the request or for want of an engine asks nothing: it is
  refused in the same way whatever engines and factories do. -/
  idle : ∀ refusal, response.outcome = .error refusal → refusal.code ∈ idleCodes →
    new = [] ∧ after = before ∧
      ∀ other, respond codec other line before = (response, before)
  /-- What the engine refuses leaves it there. -/
  kept : ∀ refusal, response.outcome = .error refusal → refusal.code ∈ engineCodes →
    after.isActive = true ∧ after.engine = before.engine

section Lines

variable (codec : Codec) (factory : Engine.Factory ι ω) {line : List UInt8}
  (before : Server (Engine.Instance ι) (Recorded Engine.Event ω))

/-- A line that asks for no command leaves everything as it is. -/
lemma accords_of_error {refusal : Refusal} (h : commandOf codec line = .error refusal) :
    Accords codec factory line before ⟨askedId codec line, .error refusal⟩ [] before where
  build built hbuilt := by cases hbuilt
  panicked panic := by
    refine ⟨fun hpanic => ?_, fun ⟨command, hcommand, _⟩ => ?_⟩
    · cases hpanic
      cases blames_commandOf codec line _ h
    · cases h.symm.trans hcommand
  active := by
    have hpanics (panic : Engine.Panic) : ¬PanicsOn codec factory.recorded line before panic := by
      rintro ⟨command, hcommand, -⟩
      cases h.symm.trans hcommand
    have hdispose : ¬Requests codec line "dispose" := by
      intro hrequest
      cases h.symm.trans (commandOf_eq_dispose_iff.mpr hrequest)
    simp [hpanics, hdispose]
  idle other hother _ := by
    cases hother
    exact ⟨rfl, rfl, fun _ => respond_of_error h⟩
  kept other hother hcode := by
    cases hother
    obtain ⟨fault, rfl⟩ := of_code_mem_engineCodes hcode
    cases blames_commandOf codec line _ h

/-- A line that asks for a command does what carrying it out does. -/
lemma accords_of_ok {command : Command} (h : commandOf codec line = .ok command)
    {new : List Engine.Event}
    (hcarried : Carried factory before command (execute factory.recorded command before).1 new
      (execute factory.recorded command before).2) :
    Accords codec factory line before
      ⟨askedId codec line, (execute factory.recorded command before).1⟩ new
      (execute factory.recorded command before).2 := by
  have hpanics (panic : Engine.Panic) :
      (execute factory.recorded command before).1 = .error (.panicked panic) ↔
        PanicsOn codec factory.recorded line before panic := by
    refine ⟨fun hpanic => ⟨command, h, hcarried.panics hpanic⟩, ?_⟩
    rintro ⟨other, hother, hpanics⟩
    cases h.symm.trans hother
    exact execute_of_panics hpanics
  have hinit {built : Except Engine.BuildFault Unit} (hbuilt : .build built ∈ new) :
      commandOf codec line = .ok .init ∧ before.isActive = false := by
    obtain ⟨rfl, hnone⟩ := hcarried.of_build hbuilt
    exact ⟨h, hnone⟩
  have hdispose : Requests codec line "dispose" ↔ command = .dispose := by
    rw [← commandOf_eq_dispose_iff, h, Except.ok.injEq]
  have hbuilt : Requests codec line "init" ∧ .build (.ok ()) ∈ new ↔
      command = .init ∧ .build (.ok ()) ∈ new := by
    refine ⟨fun ⟨_, hmem⟩ => ⟨(hcarried.of_build hmem).1, hmem⟩, fun ⟨_, hmem⟩ => ⟨?_, hmem⟩⟩
    obtain ⟨request, hrequest, hword, -⟩ := exists_request_of_init (hinit hmem).1
    exact ⟨request, hrequest, hword⟩
  refine ⟨fun built hmem => ?_, hpanics, ?_, fun refusal hrefused hcode => ?_,
    fun refusal hrefused hcode => ?_⟩
  · exact ⟨(hinit hmem).2, exists_request_of_init (hinit hmem).1⟩
  · rw [hcarried.isActive_iff, hdispose, hbuilt]
    simp only [ne_eq, hpanics]
  · -- A command was read, so the request is not to blame: there is no engine.
    rcases of_code_mem_idleCodes hcode with hblamed | rfl
    · cases hblamed.symm.trans (hcarried.isOfRequest_eq_false hrefused)
    · obtain ⟨hnew, hafter, hother⟩ := hcarried.of_notInitialized hrefused
      refine ⟨hnew, hafter, fun other => ?_⟩
      rw [respond_of_ok h, hother other, ← hrefused]
  · obtain ⟨fault, rfl⟩ := of_code_mem_engineCodes hcode
    exact hcarried.of_engine hrefused

variable (line) in
/-- **What becomes of the engine when a line is answered.** -/
theorem exists_accords :
    ∃ new, (respond codec factory.recorded line before).2.world.events =
        before.world.events ++ new ∧
      Accords codec factory line before (respond codec factory.recorded line before).1 new
        (respond codec factory.recorded line before).2 := by
  rcases h : commandOf codec line with refusal | command
  · rw [respond_of_error h]
    exact ⟨[], (List.append_nil _).symm, accords_of_error codec factory before h⟩
  · obtain ⟨new, hevents, hcarried⟩ := exists_carried factory command before
    rw [respond_of_ok h]
    exact ⟨new, hevents, accords_of_ok codec factory before h hcarried⟩

end Lines

/-- **The life of the engine under any lines.** Whatever lines were served before, whatever engines
and factories do and whatever a line says: an engine is built only by an initialization that finds
none and names no other version. Behind the line there is an engine just when there was one or the
initialization had one built, unless there was a panic or the line released the engine. What is
refused for what stands in the request or for want of an engine asks nothing, and what the engine
refuses leaves it there. -/
theorem engine_lifecycle (codec : Codec) (factory : Engine.Factory ι ω)
    (start : Server (Engine.Instance ι) (Recorded Engine.Event ω))
    (earlier : List (List UInt8)) (line : List UInt8) :
    let served := serveLines codec factory.recorded earlier start
    let response := (respond codec factory.recorded line served.server).1
    let after := (respond codec factory.recorded line served.server).2
    ((∀ other ∈ earlier ++ [line], Text.IsText other) → isBlankLine line = false →
      serveLines codec factory.recorded (earlier ++ [line]) start =
        ⟨served.responses ++ [response], true, after⟩) ∧
    ∃ new, after.world.events = served.server.world.events ++ new ∧
      Accords codec factory line served.server response new after := by
  intro served response after
  refine ⟨fun htexts hline => ?_, exists_accords codec factory line served.server⟩
  have hearlier := serveLines_eq codec factory.recorded
    (fun other hother => htexts other (List.mem_append_left _ hother)) start
  have hkept : [line].filter (fun other => !isBlankLine other) = [line] := by
    simp [hline]
  rw [serveLines_eq codec factory.recorded htexts, List.filter_append, hkept, answer_append]
  simp only [response, after, served, hearlier, answer_cons]
  rfl

end Server

end ScriptHost
