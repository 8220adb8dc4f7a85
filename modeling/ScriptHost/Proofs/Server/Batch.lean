import ScriptHost.Proofs.Channel.Exchange
import ScriptHost.Proofs.Lists
import ScriptHost.Proofs.Server.Command
import ScriptHost.Proofs.Server.Lifecycle
import ScriptHost.Scripted.Engine

/-!
# Batches of answers

The answers to calls that were put off come as two objects, of results and of errors, whose keys
spell the numbers of the calls. A key may be spelled with a plus sign and with zeros in front, so
that two keys of one object can spell the same number. Of such keys the last one counts, and the
answers under the others get lost; so the engine is given exactly one answer for each key just when
no two keys of an object spell the same number.

A batch reaches the engine when there is one, when both objects are objects or left out, when all
keys spell numbers and when all errors are texts. Otherwise it is refused and no engine is asked.
What a backend sends is spelled without signs and zeros, and reaches the engine as it was given.

## Main definitions

* `ScriptHost.Command.Apart` — no two keys spell the same number.
* `ScriptHost.Command.OnePerKey` — there is exactly one answer for each key.
* `ScriptHost.Command.Gathered` — the answers under the keys of an object, by numbers.
* `ScriptHost.Server.Delivered` — what becomes of a batch.

## Main results

* `ScriptHost.Command.Gathered.onePerKey_iff` — when there is exactly one answer for each key.
* `ScriptHost.Server.batch_delivered` — what becomes of every batch.
* `ScriptHost.Server.spellings_merged` — two keys of which one gets lost.
-/

namespace ScriptHost

variable {α ι ω : Type}

namespace Command

/-! ## Entries -/

/-- No two keys spell the same number. -/
def Apart (entries : List (String × Json)) : Prop :=
  entries.Pairwise fun a b => ∀ id, Spells a.1 id → ¬ Spells b.1 id

/-- An answer is that of an entry: the number is the one that the key spells, and the value is read.
-/
structure IsAnswerOf (read : Json → Option α) (entry : String × Json) (answer : UInt32 × α) :
    Prop where
  /-- The key spells the number. -/
  number : Spells entry.1 answer.1
  /-- The value is read. -/
  value : read entry.2 = some answer.2

/-- There is exactly one answer for each key, under the number that the key spells and with its
value. -/
def OnePerKey (read : Json → Option α) (entries : List (String × Json)) (got : Dict UInt32 α) :
    Prop :=
  ∃ answers, List.Forall₂ (IsAnswerOf read) entries answers ∧ answers.Perm got.entries

/-- Every key spells a number and every value is read. -/
def Readable (read : Json → Option α) (entries : List (String × Json)) : Prop :=
  ∀ entry ∈ entries, ∃ answer, IsAnswerOf read entry answer

/-- The answers under the keys of an object, by the numbers that the keys spell. -/
structure Gathered (read : Json → Option α) (entries : List (String × Json))
    (got : Dict UInt32 α) : Prop where
  /-- Every key spells a number and every value is read. -/
  readable : Readable read entries
  /-- Under a number stands the value of the last key that spells it. -/
  last : ∀ before entry behind id, entries = before ++ entry :: behind → Spells entry.1 id →
    (∀ other ∈ behind, ¬ Spells other.1 id) → got.get? id = read entry.2
  /-- Under no other number stands anything. -/
  none : ∀ id, (∀ entry ∈ entries, ¬ Spells entry.1 id) → got.get? id = .none
  /-- There is exactly one answer for each key just when no two keys spell the same number. -/
  onePerKey_iff : OnePerKey read entries got ↔ Apart entries

section Entries

variable {read : Json → Option α} {name : String} {entries : List (String × Json)}
  {answers : List (UInt32 × α)}

/-- What is read of an entry is its answer. -/
lemma keyedEntry_eq_ok_iff {entry : String × Json} {answer : UInt32 × α} :
    keyedEntry name read entry = .ok answer ↔ IsAnswerOf read entry answer := by
  unfold keyedEntry
  constructor
  · intro h
    split at h
    · cases h
    · rename_i id hid
      split at h
      · cases h
      · rename_i value hvalue
        cases h
        exact ⟨callId?_eq_some_iff.mp hid, hvalue⟩
  · rintro ⟨hnumber, hvalue⟩
    simp only [callId?_eq_some_iff.mpr hnumber, hvalue]

/-- Entries are read one by one. -/
lemma mapM_keyedEntry_eq_ok_iff : entries.mapM (keyedEntry name read) = .ok answers ↔
    List.Forall₂ (IsAnswerOf read) entries answers :=
  ⟨fun h => (forall₂_of_mapM_eq_ok h).imp fun _ _ => keyedEntry_eq_ok_iff.mp,
    fun h => mapM_of_forall₂ (h.imp fun _ _ => keyedEntry_eq_ok_iff.mpr)⟩

/-- Entries can be read just when each of them can. -/
lemma exists_answers_iff :
    (∃ answers, List.Forall₂ (IsAnswerOf read) entries answers) ↔ Readable read entries := by
  constructor
  · rintro ⟨answers, h⟩ entry hentry
    obtain ⟨answer, -, hanswer⟩ := exists_right_of_forall₂ h hentry
    exact ⟨answer, hanswer⟩
  · intro h
    induction entries with
    | nil => exact ⟨[], .nil⟩
    | cons entry rest ih =>
      obtain ⟨answer, hanswer⟩ := h entry List.mem_cons_self
      obtain ⟨answers, hrest⟩ := ih fun other hother => h other (List.mem_cons_of_mem _ hother)
      exact ⟨answer :: answers, .cons hanswer hrest⟩

/-- A number that no key spells is not the number of an answer. -/
lemma lookup_reverse_eq_none (h : List.Forall₂ (IsAnswerOf read) entries answers) {id : UInt32}
    (hnone : ∀ entry ∈ entries, ¬ Spells entry.1 id) : answers.reverse.lookup id = none := by
  rw [List.lookup_eq_none_iff]
  intro answer hanswer
  obtain ⟨entry, hentry, hof⟩ := exists_left_of_forall₂ h (List.mem_reverse.mp hanswer)
  rw [bne_iff_ne]
  rintro rfl
  exact hnone entry hentry hof.number

/-- No two keys spell the same number just when the answers have different numbers. -/
lemma apart_iff_nodup (h : List.Forall₂ (IsAnswerOf read) entries answers) :
    Apart entries ↔ (answers.map Prod.fst).Nodup := by
  induction h with
  | nil => simp [Apart]
  | @cons entry answer entries answers hhead hrest ih =>
    rw [Apart, List.pairwise_cons, List.map_cons, List.nodup_cons, ← ih]
    refine and_congr ⟨fun hapart hmem => ?_, fun hnot other hother id hid hid' => ?_⟩ Iff.rfl
    · obtain ⟨other, hother, hnumber⟩ := List.mem_map.mp hmem
      obtain ⟨entry', hentry', hof⟩ := exists_left_of_forall₂ hrest hother
      exact hapart entry' hentry' answer.1 hhead.number (hnumber ▸ hof.number)
    · obtain ⟨answer', hanswer', hof⟩ := exists_right_of_forall₂ hrest hother
      refine hnot (List.mem_map.mpr ⟨answer', hanswer', ?_⟩)
      exact (hof.number.unique hid').trans (hhead.number.unique hid).symm

/-- **Gathering.** Of the answers of entries, those of the last keys are gathered.

**Proof sketch.** Answers are put in the order of their numbers, and a later one takes the place of
an earlier one with the same number. When the numbers are different nothing is replaced, and the
answers are only put in order; and answers in order have different numbers. -/
theorem gathered_ofEntries (h : List.Forall₂ (IsAnswerOf read) entries answers) :
    Gathered read entries (.ofEntries answers) where
  readable := exists_answers_iff.mp ⟨answers, h⟩
  last before entry behind id hentries hid hbehind := by
    subst hentries
    obtain ⟨front, answer, back, rfl, hanswer, hback⟩ := forall₂_middle h
    have hnumber : id = answer.1 := hid.unique hanswer.number
    rw [Dict.get?, Dict.ofEntries, Entries.lookup_ofList, List.reverse_append, List.reverse_cons,
      List.lookup_append, List.lookup_append, lookup_reverse_eq_none hback hbehind,
      Entries.lookup_cons, if_pos hnumber, hanswer.value]
    rfl
  none id hnone := by
    rw [Dict.get?, Dict.ofEntries, Entries.lookup_ofList, lookup_reverse_eq_none h hnone]
  onePerKey_iff := by
    constructor
    · rintro ⟨others, hothers, hperm⟩
      rw [apart_iff_nodup hothers, (hperm.map Prod.fst).nodup_iff]
      exact (Dict.ofEntries answers).ordered.nodup_keys
    · intro hapart
      exact ⟨answers, h, (Entries.ofList_perm ((apart_iff_nodup h).mp hapart)).symm⟩

end Entries

/-! ## Batches -/

/-- The entries of a part of the parameters, which may be left out or null. -/
def entriesOf? (params : Json) (name : String) : Option (List (String × Json)) :=
  match params.get? name with
  | none => some []
  | some .null => some []
  | some (.obj entries) => some entries
  | some _ => none

/-- Parameters hold a batch: both parts are objects or left out, all keys spell numbers, and all
errors are texts. -/
def HoldsBatch (params : Json) : Prop :=
  ∃ results errors, entriesOf? params "results" = some results ∧
    entriesOf? params "errors" = some errors ∧ Readable some results ∧
    Readable Json.asString? errors

/-- A batch is what parameters hold. -/
structure IsBatchOf (params : Json) (batch : Answers) : Prop where
  /-- The results are those under the keys of one part. -/
  results : ∃ entries, entriesOf? params "results" = some entries ∧
    Gathered some entries batch.results
  /-- The errors are those under the keys of the other part. -/
  errors : ∃ entries, entriesOf? params "errors" = some entries ∧
    Gathered Json.asString? entries batch.errors

section Batches

variable {params : Json} {name : String} {read : Json → Option α}

/-- A part is read just when it has entries that can be read. -/
lemma keyed_eq_ok_iff {got : Dict UInt32 α} : keyed params name read = .ok got ↔
    ∃ entries answers, entriesOf? params name = some entries ∧
      List.Forall₂ (IsAnswerOf read) entries answers ∧ got = .ofEntries answers := by
  have hnothing (h : entriesOf? params name = some []) :
      (∃ entries answers, entriesOf? params name = some entries ∧
        List.Forall₂ (IsAnswerOf read) entries answers ∧ got = .ofEntries answers) ↔
          Except.ok .empty = (Except.ok got : Except Refusal (Dict UInt32 α)) := by
    constructor
    · rintro ⟨entries, answers, hentries, hall, rfl⟩
      obtain rfl := Option.some.inj (h.symm.trans hentries)
      cases hall
      rfl
    · intro hempty
      cases hempty
      exact ⟨[], [], h, .nil, rfl⟩
  unfold keyed
  split
  · rename_i hget
    exact (hnothing (by rw [entriesOf?, hget])).symm
  · rename_i hget
    exact (hnothing (by rw [entriesOf?, hget])).symm
  · rename_i entries hget
    have hentries : entriesOf? params name = some entries := by rw [entriesOf?, hget]
    constructor
    · intro h
      rcases hread : entries.mapM (keyedEntry name read) with refusal | answers
      · rw [hread] at h
        cases h
      · rw [hread] at h
        cases h
        exact ⟨entries, answers, hentries, mapM_keyedEntry_eq_ok_iff.mp hread, rfl⟩
    · rintro ⟨entries', answers, hentries', hall, rfl⟩
      obtain rfl := Option.some.inj (hentries.symm.trans hentries')
      rw [mapM_keyedEntry_eq_ok_iff.mpr hall]
      rfl
  · rename_i given hnotNull hnotObj hget
    constructor
    · intro h
      cases h
    · rintro ⟨entries, answers, hentries, -⟩
      rw [entriesOf?, hget] at hentries
      cases given with
      | null => exact absurd rfl hnotNull
      | obj fields => exact absurd rfl (hnotObj fields)
      | _ => cases hentries

/-- What is read of a part is gathered from its entries. -/
lemma exists_gathered_of_keyed {got : Dict UInt32 α} (h : keyed params name read = .ok got) :
    ∃ entries, entriesOf? params name = some entries ∧ Gathered read entries got := by
  obtain ⟨entries, answers, hentries, hall, rfl⟩ := keyed_eq_ok_iff.mp h
  exact ⟨entries, hentries, gathered_ofEntries hall⟩

/-- A part whose entries can be read is read. -/
lemma exists_keyed {entries : List (String × Json)}
    (hentries : entriesOf? params name = some entries) (h : Readable read entries) :
    ∃ got, keyed params name read = .ok got := by
  obtain ⟨answers, hall⟩ := exists_answers_iff.mpr h
  exact ⟨_, keyed_eq_ok_iff.mpr ⟨entries, answers, hentries, hall, rfl⟩⟩

/-- What is read of parameters is the batch that they hold. -/
lemma isBatchOf_of_answers {batch : Answers} (h : answers params = .ok batch) :
    IsBatchOf params batch := by
  unfold answers at h
  rcases hresults : keyed params "results" some with refusal | results
  · rw [hresults] at h
    cases h
  · rcases herrors : keyed params "errors" Json.asString? with refusal | errors
    · rw [hresults, herrors] at h
      cases h
    · rw [hresults, herrors] at h
      cases h
      exact ⟨exists_gathered_of_keyed hresults, exists_gathered_of_keyed herrors⟩

/-- Parameters that hold a batch are not refused. -/
lemma not_holdsBatch_of_answers {refusal : Refusal} (h : answers params = .error refusal) :
    ¬ HoldsBatch params := by
  rintro ⟨results, errors, hresults, herrors, hreadable, hreadable'⟩
  obtain ⟨results, hresults⟩ := exists_keyed hresults hreadable
  obtain ⟨errors, herrors⟩ := exists_keyed herrors hreadable'
  rw [answers, hresults, herrors] at h
  cases h

end Batches

end Command

/-! ## What becomes of a batch -/

namespace Server

open Command
open Engine (Instance Event)

/-- The engine of a server receives a batch, and nothing else is asked of it. -/
def Receives (before after : Server (Instance ι) (Recorded Event ω)) (batch : Answers) : Prop :=
  ∃ engine given, before.engine = some engine ∧ after.world.events =
    before.world.events ++ [.call engine.builtAt (.drive (.resolve batch)) given]

/-- What becomes of a batch: it is refused without asking any engine, for want of an engine or
because the parameters hold none, or the engine receives what they hold. -/
inductive Delivered (params : Json) (before : Server (Instance ι) (Recorded Event ω)) :
    Except Refusal Json → Server (Instance ι) (Recorded Event ω) → Prop
  /-- The batch is refused, and the server stays as it is. -/
  | refused (refusal : Refusal) (reason : before.isActive = false ∨ ¬ HoldsBatch params) :
      Delivered params before (.error refusal) before
  /-- The engine receives what the parameters hold. -/
  | received {outcome : Except Refusal Json} {after : Server (Instance ι) (Recorded Event ω)}
      {batch : Answers} (holds : IsBatchOf params batch) (receives : Receives before after batch) :
      Delivered params before outcome after

/-- The parameters with which a backend sends a batch. -/
def batchParams (sent : Answers) : Json :=
  Remote.params (.drive (.resolve sent))

/-- A batch that a backend sends reaches the engine as it was given: when the server is called, and
over lines when the parameters can be read back at the far end. When they nest too deep the call
fails and the server stays as it is. -/
structure SentOn (factory : Engine.Factory ι ω) (before : Server (Instance ι) (Recorded Event ω))
    (sent : Answers) : Prop where
  /-- The engine receives the batch of a request. -/
  handled : ∀ id, Receives before
    (handle factory.recorded ⟨id, "resolve_futures", batchParams sent⟩ before).2 sent
  /-- The engine receives the batch of a line. -/
  overLines : ∀ number, (batchParams sent).isLegible Request.depth = true →
    ∃ outcome after, Ndjson.call .compact (Connection.link .compact factory.recorded)
        "resolve_futures" (batchParams sent) (Ndjson.atRest number before) =
          (outcome, Ndjson.atRest (number + 1) after) ∧ Receives before after sent
  /-- A batch that nests too deep is refused. -/
  tooDeep : ∀ number deep, (batchParams sent).isLegible deep = true →
    (batchParams sent).isLegible Request.depth = false →
      Ndjson.call .compact (Connection.link .compact factory.recorded) "resolve_futures"
        (batchParams sent) (Ndjson.atRest number before) =
          (.error (.envelope .noId), Ndjson.atRest (number + 1) before)

section Delivery

variable {factory : Engine.Factory ι ω} {before : Server (Instance ι) (Recorded Event ω)}

/-- An engine that is asked with a batch receives it. -/
lemma receives_execute (hactive : before.isActive = true) (batch : Answers) :
    Receives before
      (execute factory.recorded (.call (.drive (.resolve batch))) before).2 batch := by
  obtain ⟨engine, hengine⟩ := isActive_iff.mp hactive
  rcases hcall : factory.recorded.call engine (.drive (.resolve batch)) before.world with
    ⟨given, world⟩
  refine ⟨engine, given, hengine, ?_⟩
  rw [← Engine.Factory.recorded_call hcall]
  rcases given with panic | answer <;> simp only [execute, ask, hengine, hcall]

/-- What a backend sends for a batch is read as the batch. -/
lemma read_batchParams (sent : Answers) :
    Command.read "resolve_futures" (batchParams sent) = .ok (.call (.drive (.resolve sent))) :=
  read_params (.drive (.resolve sent))

/-- A batch that a backend sends reaches the engine. -/
lemma sentOn_of_isActive (hactive : before.isActive = true) (sent : Answers) :
    SentOn factory before sent := by
  have hhandle (id : Json) : Receives before
      (handle factory.recorded ⟨id, "resolve_futures", batchParams sent⟩ before).2 sent := by
    rw [handle, read_batchParams]
    exact receives_execute hactive sent
  refine ⟨hhandle, fun number hlegible => ?_, fun number deep hdeep htooDeep => ?_⟩
  · rw [Ndjson.call_eq, Json.read?_tree _ hlegible]
    exact ⟨_, _, rfl, hhandle _⟩
  · exact Ndjson.call_unread factory.recorded _ hdeep htooDeep number before

variable (factory before) in
/-- **Batches.** A request with a batch is refused without asking any engine, for want of an engine
or because it holds no batch, or the engine receives what it holds: under each number the value of
the last key that spells it, and so one answer for each key just when no two keys of an object spell
the same number. A batch that a backend sends reaches the engine as it was given.

**Proof sketch.** The entries of an object are read one by one, and an entry is read just when its
key spells a number and its value is of the right kind. What a backend sends is read back from its
parameters, and a call over a channel at rest is the handling of its request. -/
theorem batch_delivered :
    (∀ id params, Delivered params before
      (handle factory.recorded ⟨id, "resolve_futures", params⟩ before).1.outcome
      (handle factory.recorded ⟨id, "resolve_futures", params⟩ before).2) ∧
    (before.isActive = true → ∀ sent, SentOn factory before sent) := by
  refine ⟨fun id params => ?_, sentOn_of_isActive⟩
  rcases hanswers : answers params with refusal | batch
  · have hread : Command.read "resolve_futures" params = .error refusal :=
      congrArg (Except.map _) hanswers
    rw [handle, hread]
    exact .refused refusal (.inr (not_holdsBatch_of_answers hanswers))
  · have hread : Command.read "resolve_futures" params = .ok (.call (.drive (.resolve batch))) :=
      congrArg (Except.map _) hanswers
    rw [handle, hread]
    by_cases hactive : before.isActive = true
    · exact .received (isBatchOf_of_answers hanswers) (receives_execute hactive batch)
    · have hnone : before.isActive = false := Bool.eq_false_iff.mpr hactive
      simp only [execute, ask, isActive_eq_false_iff.mp hnone]
      exact .refused .notInitialized (.inl hnone)

end Delivery

/-! ## A lost answer -/

/-- A batch of two results, whose keys spell the same number. -/
def spelledTwice : List (String × Json) :=
  [("01", .str "early"), ("1", .str "late")]

/-- A request with this batch. -/
def spelledTwiceRequest : Request :=
  ⟨.null, "resolve_futures", .ofFields [("results", .ofFields spelledTwice)]⟩

/-- A server with a scripted engine that goes on once. -/
def scriptedServer : Server (Instance Unit) (Recorded Event Scripted.EngineScript) :=
  ⟨.fresh ⟨[], [.progress (.complete (.success .null .zero))]⟩, some ⟨(), 0⟩⟩

/-- Of two keys that spell the same number one gets lost, and the request is not refused: the engine
receives the later answer only. -/
theorem spellings_merged :
    Receives scriptedServer
      (handle (Scripted.factory .none).recorded spelledTwiceRequest scriptedServer).2
      ⟨.ofEntries [(1, .str "late")], .empty⟩ ∧
    (∃ result, (handle (Scripted.factory .none).recorded spelledTwiceRequest
      scriptedServer).1.outcome = .ok result) ∧
    ¬ OnePerKey some spelledTwice (.ofEntries [(1, .str "late")]) := by
  refine ⟨⟨⟨(), 0⟩, _, rfl, rfl⟩, ⟨_, rfl⟩, ?_⟩
  rintro ⟨answers, hall, hperm⟩
  have hlength : spelledTwice.length = 1 := hall.length_eq.trans hperm.length_eq
  exact absurd hlength (by decide)

end Server

end ScriptHost
