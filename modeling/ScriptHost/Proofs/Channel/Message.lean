import ScriptHost.Channel.Ndjson
import ScriptHost.Proofs.Json.Fields
import ScriptHost.Proofs.Json.Lines

/-!
# Messages are read back

A request is read from its text with its parameters as they are read, unless they nest too deep.
The response to a request decides it: with the result as it is read, or with the code and the
wording of the refusal. What is legible is read as it was written.

## Main definitions

* `ScriptHost.Response.learned`, `ScriptHost.Response.heard` — what the sender of a request learns
  from a legible response, and what it hears of any.

## Main results

* `ScriptHost.Request.ofBytes?_text_eq` — how a request is read from its text.
* `ScriptHost.Ndjson.judge_response` — what a response says about its request.
-/

namespace ScriptHost

open Text

/-! ## Compact texts -/

namespace Codec

lemma write_compact (json : Json) : compact.write json = bytes json.compact := rfl

lemma read?_compact (line : List UInt8) : compact.read? line = Json.ofBytes? line := rfl

lemma request?_compact (line : List UInt8) : compact.request? line = Request.ofBytes? line := rfl

end Codec

/-! ## Requests -/

namespace Request

/-- The depth to which the parameters of a request may nest. -/
abbrev depth : Nat := Json.nestingLimit - 1

/-- A request with a legible number is read when its parameters are, which may be read as other
values. -/
theorem ofBytes?_text_eq (request : Request) (hid : request.id.isLegible depth = true) :
    ofBytes? (bytes request.toJson.compact) =
      (request.params.tree.read? depth).map fun params => { request with params } := by
  have hform : request.toJson.tree.form? parts =
      some [some request.id.tree, some (Json.str request.command).tree,
        some request.params.tree] := by
    simp [Request.toJson, Json.tree, Json.fieldTrees, Json.Tree.form?, Json.textOf?_pieces, parts,
      Form.ofFields]
  have hcommand : part? (Json.str request.command).tree = some (.str request.command) :=
    Json.read?_tree _ (Json.isLegible_str _ _)
  have hnumber : part? request.id.tree = some request.id := Json.read?_tree _ hid
  have hparams : part? request.params.tree = request.params.tree.read? depth := rfl
  rw [ofBytes?, Json.treeOfBytes?_text, Option.bind_some, ofTree?, hform]
  simp only [Form.required, Form.defaulted, Option.bind_some, hcommand, Json.asString?, hnumber,
    hparams]
  cases request.params.tree.read? depth <;> rfl

end Request

/-! ## Responses -/

/-- What the sender of a request learns from an outcome: the result, or the code and the wording of
the refusal. -/
def Response.learned (outcome : Except Refusal Json) : Except ChannelFault Json :=
  outcome.mapError fun refusal => .remote ⟨some refusal.code, refusal.message⟩

/-- What the sender of a request hears of an outcome: the result as it is read, unless it nests too
deep, or the code and the wording of the refusal. -/
def Response.heard : Except Refusal Json → Except ChannelFault Json
  | .ok result =>
    match result.tree.read? Request.depth with
    | some read => .ok read
    | none => .error .json
  | .error refusal => .error (.remote ⟨some refusal.code, refusal.message⟩)

/-- Of a legible result the sender learns the result. -/
lemma Response.heard_eq_learned {outcome : Except Refusal Json}
    (h : ∀ result, outcome = .ok result → result.isLegible Request.depth = true) :
    heard outcome = learned outcome := by
  rcases outcome with refusal | result
  · rfl
  · rw [heard, Json.read?_tree result (h result rfl)]
    rfl

/-- The text of a response is not blank. -/
lemma Response.all_isAsciiBlank_text (response : Response) :
    (bytes response.toJson.compact).all isAsciiBlank = false := by
  rw [Response.toJson]
  generalize [("id", response.id), _] = fields
  obtain ⟨rest, hrest⟩ := Json.exists_text_obj fields
  rw [Json.compact, bytes_ofList, hrest, utf8_cons]
  rfl

/-- A response with a refusal is read back from its text. -/
lemma Response.read?_error {id : Json} (hid : id.isLegible Request.depth = true)
    (refusal : Refusal) :
    Codec.compact.read? (bytes (Response.toJson ⟨id, .error refusal⟩).compact) =
      some (.ofFields [("id", id), ("error", refusal.toJson)]) := by
  have hordered : Entries.Ordered [("code", Json.str refusal.code),
      ("message", .str refusal.message)] :=
    Entries.ordered_iff_keys.mpr (by decide : ["code", "message"].Pairwise (· < ·))
  have hlegible : refusal.toJson.isLegible Request.depth = true := by
    refine Json.isLegible_obj (Request.depth - 1) hordered ?_
    simp
  have hobject : Response.toJson ⟨id, .error refusal⟩ =
      .obj [("id", id), ("error", refusal.toJson)] := rfl
  rw [hobject, Codec.read?_compact, Json.ofBytes?_pair "id" "error" hid,
    Json.read?_tree _ hlegible, Option.map_some]

/-- A response with a result is read from its text when the result is. -/
lemma Response.read?_ok {id : Json} (hid : id.isLegible Request.depth = true) (result : Json) :
    Codec.compact.read? (bytes (Response.toJson ⟨id, .ok result⟩).compact) =
      (result.tree.read? Request.depth).map fun read =>
        .ofFields [("id", id), ("result", read)] := by
  have hobject : Response.toJson ⟨id, .ok result⟩ = .obj [("id", id), ("result", result)] := rfl
  rw [hobject, Codec.read?_compact, Json.ofBytes?_pair "id" "result" hid]

namespace Ndjson

/-- A field of an object of two fields. -/
lemma get?_pair (key other : String) (a b : Json) (h : key ≠ other) (name : String) :
    (Json.ofFields [(key, a), (other, b)]).get? name =
      if name = key then some a else if name = other then some b else none := by
  rw [Json.get?_ofFields (by simpa using h), Entries.lookup_cons, Entries.lookup_cons,
    List.lookup_nil]

/-- A response with a number decides the request with this number. -/
lemma judge_of_read {id : UInt64} {line : List UInt8} {response : Json}
    (hblank : line.all isAsciiBlank = false)
    (hread : Codec.compact.read? line = some response)
    (hid : response.get? "id" = some (.ofUInt64 id)) :
    judge .compact id line = some (outcome response) := by
  have hnumber : (response.get? "id").bind Json.asUInt64? = some id := by
    rw [hid, Option.bind_some, Json.asUInt64?_ofUInt64]
  have hnot : ¬ id < id := UInt64.lt_irrefl id
  simp only [judge, hblank, hread, hnumber, hnot, if_false, if_true, Bool.false_eq_true]

/-- **What a response says.** A response with the number of a request decides it. -/
theorem judge_response (id : UInt64) (outcome : Except Refusal Json) :
    judge .compact id (bytes (Response.toJson ⟨.ofUInt64 id, outcome⟩).compact) =
      some (Response.heard outcome) := by
  have hblank := Response.all_isAsciiBlank_text ⟨.ofUInt64 id, outcome⟩
  have hid : (Json.ofUInt64 id).isLegible Request.depth = true := Json.isLegible_ofUInt64 id _
  rcases outcome with refusal | result
  · rw [judge_of_read hblank (Response.read?_error hid refusal)
        (by rw [get?_pair _ _ _ _ (by decide), if_pos rfl]),
      Ndjson.outcome, get?_pair _ _ _ _ (by decide), if_neg (by decide), if_pos rfl]
    simp [Response.heard, remoteFault, Refusal.toJson, Json.get?, Entries.lookup_cons,
      Json.asString?]
  · have hread := Response.read?_ok hid result
    rw [Response.heard]
    cases hresult : result.tree.read? Request.depth with
    | none =>
      rw [hresult, Option.map_none] at hread
      simp only [judge, hblank, hread, Bool.false_eq_true, if_false]
    | some read =>
      rw [hresult, Option.map_some] at hread
      rw [judge_of_read hblank hread (by rw [get?_pair _ _ _ _ (by decide), if_pos rfl]),
        Ndjson.outcome, get?_pair _ _ _ _ (by decide), if_neg (by decide), if_neg (by decide),
        Json.getOrNull, get?_pair _ _ _ _ (by decide), if_neg (by decide), if_pos rfl]
      rfl

/-- The response to a line that is no request decides the request that waits for it, as it has no
number. -/
lemma judge_unreadable (id : UInt64) :
    judge .compact id (bytes (Response.toJson ⟨.null, .error .unreadable⟩).compact) =
      some (.error (.envelope .noId)) := by
  have hblank := Response.all_isAsciiBlank_text ⟨.null, .error .unreadable⟩
  have hread := Response.read?_error (Json.isLegible_null _) .unreadable
  have hnumber : (Json.ofFields [("id", .null), ("error", Refusal.unreadable.toJson)]).get? "id" =
      some .null := by
    rw [get?_pair _ _ _ _ (by decide), if_pos rfl]
  simp only [judge, hblank, hread, hnumber, Option.bind_some, Json.asUInt64?, Bool.false_eq_true,
    if_false]

end Ndjson

end ScriptHost
