import ScriptHost.Config.Directory
import ScriptHost.Proofs.Execution.Forms
import ScriptHost.Proofs.Json.Indentation

/-!
# Settings are read back from their file

The file for settings holds the indented text of their form. Its tree is that of the form, and the
slots of the tree are the trees of the slots of the form; each of them is read back.

## Main results

* `ScriptHost.Json.form?_tree` — the slots of the tree of a value.
* `ScriptHost.Config.ofBytes?_fileBytes` — settings are read back from the bytes of their file.
-/

namespace ScriptHost

/-! ## The slots of a tree -/

namespace Form

variable {α β : Type}

/-- The slots that changed fields fill are the changed slots. -/
lemma ofFields_map (f : α → β) (parts : List (List String)) (fields : List (String × α)) :
    ofFields parts (fields.map fun field => (field.1, f field.2)) =
      (ofFields parts fields).map fun slots => slots.map (Option.map f) := by
  have hslot (spellings : List String) :
      slot? (fields.map fun field => (field.1, f field.2)) spellings =
        (slot? fields spellings).map (Option.map f) := by
    have hkept : (fields.map fun field => (field.1, f field.2)).filter
        (fun field => spellings.contains field.1) =
          (fields.filter fun field => spellings.contains field.1).map
            fun field => (field.1, f field.2) := List.filter_map
    rw [slot?, slot?, hkept]
    generalize fields.filter (fun field => spellings.contains field.1) = kept
    rcases kept with _ | ⟨a, _ | ⟨b, rest⟩⟩ <;> rfl
  rw [ofFields_eq, ofFields_eq]
  induction parts with
  | nil => rfl
  | cons spellings parts ih =>
    rw [List.mapM_cons, List.mapM_cons, hslot, ih]
    cases slot? fields spellings <;> cases parts.mapM (slot? fields) <;> rfl

end Form

namespace Json

/-- The fields of a tree are the trees of the fields. -/
lemma fieldTrees_eq (fields : List (String × Json)) :
    fieldTrees fields = fields.map fun field => (pieces field.1, field.2.tree) := by
  induction fields with
  | nil => rfl
  | cons field rest ih =>
    rw [fieldTrees, ih]
    rfl

/-- The slots of the tree of an object are the trees of its slots. -/
theorem form?_tree (fields : List (String × Json)) (parts : List (List String)) :
    (obj fields).tree.form? parts =
      ((obj fields).form? parts).map fun slots => slots.map (Option.map tree) := by
  have hkeys : (fieldTrees fields).mapM (fun field => (textOf? field.1).map (·, field.2)) =
      some (fields.map fun field => (field.1, field.2.tree)) := by
    rw [fieldTrees_eq]
    refine mapM_of_forall₂ ?_
    rw [List.forall₂_map_left_iff, List.forall₂_map_right_iff, List.forall₂_same]
    intro field _
    rw [textOf?_pieces]
    rfl
  rw [tree, Tree.form?, hkeys]
  exact Form.ofFields_map tree parts fields

end Json

/-! ## Settings -/

namespace Config

/-- What the slot of a tree inside the settings holds. -/
def limitSlot? : Option Json.Tree → Option (Option Json)
  | none => some none
  | some part => (slotValue? 2 part).map some

/-- A limit that may be absent is read back from its tree. -/
lemma limitSlot?_tree (limit : Option UInt64) :
    limitSlot? ((limit.map Json.ofUInt64).map Json.tree) = some (limit.map Json.ofUInt64) := by
  cases limit with
  | none => rfl
  | some n =>
    have hread : slotValue? 2 (Json.ofUInt64 n).tree = some (Json.ofUInt64 n) :=
      Json.read?_tree _ (Json.isLegible_ofUInt64 n _)
    rw [Option.map_some, Option.map_some, limitSlot?, hread, Option.map_some]

/-- Limits are read back from the tree of their form. -/
lemma limitsOfTree?_toJson (limits : Limits) :
    limitsOfTree? limits.toJson.tree = some limits := by
  have hrecord : limits.toJson.IsRecord [("timeoutMs", limits.timeoutMs.map .ofUInt64),
      ("memoryBytes", limits.memoryBytes.map .ofUInt64),
      ("stackDepth", limits.stackDepth.map .ofUInt64)] := Json.isRecord_written _
  have hslots := hrecord.form?_eq Limits.parts (by simp [Limits.parts]) (by simp [Limits.parts])
  have htree : limits.toJson.tree.form? Limits.parts = some
      [(limits.timeoutMs.map Json.ofUInt64).map Json.tree,
        (limits.memoryBytes.map Json.ofUInt64).map Json.tree,
        (limits.stackDepth.map Json.ofUInt64).map Json.tree] := by
    rw [Limits.toJson, Json.form?_tree, ← Limits.toJson, hslots, Option.map_some]
    rfl
  have hvalues : [(limits.timeoutMs.map Json.ofUInt64).map Json.tree,
      (limits.memoryBytes.map Json.ofUInt64).map Json.tree,
      (limits.stackDepth.map Json.ofUInt64).map Json.tree].mapM limitSlot? =
        some [limits.timeoutMs.map Json.ofUInt64, limits.memoryBytes.map Json.ofUInt64,
          limits.stackDepth.map Json.ofUInt64] :=
    mapM_of_forall₂ (.cons (limitSlot?_tree _) (.cons (limitSlot?_tree _)
      (.cons (limitSlot?_tree _) .nil)))
  have hlimits : Limits.ofSlots? [limits.timeoutMs.map Json.ofUInt64,
      limits.memoryBytes.map Json.ofUInt64, limits.stackDepth.map Json.ofUInt64] =
        some limits := by
    simp [Limits.ofSlots?]
  rw [limitsOfTree?, htree, Option.bind_eq_bind, Option.bind_some]
  exact (congrArg (Option.bind · Limits.ofSlots?) hvalues).trans hlimits

/-- **Settings are read back.** The bytes of the file for settings spell these settings. -/
theorem ofBytes?_fileBytes (config : Config) : ofBytes? config.fileBytes = some config := by
  have hrecord : config.toJson.IsRecord [("script_name", some (.str config.scriptName)),
      ("default_limits", some config.defaultLimits.toJson),
      ("worker_thread_name", some (.str config.workerName)),
      ("command_buffer", some (.ofUInt64 config.commandBuffer))] := Json.isRecord_written _
  have hslots := hrecord.form?_eq parts (by simp [parts]) (by simp [parts])
  have htree : config.toJson.tree.form? parts = some [some (Json.str config.scriptName).tree,
      some config.defaultLimits.toJson.tree, some (Json.str config.workerName).tree,
      some (Json.ofUInt64 config.commandBuffer).tree] := by
    rw [toJson, Json.form?_tree, ← toJson, hslots, Option.map_some]
    rfl
  have hslot {value : Json} (h : ∀ depth, value.isLegible depth = true) :
      slotValue? 1 value.tree = some value := Json.read?_tree _ (h _)
  have hread := ofSlots?_of_read (hslot (Json.isLegible_str config.scriptName))
    (limitsOfTree?_toJson config.defaultLimits) (hslot (Json.isLegible_str config.workerName))
    (hslot (Json.isLegible_ofUInt64 config.commandBuffer))
  rw [ofBytes?, fileBytes, Json.treeOfBytes?_pretty, Option.bind_eq_bind, Option.bind_some, htree,
    Option.bind_eq_bind, Option.bind_some]
  exact hread

end Config

end ScriptHost
