import AgentSpec.Document.Text
import AgentSpec.Proofs.Document.Codec
import AgentSpec.Proofs.Document.Staged
import AgentSpec.Proofs.Draft.Built

/-! What is written for an agent is read back as the same agent. -/
namespace AgentSpec

open Codec Codec.Field

theorem text_ne_null (text : String) : Codec.text.write text ≠ .null := nofun

theorem NodeDocument.restores (d : NodeDocument) : codec.Restores d := by
  refine record_restores (by decide) ?_
  refine .cons (optional_sets (fun a _ => text_restores a) text_ne_null rfl) ?_
  refine .cons (optional_sets (fun a _ => text_restores a) text_ne_null rfl) ?_
  refine .cons (optional_sets (fun a _ => text_restores a) text_ne_null rfl) ?_
  refine .cons (always_sets (choice_restores (by cases d.kind <;> decide))) ?_
  refine .cons (optional_sets (fun a _ => text_restores a) text_ne_null rfl) ?_
  refine .cons (many_sets (fun a _ => text_restores a) rfl) ?_
  refine .cons (many_sets (fun a _ => text_restores a) rfl) ?_
  exact .cons (many_sets (fun a _ => text_restores a) rfl) .nil

theorem WorkflowDocument.restores (d : WorkflowDocument) : codec.Restores d := by
  refine record_restores (by decide) ?_
  refine .cons (optional_sets (fun a _ => text_restores a) text_ne_null rfl) ?_
  refine .cons (optional_sets (fun a _ => text_restores a) text_ne_null rfl) ?_
  refine .cons (optional_sets (fun a _ => text_restores a) text_ne_null rfl) ?_
  exact .cons (many_sets (fun node _ => node.restores) rfl) .nil

theorem CriteriaDocument.restores (d : CriteriaDocument) : codec.Restores d := by
  refine record_restores (by decide) ?_
  refine .cons (optional_sets (fun a _ => text_restores a) text_ne_null rfl) ?_
  exact .cons (optional_sets (fun a _ => text_restores a) text_ne_null rfl) .nil

theorem CapabilityDocument.restores (d : CapabilityDocument) : codec.Restores d := by
  refine record_restores (by decide) ?_
  refine .cons (optional_sets (fun a _ => text_restores a) text_ne_null rfl) ?_
  refine .cons (optional_sets (fun a _ => text_restores a) text_ne_null rfl) ?_
  refine .cons (present_sets (fun a _ => schema_restores a) rfl) ?_
  exact .cons (present_sets (fun a _ => schema_restores a) rfl) .nil

theorem PromptDocument.restores (d : PromptDocument) : codec.Restores d := by
  refine record_restores (by decide) ?_
  refine .cons (optional_sets (fun a _ => text_restores a) text_ne_null rfl) ?_
  refine .cons (optional_sets (fun a _ => text_restores a) text_ne_null rfl) ?_
  refine .cons (optional_sets (fun a _ => text_restores a) text_ne_null rfl) ?_
  exact .cons (many_sets (fun a _ => text_restores a) rfl) .nil

theorem AgentDocument.restores (d : AgentDocument) : codec.Restores d := by
  refine record_restores (by decide) ?_
  refine .cons (optional_sets (fun a _ => text_restores a) text_ne_null rfl) ?_
  refine .cons (optional_sets (fun a _ => text_restores a) text_ne_null rfl) ?_
  refine .cons (optional_sets (fun a _ => text_restores a) text_ne_null rfl) ?_
  refine .cons (always_sets (choice_restores (by cases d.kind <;> decide))) ?_
  refine .cons (optional_sets (fun a _ => text_restores a) text_ne_null rfl) ?_
  refine .cons (optional_sets (fun c _ => c.restores) (fun _ => nofun) rfl) ?_
  refine .cons (present_sets (fun a _ => schema_restores a) rfl) ?_
  refine .cons (present_sets (fun a _ => schema_restores a) rfl) ?_
  refine .cons (many_sets (fun w _ => w.restores) rfl) ?_
  refine .cons (many_sets (fun c _ => c.restores) rfl) ?_
  refine .cons (many_sets (fun prompt _ => prompt.restores) rfl) ?_
  exact .cons (many_sets (fun c _ => c.restores) rfl) .nil

theorem nonempty?_getD (text : String) : (Text.nonempty? text).getD "" = text := by
  unfold Text.nonempty?
  split
  · rename_i h
    rw [String.isEmpty_iff.1 h]
    rfl
  · rfl

/-- Definitions that documents describe one by one are described by the list of documents. -/
theorem mapM_define {α β : Type} {document : α → β} {define : β → Except Defect α} {as : List α}
    (h : ∀ a ∈ as, define (document a) = .ok a) : (as.map document).mapM define = .ok as := by
  induction as with
  | nil => rfl
  | cons a rest ih =>
    rw [List.forall_mem_cons] at h
    rw [List.map_cons, List.mapM_cons, h.1, ih h.2]
    rfl

theorem NodeDocument.define_ofNode {node : Node} (h : node.Complete) :
    (ofNode node).define = .ok node := by
  have hr : (node.kind.requiresReference && node.reference.isNone) = false := by
    cases hk : node.kind.requiresReference with
    | false => rfl
    | true => simpa using h hk
  simp only [define_eq, ofNode, NodeDraft.finish, Draft.require, hr, bind, Except.bind]
  rfl

theorem WorkflowDocument.define_ofWorkflow {w : Workflow} (h : w.Complete) :
    (ofWorkflow w).define = .ok w := by
  have hn := mapM_define fun node hm => NodeDocument.define_ofNode (h node hm)
  simp only [define_eq, ofWorkflow, hn, WorkflowDraft.finish, Draft.require, nonempty?_getD, bind,
    Except.bind]
  rfl

theorem CriteriaDocument.define_ofCriteria (criteria : Criteria) :
    (ofCriteria criteria).define = .ok criteria := by
  rw [define_eq]
  rfl

theorem CapabilityDocument.define_ofCapability (role : CapabilityRole) (capability : Capability) :
    (ofCapability capability).define role = .ok capability := by
  simp only [define_eq, ofCapability, CapabilityDraft.finish, Draft.require, nonempty?_getD, bind,
    Except.bind]
  rfl

theorem PromptDocument.define_ofPrompt (prompt : Prompt) :
    (ofPrompt prompt).define = .ok prompt := by
  simp only [define_eq, ofPrompt, PromptDraft.finish, Draft.require, nonempty?_getD, bind,
    Except.bind]
  rfl

theorem AgentDocument.define_ofAgent {agent : Agent} (h : agent.Complete) :
    (ofAgent agent).define = .ok agent := by
  have hc : defineCriteria (agent.criteria.map .ofCriteria) = .ok agent.criteria := by
    cases agent.criteria with
    | none => rfl
    | some criteria =>
      rw [Option.map_some, defineCriteria, CriteriaDocument.define_ofCriteria]
      rfl
  have hw := mapM_define fun w hm => WorkflowDocument.define_ofWorkflow (h w hm)
  have hm := mapM_define fun m (_ : m ∈ agent.modules) =>
    CapabilityDocument.define_ofCapability .module m
  have hp := mapM_define fun p (_ : p ∈ agent.prompts) => PromptDocument.define_ofPrompt p
  have ht := mapM_define fun t (_ : t ∈ agent.tools) =>
    CapabilityDocument.define_ofCapability .tool t
  simp only [define_eq, ofAgent, hc, hw, hm, hp, ht, AgentDraft.finish, Draft.require,
    nonempty?_getD, bind, Except.bind]
  rfl

namespace Yaml.Document

theorem read_of_tree? {α : Type} {shape : Shape α} {value : Json} {a : α} {document : Document}
    (hs : shape.Reads value a) (hd : value.depth ≤ depthLimit)
    (h : document.tree? = some value) : document.read shape = .ok a := by
  unfold tree? at h
  split at h
  · rename_i sound
    obtain ⟨root, hr, ht⟩ := Option.bind_eq_some_iff.1 h
    have hread := hs ⟨document, [], depthLimit⟩ root ht hd
    simp only [read, hr, Option.getD_some, hread, if_pos sound]
    rfl
  · cases h

end Yaml.Document

namespace Agent

/-- An agent is read back from its document, if the text of the document is read as the tree of
values that was written and the tree is not too deep. -/
theorem load_render (agent : Agent) (hb : agent.Built)
    (hd : (AgentDocument.codec.write (.ofAgent agent)).depth ≤ Yaml.Document.depthLimit)
    (ht : (Yaml.Document.ofText agent.render).tree? =
      some (AgentDocument.codec.write (.ofAgent agent))) :
    load agent.render = .ok agent := by
  have hr := Yaml.Document.read_of_tree? (AgentDocument.restores (.ofAgent agent)) hd ht
  have hdefine := AgentDocument.define_ofAgent hb.complete
  unfold load
  rw [hr]
  dsimp only
  rw [hdefine]

theorem toList_render {agent : Agent} {field : String × Json} {rest : List (String × Json)}
    (h : AgentDocument.codec.write (.ofAgent agent) = .object (field :: rest)) :
    agent.render.toList = advisoryHeader.toList ++ Yaml.fields 0 (field :: rest) := by
  unfold render
  rw [String.toList_append, h, Yaml.render, String.toList_ofList]

/-- An agent whose schema is null and whose only node has an empty description. -/
def sketch : Agent where
  name := "a"
  version := "1"
  description := ""
  kind := .atomic
  goal := none
  criteria := none
  inputSchema := some ⟨.null, trivial⟩
  outputSchema := none
  workflows := [⟨"w", "", "n", [⟨"n", "g", some "", .task, none, [], [], []⟩]⟩]
  modules := []
  prompts := []
  tools := []

theorem built_sketch : sketch.Built := by
  have hn : Node.Built ⟨"n", "g", some "", .task, none, [], [], []⟩ :=
    ⟨[.name "n", .goal "g", .description ""], rfl⟩
  have hw : Workflow.Built ⟨"w", "", "n", [⟨"n", "g", some "", .task, none, [], [], []⟩]⟩ :=
    ⟨[.name "w", .entryNode "n", .addNode _], by simpa [WorkflowEdit.Sound] using hn, rfl⟩
  exact ⟨[.name "a", .version "1", .inputSchema ⟨.null, trivial⟩, .addWorkflow _],
    by simpa [AgentEdit.Sound] using hw, rfl⟩

theorem write_sketch : AgentDocument.codec.write (.ofAgent sketch) =
    .object [("name", .string "a"), ("version", .string "1"), ("agent_type", .string "atomic"),
      ("input_schema", .null), ("workflows", .array [.object [("name", .string "w"),
        ("entry_node", .string "n"), ("nodes", .array [.object [("name", .string "n"),
          ("goal", .string "g"), ("description", .string ""), ("type", .string "task")]])]])] :=
  rfl

theorem tree?_sketch : (Yaml.Document.ofText sketch.render).tree? =
    some (AgentDocument.codec.write (.ofAgent sketch)) := by
  rw [Yaml.Document.ofText, Yaml.Token.ofText, toList_render write_sketch, write_sketch]
  decide +kernel

theorem load_render_sketch : sketch.Built ∧ load sketch.render = .ok sketch :=
  ⟨built_sketch, load_render sketch built_sketch (by decide) tree?_sketch⟩

end Agent

end AgentSpec
