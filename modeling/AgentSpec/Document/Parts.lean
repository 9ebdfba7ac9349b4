import AgentSpec.Document.Codec
import AgentSpec.Draft.Capability
import AgentSpec.Draft.Criteria
import AgentSpec.Draft.Prompt

/-! Criteria, modules, tools and prompts as they stand in a document. -/
namespace AgentSpec

structure CriteriaDocument where
  success : Option String := none
  failure : Option String := none
deriving DecidableEq

namespace CriteriaDocument

def codec : Codec CriteriaDocument :=
  .record "CriteriaDocument"
    [.optional "success" .text (·.success) fun success d => { d with success },
     .optional "failure" .text (·.failure) fun failure d => { d with failure }]
    {}

def ofCriteria (criteria : Criteria) : CriteriaDocument := ⟨criteria.success, criteria.failure⟩

def define (d : CriteriaDocument) : Except Defect Criteria :=
  let draft := ({} : CriteriaDraft)
    |> Draft.set CriteriaDraft.edit .success d.success
    |> Draft.set CriteriaDraft.edit .failure d.failure
  draft.finish

end CriteriaDocument

/-- A module or a tool, which look the same. -/
structure CapabilityDocument where
  name : Option String := none
  description : Option String := none
  inputSchema : Option Schema := none
  outputSchema : Option Schema := none
deriving DecidableEq

namespace CapabilityDocument

def codec : Codec CapabilityDocument :=
  .record "CapabilityDocument"
    [.optional "name" .text (·.name) fun name d => { d with name },
     .optional "description" .text (·.description) fun description d => { d with description },
     .present "input_schema" .schema (·.inputSchema) fun inputSchema d => { d with inputSchema },
     .present "output_schema" .schema (·.outputSchema)
       fun outputSchema d => { d with outputSchema }]
    {}

def ofCapability (capability : Capability) : CapabilityDocument where
  name := capability.name
  description := Text.nonempty? capability.description
  inputSchema := capability.inputSchema
  outputSchema := capability.outputSchema

def define (role : CapabilityRole) (d : CapabilityDocument) : Except Defect Capability :=
  let draft := ({} : CapabilityDraft)
    |> Draft.set CapabilityDraft.edit .name d.name
    |> Draft.set CapabilityDraft.edit .description d.description
    |> Draft.set CapabilityDraft.edit .inputSchema d.inputSchema
    |> Draft.set CapabilityDraft.edit .outputSchema d.outputSchema
  draft.finish role

end CapabilityDocument

structure PromptDocument where
  name : Option String := none
  description : Option String := none
  template : Option String := none
  parameters : List String := []
deriving DecidableEq

namespace PromptDocument

def codec : Codec PromptDocument :=
  .record "PromptDocument"
    [.optional "name" .text (·.name) fun name d => { d with name },
     .optional "description" .text (·.description) fun description d => { d with description },
     .optional "template" .text (·.template) fun template d => { d with template },
     .many "variables" .text (·.parameters) fun parameters d => { d with parameters }]
    {}

def ofPrompt (prompt : Prompt) : PromptDocument where
  name := prompt.name
  description := Text.nonempty? prompt.description
  template := prompt.template
  parameters := prompt.parameters

def define (d : PromptDocument) : Except Defect Prompt :=
  let draft := ({} : PromptDraft).edit (.parameters d.parameters)
    |> Draft.set PromptDraft.edit .name d.name
    |> Draft.set PromptDraft.edit .description d.description
    |> Draft.set PromptDraft.edit .template d.template
  draft.finish

end PromptDocument

end AgentSpec
