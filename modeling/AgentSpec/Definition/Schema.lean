import AgentSpec.Json.Sorted

/-! Schemas: JSON documents attached to agents, modules and tools. -/
namespace AgentSpec

/-- A JSON document as given, whatever its shape; its objects have no order of their own. -/
structure Schema where
  value : Json
  sorted : value.Sorted

namespace Schema

instance : DecidableEq Schema := fun a b =>
  decidable_of_iff (a.value = b.value) (by cases a; cases b; simp)

def ofJson (value : Json) : Schema := ⟨value.sort, value.sorted_sort⟩

end Schema

end AgentSpec
