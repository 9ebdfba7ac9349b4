import Std.Data.TreeMap

/-! Distinct names, numbered in the order of their first occurrence. -/
namespace AgentSpec

/-- The distinct names of a list and the number of each. -/
structure NameTable where
  names : Array String
  numbers : Std.TreeMap String Nat

namespace NameTable

def empty : NameTable := ⟨#[], {}⟩

/-- The table with a name added, unless it is there already. -/
def insert (table : NameTable) (name : String) : NameTable :=
  if table.numbers.contains name then table
  else
    let number := table.names.size
    ⟨table.names.push name, table.numbers.insert name number⟩

def ofList (names : List String) : NameTable := names.foldl insert empty

def size (table : NameTable) : Nat := table.names.size

def contains (table : NameTable) (name : String) : Bool := table.numbers.contains name

def number? (table : NameTable) (name : String) : Option Nat := table.numbers[name]?

/-- The name with that number; there is none beyond the size. -/
def name (table : NameTable) (number : Nat) : String := table.names.getD number ""

end NameTable

end AgentSpec
