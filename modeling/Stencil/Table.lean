/-!
# Tables sorted by name

A table binds names to values: a list of entries in ascending order of their names, each name once.
`get?_insert_self` and `get?_insert_of_ne` say what an insertion does to a look-up: the name has the
new value, every other name what it had.
-/

namespace Stencil

/-- Entries in ascending order of their names. -/
abbrev Table (α : Type) := List (String × α)

namespace Table

variable {α β : Type}

/-- The table without entries. -/
def empty : Table α := []

/-- The value bound to a name. -/
def get? (table : Table α) (name : String) : Option α := List.lookup name table

/-- Whether the name is bound. -/
def contains (table : Table α) (name : String) : Bool := (table.get? name).isSome

/-- Binds a name, in the place of an earlier value. -/
def insert : Table α → String → α → Table α
  | [], name, value => [(name, value)]
  | (n, v) :: rest, name, value =>
    if name = n then (name, value) :: rest
    else if name < n then (name, value) :: (n, v) :: rest
    else (n, v) :: insert rest name value

/-- The table of a list of entries; of several with one name the last stays. -/
def ofList (entries : List (String × α)) : Table α :=
  entries.foldl (fun table (name, value) => table.insert name value) empty

/-- The values put through a function. -/
def map (f : α → β) (table : Table α) : Table β := List.map (fun (n, v) => (n, f v)) table

@[simp] theorem get?_empty (name : String) : (empty : Table α).get? name = none := rfl

@[simp] theorem get?_cons_self (name : String) (value : α) (rest : Table α) :
    get? ((name, value) :: rest) name = some value := List.lookup_cons_self

theorem get?_cons_of_ne {name other : String} (value : α) (rest : Table α) (h : other ≠ name) :
    get? ((name, value) :: rest) other = get? rest other := by
  rw [get?, List.lookup_cons, beq_eq_false_iff_ne.2 h]
  rfl

/-- An inserted name has its value. -/
theorem get?_insert_self (table : Table α) (name : String) (value : α) :
    (table.insert name value).get? name = some value := by
  induction table with
  | nil => exact get?_cons_self name value []
  | cons e rest ih =>
    obtain ⟨n, v⟩ := e
    rw [insert]
    split
    · exact get?_cons_self name value rest
    · next h =>
      split
      · exact get?_cons_self name value _
      · rw [get?_cons_of_ne v _ h, ih]

/-- The other names keep theirs. -/
theorem get?_insert_of_ne (table : Table α) {name other : String} (value : α) (h : other ≠ name) :
    (table.insert name value).get? other = table.get? other := by
  induction table with
  | nil => exact get?_cons_of_ne value [] h
  | cons e rest ih =>
    obtain ⟨n, v⟩ := e
    rw [insert]
    split
    · next hn =>
      subst hn
      rw [get?_cons_of_ne value rest h, get?_cons_of_ne v rest h]
    · split
      · exact get?_cons_of_ne value _ h
      · by_cases ho : other = n
        · subst ho
          rw [get?_cons_self, get?_cons_self]
        · rw [get?_cons_of_ne v _ ho, get?_cons_of_ne v _ ho, ih]

end Table

end Stencil
