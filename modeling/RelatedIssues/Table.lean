namespace RelatedIssues

-- Names with values, in the order in which the names were first written. Writing a name again changes its value and
-- leaves its place.
abbrev Table (α : Type) := List (String × α)

namespace Table

variable {α : Type}

def get? (t : Table α) (name : String) : Option α :=
  (t.find? (·.1 = name)).map (·.2)

def insert (t : Table α) (name : String) (value : α) : Table α :=
  match t with
  | [] => [(name, value)]
  | entry :: rest => if entry.1 = name then (name, value) :: rest else entry :: insert rest name value

-- The first table overridden by the second.
def override (t : Table α) (by_ : Table α) : Table α :=
  by_.foldl (fun t entry => t.insert entry.1 entry.2) t

def names (t : Table α) : List String :=
  t.map (·.1)

@[simp]
theorem get?_nil {name : String} : get? ([] : Table α) name = none :=
  rfl

theorem get?_cons {entry : String × α} {t : Table α} {name : String} :
    get? (entry :: t) name = if entry.1 = name then some entry.2 else get? t name := by
  by_cases h : entry.1 = name <;> simp [get?, h]

theorem get?_insert {t : Table α} {name other : String} {value : α} :
    (t.insert name value).get? other = if name = other then some value else t.get? other := by
  induction t with
  | nil => simp [insert, get?_cons]
  | cons entry rest ih =>
    simp only [insert]
    split
    case isTrue h => by_cases ho : name = other <;> simp [get?_cons, ho, h]
    case isFalse h =>
      rw [get?_cons, ih, get?_cons]
      by_cases he : entry.1 = other <;> by_cases ho : name = other <;> simp_all

@[simp]
theorem override_nil {t : Table α} : t.override [] = t :=
  rfl

@[simp]
theorem override_cons {t u : Table α} {entry : String × α} :
    t.override (entry :: u) = (t.insert entry.1 entry.2).override u :=
  rfl

end Table
end RelatedIssues
