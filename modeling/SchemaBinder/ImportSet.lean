/-!
# Import lists

The qualified names that a generated file imports: each once, in the order in which they were
first needed.  A list that is read from elsewhere may repeat names; adding to it never does.

`names_insert` is the law that everything else follows from.
-/

namespace SchemaBinder

/-- The names a generated file imports, in the order of their first use. -/
@[ext]
structure ImportSet where
  /-- The names. -/
  names : List String
deriving DecidableEq, Repr

namespace ImportSet

/-- The list without names. -/
def empty : ImportSet := ⟨[]⟩

instance : Inhabited ImportSet := ⟨empty⟩

/-- Is a name in the list? -/
def contains (s : ImportSet) (name : String) : Bool :=
  s.names.contains name

/-- Adds a name at the end unless it is there.  The first part of the result tells whether it
was added. -/
def add (s : ImportSet) (name : String) : Bool × ImportSet :=
  if s.contains name then (false, s) else (true, ⟨s.names ++ [name]⟩)

/-- The list with a name in it. -/
def insert (s : ImportSet) (name : String) : ImportSet :=
  (s.add name).2

/-- The list with several names in it, added one after the other. -/
def extend (s : ImportSet) (names : List String) : ImportSet :=
  names.foldl insert s

/-- The number of names. -/
def size (s : ImportSet) : Nat := s.names.length

/-- Is the list empty? -/
def isEmpty (s : ImportSet) : Bool := s.names.isEmpty

theorem names_insert (s : ImportSet) (name : String) :
    (s.insert name).names = if name ∈ s.names then s.names else s.names ++ [name] := by
  by_cases h : name ∈ s.names <;> simp [insert, add, contains, h]

theorem extend_append (s : ImportSet) (names more : List String) :
    s.extend (names ++ more) = (s.extend names).extend more :=
  List.foldl_append

/-- A list is followed by the names that it lacks, each where it is first added. -/
theorem names_extend (s : ImportSet) (names : List String) :
    (s.extend names).names = s.names ++ (names.filter (· ∉ s.names)).eraseDups := by
  induction names generalizing s with
  | nil => exact (List.append_nil s.names).symm
  | cons name rest ih =>
    show ((s.insert name).extend rest).names = _
    rw [ih, names_insert]
    by_cases member : name ∈ s.names
    · rw [if_pos member, List.filter_cons_of_neg (by simpa using member)]
    · rw [if_neg member, List.filter_cons_of_pos (by simpa using member), List.eraseDups_cons,
        List.filter_filter, List.append_assoc]
      have same : ∀ other, decide (other ∉ s.names ++ [name]) =
          (!other == name && decide (other ∉ s.names)) := by
        intro other
        by_cases equal : other = name <;> simp [equal]
      simp only [same]
      rfl

/-- Names that are there already add nothing. -/
theorem extend_of_subset {s : ImportSet} {names : List String} (known : names ⊆ s.names) :
    s.extend names = s := by
  ext1
  rw [names_extend]
  have none : names.filter (· ∉ s.names) = [] := by
    rw [List.filter_eq_nil_iff]
    intro name member
    simpa using known member
  rw [none]
  exact List.append_nil s.names

theorem mem_extend {s : ImportSet} {names : List String} {name : String} :
    name ∈ (s.extend names).names ↔ name ∈ s.names ∨ name ∈ names := by
  rw [names_extend, List.mem_append, List.mem_eraseDups, List.mem_filter, decide_eq_true_eq]
  by_cases member : name ∈ s.names <;> simp [member]

end ImportSet

end SchemaBinder
