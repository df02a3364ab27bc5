import FleetExporter.Text.Blank

/-! A selection of namespaces: trimmed names that are not empty, each once, in ascending order. The
lemmas say which names a selection holds and that its order is strict. -/
namespace FleetExporter.Namespaces

/-- Inserts a name into names in ascending order, unless it is there. -/
def insert (name : String) : List String → List String
  | [] => [name]
  | n :: rest =>
    if name < n then name :: n :: rest
    else if name = n then n :: rest
    else n :: insert name rest

/-- The selection that a list of names asks for. -/
def select (names : List String) : List String :=
  ((names.map Text.trim).filter (· ≠ "")).foldr insert []

theorem mem_insert {name x : String} {names : List String} :
    x ∈ insert name names ↔ x = name ∨ x ∈ names := by
  induction names with
  | nil => simp [insert]
  | cons n rest ih =>
    simp only [insert]
    split
    · simp
    · split
      · next h => simp [h]
      · simp only [List.mem_cons, ih]
        grind

theorem insert_ascending {name : String} {names : List String}
    (h : names.Pairwise (· < ·)) : (insert name names).Pairwise (· < ·) := by
  induction names with
  | nil => simp [insert]
  | cons n rest ih =>
    simp only [insert]
    rw [List.pairwise_cons] at h
    split
    · next hlt =>
      rw [List.pairwise_cons]
      refine ⟨fun x hx => ?_, List.pairwise_cons.2 h⟩
      rcases List.mem_cons.1 hx with rfl | hx
      · exact hlt
      · exact String.lt_trans hlt (h.1 x hx)
    · split
      · exact List.pairwise_cons.2 h
      · next hlt hne =>
        rw [List.pairwise_cons]
        refine ⟨fun x hx => ?_, ih h.2⟩
        rcases mem_insert.1 hx with rfl | hx
        · exact Std.lt_of_le_of_ne (String.not_lt.1 hlt) (Ne.symm hne)
        · exact h.1 x hx

theorem select_ascending (names : List String) : (select names).Pairwise (· < ·) := by
  unfold select
  induction (names.map Text.trim).filter (· ≠ "") with
  | nil => simp
  | cons n rest ih => exact insert_ascending ih

theorem mem_select {x : String} {names : List String} :
    x ∈ select names ↔ x ≠ "" ∧ ∃ n ∈ names, Text.trim n = x := by
  have fold : ∀ l : List String, x ∈ l.foldr insert [] ↔ x ∈ l := by
    intro l
    induction l with
    | nil => simp
    | cons n rest ih => simp [mem_insert, ih]
  simp only [select, fold, List.mem_filter, List.mem_map, decide_eq_true_eq]
  grind

end FleetExporter.Namespaces
