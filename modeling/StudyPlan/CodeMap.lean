/-!
# Values under codes

A code map keeps values under codes.  Setting a value replaces the one that is kept under
the code, and erasing a code removes what is kept under it.  Other codes are not touched
(`CodeMap.get?_set`, `CodeMap.get?_erase`).

Where the values are lists, `CodeMap.push` adds an item to the list under a code.  A code
under which nothing is kept has the empty list (`CodeMap.items`).
-/

namespace StudyPlan

/-- Values under codes. -/
abbrev CodeMap (α : Type) := List (String × α)

namespace CodeMap

variable {α : Type}

/-- The value under a code. -/
def get? (m : CodeMap α) (code : String) : Option α := m.lookup code

/-- The map with a value under a code. -/
def set (code : String) (value : α) : CodeMap α → CodeMap α
  | [] => [(code, value)]
  | (c, v) :: rest => if c = code then (code, value) :: rest else (c, v) :: set code value rest

/-- The map with nothing under a code. -/
def erase (code : String) (m : CodeMap α) : CodeMap α := m.filter (·.1 != code)

/-- The list under a code. -/
def items (m : CodeMap (List α)) (code : String) : List α := (m.get? code).getD []

/-- The map with one more item in the list under a code. -/
def push (code : String) (item : α) (m : CodeMap (List α)) : CodeMap (List α) :=
  m.set code (m.items code ++ [item])

/-! ## What is kept -/

theorem get?_cons (c : String) (v : α) (m : CodeMap α) (code : String) :
    get? ((c, v) :: m) code = if code = c then some v else m.get? code := by
  by_cases h : code = c
  · simp [get?, h]
  · have hne : (code == c) = false := beq_eq_false_iff_ne.2 h
    simp [get?, List.lookup_cons, hne, h]

theorem get?_set (code : String) (value : α) (m : CodeMap α) (c : String) :
    (m.set code value).get? c = if c = code then some value else m.get? c := by
  induction m with
  | nil => exact get?_cons ..
  | cons head rest ih =>
    obtain ⟨d, v⟩ := head
    unfold set
    by_cases hd : d = code
    · rw [if_pos hd, get?_cons, get?_cons, hd]
      by_cases hc : c = code
      · rw [if_pos hc, if_pos hc]
      · rw [if_neg hc, if_neg hc, if_neg hc]
    · rw [if_neg hd, get?_cons, get?_cons, ih]
      by_cases hc : c = d
      · rw [if_pos hc, if_neg (hc ▸ hd), if_pos hc]
      · rw [if_neg hc, if_neg hc]

theorem get?_erase (code : String) (m : CodeMap α) (c : String) :
    (m.erase code).get? c = if c = code then none else m.get? c := by
  induction m with
  | nil => simp [erase, get?]
  | cons head rest ih =>
    obtain ⟨d, v⟩ := head
    unfold erase at ih ⊢
    by_cases hd : d = code
    · rw [List.filter_cons_of_neg (by simpa using hd), ih, get?_cons, hd]
      by_cases hc : c = code
      · rw [if_pos hc, if_pos hc]
      · rw [if_neg hc, if_neg hc, if_neg hc]
    · rw [List.filter_cons_of_pos (by simpa using hd), get?_cons, get?_cons, ih]
      by_cases hc : c = d
      · rw [if_pos hc, if_neg (hc ▸ hd), if_pos hc]
      · rw [if_neg hc, if_neg hc]

theorem items_push (code : String) (item : α) (m : CodeMap (List α)) (c : String) :
    (m.push code item).items c = if c = code then m.items c ++ [item] else m.items c := by
  unfold push items
  rw [get?_set]
  by_cases hc : c = code
  · rw [if_pos hc, if_pos hc, hc]
    rfl
  · rw [if_neg hc, if_neg hc]

end CodeMap

end StudyPlan
