import StudyPlan.Json.Decode
import StudyPlan.Proofs.Printing
import StudyPlan.Proofs.Reading
import StudyPlan.Proofs.Valuing

/-!
# Data values that are read again

A data value that comes from a document is written and read again as the same value, except
that a binary64 number becomes the number its text is read as (`value?_toDocument`).  The
fields of an object are sorted already, so that sorting them again changes nothing
(`sortFields_of_sorted`).

A number is not always found again, even if it is whole: its text ends in a zero after the
point, so that ten times the number is rounded and then a tenth of it (`reread?_whole`).
-/

namespace StudyPlan

namespace Binary64

/-- The number that the text of a number is read as. -/
def reread? (x : Binary64) : Option Binary64 :=
  match Json.parse? x.dataText with
  | some (.float y) => some y
  | _ => none

end Binary64

namespace Json

open Document Binary64

variable {v : Json} {key : String} {fields : List (String × Json)} {depth : Nat}

/-! ## Numbers -/

theorem value?_of_point {n : Numeral} (h : n.fraction ≠ [] ∨ n.exponent ≠ none) :
    n.value? = n.float?.map .float := by
  have hplain : (n.fraction.isEmpty && n.exponent.isNone) = false := by
    cases h with
    | inl hfraction => rw [List.isEmpty_eq_false_iff.2 hfraction, Bool.false_and]
    | inr hexponent => rw [Option.isNone_eq_false_iff.2 (Option.isSome_iff_ne_none.2 hexponent),
        Bool.and_false]
  simp only [Numeral.value?, hplain, Bool.false_and, Bool.false_eq_true, if_false]

/-- A finite number is read as a numeral that is not kept whole. -/
theorem exists_toDocument_float {x : Binary64} (hx : x.isFinite = true) :
    ∃ n : Numeral, (Json.float x).toDocument = .number n ∧
      n.value? = x.reread?.map .float := by
  cases x with
  | nan => cases hx
  | infinite s => cases hx
  | finite s u =>
    obtain ⟨n, -, -, hread, hform⟩ := exists_dataNumeral s u
    refine ⟨n, by rw [toDocument, hread, Option.getD_some], ?_⟩
    rw [reread?, parse?, hread, Option.bind_some, Document.value?, value?_of_point hform]
    cases n.float? with
    | none => rfl
    | some y => rfl

theorem value?_float {x : Binary64} (hx : x.isFinite = true) :
    (Json.float x).toDocument.value? depth = x.reread?.map .float := by
  obtain ⟨n, hdocument, hvalue⟩ := exists_toDocument_float hx
  rw [hdocument, Document.value?, hvalue]

/-- A whole number becomes a tenth of ten times the number, both rounded. -/
theorem reread?_whole {m : Nat} (hm : m ≤ lastWhole) (s : Bool) :
    (finite s (m * one)).reread?
      = some (((finite s (m * one)).mul (.ofNat 10)).div (.ofNat 10)) := by
  have hproper := proper_pointZero (properWhole_toDigits m) s
  have hword : 10 * m < word := by
    rw [show word = 18446744073709551616 from rfl]
    rw [show lastWhole = 9007199254740992 from rfl] at hm
    omega
  rw [reread?, parse?, dataText_whole hm, ofText?_numeral hproper, Option.bind_some,
    Document.value?, value?_pointZero hword]

/-- A whole number is found again if there is room for five times as much. -/
theorem reread?_eq_self {m : Nat} (hm : 5 * m ≤ lastWhole) (s : Bool) :
    (finite s (m * one)).reread? = some (.finite s (m * one)) := by
  rw [reread?_whole (by omega), div_ten_mul_ten s hm]

/-- The next whole number is not found again. -/
example : lastWhole / 5 + 1 = 1801439850948199 ∧
    (ofNat 1801439850948199).reread? ≠ some (.ofNat 1801439850948199) := by decide +kernel

/-! ## Other numbers in the place of numbers -/

mutual

/-- The value with other binary64 numbers, or none if there is none for one of them. -/
def mapFloats? (f : Binary64 → Option Binary64) : Json → Option Json
  | .float x => (f x).map .float
  | .array items => (mapFloatItems? f items).map .array
  | .object fields => (mapFloatFields? f fields).map .object
  | .null => some .null
  | .bool b => some (.bool b)
  | .int i => some (.int i)
  | .text s => some (.text s)

/-- The items with other binary64 numbers. -/
def mapFloatItems? (f : Binary64 → Option Binary64) : List Json → Option (List Json)
  | [] => some []
  | v :: vs =>
    match mapFloats? f v, mapFloatItems? f vs with
    | some v, some vs => some (v :: vs)
    | _, _ => none

/-- The fields with other binary64 numbers. -/
def mapFloatFields? (f : Binary64 → Option Binary64) :
    List (String × Json) → Option (List (String × Json))
  | [] => some []
  | (k, v) :: vs =>
    match mapFloats? f v, mapFloatFields? f vs with
    | some v, some vs => some ((k, v) :: vs)
    | _, _ => none

end

mutual

/-- The binary64 numbers of the value. -/
def floats : Json → List Binary64
  | .float x => [x]
  | .array items => itemFloats items
  | .object fields => fieldFloats fields
  | _ => []

/-- The binary64 numbers of the items. -/
def itemFloats : List Json → List Binary64
  | [] => []
  | v :: vs => floats v ++ itemFloats vs

/-- The binary64 numbers of the fields. -/
def fieldFloats : List (String × Json) → List Binary64
  | [] => []
  | (_, v) :: vs => floats v ++ fieldFloats vs

end

variable {f : Binary64 → Option Binary64}

mutual

/-- There is a value if there is one for each number, and it is the same if each number is. -/
theorem mapFloats?_iff : ∀ v : Json,
    ((v.mapFloats? f).isSome = true ↔ ∀ x ∈ v.floats, (f x).isSome = true) ∧
      (v.mapFloats? f = some v ↔ ∀ x ∈ v.floats, f x = some x)
  | .float x => by simp [mapFloats?, floats]
  | .array items => by simpa [mapFloats?, floats] using mapFloatItems?_iff items
  | .object fields => by simpa [mapFloats?, floats] using mapFloatFields?_iff fields
  | .null => by simp [mapFloats?, floats]
  | .bool b => by simp [mapFloats?, floats]
  | .int i => by simp [mapFloats?, floats]
  | .text s => by simp [mapFloats?, floats]

theorem mapFloatItems?_iff : ∀ items : List Json,
    ((mapFloatItems? f items).isSome = true ↔ ∀ x ∈ itemFloats items, (f x).isSome = true) ∧
      (mapFloatItems? f items = some items ↔ ∀ x ∈ itemFloats items, f x = some x)
  | [] => by simp [mapFloatItems?, itemFloats]
  | v :: vs => by
    obtain ⟨hsome, hself⟩ := mapFloats?_iff v
    obtain ⟨hsomes, hselves⟩ := mapFloatItems?_iff vs
    rw [itemFloats, List.forall_mem_append, List.forall_mem_append, ← hsome, ← hself, ← hsomes,
      ← hselves, mapFloatItems?]
    cases mapFloats? f v <;> cases mapFloatItems? f vs <;> simp

theorem mapFloatFields?_iff : ∀ fields : List (String × Json),
    ((mapFloatFields? f fields).isSome = true ↔ ∀ x ∈ fieldFloats fields, (f x).isSome = true) ∧
      (mapFloatFields? f fields = some fields ↔ ∀ x ∈ fieldFloats fields, f x = some x)
  | [] => by simp [mapFloatFields?, fieldFloats]
  | (k, v) :: vs => by
    obtain ⟨hsome, hself⟩ := mapFloats?_iff v
    obtain ⟨hsomes, hselves⟩ := mapFloatFields?_iff vs
    rw [fieldFloats, List.forall_mem_append, List.forall_mem_append, ← hsome, ← hself, ← hsomes,
      ← hselves, mapFloatFields?]
    cases mapFloats? f v <;> cases mapFloatFields? f vs <;> simp

end

theorem keys_mapFloatFields? {fields others : List (String × Json)}
    (h : mapFloatFields? f fields = some others) : others.map (·.1) = fields.map (·.1) := by
  induction fields generalizing others with
  | nil =>
    obtain rfl := Option.some.inj h
    rfl
  | cons g fields ih =>
    rw [mapFloatFields?] at h
    split at h
    next v vs hv hvs =>
      obtain rfl := Option.some.inj h
      rw [List.map_cons, List.map_cons, ih hvs]
    next => cases h

/-! ## Sorted fields -/

/-- The names of the fields rise from left to right. -/
def Sorted (fields : List (String × Json)) : Prop := fields.Pairwise (·.1 < ·.1)

theorem mem_putSorted {v : Json} {g : String × Json} (h : g ∈ putSorted key v fields) :
    g = (key, v) ∨ g ∈ fields := by
  induction fields with
  | nil => exact .inl (List.mem_singleton.1 h)
  | cons k fields ih =>
    rw [putSorted] at h
    split at h
    · exact (List.mem_cons.1 h).imp_right (List.mem_cons_of_mem _)
    split at h
    · exact List.mem_cons.1 h
    · cases List.mem_cons.1 h with
      | inl hfirst => exact .inr (hfirst ▸ List.mem_cons_self ..)
      | inr hlater => exact (ih hlater).imp_right (List.mem_cons_of_mem _)

theorem sorted_putSorted {v : Json} (h : Sorted fields) : Sorted (putSorted key v fields) := by
  induction fields with
  | nil => exact List.pairwise_singleton _ _
  | cons g fields ih =>
    obtain ⟨hfirst, hrest⟩ := List.pairwise_cons.1 h
    rw [putSorted]
    split
    next hkey => exact List.pairwise_cons.2 ⟨hkey ▸ hfirst, hrest⟩
    split
    next hless =>
      refine List.pairwise_cons.2 ⟨fun g' hg' => ?_, h⟩
      cases List.mem_cons.1 hg' with
      | inl hsame => exact hsame ▸ hless
      | inr hlater => exact String.lt_trans hless (hfirst g' hlater)
    next hne hnot =>
      have hmore : g.1 < key := by
        by_contra hge
        exact hne (String.le_antisymm (String.not_lt.1 hge) (String.not_lt.1 hnot))
      refine List.pairwise_cons.2 ⟨fun g' hg' => ?_, ih hrest⟩
      cases mem_putSorted hg' with
      | inl hsame => exact hsame ▸ hmore
      | inr hlater => exact hfirst g' hlater

theorem sorted_foldl_putSorted (fields : List (String × Json)) {acc : List (String × Json)}
    (hacc : Sorted acc) : Sorted (fields.foldl (fun sorted g => putSorted g.1 g.2 sorted) acc) := by
  induction fields generalizing acc with
  | nil => exact hacc
  | cons g fields ih => exact ih (sorted_putSorted hacc)

theorem mem_foldl_putSorted {fields acc : List (String × Json)} {g : String × Json}
    (hg : g ∈ fields.foldl (fun sorted g => putSorted g.1 g.2 sorted) acc) :
    g ∈ acc ∨ g ∈ fields := by
  induction fields generalizing acc with
  | nil => exact .inl hg
  | cons g' fields ih =>
    obtain hput | hlater := ih hg
    · obtain rfl | hacc := mem_putSorted hput
      · exact .inr (List.mem_cons_self ..)
      · exact .inl hacc
    · exact .inr (List.mem_cons_of_mem _ hlater)

theorem sorted_sortFields (fields : List (String × Json)) : Sorted (sortFields fields) :=
  sorted_foldl_putSorted fields List.Pairwise.nil

theorem mem_of_mem_sortFields {g : String × Json} (hg : g ∈ sortFields fields) : g ∈ fields :=
  (mem_foldl_putSorted hg).resolve_left List.not_mem_nil

theorem putSorted_last {v : Json} (h : ∀ g ∈ fields, g.1 < key) :
    putSorted key v fields = fields ++ [(key, v)] := by
  induction fields with
  | nil => rfl
  | cons g fields ih =>
    have hless := h g (List.mem_cons_self ..)
    have hne : key ≠ g.1 := fun hkey => String.lt_irrefl key (hkey ▸ hless)
    rw [putSorted, if_neg hne, if_neg (String.lt_asymm hless),
      ih fun g' hg' => h g' (List.mem_cons_of_mem _ hg'), List.cons_append]

theorem foldl_putSorted_of_sorted {acc : List (String × Json)} (h : Sorted (acc ++ fields)) :
    fields.foldl (fun sorted g => putSorted g.1 g.2 sorted) acc = acc ++ fields := by
  induction fields generalizing acc with
  | nil => rw [List.foldl_nil, List.append_nil]
  | cons g fields ih =>
    have hlast : ∀ g' ∈ acc, g'.1 < g.1 := fun g' hg' =>
      (List.pairwise_append.1 h).2.2 g' hg' g (List.mem_cons_self ..)
    rw [List.append_cons] at h
    rw [List.foldl_cons, putSorted_last hlast, ih h, ← List.append_cons]

/-- Fields with rising names are sorted already. -/
theorem sortFields_of_sorted (h : Sorted fields) : sortFields fields = fields :=
  foldl_putSorted_of_sorted h

/-! ## What is read again -/

theorem values?_itemDocuments {items : List Json}
    (h : ∀ v ∈ items, v.toDocument.value? depth = v.mapFloats? reread?) :
    values? depth (itemDocuments items) = mapFloatItems? reread? items := by
  induction items with
  | nil => rfl
  | cons v items ih =>
    have hfirst := h v (List.mem_cons_self ..)
    have hrest := ih fun w hw => h w (List.mem_cons_of_mem _ hw)
    rw [itemDocuments, values?, hfirst, hrest]
    rfl

theorem fieldValues?_fieldDocuments
    (h : ∀ g ∈ fields, g.2.toDocument.value? depth = g.2.mapFloats? reread?) :
    fieldValues? depth (fieldDocuments fields) = mapFloatFields? reread? fields := by
  induction fields with
  | nil => rfl
  | cons g fields ih =>
    have hfirst := h g (List.mem_cons_self ..)
    have hrest := ih fun g' hg' => h g' (List.mem_cons_of_mem _ hg')
    simp only [fieldDocuments, fieldValues?, mapFloatFields?, hfirst, hrest]
    cases mapFloats? reread? g.2 <;> cases mapFloatFields? reread? fields <;> rfl

/-- The fields of an object are read again in their order. -/
theorem value?_object
    (h : ∀ g ∈ fields, g.2.toDocument.value? depth = g.2.mapFloats? reread?) :
    (Json.object (sortFields fields)).toDocument.value? (depth + 1)
      = (Json.object (sortFields fields)).mapFloats? reread? := by
  have hread := fieldValues?_fieldDocuments fun g hg => h g (mem_of_mem_sortFields hg)
  rw [toDocument, Document.value?, hread, mapFloats?]
  cases hfields : mapFloatFields? reread? (sortFields fields) with
  | none => rfl
  | some others =>
    have hsorted : Sorted others := by
      have hkeys := List.pairwise_map.2 (sorted_sortFields fields)
      rw [← keys_mapFloatFields? hfields] at hkeys
      exact List.pairwise_map.1 hkeys
    rw [Option.map_some, Option.map_some, sortFields_of_sorted hsorted]

theorem value?_toDocument_number {n : Numeral} (h : n.value? = some v) :
    v.toDocument.value? depth = v.mapFloats? reread? := by
  cases v with
  | int i => exact value?_numeral h
  | float x => exact value?_float (isFinite_of_value? h)
  | _ => obtain ⟨m, -, hv⟩ | ⟨m, -, -, hv⟩ | ⟨x, -, hv⟩ := value?_cases h <;> cases hv

mutual

/-- A value that comes from a document is read again with the numbers that the texts of its
numbers are read as. -/
theorem value?_toDocument : ∀ (d : Document) {depth : Nat} {v : Json},
    d.value? depth = some v → v.toDocument.value? depth = v.mapFloats? reread?
  | .null, _, _, h => by
    obtain rfl := Option.some.inj h
    rfl
  | .bool b, _, _, h => by
    obtain rfl := Option.some.inj h
    rfl
  | .number n, _, _, h => value?_toDocument_number h
  | .text s, _, _, h => by
    obtain ⟨t, -, rfl⟩ := Option.map_eq_some_iff.1 h
    rfl
  | .array items, 0, _, h => nomatch h
  | .array items, depth + 1, _, h => by
    obtain ⟨vs, hvs, rfl⟩ := Option.map_eq_some_iff.1 h
    have hread := values?_itemDocuments (value?_toDocument_items items hvs)
    rw [toDocument, Document.value?, hread, mapFloats?]
  | .object fields, 0, _, h => nomatch h
  | .object fields, depth + 1, _, h => by
    obtain ⟨vs, hvs, rfl⟩ := Option.map_eq_some_iff.1 h
    exact value?_object (value?_toDocument_fields fields hvs)

theorem value?_toDocument_items : ∀ (items : List Document) {depth : Nat} {vs : List Json},
    values? depth items = some vs →
      ∀ v ∈ vs, v.toDocument.value? depth = v.mapFloats? reread?
  | [], _, _, h => by
    obtain rfl := Option.some.inj h
    exact fun _ hv => nomatch hv
  | d :: items, _, _, h => by
    rw [values?] at h
    split at h
    next v vs hv hvs =>
      obtain rfl := Option.some.inj h
      exact List.forall_mem_cons.2 ⟨value?_toDocument d hv, value?_toDocument_items items hvs⟩
    next => cases h

theorem value?_toDocument_fields : ∀ (fields : List (Option String × Document)) {depth : Nat}
    {vs : List (String × Json)}, fieldValues? depth fields = some vs →
      ∀ g ∈ vs, g.2.toDocument.value? depth = g.2.mapFloats? reread?
  | [], _, _, h => by
    obtain rfl := Option.some.inj h
    exact fun _ hv => nomatch hv
  | (k, d) :: fields, _, _, h => by
    unfold fieldValues? at h
    split at h
    next key v vs hkey hv hvs =>
      obtain rfl := Option.some.inj h
      exact List.forall_mem_cons.2 ⟨value?_toDocument d hv, value?_toDocument_fields fields hvs⟩
    next => cases h

end

end Json

end StudyPlan
