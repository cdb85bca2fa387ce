import StudyPlan.Proofs.Decoding

/-!
# Reading the compact layout

A value that is written without blanks is read back (`ofText?_compact`), as one that
is written with indentation is.  The proof goes by the recursion of the printer again.  What
comes after an item is a comma or the bracket itself, so there are no blanks to carry along.

The codes of a pool are kept in this layout (`list?_texts`).
-/

namespace StudyPlan

namespace Json

open Document

theorem isSpace_nil : ∀ b ∈ ([] : List Char), isSpace b = true := fun _ hb => nomatch hb

mutual

/-- The compact layout of a value is read back. -/
theorem readValue_compactChars : ∀ (v : Json) {fuel : Nat} {rest : List Char},
    2 * (compactChars v).length ≤ fuel → Ends rest →
      readValue fuel (compactChars v ++ rest) = some (v.toDocument, rest)
  | .null, fuel + 1, _, _, _ => rfl
  | .bool true, fuel + 1, _, _, _ => rfl
  | .bool false, fuel + 1, _, _, _ => rfl
  | .int i, 0, _, hfuel, _ => by
    have hpos := length_intChars_pos i
    rw [compactChars] at hfuel
    omega
  | .int i, fuel + 1, _, _, hrest => readValue_int i hrest
  | .float x, 0, _, hfuel, _ => by
    have hpos := length_dataText_pos x
    rw [compactChars] at hfuel
    omega
  | .float x, fuel + 1, _, _, hrest => readValue_float x hrest
  | .text s, fuel + 1, _, _, _ => readValue_text s
  | .array [], fuel + 1, _, _, _ => rfl
  | .array (a :: items), fuel + 1, rest, hfuel, _ => by
    simp only [compactChars, List.length_append, List.length_cons, List.length_nil] at hfuel
    have hitems := readItems_compactItems (a :: items) (by simp) rest
      (by omega : _ ≤ fuel)
    simp only [compactChars, List.append_assoc, List.cons_append, List.nil_append]
    exact readValue_array hitems
  | .object [], fuel + 1, _, _, _ => rfl
  | .object (f :: fields), fuel + 1, rest, hfuel, _ => by
    simp only [compactChars, List.length_append, List.length_cons, List.length_nil] at hfuel
    have hfields := readFields_compactFields (f :: fields) (by simp) rest
      (by omega : _ ≤ fuel)
    simp only [compactChars, List.append_assoc, List.cons_append, List.nil_append]
    exact readValue_object hfields

theorem readItems_compactItems : ∀ (items : List Json), items ≠ [] →
    ∀ {fuel : Nat} (rest : List Char),
      2 * (compactItems items).length + 1 ≤ fuel →
        readItems fuel (compactItems items ++ ']' :: rest) = some (itemDocuments items, rest)
  | [], hne, _, _, _ => absurd rfl hne
  | [a], _, fuel + 1, rest, hfuel => by
    have hvalue := readValue_compactChars a (by simpa [compactItems] using hfuel)
      (ends_cons (by decide) : Ends (']' :: rest))
    refine readItems_last ?_ isSpace_nil
    rw [compactItems]
    exact hvalue
  | a :: b :: items, _, fuel + 1, rest, hfuel => by
    simp only [compactItems, List.length_append, List.length_cons] at hfuel
    have hitems := readItems_compactItems (b :: items) (by simp) rest
      (by omega : _ ≤ fuel)
    have hvalue := readValue_compactChars a (by omega : _ ≤ fuel)
      (ends_cons (by decide) : Ends (',' :: (compactItems (b :: items) ++ ']' :: rest)))
    refine readItems_more ?_ hitems
    rw [compactItems, List.append_assoc, List.cons_append]
    exact hvalue

theorem readFields_compactFields : ∀ (fields : List (String × Json)), fields ≠ [] →
    ∀ {fuel : Nat} (rest : List Char),
      2 * (compactFields fields).length + 1 ≤ fuel →
        readFields fuel (compactFields fields ++ '\x7d' :: rest)
          = some (fieldDocuments fields, rest)
  | [], hne, _, _, _ => absurd rfl hne
  | [(k, a)], _, fuel + 1, rest, hfuel => by
    simp only [compactFields, List.length_append, List.length_cons] at hfuel
    have hvalue := readValue_compactChars a (by omega : _ ≤ fuel)
      (ends_cons (by decide) : Ends ('\x7d' :: rest))
    have hname := readName_text k isSpace_nil
      (compactChars a ++ '\x7d' :: rest)
    rw [← List.nil_append ('\x7d' :: rest)] at hvalue
    refine readFields_last ?_ hvalue isSpace_nil
    simpa only [compactFields, List.append_assoc, List.cons_append, List.nil_append] using hname
  | (k, a) :: f :: fields, _, fuel + 1, rest, hfuel => by
    simp only [compactFields, List.length_append, List.length_cons] at hfuel
    have hfields := readFields_compactFields (f :: fields) (by simp) rest
      (by omega : _ ≤ fuel)
    have hvalue := readValue_compactChars a (by omega : _ ≤ fuel)
      (ends_cons (by decide) : Ends (',' :: (compactFields (f :: fields) ++ '\x7d' :: rest)))
    have hname := readName_text k isSpace_nil
      (compactChars a ++ ',' :: (compactFields (f :: fields) ++ '\x7d' :: rest))
    refine readFields_more ?_ hvalue hfields
    simpa only [compactFields, List.append_assoc, List.cons_append, List.nil_append] using hname

end

theorem ofText?_compact {v : Json} {d : Document} (hv : v.toDocument = d) :
    Document.ofText? v.compact = some d := by
  have hends : Ends [] := fun _ hc => nomatch hc
  have hread := readValue_compactChars v
    (by omega : _ ≤ 2 * (compactChars v).length + 2) hends
  rw [List.append_nil] at hread
  simp only [Document.ofText?, compact, String.toList_ofList, hread, hv]
  rfl

/-- Texts that are written without blanks are read back as a list. -/
theorem list?_texts (texts : List String) :
    (Document.ofText? (Json.texts texts).compact).bind
        (Document.list? nesting fun _ d => d.text?) = some texts := by
  rw [ofText?_compact rfl, Option.bind_some]
  exact list?_toDocument .text fun _ _ => rfl

end Json

end StudyPlan
