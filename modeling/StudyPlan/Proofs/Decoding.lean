import StudyPlan.Json.Decode
import StudyPlan.Proofs.Reading

/-!
# Decoding what was written

A record is written as an object with its fields in a fixed order, and a field may be left
out.  An *outline* lists all of them, with nothing for those that are left out; what is
written is what is present of it (`present`).

A decoder looks its fields up by their names.  As the names of an outline are different,
each name is looked up as the outline has it (`lookup_present`), and so it does not matter
which of the other fields are there.  The rest is one lemma for each way of asking for a
field: it must be there (`required?_present`), there is a default (`withDefault?_present`),
or it may be absent (`optional?_present`).
-/

namespace StudyPlan

namespace Json

open Document

/-! ## Plain values -/

theorem itemDocuments_eq_map (items : List Json) : itemDocuments items = items.map toDocument := by
  induction items with
  | nil => rfl
  | cons a items ih => rw [itemDocuments, ih, List.map_cons]

theorem nat?_toDocument {n high : Nat} (hn : n ≤ high) (hhigh : high < word) :
    (Json.nat n).toDocument.nat? high = some n := by
  have hnumber := value?_numeral_natCast (Nat.lt_of_le_of_lt hn hhigh)
  have hrange : (0 : Int) ≤ n ∧ (n : Int) ≤ high := by omega
  simp only [nat?, int?, toDocument, Json.nat, hnumber, if_pos hrange, Option.map_some,
    Int.toNat_natCast]

theorem mapM_toDocument {α : Type} (write : α → Json) {f : Document → Option α} {xs : List α}
    (h : ∀ x ∈ xs, f (write x).toDocument = some x) :
    (itemDocuments (xs.map write)).mapM f = some xs := by
  rw [itemDocuments_eq_map, List.map_map]
  induction xs with
  | nil => rfl
  | cons x xs ih =>
    have hrest := ih fun y hy => h y (List.mem_cons_of_mem _ hy)
    rw [List.map_cons, List.mapM_cons, hrest, Function.comp_apply, h x (List.mem_cons_self ..)]
    rfl

/-- A list is decoded item by item, one level down. -/
theorem list?_toDocument {α : Type} (write : α → Json) {depth : Nat}
    {f : Nat → Document → Option α} {xs : List α}
    (h : ∀ x ∈ xs, f depth (write x).toDocument = some x) :
    (Json.array (xs.map write)).toDocument.list? (depth + 1) f = some xs :=
  mapM_toDocument write h

/-! ## Records -/

/-- The fields of an object as a decoder looks them up. -/
def documents (fields : List (String × Json)) : Fields :=
  fields.map fun f => (f.1, f.2.toDocument)

theorem lookup_documents (fields : List (String × Json)) (key : String) :
    (documents fields).lookup key = (fields.lookup key).map toDocument := by
  induction fields with
  | nil => rfl
  | cons f fields ih =>
    obtain ⟨k, a⟩ := f
    rw [documents, List.map_cons, List.lookup_cons, List.lookup_cons]
    cases hkey : key == k with
    | true => rfl
    | false => exact ih

theorem listedFields?_fieldDocuments {names : List String} {fields : List (String × Json)}
    (hlisted : ∀ f ∈ fields, f.1 ∈ names) (hnodup : (fields.map (·.1)).Nodup) :
    listedFields? names (fieldDocuments fields) = some (documents fields) := by
  induction fields with
  | nil => rfl
  | cons f fields ih =>
    obtain ⟨k, a⟩ := f
    rw [List.map_cons, List.nodup_cons] at hnodup
    have hrest := ih (fun g hg => hlisted g (List.mem_cons_of_mem _ hg)) hnodup.2
    have hk : names.contains k = true :=
      List.contains_iff_mem.2 (hlisted (k, a) (List.mem_cons_self ..))
    have hfree : (documents fields).lookup k = none := by
      rw [lookup_documents, Option.map_eq_none_iff, List.lookup_eq_none_iff]
      intro g hg
      exact bne_iff_ne.2 fun hkey => hnodup.1 (List.mem_map.2 ⟨g, hg, hkey.symm⟩)
    simp only [fieldDocuments, listedFields?, hrest, hk, hfree, if_true]
    rfl

/-! ## Fields that may be left out -/

/-- The fields of an outline that are there. -/
def present (outline : List (String × Option Json)) : List (String × Json) :=
  outline.filterMap fun f => f.2.map (f.1, ·)

variable {outline : List (String × Option Json)} {key : String}

@[simp] theorem present_nil : present [] = [] := rfl

@[simp] theorem present_none (key : String) (outline : List (String × Option Json)) :
    present ((key, none) :: outline) = present outline := rfl

@[simp] theorem present_some (key : String) (a : Json) (outline : List (String × Option Json)) :
    present ((key, some a) :: outline) = (key, a) :: present outline := rfl

@[simp] theorem present_map {α : Type} (key : String) (write : α → Json) (o : Option α)
    (outline : List (String × Option Json)) :
    present ((key, o.map write) :: outline) = optionalField key write o ++ present outline := by
  cases o with
  | none => rfl
  | some _ => rfl

theorem keys_present (outline : List (String × Option Json)) :
    ((present outline).map (·.1)).Sublist (outline.map (·.1)) := by
  induction outline with
  | nil => exact .slnil
  | cons f outline ih =>
    obtain ⟨key, o⟩ := f
    cases o with
    | none => exact ih.cons _
    | some a => exact ih.cons_cons _

theorem lookup_present {o : Option Json} (hnames : (outline.map (·.1)).Nodup)
    (hmem : (key, o) ∈ outline) : (present outline).lookup key = o := by
  induction outline with
  | nil => cases hmem
  | cons f outline ih =>
    obtain ⟨k, o'⟩ := f
    rw [List.map_cons, List.nodup_cons] at hnames
    have hlater : (key, o) ∈ outline → key ≠ k := fun hmem hkey =>
      hnames.1 (List.mem_map.2 ⟨_, hmem, hkey⟩)
    cases o' with
    | none =>
      cases List.mem_cons.1 hmem with
      | inl hfirst =>
        obtain ⟨rfl, rfl⟩ := Prod.mk.inj hfirst
        refine List.lookup_eq_none_iff.2 fun g hg => bne_iff_ne.2 fun hkey => hnames.1 ?_
        exact hkey ▸ (keys_present outline).subset (List.mem_map_of_mem hg)
      | inr hmem => exact ih hnames.2 hmem
    | some a =>
      rw [present_some, List.lookup_cons]
      cases List.mem_cons.1 hmem with
      | inl hfirst =>
        obtain ⟨rfl, rfl⟩ := Prod.mk.inj hfirst
        rw [beq_self_eq_true]
      | inr hmem =>
        rw [beq_eq_false_iff_ne.2 (hlater hmem)]
        exact ih hnames.2 hmem

/-- The fields of a record are found by their names. -/
theorem record?_present (depth : Nat) (hnames : (outline.map (·.1)).Nodup) :
    (Json.object (present outline)).toDocument.record? (depth + 1) (outline.map (·.1))
      = some (documents (present outline)) :=
  listedFields?_fieldDocuments
    (fun _ hf => (keys_present outline).subset (List.mem_map_of_mem hf))
    (hnames.sublist (keys_present outline))

variable {α : Type} {f : Document → Option α}

theorem required?_present {a : Json} (hnames : (outline.map (·.1)).Nodup)
    (hmem : (key, some a) ∈ outline) :
    (documents (present outline)).required? key f = f a.toDocument := by
  rw [Fields.required?, lookup_documents, lookup_present hnames hmem]
  rfl

theorem withDefault?_present {o : Option Json} {default : α}
    (hnames : (outline.map (·.1)).Nodup) (hmem : (key, o) ∈ outline) :
    (documents (present outline)).withDefault? key default f
      = (o.map fun a => f a.toDocument).getD (some default) := by
  rw [Fields.withDefault?, lookup_documents, lookup_present hnames hmem]
  cases o with
  | none => rfl
  | some _ => rfl

/-- A field that is left out is absent. -/
theorem optional?_present (write : α → Json) {o : Option α}
    (hnames : (outline.map (·.1)).Nodup) (hmem : (key, o.map write) ∈ outline)
    (hf : ∀ a, Document.optional? f (write a).toDocument = some (some a)) :
    (documents (present outline)).optional? key f = some o := by
  rw [Fields.optional?, withDefault?_present hnames hmem]
  cases o with
  | none => rfl
  | some a => exact hf a

end Json

end StudyPlan
