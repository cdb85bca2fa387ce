import StudyPlan.Json.Decode
import Mathlib.Data.List.Nodup

/-!
# What a record holds

A decoder looks the fields of a record up among those that `Document.record?` kept.  Here the
record is described as it is written instead.  A document has the form of a record if it is an
object that repeats none of the names, or a list without more items than names (`IsRecord`),
and a part of it stands under its name or in the place of it (`HasPart`).

The two agree: a data value is taken for a record where it has the form of one
(`exists_record?`), and what is looked up is the part of that name (`lookup_record?`).  So a
field that may be left out fails only on a part that is there (`isSome_withDefault?`,
`isSome_optional?`).

Taking the parts of one name away changes nothing for the other names (`lookup_without_ne`),
and what it does to the form is that the name no longer comes twice (`isRecord_without`).
-/

namespace StudyPlan

namespace Json

/-- All items of a list are decoded as soon as each one is. -/
theorem isSome_mapM {α β : Type} {f : α → Option β} {xs : List α} :
    (xs.mapM f).isSome = true ↔ ∀ x ∈ xs, (f x).isSome = true := by
  induction xs with
  | nil => simp
  | cons x xs ih =>
    rw [List.mapM_cons, List.forall_mem_cons, ← ih]
    cases f x with
    | none => simp
    | some y => cases xs.mapM f <;> simp

theorem lookup_eq_some_iff_mem {β : Type} {key : String} {b : β} :
    ∀ {l : List (String × β)}, (l.map (·.1)).Nodup → (l.lookup key = some b ↔ (key, b) ∈ l)
  | [], _ => by simp
  | (k, c) :: l, hnodup => by
    rw [List.map_cons, List.nodup_cons] at hnodup
    rw [List.lookup_cons, List.mem_cons, Prod.mk.injEq]
    by_cases hkey : key = k
    · have hlater : (key, b) ∉ l := fun hmem =>
        hnodup.1 (List.mem_map.2 ⟨_, hmem, hkey⟩)
      simp [hkey, hkey ▸ hlater, eq_comm]
    · have hfirst : (key == k) = false := beq_eq_false_iff_ne.2 hkey
      simp [hfirst, hkey, lookup_eq_some_iff_mem hnodup.2]

theorem sublist_map_fst_zip {α β : Type} :
    ∀ (xs : List α) (ys : List β), ((xs.zip ys).map (·.1)).Sublist xs
  | [], _ => by simp
  | _ :: _, [] => by simp
  | x :: xs, _ :: ys => (sublist_map_fst_zip xs ys).cons_cons x

namespace Document

variable {names : List String} {key : String} {part d : Document} {depth : Nat} {kept : Fields}
variable {fields : List (Option String × Document)}

/-! ## Parts of data values -/

theorem isSome_values? : ∀ {items : List Document},
    (values? depth items).isSome = true ↔ ∀ d ∈ items, (d.value? depth).isSome = true
  | [] => by simp [values?]
  | d :: items => by
    rw [List.forall_mem_cons, ← isSome_values?, values?]
    cases d.value? depth <;> cases values? depth items <;> simp

theorem isSome_fieldValues? : ∀ {fields : List (Option String × Document)},
    (fieldValues? depth fields).isSome = true ↔
      ∀ f ∈ fields, f.1.isSome = true ∧ (f.2.value? depth).isSome = true
  | [] => by simp [fieldValues?]
  | (key, d) :: fields => by
    rw [List.forall_mem_cons, ← isSome_fieldValues?]
    cases hd : d.value? depth <;> cases hrest : fieldValues? depth fields <;> cases key <;>
      simp [fieldValues?, hd, hrest]

theorem isSome_value?_array {items : List Document}
    (hvalue : ((array items).value? depth).isSome = true) :
    ∃ below, depth = below + 1 ∧ ∀ d ∈ items, (d.value? below).isSome = true := by
  cases depth with
  | zero => simp [value?] at hvalue
  | succ below =>
    rw [value?, Option.isSome_map, isSome_values?] at hvalue
    exact ⟨below, rfl, hvalue⟩

theorem isSome_value?_object (hvalue : ((object fields).value? depth).isSome = true) :
    ∃ below, depth = below + 1 ∧
      ∀ f ∈ fields, f.1.isSome = true ∧ (f.2.value? below).isSome = true := by
  cases depth with
  | zero => simp [value?] at hvalue
  | succ below =>
    rw [value?, Option.isSome_map, isSome_fieldValues?] at hvalue
    exact ⟨below, rfl, hvalue⟩

/-! ## The form of a record -/

/-- The parts of an object under a name, from left to right. -/
def under : Document → String → List Document
  | .object fields, key => fields.filterMap fun f => if f.1 = some key then some f.2 else none
  | _, _ => []

/-- The form of a record: none of the names comes twice, or there is a name for each item. -/
def IsRecord (names : List String) : Document → Prop
  | .object fields => ∀ key ∈ names, ((object fields).under key).length ≤ 1
  | .array items => items.length ≤ names.length
  | _ => False

/-- A part stands under a name, or in the place of it. -/
def HasPart (names : List String) (key : String) : Document → Document → Prop
  | .object fields, part => part ∈ (object fields).under key
  | .array items, part => (key, part) ∈ names.zip items
  | _, _ => False

theorem mem_under : part ∈ (object fields).under key ↔ (some key, part) ∈ fields := by
  simp only [under, List.mem_filterMap, Option.ite_none_right_eq_some, Option.some.injEq]
  constructor
  · rintro ⟨f, hf, hkey, rfl⟩
    exact hkey ▸ hf
  · intro hpart
    exact ⟨_, hpart, rfl, rfl⟩

theorem under_cons (k : Option String) (d : Document) (fields : List (Option String × Document))
    (key : String) : (object ((k, d) :: fields)).under key =
      if k = some key then d :: (object fields).under key else (object fields).under key := by
  by_cases hk : k = some key <;> simp [under, hk]

/-- A part of a data value is a data value, one level down. -/
theorem isSome_value?_of_hasPart (hvalue : (d.value? (depth + 1)).isSome = true)
    (hpart : d.HasPart names key part) : (part.value? depth).isSome = true := by
  cases d with
  | object fields =>
    obtain ⟨_, hdepth, hfields⟩ := isSome_value?_object hvalue
    cases hdepth
    exact (hfields _ (mem_under.1 hpart)).2
  | array items =>
    obtain ⟨_, hdepth, hitems⟩ := isSome_value?_array hvalue
    cases hdepth
    exact hitems _ (List.of_mem_zip hpart).2
  | _ => simp [HasPart] at hpart

/-! ## The fields that are listed -/

theorem listedFields?_cons {k : String} (hrest : listedFields? names fields = some kept) :
    listedFields? names ((some k, d) :: fields) =
      if names.contains k then
        if (kept.lookup k).isSome then none else some ((k, d) :: kept)
      else some kept := by
  simp only [listedFields?, hrest]

/-- The field of a name is the part under it. -/
theorem lookup_listedFields? : ∀ {fields : List (Option String × Document)} {kept : Fields},
    listedFields? names fields = some kept →
      (kept.lookup key = some part ↔ key ∈ names ∧ part ∈ (object fields).under key)
  | [], _, h => by
    cases h
    simp [under]
  | (none, d) :: fields, _, h => by simp [listedFields?] at h
  | (some k, d) :: fields, kept, h => by
    cases hrest : listedFields? names fields with
    | none => simp [listedFields?, hrest] at h
    | some rest =>
      have ih : rest.lookup key = some part ↔ key ∈ names ∧ part ∈ (object fields).under key :=
        lookup_listedFields? hrest
      rw [listedFields?_cons hrest] at h
      rw [under_cons]
      split at h
      next hlisted =>
        split at h
        next => cases h
        next hfree =>
          cases h
          rw [List.lookup_cons]
          by_cases hkey : key = k
          · -- The name is not among the later fields, so the first one is the only one.
            subst hkey
            have hmem : key ∈ names := List.contains_iff_mem.1 hlisted
            have hlater : part ∉ (object fields).under key := fun h =>
              hfree (by rw [ih.2 ⟨hmem, h⟩]; rfl)
            simp [hmem, hlater, eq_comm]
          · have hfirst : (key == k) = false := beq_eq_false_iff_ne.2 hkey
            simp [hfirst, Ne.symm hkey, ih]
      next hother =>
        cases h
        rw [ih]
        refine and_congr_right fun hmem => ?_
        rw [if_neg]
        rintro ⟨⟩
        exact hother (List.contains_iff_mem.2 hmem)

theorem isRecord_cons {k : String} : (object ((some k, d) :: fields)).IsRecord names ↔
    (k ∈ names → (object fields).under k = []) ∧ (object fields).IsRecord names := by
  constructor
  · intro hrecord
    constructor
    · intro hk
      have htwo := hrecord k hk
      rw [under_cons, if_pos rfl, List.length_cons] at htwo
      exact List.length_eq_zero_iff.1 (by omega)
    · intro key hkey
      have htwo := hrecord key hkey
      rw [under_cons] at htwo
      split at htwo
      next => exact Nat.le_of_succ_le htwo
      next => exact htwo
  · rintro ⟨hfirst, hrest⟩ key hkey
    rw [under_cons]
    split
    next hk =>
      cases hk
      rw [hfirst hkey]
      exact Nat.le_refl 1
    next => exact hrest key hkey

theorem isSome_listedFields? : ∀ {fields : List (Option String × Document)},
    (listedFields? names fields).isSome = true ↔
      (∀ f ∈ fields, f.1.isSome = true) ∧ (object fields).IsRecord names
  | [] => by simp [listedFields?, IsRecord, under]
  | (none, d) :: fields => by simp [listedFields?]
  | (some k, d) :: fields => by
    have ih : (listedFields? names fields).isSome = true ↔
        (∀ f ∈ fields, f.1.isSome = true) ∧ (object fields).IsRecord names :=
      isSome_listedFields?
    rw [isRecord_cons, List.forall_mem_cons]
    cases hrest : listedFields? names fields with
    | none =>
      have hnone : listedFields? names ((some k, d) :: fields) = none := by
        simp [listedFields?, hrest]
      rw [hrest] at ih
      rw [hnone]
      exact iff_of_false nofun fun h => nomatch ih.2 ⟨h.1.2, h.2.2⟩
    | some rest =>
      have hfree : k ∈ names → (rest.lookup k = none ↔ (object fields).under k = []) := by
        intro hk
        rw [Option.eq_none_iff_forall_ne_some, List.eq_nil_iff_forall_not_mem]
        simp only [ne_eq, lookup_listedFields? hrest, hk, true_and]
      rw [hrest] at ih
      obtain ⟨hnames, hrecord⟩ := ih.1 rfl
      rw [listedFields?_cons hrest, and_iff_right ⟨rfl, hnames⟩, and_iff_left hrecord]
      split
      next hlisted =>
        have hk := List.contains_iff_mem.1 hlisted
        rw [forall_prop_of_true hk, ← hfree hk]
        cases rest.lookup k <;> simp
      next hother =>
        exact iff_of_true rfl fun hk => absurd (List.contains_iff_mem.2 hk) hother

/-! ## Looking parts up -/

/-- A data value in the form of a record is taken for one. -/
theorem exists_record? (hvalue : (d.value? depth).isSome = true) (hrecord : d.IsRecord names) :
    ∃ kept, d.record? depth names = some kept := by
  cases d with
  | object fields =>
    obtain ⟨below, rfl, hfields⟩ := isSome_value?_object hvalue
    rw [record?, if_neg (Nat.succ_ne_zero below), ← Option.isSome_iff_exists]
    exact isSome_listedFields?.2 ⟨fun f hf => (hfields f hf).1, hrecord⟩
  | array items =>
    obtain ⟨below, rfl, -⟩ := isSome_value?_array hvalue
    have hfits : ¬ (below + 1 = 0 ∨ names.length < items.length) :=
      not_or.2 ⟨Nat.succ_ne_zero below, Nat.not_lt.2 hrecord⟩
    exact ⟨_, if_neg hfits⟩
  | _ => simp [IsRecord] at hrecord

theorem record?_cases (h : d.record? depth names = some kept) :
    (∃ fields, d = .object fields ∧ listedFields? names fields = some kept) ∨
      ∃ items, d = .array items ∧ items.length ≤ names.length ∧ kept = names.zip items := by
  cases d with
  | object fields =>
    rw [record?] at h
    split at h
    next => cases h
    next => exact .inl ⟨fields, rfl, h⟩
  | array items =>
    rw [record?] at h
    split at h
    next => cases h
    next hfits =>
      cases h
      exact .inr ⟨items, rfl, Nat.not_lt.1 (not_or.1 hfits).2, rfl⟩
  | _ => cases h

theorem isRecord_of_record? (h : d.record? depth names = some kept) : d.IsRecord names := by
  rcases record?_cases h with ⟨fields, rfl, hlisted⟩ | ⟨items, rfl, hfits, -⟩
  · exact (isSome_listedFields?.1 (Option.isSome_iff_exists.2 ⟨_, hlisted⟩)).2
  · exact hfits

/-- What is looked up is the part of that name. -/
theorem lookup_record? (hnodup : names.Nodup) (h : d.record? depth names = some kept)
    (hkey : key ∈ names) : kept.lookup key = some part ↔ d.HasPart names key part := by
  rcases record?_cases h with ⟨fields, rfl, hlisted⟩ | ⟨items, rfl, -, rfl⟩
  · rw [lookup_listedFields? hlisted, and_iff_right hkey, HasPart]
  · exact lookup_eq_some_iff_mem (hnodup.sublist (sublist_map_fst_zip names items))

/-! ## Decoders of fields -/

theorem isSome_text? : d.text?.isSome = true ↔ ∃ s, d = .text (some s) := by
  cases d with
  | text s => cases s <;> simp [text?]
  | _ => simp [text?]

variable {α : Type} {default : α} {f : Document → Option α}

theorem isSome_withDefault? : (kept.withDefault? key default f).isSome = true ↔
    ∀ d, kept.lookup key = some d → (f d).isSome = true := by
  rw [Fields.withDefault?]
  cases kept.lookup key <;> simp

theorem isSome_optional? : (kept.optional? key f).isSome = true ↔
    ∀ d, kept.lookup key = some d → d = .null ∨ (f d).isSome = true := by
  rw [Fields.optional?, isSome_withDefault?]
  refine forall₂_congr fun d _ => ?_
  cases d <;> simp [Document.optional?]

theorem isSome_optional?_of_listed (h : listedFields? names fields = some kept)
    (hkey : key ∈ names) : (kept.optional? key f).isSome = true ↔
      ∀ d ∈ (object fields).under key, d = .null ∨ (f d).isSome = true := by
  rw [isSome_optional?]
  refine forall_congr' fun d => ?_
  rw [lookup_listedFields? h, and_iff_right hkey]

/-! ## A record without one of its fields -/

/-- An object without its parts under a name. -/
def without : Document → String → Document
  | .object fields, key => .object (fields.filter fun f => f.1 ≠ some key)
  | d, _ => d

theorem under_without_self (d : Document) (key : String) : (d.without key).under key = [] := by
  cases d with
  | object fields => simp [without, under]
  | _ => rfl

theorem under_without_ne {other : String} (hkey : key ≠ other) (d : Document) :
    (d.without other).under key = d.under key := by
  cases d with
  | object fields =>
    simp only [without, under, List.filterMap_filter]
    refine List.filterMap_congr fun f _ => ?_
    by_cases hf : f.1 = some key <;> simp [hf, hkey]
  | _ => rfl

/-- A record may have one more field if no other field has its name. -/
theorem isRecord_without (hkey : key ∈ names) : (object fields).IsRecord names ↔
    ((object fields).without key).IsRecord names ∧ ((object fields).under key).length ≤ 1 := by
  constructor
  · intro hrecord
    refine ⟨fun k hk => ?_, hrecord key hkey⟩
    refine Nat.le_trans (List.Sublist.length_le ?_) (hrecord k hk)
    exact List.filter_sublist.filterMap _
  · rintro ⟨hrest, honce⟩ k hk
    by_cases hname : k = key
    · exact hname ▸ honce
    · rw [← under_without_ne hname]
      exact hrest k hk

variable {fewer : Fields}

theorem isSome_listedFields?_without (hkey : key ∈ names) :
    (listedFields? names fields).isSome = true ↔
      (listedFields? names (fields.filter fun f => f.1 ≠ some key)).isSome = true ∧
      ((object fields).under key).length ≤ 1 := by
  rw [isSome_listedFields?, isSome_listedFields?, isRecord_without hkey, ← and_assoc]
  refine and_congr_left fun _ => and_congr_left fun _ => ?_
  constructor
  · exact fun hnames f hf => hnames f (List.mem_of_mem_filter hf)
  · intro hnames f hf
    by_cases hname : f.1 = some key
    · rw [hname]
      rfl
    · exact hnames f (List.mem_filter.2 ⟨hf, decide_eq_true hname⟩)

theorem lookup_without_ne {other : String} (h : listedFields? names fields = some kept)
    (hfewer : listedFields? names (fields.filter fun f => f.1 ≠ some other) = some fewer)
    (hkey : key ≠ other) : fewer.lookup key = kept.lookup key := by
  refine Option.ext fun part => ?_
  rw [lookup_listedFields? h, lookup_listedFields? hfewer,
    ← under_without_ne hkey (object fields)]
  rfl

end Document

end Json

end StudyPlan
