import StudyPlan.Proofs.Resolving

/-!
# Filters together

A query is cut at its underscores into *segments*.  Joining two queries by an underscore
lists the segments of one after those of the other (`splitAt_join`), and each segment is
read by itself.  So the parts of the joined query are the parts of both (`parts_join`), and
a filter joined to a filter lets through what both let through (`pool_join`).

Whether a query is a filter is decided on the whole text, and what it narrows segment by
segment.  The two agree: the marker has no underscore, so that it occurs in a text if it
occurs in a segment (`infix_intercalate_iff`, `isFilter_iff`).  Hence a query that has every
segment of a filter, in any order and however often, is a filter too, and its parts are among
those of the filter (`pool_sublist`).
-/

namespace StudyPlan

namespace Text

variable {mark : Char} {part : List Char}

theorem splitAt_join (mark : Char) (s t : String) :
    splitAt mark (s ++ String.singleton mark ++ t) = splitAt mark s ++ splitAt mark t := by
  have hchars : (s ++ String.singleton mark ++ t).toList = s.toList ++ mark :: t.toList := by
    simp
  have hmark : (mark == mark) = true := beq_self_eq_true mark
  rw [splitAt, hchars, List.splitOnP_append_cons (p := (· == mark)) _ _ hmark, List.map_append]
  rfl

/-- What does not have the mark occurs before it or after it. -/
theorem infix_append_mark_iff (h : mark ∉ part) {before after : List Char} :
    part <:+: before ++ mark :: after ↔ part <:+: before ∨ part <:+: after := by
  constructor
  · intro hpart
    rcases List.infix_append_iff.1 hpart with hbefore | hafter | ⟨front, back, rfl, hfront, hback⟩
    · exact Or.inl hbefore
    · rcases List.infix_cons_iff.1 hafter with hprefix | hinfix
      · rcases List.prefix_cons_iff.1 hprefix with rfl | ⟨rest, rfl, -⟩
        · exact Or.inl List.nil_infix
        · exact absurd (List.mem_cons_self ..) h
      · exact Or.inr hinfix
    · rcases List.prefix_cons_iff.1 hback with rfl | ⟨rest, rfl, -⟩
      · exact Or.inl (by simpa using hfront.isInfix)
      · exact absurd (List.mem_append_right _ (List.mem_cons_self ..)) h
  · rintro (hbefore | hafter)
    · exact hbefore.trans (List.prefix_append ..).isInfix
    · exact hafter.trans ((List.suffix_cons ..).trans (List.suffix_append ..)).isInfix

/-- What does not have the mark occurs in a text exactly if it occurs between two marks. -/
theorem infix_intercalate_iff (h : mark ∉ part) (hne : part ≠ []) (segments : List (List Char)) :
    part <:+: [mark].intercalate segments ↔ ∃ segment ∈ segments, part <:+: segment := by
  induction segments with
  | nil => simpa using hne
  | cons segment rest ih =>
    cases rest with
    | nil => simp
    | cons next rest =>
      rw [List.intercalate_cons_cons, List.append_assoc, List.singleton_append,
        infix_append_mark_iff h, ih]
      exact (List.exists_mem_cons_iff _ _ _).symm

theorem upperChars_intercalate (hmark : upperChar mark = [mark]) (segments : List (List Char)) :
    upperChars ([mark].intercalate segments) = [mark].intercalate (segments.map upperChars) := by
  have hsingle : upperChars [mark] = [mark] := by
    rw [upperChars, List.flatMap_singleton, hmark]
  induction segments with
  | nil => rfl
  | cons segment rest ih =>
    cases rest with
    | nil => simp
    | cons next rest =>
      rw [List.intercalate_cons_cons, upperChars_append, upperChars_append, ih, hsingle]
      simp only [List.map_cons, List.intercalate_cons_cons]

end Text

namespace Query

open Text

variable {catalog : Catalog} {query query' : String} {c : Course}

/-! ## Segments -/

theorem isFilter_iff :
    isFilter query = true ↔ ∃ s ∈ splitAt '_' query, contains (upper s) marker = true := by
  have hmark : '_' ∉ marker.toList := by decide
  have hchars : (upper query).toList
      = ['_'].intercalate ((query.toList.splitOn '_').map upperChars) := by
    rw [← upperChars_intercalate (by decide), List.intercalate_splitOn, upper,
      String.toList_ofList]
  rw [isFilter, contains, occursIn_iff, hchars, infix_intercalate_iff hmark (by decide)]
  simp [splitAt, contains, occursIn_iff, upper, List.splitOn_eq_splitOnP]

theorem isFilter_of_subset (h : isFilter query = true)
    (hsegments : splitAt '_' query ⊆ splitAt '_' query') : isFilter query' = true := by
  obtain ⟨s, hs, hmarked⟩ := isFilter_iff.1 h
  exact isFilter_iff.2 ⟨s, hsegments hs, hmarked⟩

theorem mem_parts {part : FilterPart} :
    part ∈ parts query ↔ ∃ s ∈ splitAt '_' query,
      ¬ ((trim s).isEmpty = true ∨ isMarker (trim s) = true) ∧
        FilterPart.ofText? (trim s) = some part := by
  simp [parts, Option.ite_none_left_eq_some]

theorem parts_join (q₁ q₂ : String) : parts (q₁ ++ "_" ++ q₂) = parts q₁ ++ parts q₂ := by
  have hsplit : splitAt '_' (q₁ ++ "_" ++ q₂) = splitAt '_' q₁ ++ splitAt '_' q₂ :=
    splitAt_join '_' q₁ q₂
  rw [parts, hsplit, List.map_append, List.filterMap_append]
  rfl

theorem parts_subset (h : splitAt '_' query ⊆ splitAt '_' query') :
    parts query ⊆ parts query' := by
  intro part hpart
  obtain ⟨s, hs, hread⟩ := mem_parts.1 hpart
  exact mem_parts.2 ⟨s, h hs, hread⟩

/-! ## Pools -/

theorem mem_pool_of_filter (h : isFilter query = true) :
    c ∈ pool catalog query ↔
      c ∈ catalog.concrete ∧ ∀ part ∈ parts query, part.admits c = true := by
  rw [pool, if_pos h, filtered, List.mem_filter, List.all_eq_true]

/-- A query with every segment of a filter is a filter, and lets through no more. -/
theorem pool_sublist (h : isFilter query = true)
    (hsegments : splitAt '_' query ⊆ splitAt '_' query') :
    (pool catalog query').Sublist (pool catalog query) := by
  rw [pool, pool, if_pos h, if_pos (isFilter_of_subset h hsegments)]
  refine List.monotone_filter_right _ fun c hc => ?_
  rw [List.all_eq_true] at hc ⊢
  exact fun part hpart => hc part (parts_subset hsegments hpart)

/-- A filter joined to a filter has the courses that are in both pools, in the order of the
catalogue.  More segments let through no more, and neither their order nor a repetition
makes a difference. -/
theorem pool_join (catalog : Catalog) {q₁ q₂ : String} (h₁ : isFilter q₁ = true)
    (h₂ : isFilter q₂ = true) :
    pool catalog (q₁ ++ "_" ++ q₂)
        = catalog.courses.filter (fun c =>
          decide (c ∈ pool catalog q₁ ∧ c ∈ pool catalog q₂)) ∧
      (∀ q, splitAt '_' q₁ ⊆ splitAt '_' q → (pool catalog q).Sublist (pool catalog q₁)) ∧
      ∀ q, (∀ s, s ∈ splitAt '_' q ↔ s ∈ splitAt '_' q₁) → pool catalog q = pool catalog q₁ := by
  refine ⟨?_, fun q => pool_sublist h₁, fun q hsame => ?_⟩
  · have hsegments : splitAt '_' q₁ ⊆ splitAt '_' (q₁ ++ "_" ++ q₂) :=
      (splitAt_join '_' q₁ q₂).symm ▸ List.subset_append_left _ _
    have hjoin : isFilter (q₁ ++ "_" ++ q₂) = true := isFilter_of_subset h₁ hsegments
    rw [pool, if_pos hjoin, filtered, Catalog.concrete, List.filter_filter]
    refine List.filter_congr fun c hc => ?_
    rw [Bool.eq_iff_iff, decide_eq_true_eq, mem_pool_of_filter h₁, mem_pool_of_filter h₂,
      parts_join, Bool.and_eq_true, List.all_append, Bool.and_eq_true, List.all_eq_true,
      List.all_eq_true, Catalog.concrete, List.mem_filter]
    constructor
    · rintro ⟨⟨hfirst, hsecond⟩, hconcrete⟩
      exact ⟨⟨⟨hc, hconcrete⟩, hfirst⟩, ⟨hc, hconcrete⟩, hsecond⟩
    · rintro ⟨⟨⟨-, hconcrete⟩, hfirst⟩, -, hsecond⟩
      exact ⟨⟨hfirst, hsecond⟩, hconcrete⟩
  · have hq : isFilter q = true := isFilter_of_subset h₁ fun s => (hsame s).2
    exact List.Sublist.antisymm (pool_sublist h₁ fun s => (hsame s).2)
      (pool_sublist hq fun s => (hsame s).1)

/-- Courses of two subjects and levels, and a placeholder. -/
def mixedShelf : List Course :=
  [{ code := "COSC 111", credits := 3 }, { code := "COSC 304", credits := 3 },
    { code := "ENGL 350", credits := 3 },
    { code := "COSC_UL_ELEC", credits := 3, isPlaceholder := true }]

/-- A filter for a subject, with an empty segment and one that means nothing, joined to one
for the upper levels. -/
theorem pool_join_mixedShelf :
    let catalog := Catalog.ofCourses mixedShelf
    isFilter "cosc__XYZ_elec" = true ∧ isFilter "UL_Elective" = true ∧
    (pool catalog "cosc__XYZ_elec").map (·.code) = ["COSC 111", "COSC 304"] ∧
    (pool catalog "UL_Elective").map (·.code) = ["COSC 304", "ENGL 350"] ∧
    (pool catalog ("cosc__XYZ_elec" ++ "_" ++ "UL_Elective")).map (·.code) = ["COSC 304"] ∧
    pool catalog ("cosc__XYZ_elec" ++ "_" ++ "UL_Elective")
        = catalog.courses.filter (fun c =>
          decide (c ∈ pool catalog "cosc__XYZ_elec" ∧ c ∈ pool catalog "UL_Elective")) ∧
      (∀ q, splitAt '_' "cosc__XYZ_elec" ⊆ splitAt '_' q →
        (pool catalog q).Sublist (pool catalog "cosc__XYZ_elec")) ∧
      ∀ q, (∀ s, s ∈ splitAt '_' q ↔ s ∈ splitAt '_' "cosc__XYZ_elec") →
        pool catalog q = pool catalog "cosc__XYZ_elec" := by
  intro catalog
  have hsubject : isFilter "cosc__XYZ_elec" = true := by decide +kernel
  have hlevel : isFilter "UL_Elective" = true := by decide +kernel
  exact ⟨hsubject, hlevel, by decide +kernel, by decide +kernel, by decide +kernel,
    pool_join catalog hsubject hlevel⟩

end Query

end StudyPlan
