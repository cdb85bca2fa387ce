import Mathlib.Data.List.Nodup
import StudyPlan.Catalog
import StudyPlan.Proofs.Spelling

/-!
# Looking up courses

A catalogue keeps the place of each code beside its courses, so no two of its courses share a
code (`nodup_codes`), and looking a course up by its place finds what going through the courses
finds (`get?_eq_find?`).  A course that is put in has its code from then on, and the others
have theirs as before (`mem_insert_iff`, `find?_insert`).

The codes of a catalogue of a list were brought to their one spelling before.  So a course is
found under its code also where the code is brought to its one spelling again
(`get?_of_mem`).  That needs codes of ASCII characters.

What a course asks for is gathered when it is put in.  Nothing is left of a course whose
place another one takes, be it that the other asks for less or for nothing: at any time,
what is kept under a code is what the course of the code asks for (`Indexed`).
-/

namespace StudyPlan

namespace Catalog

variable {catalog : Catalog} {course c : Course} {code : String}

/-! ## Places -/

theorem isSome_places_iff :
    (catalog.places.get? code).isSome = true ↔ code ∈ codes catalog.courses := by
  rw [Option.isSome_iff_exists, List.mem_iff_getElem?]
  exact exists_congr fun i => catalog.placed code i

theorem getElem?_of_place {i : Nat} (h : catalog.places.get? code = some i) :
    ∃ c, catalog.courses[i]? = some c ∧ c.code = code := by
  rw [catalog.placed, codes, List.getElem?_map] at h
  exact Option.map_eq_some_iff.1 h

/-- The place of a code is the only one at which a course has it. -/
theorem eq_of_place {i j : Nat} (hi : catalog.places.get? code = some i)
    (hj : (codes catalog.courses)[j]? = some code) : i = j :=
  Option.some.inj (hi.symm.trans ((catalog.placed code j).2 hj))

/-- No two courses of a catalogue share a code. -/
theorem nodup_codes (catalog : Catalog) : (codes catalog.courses).Nodup := by
  refine List.nodup_iff_injective_getElem.2 fun ⟨i, hi⟩ ⟨j, hj⟩ heq => Fin.ext ?_
  have hplace := (catalog.placed _ i).2 (List.getElem?_eq_getElem hi)
  exact eq_of_place hplace ((List.getElem?_eq_getElem hj).trans (congrArg some heq.symm))

/-- A course of a list by its exact code. -/
def find? (courses : List Course) (code : String) : Option Course :=
  courses.find? (·.code == code)

theorem isSome_find?_iff {courses : List Course} :
    (find? courses code).isSome = true ↔ code ∈ codes courses := by
  simp [find?, codes]

theorem find?_of_mem {courses : List Course} (h : (codes courses).Nodup) {c : Course}
    (hc : c ∈ courses) : find? courses c.code = some c := by
  obtain ⟨d, hd⟩ := Option.isSome_iff_exists.1 (isSome_find?_iff.2 (List.mem_map_of_mem hc))
  have hcode : d.code = c.code := by simpa using List.find?_some hd
  rw [hd, List.inj_on_of_nodup_map h (List.mem_of_find?_eq_some hd) hc hcode]

theorem find?_eq_some_iff :
    find? catalog.courses code = some c ↔ c ∈ catalog.courses ∧ c.code = code := by
  constructor
  · exact fun h => ⟨List.mem_of_find?_eq_some h, by simpa using List.find?_some h⟩
  · rintro ⟨hc, rfl⟩
    exact find?_of_mem (nodup_codes catalog) hc

/-- A course is found by its place as it is by going through the courses. -/
theorem get?_eq_find? (catalog : Catalog) (code : String) :
    catalog.get? code = find? catalog.courses (Code.normalize code) := by
  unfold get?
  cases hplace : catalog.places.get? (Code.normalize code) with
  | none =>
    have hnone : ¬ (find? catalog.courses (Code.normalize code)).isSome = true := by
      rw [isSome_find?_iff, ← isSome_places_iff, hplace]
      exact Bool.false_ne_true
    exact (Option.not_isSome_iff_eq_none.1 hnone).symm
  | some i =>
    obtain ⟨c, hc, hcode⟩ := getElem?_of_place hplace
    exact hc.trans (find?_eq_some_iff.2 ⟨List.mem_of_getElem? hc, hcode⟩).symm

theorem mem_of_get? (h : catalog.get? code = some c) : c ∈ catalog.courses :=
  (find?_eq_some_iff.1 ((get?_eq_find? ..).symm.trans h)).1

/-! ## Putting courses in -/

theorem codes_insert (catalog : Catalog) (course : Course) :
    codes (catalog.insert course).courses
      = if course.code ∈ codes catalog.courses then codes catalog.courses
        else codes catalog.courses ++ [course.code] :=
  (codes_putCourse catalog.placed course).trans (if_congr isSome_places_iff rfl rfl)

theorem mem_insert_iff :
    c ∈ (catalog.insert course).courses ↔
      c = course ∨ c ∈ catalog.courses ∧ c.code ≠ course.code := by
  show c ∈ putCourse course catalog.courses catalog.places ↔ _
  unfold putCourse
  cases hplace : catalog.places.get? course.code with
  | some i =>
    obtain ⟨old, hold, hcode⟩ := getElem?_of_place hplace
    constructor
    · intro hc
      obtain ⟨j, hj⟩ := List.mem_iff_getElem?.1 hc
      rw [List.getElem?_set] at hj
      split at hj
      next =>
        rw [if_pos (List.getElem?_eq_some_iff.1 hold).1] at hj
        exact Or.inl (Option.some.inj hj).symm
      next hij =>
        refine Or.inr ⟨List.mem_of_getElem? hj, fun hsame => hij (eq_of_place hplace ?_)⟩
        rw [codes, List.getElem?_map, hj, Option.map_some, hsame]
    · rintro (rfl | ⟨hc, hne⟩)
      · exact List.mem_set (List.getElem?_eq_some_iff.1 hold).1 _
      · obtain ⟨j, hj⟩ := List.mem_iff_getElem?.1 hc
        have hij : i ≠ j := by
          rintro rfl
          exact hne (Option.some.inj (hj.symm.trans hold) ▸ hcode)
        exact List.mem_of_getElem? ((List.getElem?_set_ne hij).trans hj)
  | none =>
    have hnew : course.code ∉ codes catalog.courses := by
      rw [← isSome_places_iff, hplace]
      exact Bool.false_ne_true
    rw [List.mem_append, List.mem_singleton, or_comm]
    refine or_congr_right (Iff.symm (and_iff_left_of_imp fun hc hcode => hnew ?_))
    exact hcode ▸ List.mem_map_of_mem hc

/-- A course that is put in is found under its code, and the others under theirs. -/
theorem find?_insert (catalog : Catalog) (course : Course) (code : String) :
    find? (catalog.insert course).courses code
      = if code = course.code then some course else find? catalog.courses code := by
  refine Option.ext fun c => ?_
  rw [find?_eq_some_iff, mem_insert_iff]
  split
  next h =>
    subst h
    constructor
    · rintro ⟨rfl | ⟨-, hne⟩, hcode⟩
      · rfl
      · exact absurd hcode hne
    · rintro ⟨⟩
      exact ⟨Or.inl rfl, rfl⟩
  next h =>
    rw [find?_eq_some_iff]
    constructor
    · rintro ⟨rfl | ⟨hc, -⟩, hcode⟩
      · exact absurd hcode.symm h
      · exact ⟨hc, hcode⟩
    · rintro ⟨hc, rfl⟩
      exact ⟨Or.inr ⟨hc, h⟩, rfl⟩

/-- What holds of the catalogue without courses, and is kept by putting in a listed course
or the generic elective, holds of the catalogue of a list. -/
theorem ofCourses_induct {P : Catalog → Prop} (cs : List Course) (start : P empty)
    (insert : ∀ (catalog : Catalog) (c : Course),
      c = genericElective ∨ (∃ d ∈ cs, c = d.normalized) → P catalog → P (catalog.insert c)) :
    P (ofCourses cs) := by
  have hkept : P (cs.foldl (fun catalog c => catalog.insert c.normalized) empty) :=
    List.foldlRecOn cs _ (motive := P) start fun catalog h d hd =>
      insert catalog d.normalized (Or.inr ⟨d, hd, rfl⟩) h
  unfold ofCourses withGeneric
  split
  · exact hkept
  · exact insert _ _ (Or.inl rfl) hkept

/-! ## Spelling of codes -/

/-- The code of a course in a catalogue is the generic one or the one spelling of a
listed code. -/
theorem code_of_mem {cs : List Course} {c : Course} (h : c ∈ (ofCourses cs).courses) :
    c.code = genericCode ∨ ∃ d ∈ cs, c.code = Code.normalize d.code := by
  refine ofCourses_induct cs (P := fun catalog => ∀ c ∈ catalog.courses,
    c.code = genericCode ∨ ∃ d ∈ cs, c.code = Code.normalize d.code) (fun _ h => nomatch h)
    (fun catalog d hd ih c hc => ?_) c h
  cases mem_insert_iff.1 hc with
  | inr hold => exact ih c hold.1
  | inl hcd =>
    subst hcd
    rcases hd with rfl | ⟨d, hd, rfl⟩
    · exact Or.inl rfl
    · exact Or.inr ⟨d, hd, rfl⟩

/-- A code of a catalogue is in its one spelling. -/
theorem normalize_code {cs : List Course} (hascii : ∀ c ∈ cs, Code.IsAscii c.code.toList)
    {c : Course} (h : c ∈ (ofCourses cs).courses) : Code.normalize c.code = c.code := by
  obtain hgen | ⟨d, hd, hcode⟩ := code_of_mem h
  · rw [hgen]
    decide
  · rw [hcode, Code.normalize_normalize (hascii d hd)]

theorem get?_of_mem {cs : List Course} (hascii : ∀ c ∈ cs, Code.IsAscii c.code.toList)
    {c : Course} (h : c ∈ (ofCourses cs).courses) : (ofCourses cs).get? c.code = some c := by
  rw [get?_eq_find?, normalize_code hascii h]
  exact find?_of_mem (nodup_codes _) h

/-! ## What a catalogue gathers -/

/-- What is kept under a code is what the course of the code asks for, if it asks for
anything. -/
def Indexed (catalog : Catalog) : Prop :=
  ∀ code, catalog.index.get? code
    = ((find? catalog.courses code).map (·.prerequisiteCodes)).filter (!·.isEmpty)

theorem Indexed.insert {catalog : Catalog} (h : catalog.Indexed) (course : Course) :
    (catalog.insert course).Indexed := by
  intro code
  rw [find?_insert]
  unfold Catalog.insert
  cases hasks : course.prerequisiteCodes.isEmpty with
  | true =>
    rw [if_pos rfl, CodeMap.get?_erase]
    by_cases hcode : code = course.code
    · rw [if_pos hcode, if_pos hcode, Option.map_some, Option.filter_some, hasks]
      rfl
    · rw [if_neg hcode, if_neg hcode, h code]
  | false =>
    rw [if_neg (by decide), CodeMap.get?_set]
    by_cases hcode : code = course.code
    · rw [if_pos hcode, if_pos hcode, Option.map_some, Option.filter_some, hasks]
      rfl
    · rw [if_neg hcode, if_neg hcode, h code]

theorem indexed_ofCourses (cs : List Course) : (ofCourses cs).Indexed :=
  ofCourses_induct cs (fun _ => rfl) fun _ c _ h => h.insert c

theorem prerequisitesOf?_eq (cs : List Course) (code : String) :
    (ofCourses cs).prerequisitesOf? code
      = (((ofCourses cs).get? code).map (·.prerequisiteCodes)).filter (!·.isEmpty) := by
  rw [get?_eq_find?]
  exact indexed_ofCourses cs (Code.normalize code)

end Catalog

end StudyPlan
