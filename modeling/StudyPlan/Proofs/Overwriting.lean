import Mathlib.Data.List.Induction
import StudyPlan.Proofs.Lookup

/-!
# The last course of a code

A list of courses may name a code many times, in many spellings.  Its catalogue has the
last course of each code (`latest?`), and the generic elective if no course of the list has
its code (`winner?`).

A catalogue is made course by course.  `find?_gathered` and `codes_gathered` say what one
more course does to the courses that are found and to their order: it is found under its
code from then on, and its code is last if it is new and stays where it is if not.  So the
codes stand in the order in which they first occur in the list.  `ofCourses_lastWins` puts
the three together: what is found, what it asks for, and the order.
-/

namespace StudyPlan.Catalog

/-- The last course of a list with a code, under that code. -/
def latest? (cs : List Course) (code : String) : Option Course :=
  ((cs.map Course.normalized).filter (·.code == code)).getLast?

/-- The course that a catalogue of a list has under a code: the last one listed, or the
generic elective under its own code if none is listed. -/
def winner? (cs : List Course) (code : String) : Option Course :=
  (latest? cs code).or (if code = genericCode then some genericElective else none)

/-- The codes of a list in their one spelling, each where it first occurs. -/
def listedCodes (cs : List Course) : List String :=
  (cs.map fun c => Code.normalize c.code).eraseDups

/-! ## Course by course -/

/-- The catalogue of a list, before the generic elective is put in. -/
def gathered (cs : List Course) : Catalog :=
  cs.foldl (fun catalog c => catalog.insert c.normalized) empty

theorem ofCourses_eq (cs : List Course) : ofCourses cs = (gathered cs).withGeneric := rfl

theorem gathered_concat (cs : List Course) (c : Course) :
    gathered (cs ++ [c]) = (gathered cs).insert c.normalized := by
  rw [gathered, List.foldl_concat]
  rfl

theorem latest?_concat (cs : List Course) (c : Course) (code : String) :
    latest? (cs ++ [c]) code
      = if code = c.normalized.code then some c.normalized else latest? cs code := by
  rw [latest?, List.map_append, List.filter_append, List.getLast?_append]
  by_cases h : code = c.normalized.code
  · simp [h]
  · simp [h, Ne.symm h, latest?]

/-- The course that is found under a code is the last one listed. -/
theorem find?_gathered (cs : List Course) (code : String) :
    find? (gathered cs).courses code = latest? cs code := by
  induction cs using List.reverseRecOn with
  | nil => rfl
  | append_singleton cs c ih =>
    rw [gathered_concat, latest?_concat, find?_insert, ih]

theorem eraseDups_concat (codes : List String) (code : String) :
    (codes ++ [code]).eraseDups
      = if code ∈ codes then codes.eraseDups else codes.eraseDups ++ [code] := by
  rw [List.eraseDups_append, List.removeAll, List.filter_singleton]
  by_cases h : code ∈ codes
  · simp [h]
  · simp [h, List.eraseDups_cons]

theorem listedCodes_concat (cs : List Course) (c : Course) :
    listedCodes (cs ++ [c])
      = if c.normalized.code ∈ listedCodes cs then listedCodes cs
        else listedCodes cs ++ [c.normalized.code] := by
  rw [listedCodes, List.map_append, List.map_singleton, eraseDups_concat]
  exact if_congr List.mem_eraseDups.symm rfl rfl

/-- The codes of the courses stand in the order in which they first occur. -/
theorem codes_gathered (cs : List Course) : codes (gathered cs).courses = listedCodes cs := by
  induction cs using List.reverseRecOn with
  | nil => rfl
  | append_singleton cs c ih =>
    rw [gathered_concat, listedCodes_concat, codes_insert, ih]

/-! ## The generic elective -/

theorem find?_withGeneric (catalog : Catalog) (code : String) :
    find? catalog.withGeneric.courses code
      = (find? catalog.courses code).or
          (if code = genericCode then some genericElective else none) := by
  unfold withGeneric
  split
  next hgeneric =>
    split
    next hcode =>
      obtain ⟨c, hc⟩ := Option.isSome_iff_exists.1
        (isSome_find?_iff.2 (isSome_places_iff.1 hgeneric))
      rw [hcode, hc]
      rfl
    next => rw [Option.or_none]
  next hgeneric =>
    rw [find?_insert]
    have hcode : genericElective.code = genericCode := rfl
    rw [hcode]
    split
    next h =>
      rw [isSome_places_iff, ← isSome_find?_iff, Option.not_isSome_iff_eq_none] at hgeneric
      rw [h, hgeneric, Option.none_or]
    next => rw [Option.or_none]

theorem codes_withGeneric (catalog : Catalog) :
    codes catalog.withGeneric.courses
      = if genericCode ∈ codes catalog.courses then codes catalog.courses
        else codes catalog.courses ++ [genericCode] := by
  unfold withGeneric
  split
  next h => rw [if_pos (isSome_places_iff.1 h)]
  next => exact codes_insert ..

/-- A catalogue is a map from codes to courses in which the last listed course wins.  Under
a code in any spelling it has the last course listed with the code, and the generic elective
under its own code if none is listed; what that course asks for is found under the code; and
the courses stand in the order in which their codes are first listed, the generic elective
last if it was put in. -/
theorem ofCourses_lastWins (cs : List Course) :
    (∀ q, (ofCourses cs).get? q = winner? cs (Code.normalize q)) ∧
      (∀ q, (ofCourses cs).prerequisitesOf? q
        = (((ofCourses cs).get? q).map (·.prerequisiteCodes)).filter (!·.isEmpty)) ∧
      (codes (ofCourses cs).courses
        = if genericCode ∈ listedCodes cs then listedCodes cs
          else listedCodes cs ++ [genericCode]) ∧
      (codes (ofCourses cs).courses).Nodup ∧
      ∀ c ∈ (ofCourses cs).courses, winner? cs c.code = some c := by
  have hfind : ∀ code, find? (ofCourses cs).courses code = winner? cs code := by
    intro code
    rw [ofCourses_eq, find?_withGeneric, find?_gathered]
    rfl
  refine ⟨fun q => (get?_eq_find? ..).trans (hfind _), prerequisitesOf?_eq cs, ?_,
    nodup_codes _, ?_⟩
  · rw [ofCourses_eq, codes_withGeneric, codes_gathered]
  · intro c hc
    rw [← hfind, find?_of_mem (nodup_codes _) hc]

/-- The second course takes the place of the first, whose code it has in another spelling. -/
example :
    (ofCourses [{ code := "cosc111", credits := 3 }, { code := "COSC 111", credits := 4 }]).courses
      = [{ code := "COSC 111", credits := 4 }, genericElective] := by
  decide +kernel

end StudyPlan.Catalog
