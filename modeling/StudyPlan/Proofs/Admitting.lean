import StudyPlan.Proofs.Overflowing

/-!
# Which records describe a plan

A record may be refused for six reasons: its number of terms, and of each planned course
its number, its term, its course, its placeholder and its pool.  `PlanRecord.Describes` says
that none of them is given.  It looks at the record as a whole, while a record is read one
planned course at a time and stops at the first fault.  What carries the one to the other is
the list of the numbers that are taken: the courses that follow are read if they are
admissible, with numbers that differ from each other and from those that are taken
(`exists_pushRecords_iff`).

A record that is read and written again is the same, but that its codes are in the one
spelling (`toRecord_of_ofRecord`).  A course is found under the spelling of the code that is
looked up, whatever the spelling is, so that nothing has to be known of the codes of the
catalogue.

None of this asks for the next number, which is the only one that may not fit.  Where it
does, the record is read in a checked program as well.
-/

namespace StudyPlan

namespace Catalog

/-- The catalogue has a course of a code in any spelling. -/
def Has (catalog : Catalog) (code : String) : Prop :=
  ∃ c ∈ catalog.courses, c.code = Code.normalize code

theorem code_of_get? {catalog : Catalog} {code : String} {c : Course}
    (h : catalog.get? code = some c) : c.code = Code.normalize code := by
  rw [get?_eq_find?] at h
  exact (find?_eq_some_iff.1 h).2

theorem exists_get?_iff {catalog : Catalog} {code : String} :
    (∃ c, catalog.get? code = some c) ↔ catalog.Has code := by
  constructor
  · rintro ⟨c, hc⟩
    exact ⟨c, mem_of_get? hc, code_of_get? hc⟩
  · rintro ⟨c, hc, hcode⟩
    rw [get?_eq_find?]
    exact ⟨c, find?_eq_some_iff.2 ⟨hc, hcode⟩⟩

end Catalog

/-! ## Valid records -/

namespace PlannedCourseRecord

/-- The record of a planned course of a plan with some terms. -/
structure Admissible (catalog : Catalog) (numTerms : Nat) (r : PlannedCourseRecord) : Prop where
  id : r.id ≠ 0
  term : 1 ≤ r.term ∧ r.term ≤ numTerms
  course : catalog.Has r.courseId
  placeholder : ∀ code, r.placeholderId = some code → catalog.Has code
  pool : ∀ code ∈ r.poolIds, catalog.Has code

/-- The record with its codes in the one spelling. -/
def respelled (r : PlannedCourseRecord) : PlannedCourseRecord :=
  { r with
    courseId := Code.normalize r.courseId
    placeholderId := r.placeholderId.map Code.normalize
    poolIds := r.poolIds.map Code.normalize }

end PlannedCourseRecord

namespace PlanRecord

/-- A record describes a plan. -/
structure Describes (catalog : Catalog) (r : PlanRecord) : Prop where
  pos : 0 < r.numTerms
  years : r.numTerms % termsPerYear = 0
  ids : (r.courses.map (·.id)).Nodup
  courses : ∀ p ∈ r.courses, p.Admissible catalog r.numTerms

/-- The record with its codes in the one spelling. -/
def respelled (r : PlanRecord) : PlanRecord :=
  { r with courses := r.courses.map PlannedCourseRecord.respelled }

end PlanRecord

namespace Plan

variable {catalog : Catalog} {plan : Plan} {r : PlannedCourseRecord} {p : PlannedCourse}
  {numTerms : Nat} {taken : List Nat}

/-! ## Codes -/

theorem lookUp_eq_ok_iff {code : String} {c : Course} :
    lookUp catalog code = .ok c ↔ catalog.get? code = some c := by
  unfold lookUp
  cases catalog.get? code with
  | none => simp
  | some d => simp

theorem exists_lookUp_iff {code : String} :
    (∃ c, lookUp catalog code = .ok c) ↔ catalog.Has code := by
  simp only [lookUp_eq_ok_iff]
  exact Catalog.exists_get?_iff

theorem exists_lookUpOptional_iff {o : Option String} :
    (∃ c, lookUpOptional catalog o = .ok c) ↔ ∀ code, o = some code → catalog.Has code := by
  cases o with
  | none => simp [lookUpOptional]
  | some code =>
    rw [lookUpOptional]
    constructor
    · rintro ⟨c, hc⟩ code' hcode
      obtain rfl := Option.some.inj hcode
      cases hlook : lookUp catalog code with
      | error e => rw [hlook] at hc; cases hc
      | ok d => exact exists_lookUp_iff.1 ⟨d, hlook⟩
    · intro h
      obtain ⟨c, hc⟩ := exists_lookUp_iff.2 (h code rfl)
      exact ⟨some c, by rw [hc]; rfl⟩

theorem exists_lookUpAll_iff {codes : List String} :
    (∃ cs, lookUpAll catalog codes = .ok cs) ↔ ∀ code ∈ codes, catalog.Has code := by
  induction codes with
  | nil => simp [lookUpAll]
  | cons code codes ih =>
    rw [List.forall_mem_cons, ← ih, ← exists_lookUp_iff]
    constructor
    · rintro ⟨cs, h⟩
      obtain ⟨c, hc, h⟩ := bind_eq_ok h
      obtain ⟨rest, hrest, -⟩ := bind_eq_ok h
      exact ⟨⟨c, hc⟩, rest, hrest⟩
    · rintro ⟨⟨c, hc⟩, rest, hrest⟩
      refine ⟨c :: rest, ?_⟩
      rw [lookUpAll, hc, hrest]
      rfl

theorem code_of_lookUp {code : String} {c : Course} (h : lookUp catalog code = .ok c) :
    c.code = Code.normalize code := Catalog.code_of_get? (lookUp_eq_ok_iff.1 h)

theorem code_of_lookUpOptional {o : Option String} {c : Option Course}
    (h : lookUpOptional catalog o = .ok c) : c.map (·.code) = o.map Code.normalize := by
  cases o with
  | none =>
    obtain rfl := Except.ok.inj h
    rfl
  | some code =>
    rw [lookUpOptional] at h
    cases hlook : lookUp catalog code with
    | error e => rw [hlook] at h; cases h
    | ok d =>
      rw [hlook] at h
      obtain rfl := Except.ok.inj h
      exact congrArg some (code_of_lookUp hlook)

theorem codes_of_lookUpAll {codes : List String} :
    ∀ {cs : List Course}, lookUpAll catalog codes = .ok cs →
      cs.map (·.code) = codes.map Code.normalize := by
  induction codes with
  | nil =>
    intro cs h
    obtain rfl := Except.ok.inj h
    rfl
  | cons code codes ih =>
    intro cs h
    obtain ⟨c, hc, h⟩ := bind_eq_ok h
    obtain ⟨rest, hrest, h⟩ := bind_eq_ok h
    obtain rfl := Except.ok.inj h
    rw [List.map_cons, List.map_cons, code_of_lookUp hc, ih hrest]

/-! ## One planned course -/

theorem exists_coursePlannedBy_iff :
    (∃ p, coursePlannedBy catalog numTerms taken r = .ok p) ↔
      r.Admissible catalog numTerms ∧ r.id ∉ taken := by
  constructor
  · rintro ⟨p, h⟩
    have hp := accepted_of_ok h
    have hterm : p.term = r.term := congrArg PlannedCourse.term hp.kept
    refine ⟨⟨Nat.ne_of_gt hp.id_pos, hterm ▸ hp.within, ?_, ?_, ?_⟩, hp.free⟩
    · exact exists_lookUp_iff.1 ⟨_, hp.course⟩
    · exact exists_lookUpOptional_iff.1 ⟨_, hp.placeholder⟩
    · exact exists_lookUpAll_iff.1 ⟨_, hp.pool⟩
  · rintro ⟨h, hfree⟩
    obtain ⟨course, hcourse⟩ := exists_lookUp_iff.2 h.course
    obtain ⟨placeholder, hplaceholder⟩ := exists_lookUpOptional_iff.2 h.placeholder
    obtain ⟨pool, hpool⟩ := exists_lookUpAll_iff.2 h.pool
    let p : PlannedCourse := ⟨r.id, r.term, course, r.requirementId, r.isElective,
      r.electiveKind, placeholder, pool, r.sharedRequirementId⟩
    exact ⟨p, Accepted.ok {
      id_eq := rfl
      id_pos := Nat.pos_of_ne_zero h.id
      free := hfree
      within := h.term
      course := hcourse
      placeholder := hplaceholder
      pool := hpool
      kept := rfl }⟩

theorem Accepted.toRecord_eq (h : Accepted catalog numTerms taken r p) :
    p.toRecord = r.respelled := by
  have hcourse := code_of_lookUp h.course
  have hplaceholder := code_of_lookUpOptional h.placeholder
  have hpool := codes_of_lookUpAll h.pool
  rw [h.kept, PlannedCourse.toRecord, PlannedCourse.code, hcourse, hplaceholder, hpool]
  rfl

/-! ## All planned courses -/

theorem toRecord_push (hpos : 0 < p.id) :
    (plan.push p).toRecord
      = { plan.toRecord with courses := plan.toRecord.courses ++ [p.toRecord] } := by
  unfold push toRecord
  rw [idFor_eq hpos, List.map_append, List.map_singleton]

/-- The planned courses that follow are read if they are admissible and their numbers
differ from each other and from those that are taken. -/
theorem exists_pushRecords_iff {rs : List PlannedCourseRecord} :
    ∀ {taken : List Nat} {mid : Plan},
      (∃ plan, pushRecords catalog numTerms taken mid rs = .ok plan) ↔
        (rs.map (·.id)).Nodup ∧ ∀ r ∈ rs, r.Admissible catalog numTerms ∧ r.id ∉ taken := by
  induction rs with
  | nil => simp [pushRecords]
  | cons r rs ih =>
    intro taken mid
    rw [List.map_cons, List.nodup_cons, List.forall_mem_cons]
    constructor
    · rintro ⟨plan, h⟩
      obtain ⟨p, hp, h⟩ := bind_eq_ok h
      obtain ⟨hnodup, hrest⟩ := ih.1 ⟨plan, h⟩
      refine ⟨⟨fun hmem => ?_, hnodup⟩, exists_coursePlannedBy_iff.1 ⟨p, hp⟩, fun q hq => ?_⟩
      · obtain ⟨q, hq, hid⟩ := List.mem_map.1 hmem
        exact (hrest q hq).2 (hid ▸ List.mem_cons_self ..)
      · exact ⟨(hrest q hq).1, fun hmem => (hrest q hq).2 (List.mem_cons_of_mem _ hmem)⟩
    · rintro ⟨⟨hnew, hnodup⟩, hr, hrest⟩
      obtain ⟨p, hp⟩ := exists_coursePlannedBy_iff.2 hr
      have hlater : ∀ q ∈ rs, q.Admissible catalog numTerms ∧ q.id ∉ r.id :: taken := by
        intro q hq
        refine ⟨(hrest q hq).1, fun hmem => ?_⟩
        cases List.mem_cons.1 hmem with
        | inl hid => exact hnew (List.mem_map.2 ⟨q, hq, hid⟩)
        | inr htaken => exact (hrest q hq).2 htaken
      have hread : ∃ plan, pushRecords catalog numTerms (r.id :: taken) (mid.push p) rs = .ok plan :=
        ih.2 ⟨hnodup, hlater⟩
      obtain ⟨plan, hplan⟩ := hread
      refine ⟨plan, ?_⟩
      rw [pushRecords, hp]
      exact hplan

/-- The records of the planned courses that are read follow those that are there. -/
theorem toRecord_of_pushRecords {rs : List PlannedCourseRecord} :
    ∀ {taken : List Nat} {mid : Plan}, pushRecords catalog numTerms taken mid rs = .ok plan →
      plan.toRecord = { mid.toRecord with
        courses := mid.toRecord.courses ++ rs.map PlannedCourseRecord.respelled } := by
  induction rs with
  | nil =>
    intro taken mid h
    obtain rfl := Except.ok.inj h
    rw [List.map_nil, List.append_nil]
  | cons r rs ih =>
    intro taken mid h
    obtain ⟨p, hp, h⟩ := bind_eq_ok h
    have hp := accepted_of_ok hp
    have hpos : 0 < p.id := hp.id_eq.symm ▸ hp.id_pos
    rw [ih h, toRecord_push hpos, hp.toRecord_eq, List.map_cons, List.append_assoc,
      List.singleton_append]

/-! ## Whole records -/

theorem exists_ofRecord_iff (record : PlanRecord) :
    (∃ plan, ofRecord catalog record = .ok plan) ↔ record.Describes catalog := by
  unfold ofRecord
  by_cases hyears : record.numTerms = 0 ∨ record.numTerms % termsPerYear ≠ 0
  · rw [if_pos hyears]
    constructor
    · rintro ⟨plan, h⟩
      cases h
    · rintro ⟨hpos, hmod, -, -⟩
      omega
  · rw [if_neg hyears, exists_pushRecords_iff]
    constructor
    · rintro ⟨hids, hcourses⟩
      exact ⟨by omega, by omega, hids, fun p hp => (hcourses p hp).1⟩
    · rintro ⟨-, -, hids, hcourses⟩
      exact ⟨hids, fun p hp => ⟨hcourses p hp, List.not_mem_nil⟩⟩

theorem toRecord_of_ofRecord {record : PlanRecord} (hterms : record.numTerms < UInt32.size)
    (h : ofRecord catalog record = .ok plan) : plan.toRecord = record.respelled := by
  have hdescribes := (exists_ofRecord_iff record).1 ⟨plan, h⟩
  have hsize := Term.roundUp_eq_self hdescribes.pos hdescribes.years hterms
  unfold ofRecord at h
  split at h
  next => cases h
  next =>
    rw [toRecord_of_pushRecords h]
    simp only [toRecord, empty, hsize, List.map_nil, List.nil_append]
    rfl

/-- A record is read exactly if it describes a plan, and written again it is the same with
its codes in the one spelling.  This is so in any program, if there is a number after each of
the record. -/
theorem ofRecord_exact (catalog : Catalog) (record : PlanRecord)
    (hterms : record.numTerms < UInt32.size) :
    ((∃ plan, ofRecord catalog record = .ok plan) ↔ record.Describes catalog) ∧
    (∀ plan, ofRecord catalog record = .ok plan → plan.toRecord = record.respelled) ∧
    Strict.ofRecord .wrapping catalog record = .ok (ofRecord catalog record) ∧
    ((∀ r ∈ record.courses, r.id + 1 < UInt64.size) →
      Strict.ofRecord .checked catalog record = .ok (ofRecord catalog record)) :=
  ⟨exists_ofRecord_iff record, fun _ => toRecord_of_ofRecord hterms,
    Strict.ofRecord_eq hterms fun hbuild => (nomatch hbuild),
    fun hids => Strict.ofRecord_eq hterms fun _ => hids⟩

/-- A record in careless spelling. -/
def careless : PlanRecord where
  id := "7"
  title := "Statistics"
  numTerms := 8
  courses :=
    [{ id := 9, term := 8, courseId := " math   100 ", requirementId := some "first" },
      { id := 2, term := 1, courseId := "data301", isElective := true, electiveKind := some .search,
        placeholderId := some "elec", poolIds := ["Data 301", "MATH100"],
        sharedRequirementId := some "data" }]

theorem ofRecord_exact_careless :
    let catalog := Catalog.ofCourses
      [{ code := "Math100", credits := 3 }, { code := "DATA 301", credits := 3 }]
    careless.numTerms < UInt32.size ∧ careless.Describes catalog ∧
    ∃ plan, Strict.ofRecord .checked catalog careless = .ok (.ok plan) ∧
      plan.toRecord.courses.map (fun r => (r.id, r.courseId, r.placeholderId, r.poolIds))
        = [(9, "MATH 100", none, []), (2, "DATA 301", some "ELEC", ["DATA 301", "MATH 100"])] := by
  intro catalog
  have hterms : careless.numTerms < UInt32.size := by decide
  obtain ⟨haccepts, hcanonical, -, hchecked⟩ := ofRecord_exact catalog careless hterms
  have hok : (ofRecord catalog careless).isOk = true := by decide +kernel
  obtain ⟨plan, hplan⟩ : ∃ plan, ofRecord catalog careless = .ok plan := by
    cases h : ofRecord catalog careless with
    | error e => rw [h] at hok; cases hok
    | ok plan => exact ⟨plan, rfl⟩
  refine ⟨hterms, haccepts.1 ⟨plan, hplan⟩, plan, ?_, ?_⟩
  · rw [hchecked (by decide), hplan]
  · rw [hcanonical plan hplan]
    decide +kernel

end Plan

end StudyPlan
