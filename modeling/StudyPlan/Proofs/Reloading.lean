import StudyPlan.Proofs.Recording
import StudyPlan.Proofs.Resolving
import StudyPlan.Proofs.Running

/-!
# Reloading a plan

A record names courses by their codes, and it does not keep the next number.  Both are
found again.  Every course of a plan is one of the catalogue (`Known`), for a draft takes
courses from there, an edit too, and so does a record that is read.  And the catalogue
has each of its courses under its own code, if its codes are in ASCII.  The next number is
told by the others (`Counted.nextId_eq`).

So a plan whose terms and numbers fit in their words is the plan of its own record
(`ofRecord_toRecord`), and of the text of that record (`ofText_toText`).
-/

namespace StudyPlan

/-! ## Courses of the catalogue -/

namespace Catalog

theorem exists_generic (catalog : Catalog) :
    ∃ c ∈ catalog.withGeneric.courses, c.code = genericCode := by
  unfold withGeneric
  split
  next h => exact List.mem_map.1 (isSome_places_iff.1 h)
  next => exact ⟨genericElective, mem_insert_iff.2 (Or.inl rfl), rfl⟩

theorem generic_mem (cs : List Course) : (ofCourses cs).generic ∈ (ofCourses cs).courses := by
  have hcode : Code.normalize genericCode = genericCode := by decide
  obtain ⟨c, hc, hgeneric⟩ : ∃ c ∈ (ofCourses cs).courses, c.code = genericCode :=
    exists_generic _
  have hget : (ofCourses cs).get? genericCode = some c := by
    rw [get?_eq_find?, hcode]
    exact find?_eq_some_iff.2 ⟨hc, hgeneric⟩
  rw [generic, hget]
  exact hc

end Catalog

theorem Requirement.placeholder_mem (cs : List Course) (r : Requirement) :
    r.placeholder (.ofCourses cs) ∈ (Catalog.ofCourses cs).courses := by
  unfold Requirement.placeholder
  cases hget : r.placeholderCode.bind (Catalog.ofCourses cs).get? with
  | none => exact Catalog.generic_mem cs
  | some c =>
    obtain ⟨code, -, hcode⟩ := Option.bind_eq_some_iff.1 hget
    exact Catalog.mem_of_get? hcode

namespace PlannedCourse

/-- All courses of a planned course are in the catalogue. -/
structure Known (catalog : Catalog) (p : PlannedCourse) : Prop where
  course : p.course ∈ catalog.courses
  placeholder : ∀ c, p.placeholder = some c → c ∈ catalog.courses
  pool : ∀ c ∈ p.pool, c ∈ catalog.courses

variable {catalog : Catalog} {p : PlannedCourse} {course : Course} {pool : List Course}
  {requirementId : Option String}

theorem known_required (hcourse : course ∈ catalog.courses) (id : Nat) :
    Known catalog { required course requirementId with id } :=
  ⟨hcourse, fun _ hnone => (nomatch hnone), fun _ hc => (nomatch hc)⟩

theorem known_elective (hcourse : course ∈ catalog.courses)
    (hpool : ∀ c ∈ pool, c ∈ catalog.courses) (id : Nat) :
    Known catalog { elective course pool requirementId with id } :=
  ⟨hcourse, fun _ hc => Option.some.inj hc ▸ hcourse, hpool⟩

theorem Known.withPool (h : p.Known catalog) (hpool : ∀ c ∈ pool, c ∈ catalog.courses) :
    Known catalog { p with pool, sharedRequirementId := requirementId } :=
  ⟨h.course, h.placeholder, hpool⟩

theorem Known.withCourse (h : p.Known catalog) (hcourse : course ∈ catalog.courses) :
    Known catalog { p with course } := ⟨hcourse, h.placeholder, h.pool⟩

theorem known_untimed : p.untimed.Known catalog ↔ p.Known catalog :=
  ⟨fun h => ⟨h.course, h.placeholder, h.pool⟩, fun h => ⟨h.course, h.placeholder, h.pool⟩⟩

end PlannedCourse

namespace Plan

open PlannedCourse
open Json.Document (max32 max64)

variable {cs : List Course} {catalog : Catalog} {start plan mid next : Plan} {r : Requirement}
  {k : Nat} {p : PlannedCourse}

/-- All courses of a plan are in the catalogue. -/
def Over (catalog : Catalog) (plan : Plan) : Prop := ∀ p ∈ plan.courses, p.Known catalog

theorem over_of_nil (h : plan.courses = []) : plan.Over catalog := by
  intro p hp
  rw [h] at hp
  cases hp

theorem Over.step (hplan : plan.Over (.ofCourses cs))
    (h : Draft.Step (.ofCourses cs) r start plan k next) : next.Over (.ofCourses cs) := by
  have hpool : ∀ c ∈ Query.pool (.ofCourses cs) r.query, c ∈ (Catalog.ofCourses cs).courses :=
    fun _ => Query.mem_of_mem_pool
  refine h.forall_mem hplan ?_ ?_ ?_
  · exact fun c hc id => known_required (hpool c hc) id
  · exact fun id => known_elective (r.placeholder_mem cs) hpool id
  · exact fun slot hslot _ => hslot.withPool hpool

theorem Over.change (hplan : plan.Over catalog) (h : Change catalog plan next) :
    next.Over catalog := by
  refine h.forall_mem hplan (fun _ => known_untimed) ?_ ?_
  · exact fun _ _ hcourse hslot => hslot.withCourse hcourse
  · exact fun _ course hcourse hslot => hslot.withCourse (hslot.placeholder course hcourse)

theorem mem_of_lookUp {code : String} {c : Course} (h : lookUp catalog code = .ok c) :
    c ∈ catalog.courses := by
  unfold lookUp at h
  cases hget : catalog.get? code with
  | none => rw [hget] at h; cases h
  | some d =>
    rw [hget] at h
    exact Except.ok.inj h ▸ Catalog.mem_of_get? hget

theorem mem_of_lookUpAll {codes : List String} :
    ∀ {pool : List Course}, lookUpAll catalog codes = .ok pool →
      ∀ c ∈ pool, c ∈ catalog.courses := by
  induction codes with
  | nil =>
    intro pool h
    obtain rfl := Except.ok.inj h
    exact fun _ hc => nomatch hc
  | cons code codes ih =>
    intro pool h
    obtain ⟨c, hc, h⟩ := bind_eq_ok h
    obtain ⟨cs, hcs, h⟩ := bind_eq_ok h
    obtain rfl := Except.ok.inj h
    intro d hd
    cases List.mem_cons.1 hd with
    | inl hfirst => exact hfirst ▸ mem_of_lookUp hc
    | inr hlater => exact ih hcs d hlater

theorem Accepted.known {numTerms : Nat} {taken : List Nat} {r : PlannedCourseRecord}
    (h : Accepted catalog numTerms taken r p) : p.Known catalog := by
  refine ⟨mem_of_lookUp h.course, fun c hc => ?_, mem_of_lookUpAll h.pool⟩
  have hplaceholder := h.placeholder
  rw [hc] at hplaceholder
  cases hid : r.placeholderId with
  | none =>
    rw [hid] at hplaceholder
    cases hplaceholder
  | some code =>
    rw [hid, lookUpOptional] at hplaceholder
    cases hlook : lookUp catalog code with
    | error e =>
      rw [hlook] at hplaceholder
      cases hplaceholder
    | ok d =>
      rw [hlook] at hplaceholder
      obtain rfl := Option.some.inj (Except.ok.inj hplaceholder)
      exact mem_of_lookUp hlook

theorem Over.push (hplan : plan.Over catalog) (hp : p.Known catalog) :
    (plan.push p).Over catalog :=
  forall_mem_push hplan ⟨hp.course, hp.placeholder, hp.pool⟩

theorem Begun.over (h : Begun (.ofCourses cs) plan) : plan.Over (.ofCourses cs) := by
  cases h with
  | @drafted settings time title userId programs source _ _ =>
    refine (draft_induct (.ofCourses cs) (P := fun _ plan => plan.Over (.ofCourses cs))
      over_of_nil ?_ ?_ settings time title userId programs source).2
    · intro _ _ _ _ hids h hserved
      exact (hserved.steps.induct hids h fun _ h hstep => h.step hstep).2
    · exact fun hcourses h => hcourses.forall_mem (fun _ => known_untimed) h
  | recorded _ _ accepted =>
    exact ofRecord_induct (P := fun plan => plan.Over (.ofCourses cs))
      (fun hnil _ _ => over_of_nil hnil) (fun _ h haccepted _ => h.push haccepted.known) accepted

/-- A plan that begins in a catalogue and is edited in it has all its courses there. -/
theorem Begun.respondAll_over (h : Begun (.ofCourses cs) plan) {rs : List EditRequest}
    (hrs : ∀ r ∈ rs, r.catalog = .ofCourses cs) : (plan.respondAll rs).Over (.ofCourses cs) :=
  (respondAll_induct h.counted.1.toDistinct h.over rs fun r hr _ _ _ hplan hchange =>
    hplan.change (hrs r hr ▸ hchange)).2

/-! ## Records read back -/

theorem lookUp_of_mem (hascii : ∀ c ∈ cs, Code.IsAscii c.code.toList) {c : Course}
    (h : c ∈ (Catalog.ofCourses cs).courses) : lookUp (.ofCourses cs) c.code = .ok c := by
  rw [lookUp, Catalog.get?_of_mem hascii h]

theorem lookUpAll_of_mem (hascii : ∀ c ∈ cs, Code.IsAscii c.code.toList) {pool : List Course}
    (h : ∀ c ∈ pool, c ∈ (Catalog.ofCourses cs).courses) :
    lookUpAll (.ofCourses cs) (pool.map (·.code)) = .ok pool := by
  induction pool with
  | nil => rfl
  | cons c pool ih =>
    rw [List.map_cons, lookUpAll, lookUp_of_mem hascii (h c (List.mem_cons_self ..)),
      ih fun d hd => h d (List.mem_cons_of_mem _ hd)]
    rfl

theorem lookUpOptional_of_mem (hascii : ∀ c ∈ cs, Code.IsAscii c.code.toList) {o : Option Course}
    (h : ∀ c, o = some c → c ∈ (Catalog.ofCourses cs).courses) :
    lookUpOptional (.ofCourses cs) (o.map (·.code)) = .ok o := by
  cases o with
  | none => rfl
  | some c =>
    rw [Option.map_some, lookUpOptional, lookUp_of_mem hascii (h c rfl)]
    rfl

theorem coursePlannedBy_toRecord (hascii : ∀ c ∈ cs, Code.IsAscii c.code.toList)
    (hknown : p.Known (.ofCourses cs)) (hpos : 0 < p.id) {numTerms : Nat}
    (hterm : 1 ≤ p.term ∧ p.term ≤ numTerms) {taken : List Nat} (hfree : p.id ∉ taken) :
    coursePlannedBy (.ofCourses cs) numTerms taken p.toRecord = .ok p :=
  Accepted.ok {
    id_eq := rfl
    id_pos := hpos
    free := hfree
    within := hterm
    course := lookUp_of_mem hascii hknown.course
    placeholder := lookUpOptional_of_mem hascii hknown.placeholder
    pool := lookUpAll_of_mem hascii hknown.pool
    kept := rfl }

theorem pushAll_cons (plan : Plan) (p : PlannedCourse) (ps : List PlannedCourse) :
    plan.pushAll (p :: ps) = (plan.push p).pushAll ps := rfl

/-- Planned courses that have numbers are pushed as they are. -/
theorem pushAll_eq {ps : List PlannedCourse} :
    ∀ (plan : Plan), (∀ p ∈ ps, 0 < p.id) →
      plan.pushAll ps = { plan with
        courses := plan.courses ++ ps, nextId := (plan.pushAll ps).nextId } := by
  induction ps with
  | nil =>
    intro plan _
    rw [List.append_nil]
    rfl
  | cons p ps ih =>
    intro plan hpos
    have hid : plan.idFor p = p.id := idFor_eq (hpos p (List.mem_cons_self ..))
    have hrest := ih (plan.push p) fun q hq => hpos q (List.mem_cons_of_mem _ hq)
    rw [pushAll_cons, hrest]
    simp only [push, hid, List.append_assoc, List.singleton_append]

theorem pushRecords_toRecord (hascii : ∀ c ∈ cs, Code.IsAscii c.code.toList) {numTerms : Nat}
    {ps : List PlannedCourse} :
    ∀ {taken : List Nat} {plan : Plan},
      (∀ p ∈ ps, p.Known (.ofCourses cs) ∧ 0 < p.id ∧ 1 ≤ p.term ∧ p.term ≤ numTerms) →
        (ps.map (·.id)).Nodup → (∀ p ∈ ps, p.id ∉ taken) →
          pushRecords (.ofCourses cs) numTerms taken plan (ps.map PlannedCourse.toRecord)
            = .ok (plan.pushAll ps) := by
  induction ps with
  | nil => exact fun _ _ _ => rfl
  | cons p ps ih =>
    intro taken plan hps hnodup hfree
    rw [List.map_cons, List.nodup_cons] at hnodup
    obtain ⟨hknown, hpos, hterm⟩ := hps p (List.mem_cons_self ..)
    have hlater : ∀ q ∈ ps, q.id ∉ p.id :: taken := by
      intro q hq hmem
      cases List.mem_cons.1 hmem with
      | inl hid => exact hnodup.1 (List.mem_map.2 ⟨q, hq, hid⟩)
      | inr htaken => exact hfree q (List.mem_cons_of_mem _ hq) htaken
    rw [List.map_cons, pushRecords, coursePlannedBy_toRecord hascii hknown hpos hterm
      (hfree p (List.mem_cons_self ..))]
    exact ih (fun q hq => hps q (List.mem_cons_of_mem _ hq)) hnodup.2 hlater

/-- A plan is the plan of its own record, if its numbers fit in their words. -/
theorem ofRecord_toRecord (hascii : ∀ c ∈ cs, Code.IsAscii c.code.toList)
    (ht : plan.WellTimed) (hids : plan.Counted) (hover : plan.Over (.ofCourses cs))
    (hterms : plan.numTerms < UInt32.size) (hnext : plan.nextId < UInt64.size) :
    ofRecord (.ofCourses cs) plan.toRecord = .ok plan := by
  have hyears : ¬ (plan.numTerms = 0 ∨ plan.numTerms % termsPerYear ≠ 0) :=
    not_or.2 ⟨Nat.ne_of_gt ht.pos, not_not.2 ht.years⟩
  have hread : ofRecord (.ofCourses cs) plan.toRecord = .ok
      (({ Plan.empty plan.id plan.title plan.numTerms with userId := plan.userId }).pushAll
        plan.courses) :=
    (if_neg hyears).trans <| pushRecords_toRecord hascii
      (fun p hp => ⟨hover p hp, hids.pos p hp, ht.within p hp⟩) hids.nodup
      fun _ _ => List.not_mem_nil
  have hpushed := pushAll_eq { Plan.empty plan.id plan.title plan.numTerms with
    userId := plan.userId } hids.pos
  -- Reading gives out numbers as a draft does, so it comes to the same next number.
  have hfits : ∀ r ∈ plan.toRecord.courses, r.id + 1 < UInt64.size := by
    intro r hr
    obtain ⟨p, hp, rfl⟩ := List.mem_map.1 hr
    exact Nat.lt_of_le_of_lt (hids.lt p hp) hnext
  have hcounted := (ofRecord_counted hfits hread).1
  have hsame := hcounted.nextId_eq hids ((congrArg Plan.courses hpushed).trans (List.nil_append _))
  rw [hread, hpushed, hsame]
  simp only [Plan.empty, Term.roundUp_eq_self ht.pos ht.years hterms, List.nil_append]

/-- A plan is the plan of its own text, if its numbers fit in their words. -/
theorem ofText_toText (hascii : ∀ c ∈ cs, Code.IsAscii c.code.toList)
    (ht : plan.WellTimed) (hids : plan.Counted) (hover : plan.Over (.ofCourses cs))
    (hterms : plan.numTerms < UInt32.size) (hnext : plan.nextId < UInt64.size) :
    ofText (.ofCourses cs) plan.toText = .ok plan := by
  have hmax : plan.numTerms ≤ max32 := Nat.le_of_lt_succ hterms
  have hrecord : PlanRecord.ofText? plan.toText = some plan.toRecord := by
    refine PlanRecord.ofText?_pretty hmax fun r hr => ?_
    obtain ⟨p, hp, rfl⟩ := List.mem_map.1 hr
    have hid : p.id < UInt64.size := Nat.lt_trans (hids.lt p hp) hnext
    exact ⟨Nat.le_of_lt_succ hid, Nat.le_trans (ht.within p hp).2 hmax⟩
  rw [ofText, hrecord]
  exact ofRecord_toRecord hascii ht hids hover hterms hnext

/-- A plan that begins in a catalogue and is edited in it is the plan of its own record and
of its own text, if there is room for the years that are added. -/
theorem Begun.respondAll_reload (hascii : ∀ c ∈ cs, Code.IsAscii c.code.toList)
    (h : Begun (.ofCourses cs) start) {rs : List EditRequest}
    (hrs : ∀ r ∈ rs, r.catalog = .ofCourses cs) (hroom : start.RoomFor rs) :
    ofRecord (.ofCourses cs) (start.respondAll rs).toRecord = .ok (start.respondAll rs) ∧
      ofText (.ofCourses cs) (start.respondAll rs).toText = .ok (start.respondAll rs) := by
  obtain ⟨hcounted, hnext⟩ := h.counted
  obtain ⟨hsame, hperm⟩ := respondAll_ids hcounted.toDistinct rs
  have ht := (roomFor_iff h.wellTimed h.numTerms_lt).1 hroom rs (List.prefix_refl _)
  have hids := hcounted.of_perm hperm hsame
  have hover := h.respondAll_over hrs
  have hterms := respondAll_numTerms_lt h.numTerms_lt rs
  rw [← hsame] at hnext
  exact ⟨ofRecord_toRecord hascii ht hids hover hterms hnext,
    ofText_toText hascii ht hids hover hterms hnext⟩

/-- The requests for the sketch, and one for a title with marks, a tab, a control character
and letters of other scripts. -/
def titleRequests : List EditRequest :=
  ⟨.rename "  \"Plan\"\t\\ \x01 é 計画 🎓", .ofCourses shelf, 5⟩ :: sketchRequests

theorem respondAll_reload_sketch :
    (sketch.respondAll titleRequests).title.toList
      = ['"', 'P', 'l', 'a', 'n', '"', '\t', '\\', ' ', '\x01', ' ', 'é', ' ', '計', '画', ' ', '🎓'] ∧
    ofRecord (.ofCourses shelf) (sketch.respondAll titleRequests).toRecord
      = .ok (sketch.respondAll titleRequests) ∧
    ofText (.ofCourses shelf) (sketch.respondAll titleRequests).toText
      = .ok (sketch.respondAll titleRequests) := by
  have hascii : ∀ c ∈ shelf, Code.IsAscii c.code.toList := by decide
  have hbegun : Begun (.ofCourses shelf) sketch := .drafted (by decide) (by decide +kernel)
  have hcatalog : ∀ r ∈ titleRequests, r.catalog = .ofCourses shelf := by
    simp [titleRequests, sketchRequests]
  have hroom : sketch.RoomFor titleRequests := by decide +kernel
  exact ⟨by decide +kernel, hbegun.respondAll_reload hascii hcatalog hroom⟩

end Plan

end StudyPlan
