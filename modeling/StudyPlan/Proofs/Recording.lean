import StudyPlan.Plan.Record
import StudyPlan.Proofs.Decoding

/-!
# Texts of records

The text of a plan's record is read as that record (`PlanRecord.ofText?_pretty`).  Each kind
of record has an outline, which its writer follows (`toJson_eq`) and of which its decoder
finds every field (`decode?_toJson`).  A text may hold any number, but the decoder takes
numbers of planned courses up to 64 bits and terms up to 32 bits only.
-/

namespace StudyPlan

open Json Document

namespace PlannedCourseRecord

/-- The fields of a record, with those that are left out. -/
def outline (r : PlannedCourseRecord) : List (String × Option Json) :=
  [("id", some (.nat r.id)), ("term", some (.nat r.term)), ("courseId", some (.text r.courseId)),
    ("requirementId", r.requirementId.map .text), ("isElective", some (.bool r.isElective)),
    ("electiveType", r.electiveKind.map (.text ·.name)),
    ("placeholderId", r.placeholderId.map .text),
    ("alternativeIds", if r.poolIds.isEmpty then none else some (.texts r.poolIds)),
    ("sharedRequirementId", r.sharedRequirementId.map .text)]

theorem toJson_eq (r : PlannedCourseRecord) : r.toJson = .object (present r.outline) := by
  unfold toJson outline
  cases r.poolIds with
  | nil => simp
  | cons code codes => simp

theorem decode?_toJson {r : PlannedCourseRecord} {depth : Nat} (hid : r.id ≤ max64)
    (hterm : r.term ≤ max32) : decode? (depth + 2) r.toJson.toDocument = some r := by
  have hnames : (r.outline.map (·.1)).Nodup := (by decide : fieldNames.Nodup)
  have hrecord : r.toJson.toDocument.record? (depth + 2) fieldNames
      = some (documents (present r.outline)) :=
    r.toJson_eq ▸ record?_present (depth + 1) hnames
  have hid' : (documents (present r.outline)).required? "id" (nat? max64) = some r.id :=
    (required?_present hnames (a := .nat r.id) (by simp [outline])).trans
      (nat?_toDocument hid (by decide))
  have hterm' : (documents (present r.outline)).required? "term" (nat? max32) = some r.term :=
    (required?_present hnames (a := .nat r.term) (by simp [outline])).trans
      (nat?_toDocument hterm (by decide))
  have hcourse : (documents (present r.outline)).required? "courseId" text? = some r.courseId :=
    required?_present hnames (a := .text r.courseId) (by simp [outline])
  have hrequirement : (documents (present r.outline)).optional? "requirementId" text?
      = some r.requirementId :=
    optional?_present .text hnames (by simp [outline]) fun _ => rfl
  have helective : (documents (present r.outline)).withDefault? "isElective" false bool?
      = some r.isElective :=
    withDefault?_present hnames (o := some (.bool r.isElective)) (by simp [outline])
  have hkind : (documents (present r.outline)).optional? "electiveType"
      (name? (depth + 1) ElectiveKind.names) = some r.electiveKind := by
    refine optional?_present (.text ·.name) hnames (by simp [outline]) fun kind => ?_
    cases kind with
    | search => rfl
    | choice => rfl
  have hplaceholder : (documents (present r.outline)).optional? "placeholderId" text?
      = some r.placeholderId :=
    optional?_present .text hnames (by simp [outline]) fun _ => rfl
  have hpool : (documents (present r.outline)).withDefault? "alternativeIds" []
      (list? (depth + 1) fun _ d => d.text?) = some r.poolIds := by
    have htexts : ∀ codes : List String, (Json.texts codes).toDocument.list? (depth + 1)
        (fun _ d => d.text?) = some codes := fun _ => list?_toDocument .text fun _ _ => rfl
    rw [withDefault?_present hnames
      (o := if r.poolIds.isEmpty then none else some (.texts r.poolIds)) (by simp [outline])]
    cases r.poolIds with
    | nil => rfl
    | cons code codes => exact htexts (code :: codes)
  have hshared : (documents (present r.outline)).optional? "sharedRequirementId" text?
      = some r.sharedRequirementId :=
    optional?_present .text hnames (by simp [outline]) fun _ => rfl
  rw [decode?, hrecord]
  simp only [Option.bind_eq_bind, Option.bind_some, hid', hterm', hcourse, hrequirement, helective,
    hkind, hplaceholder, hpool, hshared, Option.pure_def]

end PlannedCourseRecord

namespace PlanRecord

/-- The fields of a record, with those that are left out. -/
def outline (r : PlanRecord) : List (String × Option Json) :=
  [("id", some (.text r.id)), ("title", some (.text r.title)), ("numTerms", some (.nat r.numTerms)),
    ("userId", r.userId.map .text),
    ("plannedCourses", some (.array (r.courses.map PlannedCourseRecord.toJson)))]

theorem toJson_eq (r : PlanRecord) : r.toJson = .object (present r.outline) := by
  simp [toJson, outline]

theorem decode?_toJson {r : PlanRecord} {depth : Nat} (hterms : r.numTerms ≤ max32)
    (hcourses : ∀ p ∈ r.courses, p.id ≤ max64 ∧ p.term ≤ max32) :
    decode? (depth + 4) r.toJson.toDocument = some r := by
  have hnames : (r.outline.map (·.1)).Nodup := (by decide : fieldNames.Nodup)
  have hrecord : r.toJson.toDocument.record? (depth + 4) fieldNames
      = some (documents (present r.outline)) :=
    r.toJson_eq ▸ record?_present (depth + 3) hnames
  have hid : (documents (present r.outline)).required? "id" text? = some r.id :=
    required?_present hnames (a := .text r.id) (by simp [outline])
  have htitle : (documents (present r.outline)).required? "title" text? = some r.title :=
    required?_present hnames (a := .text r.title) (by simp [outline])
  have hterms' : (documents (present r.outline)).required? "numTerms" (nat? max32)
      = some r.numTerms :=
    (required?_present hnames (a := .nat r.numTerms) (by simp [outline])).trans
      (nat?_toDocument hterms (by decide))
  have huser : (documents (present r.outline)).optional? "userId" text? = some r.userId :=
    optional?_present .text hnames (by simp [outline]) fun _ => rfl
  have hplanned : (documents (present r.outline)).withDefault? "plannedCourses" []
      (list? (depth + 3) PlannedCourseRecord.decode?) = some r.courses :=
    (withDefault?_present hnames
      (o := some (.array (r.courses.map PlannedCourseRecord.toJson))) (by simp [outline])).trans
      (list?_toDocument PlannedCourseRecord.toJson fun p hp =>
        PlannedCourseRecord.decode?_toJson (hcourses p hp).1 (hcourses p hp).2)
  rw [decode?, hrecord]
  simp only [Option.bind_eq_bind, Option.bind_some, hid, htitle, hterms', huser, hplanned,
    Option.pure_def]

theorem ofText?_pretty {r : PlanRecord} (hterms : r.numTerms ≤ max32)
    (hcourses : ∀ p ∈ r.courses, p.id ≤ max64 ∧ p.term ≤ max32) :
    ofText? r.toJson.pretty = some r := by
  rw [ofText?, Json.ofText?_pretty, Option.bind_some]
  exact decode?_toJson hterms hcourses

end PlanRecord

end StudyPlan
