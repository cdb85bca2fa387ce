import Mathlib.Data.List.Nodup
import StudyPlan.Archive
import StudyPlan.Proofs.Compact

/-!
# Rows

A record that is written to rows is read back from them (`toRecords_ofRecords`), if its
numbers have their sizes: 64 bits for the numbers of planned courses, and 32 bits for terms.
A number of 64 bits is kept as a signed one, and different numbers stay different
(`signedId_injective`).

The rows of a plan may be kept in any order, for their positions tell theirs.  They are
read sorted twice, by their numbers and then by their positions.  As values of any type may
stand for a position, the second order is not transitive on all rows.  On the rows of a
record it is the order of the positions as whole numbers (`sorted_ofRecords`).
-/

namespace StudyPlan

open Json.Document (max32 max64)

/-- The numbers of a record have their sizes. -/
structure PlanRecord.Sized (r : PlanRecord) : Prop where
  numTerms : r.numTerms ≤ max32
  courses : ∀ c ∈ r.courses, c.id ≤ max64 ∧ c.term ≤ max32

/-! ## Numbers -/

theorem unsignedId_signedId {id : Nat} (h : id ≤ max64) : unsignedId (signedId id) = id := by
  have hmax : max64 = 0xFFFFFFFFFFFFFFFF := rfl
  unfold unsignedId signedId
  split
  · rw [if_neg (by omega), Int.toNat_natCast]
  · rw [if_pos (by omega), Int.sub_add_cancel, Int.toNat_natCast]

theorem signedId_injective {id id' : Nat} (h : id ≤ max64) (h' : id' ≤ max64)
    (heq : signedId id = signedId id') : id = id' := by
  rw [← unsignedId_signedId h, heq, unsignedId_signedId h']

theorem Cell.nat32_int {n : Nat} (h : n ≤ max32) (index : Nat) (name : String) :
    Cell.nat32 index name (.int n) = .ok n := by
  have hmax : max32 = 0xFFFFFFFF := rfl
  rw [nat32, if_pos ⟨by omega, by omega⟩, Int.toNat_natCast]

namespace StoredCourse

/-! ## Reading a row -/

theorem readKind_name (kind : Option ElectiveKind) : readKind (kind.map (·.name)) = .ok kind := by
  cases kind with
  | none => rfl
  | some kind =>
    cases kind with
    | search => rfl
    | choice => rfl

theorem readPool_texts (codes : List String) : readPool (Json.texts codes).compact = .ok codes := by
  rw [readPool, Json.list?_texts]

theorem toRecord_ofRecord {c : PlannedCourseRecord} (hid : c.id ≤ max64) (hterm : c.term ≤ max32)
    (planId : String) (position : Nat) : (ofRecord planId c position).toRecord = .ok c := by
  unfold toRecord ofRecord
  simp only [Cell.nat32_int hterm, readKind_name, readPool_texts, unsignedId_signedId hid]
  rfl

theorem toRecords_map {planId : String} {cs : List PlannedCourseRecord}
    (h : ∀ c ∈ cs, c.id ≤ max64 ∧ c.term ≤ max32) (first : Nat) :
    toRecords ((cs.zipIdx first).map fun (c, i) => ofRecord planId c i) = .ok cs := by
  induction cs generalizing first with
  | nil => rfl
  | cons c cs ih =>
    obtain ⟨hid, hterm⟩ := h c (List.mem_cons_self ..)
    have hrest := ih (fun c hc => h c (List.mem_cons_of_mem _ hc)) (first + 1)
    rw [List.zipIdx_cons, List.map_cons, toRecords, toRecord_ofRecord hid hterm, hrest]
    rfl

theorem toRecords_ofRecords {r : PlanRecord} (h : r.Sized) :
    toRecords (ofRecords r) = .ok r.courses :=
  toRecords_map h.courses 0

/-! ## The order of rows -/

/-- The position of a row as a whole number. -/
def place (c : StoredCourse) : Int :=
  match c.position with
  | .int i => i
  | _ => 0

theorem le_position {a b : StoredCourse} {i j : Int} (ha : a.position = .int i)
    (hb : b.position = .int j) : a.position.le b.position = decide (a.place ≤ b.place) := by
  have hone : (0 : Int) < Binary64.one := by decide
  simp only [place, ha, hb, Cell.le, Cell.number?]
  exact decide_eq_decide.2 (Int.mul_le_mul_right hone)

theorem position_ofRecords {r : PlanRecord} : ∀ c ∈ ofRecords r, ∃ i, c.position = .int i := by
  intro c hc
  obtain ⟨x, -, rfl⟩ := List.mem_map.1 hc
  exact ⟨_, rfl⟩

theorem place_ofRecords (r : PlanRecord) :
    (ofRecords r).Pairwise fun a b => a.place < b.place := by
  have hplaces : (r.courses.zipIdx.map Prod.snd).Pairwise (· < ·) := by
    rw [List.zipIdx_map_snd]
    exact List.pairwise_lt_range'
  refine List.pairwise_map.2 ((List.pairwise_map.1 hplaces).imp ?_)
  exact fun hlt => Int.ofNat_lt.2 hlt

theorem sorted_ofRecords {r : PlanRecord} {cs : List StoredCourse} (h : cs.Perm (ofRecords r)) :
    cs.mergeSort (fun a b => a.position.le b.position) = ofRecords r := by
  -- Values of any type are not in order, so the sort is first told by whole numbers.
  have hsort : cs.mergeSort (fun a b => a.position.le b.position)
      = cs.mergeSort fun a b => decide (a.place ≤ b.place) := by
    have hle : ∀ a ∈ cs, ∀ b ∈ cs,
        a.position.le b.position = decide (a.place ≤ b.place) := by
      intro a ha b hb
      obtain ⟨i, hi⟩ := position_ofRecords a (h.mem_iff.1 ha)
      obtain ⟨j, hj⟩ := position_ofRecords b (h.mem_iff.1 hb)
      exact le_position hi hj
    have hmap := List.map_mergeSort (f := fun c : StoredCourse => c) hle
    rwa [List.map_id', List.map_id'] at hmap
  have hsorted : (cs.mergeSort fun a b => decide (a.place ≤ b.place)).Pairwise
      fun a b => a.place ≤ b.place := by
    have hpairwise : (cs.mergeSort fun a b => decide (a.place ≤ b.place)).Pairwise
        fun a b => decide (a.place ≤ b.place) = true := by
      refine List.pairwise_mergeSort (fun a b c hab hbc => ?_) (fun a b => ?_) cs
      · exact decide_eq_true (Int.le_trans (of_decide_eq_true hab) (of_decide_eq_true hbc))
      · simpa using Int.le_total a.place b.place
    exact hpairwise.imp of_decide_eq_true
  have hplaces := place_ofRecords r
  rw [hsort]
  refine List.Perm.eq_of_pairwise ?_ hsorted (hplaces.imp Int.le_of_lt)
    ((List.mergeSort_perm ..).trans h)
  intro a b ha hb hab hba
  have hnodup : ((ofRecords r).map place).Nodup :=
    List.pairwise_map.2 (hplaces.imp Int.ne_of_lt)
  exact List.inj_on_of_nodup_map hnodup
    (h.mem_iff.1 ((List.mergeSort_perm ..).mem_iff.1 ha)) hb (Int.le_antisymm hab hba)

end StoredCourse

namespace Archive

/-- The rows of a plan are read in their order. -/
theorem rows_eq {a : Archive} {r : PlanRecord}
    (h : a.courses.filter (·.planId == r.id) = StoredCourse.ofRecords r) :
    a.rows r.id = StoredCourse.ofRecords r := by
  unfold rows
  rw [h]
  exact StoredCourse.sorted_ofRecords (List.mergeSort_perm ..)

/-- A record is read back from its rows. -/
theorem toRecord_ofRecord {a : Archive} {r : PlanRecord} (hsized : r.Sized)
    (h : a.courses.filter (·.planId == r.id) = StoredCourse.ofRecords r) :
    a.toRecord (.ofRecord r) = .ok r := by
  have hrows : a.rows (StoredPlan.ofRecord r).id = StoredCourse.ofRecords r := rows_eq h
  have hterms : (StoredPlan.ofRecord r).numTerms.nat32 3 "num_terms" = .ok r.numTerms :=
    Cell.nat32_int hsized.numTerms 3 "num_terms"
  unfold toRecord
  rw [hrows, hterms, StoredCourse.toRecords_ofRecords hsized]
  rfl

end Archive

end StudyPlan
