import Mathlib.Algebra.Order.Floor.Div
import StudyPlan.Plan.Draft
import StudyPlan.Proofs.Lookup

/-!
# What a requirement resolves to

A requirement is resolved to the pool of its query, and what is planned for it depends on
the credits of that pool: the whole pool, if these are just the credits asked for, and
otherwise slots with one placeholder, the least number of them that has the credits
(`Accounts`).  They are added in a word of 32 bits, and it is what is left there that is
compared.  That is the sum itself, unless it is too great (`demand_accounts`).

One course too many in the pool would turn the one into the other, so it matters that a pool
has no course twice.  A list may name a course more than once and in several spellings.  Each
of them is looked up, and what is found is told apart by the code that the catalogue has for it
(`code_mem_distinct`).  No two courses of a catalogue share a code, so a repetition drops out
and nothing else does (`mem_pool_iff`).
-/

namespace StudyPlan

open Catalog (codes)
open Text (splitAt trim)

/-! ## The pool -/

namespace Query

variable {catalog : Catalog} {seen : List String} {courses : List Course} {code query : String}
  {c : Course}

theorem distinct_sublist : (distinct seen courses).Sublist courses := by
  induction courses generalizing seen with
  | nil => exact .slnil
  | cons c courses ih =>
    rw [distinct]
    split
    · exact ih.cons c
    · exact ih.cons_cons c

/-- Every code that was not seen before is left. -/
theorem code_mem_distinct :
    code ∈ codes (distinct seen courses) ↔ code ∉ seen ∧ code ∈ codes courses := by
  induction courses generalizing seen with
  | nil => simp [distinct, codes]
  | cons c courses ih =>
    have hcodes : ∀ rest, codes (c :: rest) = c.code :: codes rest := fun _ => rfl
    rw [distinct, hcodes, List.mem_cons]
    split
    next hseen =>
      have hseen : c.code ∈ seen := List.contains_iff_mem.1 hseen
      rw [ih]
      exact and_congr_right fun hnew => (or_iff_right fun hc : code = c.code =>
        hnew (hc ▸ hseen)).symm
    next hnew =>
      have hnew : c.code ∉ seen := fun hseen => hnew (List.contains_iff_mem.2 hseen)
      rw [hcodes, List.mem_cons, ih, List.mem_cons]
      by_cases hc : code = c.code
      · simp [hc, hnew]
      · simp [hc]

theorem nodup_distinct : (codes (distinct seen courses)).Nodup := by
  induction courses generalizing seen with
  | nil => exact List.nodup_nil
  | cons c courses ih =>
    rw [distinct]
    split
    · exact ih
    · have hseen : c.code ∉ codes (distinct (c.code :: seen) courses) := fun hmem =>
        (code_mem_distinct.1 hmem).1 (List.mem_cons_self ..)
      exact List.nodup_cons.2 ⟨hseen, ih⟩

theorem filtered_sublist : (filtered catalog query).Sublist catalog.courses :=
  List.filter_sublist.trans List.filter_sublist

/-- Where a code tells the course, a repetition drops out and no course does. -/
theorem mem_distinct_iff (htold : ∀ c ∈ courses, ∀ d ∈ courses, c.code = d.code → c = d) :
    c ∈ distinct [] courses ↔ c ∈ courses := by
  refine ⟨fun h => distinct_sublist.subset h, fun h => ?_⟩
  have hcode : c.code ∈ codes (distinct [] courses) :=
    code_mem_distinct.2 ⟨List.not_mem_nil, List.mem_map_of_mem h⟩
  obtain ⟨d, hd, hdc⟩ := List.mem_map.1 hcode
  exact htold d (distinct_sublist.subset hd) c h hdc ▸ hd

theorem known_of_found {parts : List String}
    (h : c ∈ parts.filterMap fun s => catalog.get? (Code.normalize s)) : c ∈ catalog.courses := by
  obtain ⟨s, -, hget⟩ := List.mem_filterMap.1 h
  exact Catalog.mem_of_get? hget

theorem mem_listed_iff :
    c ∈ listed catalog query ↔
      ∃ s ∈ splitAt ';' query, trim s ≠ "" ∧
        catalog.get? (Code.normalize (trim s)) = some c := by
  rw [listed, mem_distinct_iff fun c hc d hd hcode =>
    List.inj_on_of_nodup_map (Catalog.nodup_codes catalog) (known_of_found hc) (known_of_found hd) hcode]
  simp [List.mem_filterMap, and_assoc]

/-- A query describes a course: a filter those that pass its parts, and a list those that
some part of it is looked up to. -/
def Describes (catalog : Catalog) (query : String) (c : Course) : Prop :=
  if isFilter query then c ∈ catalog.concrete ∧ ∀ part ∈ parts query, part.admits c = true
  else ∃ s ∈ splitAt ';' query, trim s ≠ "" ∧
    catalog.get? (Code.normalize (trim s)) = some c

theorem mem_pool_iff : c ∈ pool catalog query ↔ Describes catalog query c := by
  unfold pool Describes
  split
  · rw [filtered, List.mem_filter, List.all_eq_true]
  · exact mem_listed_iff

theorem mem_of_mem_pool (h : c ∈ pool catalog query) : c ∈ catalog.courses := by
  unfold pool at h
  split at h
  · exact filtered_sublist.subset h
  · exact known_of_found (distinct_sublist.subset h)

theorem nodup_pool : (codes (pool catalog query)).Nodup := by
  unfold pool
  split
  · exact (Catalog.nodup_codes catalog).sublist (filtered_sublist.map Course.code)
  · exact nodup_distinct

end Query

/-! ## Slots -/

theorem slotCount_le_iff {target credits n : Nat} (hpos : 0 < credits) :
    slotCount target credits ≤ n ↔ target ≤ n * credits := by
  rw [slotCount, if_neg (Nat.ne_of_gt hpos), ← Nat.ceilDiv_eq_add_pred_div,
    ceilDiv_le_iff_le_mul hpos, Nat.mul_comm]

/-- No fewer slots have the credits. -/
theorem slotCount_isLeast (target : Nat) {credits : Nat} (hpos : 0 < credits) :
    IsLeast {n | target ≤ n * credits} (slotCount target credits) :=
  ⟨(slotCount_le_iff hpos).1 (Nat.le_refl _), fun _ h => (slotCount_le_iff hpos).2 h⟩

/-! ## What is planned -/

namespace Requirement

/-- What is planned for a requirement with a pool of some credits accounts for them. -/
structure Accounts (catalog : Catalog) (r : Requirement) (pool : List Course) (total : Nat)
    (planned : List PlannedCourse) : Prop where
  /-- No two courses of the pool share a code. -/
  distinct : (codes pool).Nodup
  /-- The pool is of the catalogue. -/
  known : ∀ c ∈ pool, c ∈ catalog.courses
  /-- The pool has the courses that the query describes. -/
  described : ∀ c, c ∈ pool ↔ Query.Describes catalog r.query c
  /-- Nothing is planned for an empty pool. -/
  nothing : pool = [] → planned = []
  /-- A pool of just the credits asked for is required as a whole. -/
  whole : total = r.credits →
    planned = pool.map (PlannedCourse.required · (some r.id))
  /-- For any other pool there are slots with the same placeholder, as many as it needs. -/
  slots : pool ≠ [] → total ≠ r.credits →
    ∃ count, planned =
        List.replicate count (PlannedCourse.elective (r.placeholder catalog) pool (some r.id)) ∧
      (0 < (r.placeholder catalog).credits →
        IsLeast {n | r.credits ≤ n * (r.placeholder catalog).credits} count)

theorem demand_of_whole {catalog : Catalog} {r : Requirement}
    (h : Query.pool catalog r.query = [] ∨ totalCredits (Query.pool catalog r.query) = r.credits) :
    r.demand catalog = .whole (Query.pool catalog r.query) :=
  if_pos (h.imp_left List.isEmpty_iff.2)

theorem demand_of_slots {catalog : Catalog} {r : Requirement}
    (hpool : Query.pool catalog r.query ≠ [])
    (hcredits : totalCredits (Query.pool catalog r.query) ≠ r.credits) :
    r.demand catalog = .slots (r.placeholder catalog) (Query.pool catalog r.query)
      (slotCount r.credits (r.placeholder catalog).credits) :=
  if_neg (not_or.2 ⟨fun h => hpool (List.isEmpty_iff.1 h), hcredits⟩)

theorem demand_cases (catalog : Catalog) (r : Requirement) :
    r.demand catalog = .whole (Query.pool catalog r.query) ∨
      Query.pool catalog r.query ≠ [] ∧
        r.demand catalog = .slots (r.placeholder catalog) (Query.pool catalog r.query)
          (slotCount r.credits (r.placeholder catalog).credits) := by
  by_cases h : Query.pool catalog r.query = [] ∨
      totalCredits (Query.pool catalog r.query) = r.credits
  · exact Or.inl (demand_of_whole h)
  · obtain ⟨hpool, hcredits⟩ := not_or.1 h
    exact Or.inr ⟨hpool, demand_of_slots hpool hcredits⟩

theorem accounts_totalCredits (cs : List Course) (r : Requirement) :
    r.Accounts (.ofCourses cs) (Query.pool (.ofCourses cs) r.query)
      (totalCredits (Query.pool (.ofCourses cs) r.query))
      ((r.demand (.ofCourses cs)).planned r.id) where
  distinct := Query.nodup_pool
  known _ := Query.mem_of_mem_pool
  described _ := Query.mem_pool_iff
  nothing hpool := by
    rw [demand_of_whole (Or.inl hpool), hpool]
    rfl
  whole hcredits := by
    rw [demand_of_whole (Or.inr hcredits)]
    rfl
  slots hpool hcredits := by
    rw [demand_of_slots hpool hcredits]
    exact ⟨_, rfl, slotCount_isLeast r.credits⟩

/-- A requirement is resolved so that its credits are accounted for: by the sum of its pool if
that fits, and always by what is left of the sum in its word. -/
theorem demand_accounts (cs : List Course) (r : Requirement) :
    let pool := Query.pool (.ofCourses cs) r.query
    let planned := (r.demand (.ofCourses cs)).planned r.id
    (creditSum pool < UInt32.size → r.Accounts (.ofCourses cs) pool (creditSum pool) planned) ∧
      r.Accounts (.ofCourses cs) pool (totalCredits pool) planned := by
  intro pool planned
  refine ⟨fun hfits => ?_, accounts_totalCredits cs r⟩
  have hsum : totalCredits pool = creditSum pool := Word.low32_of_lt hfits
  exact hsum ▸ accounts_totalCredits cs r

/-- One course of three credits. -/
def oneCourse : List Course := [{ code := "COSC 111", credits := 3 }]

/-- A requirement that lists the course twice. -/
def listedTwice : Requirement := { id := "r", credits := 3, year := 1, query := "COSC 111; cosc111" }

/-- A course that is listed twice has its credits once. -/
theorem demand_accounts_listedTwice :
    let pool := Query.pool (.ofCourses oneCourse) listedTwice.query
    creditSum pool = 3 ∧ listedTwice.Accounts (.ofCourses oneCourse) pool 3
      (oneCourse.map (PlannedCourse.required · (some "r"))) := by
  intro pool
  have hsum : creditSum pool = 3 := by decide +kernel
  have hplanned : (listedTwice.demand (.ofCourses oneCourse)).planned listedTwice.id
      = oneCourse.map (PlannedCourse.required · (some "r")) := by decide +kernel
  have hfits : creditSum pool < UInt32.size := hsum ▸ by decide
  have haccounts := (demand_accounts oneCourse listedTwice).1 hfits
  rw [hsum, hplanned] at haccounts
  exact ⟨hsum, haccounts⟩

end Requirement

end StudyPlan
