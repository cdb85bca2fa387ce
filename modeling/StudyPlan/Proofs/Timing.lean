import StudyPlan.Proofs.Editing

/-!
# Terms while a plan is edited

A well-timed plan stays well timed when it is edited (`WellTimed.apply`).  There is one edit
that may go wrong: a year that is added must fit into the word of 32 bits in which terms are
counted (`Edit.Fits`).  A plan with as many terms as that word can count in whole years has
none after one more year, and then no course is in a term.

So a run of requests has room in a plan if every year that it adds fits when it is added
(`Plan.RoomFor`).  These are the runs in which every plan is well timed (`roomFor_iff`).
-/

namespace StudyPlan

/-- An edit does not count terms beyond their word. -/
def Edit.Fits (plan : Plan) (edit : Edit) : Prop :=
  edit = .addYear → plan.numTerms + termsPerYear < UInt32.size

instance (plan : Plan) (edit : Edit) : Decidable (edit.Fits plan) :=
  inferInstanceAs (Decidable (edit = .addYear → plan.numTerms + termsPerYear < UInt32.size))

namespace Plan

variable {catalog : Catalog} {capacity : Nat} {edit : Edit} {plan next : Plan} {r : EditRequest}

/-- Every year that a run of requests adds to a plan fits. -/
def RoomFor (plan : Plan) : List EditRequest → Prop
  | [] => True
  | r :: rs => r.edit.Fits plan ∧ (plan.respond r).RoomFor rs

instance decidableRoomFor : ∀ (plan : Plan) (rs : List EditRequest), Decidable (plan.RoomFor rs)
  | _, [] => isTrue trivial
  | plan, r :: rs =>
    have := decidableRoomFor (plan.respond r) rs
    inferInstanceAs (Decidable (r.edit.Fits plan ∧ (plan.respond r).RoomFor rs))

/-! ## One edit -/

theorem WellTimed.shown (ht : plan.WellTimed) {id : Nat} {slot : PlannedCourse}
    (hget : plan.get? id = some slot) (course : Course) :
    (plan.update id fun p => { p with course }).WellTimed := by
  obtain ⟨-, before, after, hsplit, hupdate⟩ := updateFirst_split hget
  have hwithin := ht.within
  rw [hsplit] at hwithin
  rw [update, hupdate]
  exact ⟨ht.pos, ht.years, forall_mem_replace hwithin fun hslot => hslot⟩

theorem WellTimed.addYear (ht : plan.WellTimed)
    (hfits : plan.numTerms + termsPerYear < UInt32.size) : plan.addYear.WellTimed := by
  have hsize : plan.addYear.numTerms = plan.numTerms + termsPerYear := Word.low32_of_lt hfits
  constructor
  case pos =>
    rw [hsize]
    exact Nat.add_pos_left ht.pos _
  case years => rw [hsize, Nat.add_mod_right, ht.years]
  case within =>
    intro p hp
    have hterm := ht.within p hp
    rw [hsize]
    exact ⟨hterm.1, Nat.le_add_right_of_le hterm.2⟩

/-- An edit leaves the number of terms, or it adds a year, or it takes one out. -/
theorem apply_terms (h : plan.apply catalog capacity edit = .ok next) :
    (next.numTerms = plan.numTerms ∧ (plan.WellTimed → next.WellTimed)) ∨
      (edit = .addYear ∧ next = plan.addYear) ∨
        ∃ year, plan.Removable year ∧ next = plan.withoutYear year := by
  cases edit with
  | move id term index =>
    obtain ⟨-, hsize, -, hwithin⟩ := move_retimes h
    exact .inl ⟨hsize, fun ht => ⟨hsize ▸ ht.pos, hsize ▸ ht.years, hsize ▸ hwithin⟩⟩
  | substitute id code =>
    obtain ⟨course, -, h⟩ := apply_substitute_eq_ok_iff.1 h
    obtain ⟨slot, hslot, -, -, rfl⟩ := substitute_eq_ok_iff.1 h
    exact .inl ⟨rfl, fun ht => ht.shown hslot course⟩
  | reset id =>
    obtain ⟨slot, course, hslot, -, -, rfl⟩ := reset_eq_ok_iff.1 h
    exact .inl ⟨rfl, fun ht => ht.shown hslot course⟩
  | addYear =>
    cases h
    exact .inr (.inl ⟨rfl, rfl⟩)
  | removeYear year => exact .inr (.inr ⟨year, removeYear_eq_ok_iff.1 h⟩)
  | rename title =>
    cases h
    exact .inl ⟨rfl, fun ht => ⟨ht.pos, ht.years, ht.within⟩⟩
  | enforceOrder =>
    cases h
    refine .inl ⟨rfl, fun ht => ⟨ht.pos, ht.years, ?_⟩⟩
    -- A plan with whole years has no fewer terms than the timetable.
    have hterms : (Timetable.ofSizes plan.numTerms capacity).numTerms = plan.numTerms :=
      Nat.max_eq_left ht.termsPerYear_le
    have hwithin := Timetable.enforce_within (hterms.symm ▸ ht.pos) catalog
      (hterms.symm ▸ ht.within)
    exact hterms ▸ hwithin

theorem WellTimed.apply (ht : plan.WellTimed) (hfits : edit.Fits plan)
    (h : plan.apply catalog capacity edit = .ok next) : next.WellTimed := by
  rcases apply_terms h with ⟨-, hkeep⟩ | ⟨hadd, rfl⟩ | ⟨year, hremovable, rfl⟩
  · exact hkeep ht
  · exact ht.addYear (hfits hadd)
  · exact ht.withoutYear hremovable

theorem WellTimed.respond (ht : plan.WellTimed) (hfits : r.edit.Fits plan) :
    (plan.respond r).WellTimed := by
  unfold Plan.respond
  cases h : plan.apply r.catalog r.capacity r.edit with
  | ok next => exact ht.apply hfits h
  | error _ => exact ht

/-! ## Terms fit in their word -/

theorem apply_numTerms_lt (hsize : plan.numTerms < UInt32.size)
    (h : plan.apply catalog capacity edit = .ok next) : next.numTerms < UInt32.size := by
  rcases apply_terms h with ⟨hsame, -⟩ | ⟨-, rfl⟩ | ⟨year, -, rfl⟩
  · exact hsame ▸ hsize
  · exact Word.low32_lt _
  · exact Nat.lt_of_le_of_lt (Nat.sub_le ..) hsize

theorem respond_numTerms_lt (hsize : plan.numTerms < UInt32.size) (r : EditRequest) :
    (plan.respond r).numTerms < UInt32.size := by
  unfold respond
  cases h : plan.apply r.catalog r.capacity r.edit with
  | ok next => exact apply_numTerms_lt hsize h
  | error _ => exact hsize

theorem respondAll_numTerms_lt (hsize : plan.numTerms < UInt32.size) (rs : List EditRequest) :
    (plan.respondAll rs).numTerms < UInt32.size :=
  List.foldlRecOn rs respond (motive := fun plan => plan.numTerms < UInt32.size) hsize
    fun _ h r _ => respond_numTerms_lt h r

/-! ## Runs -/

/-- A plan with all the years that fit has no term after one more. -/
theorem fits_of_respond (ht : plan.WellTimed) (hsize : plan.numTerms < UInt32.size)
    (hnext : (plan.respond r).WellTimed) : r.edit.Fits plan := by
  intro hadd
  have hrespond : (plan.respond r).numTerms = Word.low32 (plan.numTerms + termsPerYear) := by
    rw [respond, hadd]
    rfl
  have hpos := hnext.pos
  have hyears := ht.years
  rw [hrespond, Word.low32] at hpos
  unfold termsPerYear UInt32.size at *
  omega

/-- The runs for which there is room are those in which every plan is well timed. -/
theorem roomFor_iff {rs : List EditRequest} :
    ∀ {plan : Plan}, plan.WellTimed → plan.numTerms < UInt32.size →
      (plan.RoomFor rs ↔ ∀ done, done <+: rs → (plan.respondAll done).WellTimed) := by
  induction rs with
  | nil =>
    intro plan ht _
    refine ⟨fun _ done hdone => ?_, fun _ => trivial⟩
    rw [List.prefix_nil.1 hdone]
    exact ht
  | cons r rs ih =>
    intro plan ht hsize
    constructor
    · rintro ⟨hfits, hroom⟩ done hdone
      cases done with
      | nil => exact ht
      | cons q done =>
        obtain ⟨rfl, htail⟩ := List.cons_prefix_cons.1 hdone
        exact (ih (ht.respond hfits) (respond_numTerms_lt hsize q)).1 hroom done htail
    · intro h
      have hone : (plan.respond r).WellTimed :=
        h [r] (List.cons_prefix_cons.2 ⟨rfl, List.nil_prefix⟩)
      refine ⟨fits_of_respond ht hsize hone, ?_⟩
      refine (ih hone (respond_numTerms_lt hsize r)).2 fun done hdone => ?_
      exact h (r :: done) (List.cons_prefix_cons.2 ⟨rfl, hdone⟩)

end Plan

end StudyPlan
