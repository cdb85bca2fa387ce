import StudyPlan.Proofs.Placement

/-!
# What a search passes over

`Placed` says where a course may get to.  It does not say why the course did not get
somewhere better, and that is what this module is about.  A range of terms is *crowded* if
no winter term of it that the course may be taken in has room.  `Fitted` lists the three
ways in which a course is fitted in, each with the ranges that were found crowded.

* offered: a winter term that suits the course.  It is crowded from the first term
  that was looked at up to there.
* unoffered: a winter term that does not suit the course.  No winter term suits it
  and has room, and no winter term up to there has room at all.
* overflow: a summer term.  No winter term has room.

Crowded is said of any count of the courses in a term, and not of the loads that the search
has seen.  So it stays true while terms get fuller (`Fitted.mono`).

In a timetable that ends in summer, overflows are in summer terms and the other places are
in winter terms (`place_overflows_iff`, `placeAfter_overflows_iff`).
-/

namespace StudyPlan

namespace Timetable

/-! ## Searches -/

theorem firstFrom_minimal {p : Nat → Bool} {s r : Nat} :
    ∀ {count term : Nat}, firstFrom p count term = some s → term ≤ r → r < s → p r = false
  | 0, _, h, _, _ => nomatch h
  | count + 1, term, h, hle, hlt => by
    by_cases hp : p term = true
    · rw [firstFrom, if_pos hp, Option.some.injEq] at h
      omega
    · rw [firstFrom, if_neg hp] at h
      cases Nat.eq_or_lt_of_le hle with
      | inl heq => exact heq ▸ Bool.eq_false_iff.2 hp
      | inr hgt => exact firstFrom_minimal h hgt hlt

theorem firstFrom_none {p : Nat → Bool} {r : Nat} :
    ∀ {count term : Nat}, firstFrom p count term = none → term ≤ r → r < term + count → p r = false
  | 0, _, _, hle, hlt => by omega
  | count + 1, term, h, hle, hlt => by
    by_cases hp : p term = true
    · rw [firstFrom, if_pos hp] at h
      cases h
    · rw [firstFrom, if_neg hp] at h
      cases Nat.eq_or_lt_of_le hle with
      | inl heq => exact heq ▸ Bool.eq_false_iff.2 hp
      | inr hgt => exact firstFrom_none h hgt (by omega)

/-! ## Crowded terms -/

/-- No winter term from a term on and before another has room, of those that suit. -/
def Crowded (t : Timetable) (load : Nat → Nat) (suits : Nat → Bool) (first past : Nat) : Prop :=
  ∀ s, first ≤ s → s < past → Term.isStart s = true → suits s = true → t.capacity ≤ load s

/-- A winter term does for any course. -/
def anyTerm (_ : Nat) : Bool := true

/-- The ways in which a course is fitted in from a term on. -/
inductive Fitted (t : Timetable) (load : Nat → Nat) (c : Course) (earliest : Nat) : Spot → Prop
  /-- In the first winter term with room that suits the course. -/
  | offered {s : Nat} (hw : Term.isStart s = true) (hfits : c.fits s = true)
      (hbefore : t.Crowded load c.fits earliest s) : Fitted t load c earliest ⟨s, false⟩
  /-- In the first winter term with room, as none suits the course. -/
  | unoffered {s : Nat} (hw : Term.isStart s = true) (hfits : c.fits s = false)
      (hoffered : t.Crowded load c.fits earliest (t.numTerms + 1))
      (hbefore : t.Crowded load anyTerm earliest s) : Fitted t load c earliest ⟨s, false⟩
  /-- In a summer term, as no winter term has room. -/
  | overflow {s : Nat} (hw : Term.isStart s = false)
      (hall : t.Crowded load anyTerm earliest (t.numTerms + 1)) : Fitted t load c earliest ⟨s, true⟩

variable {t : Timetable} {load more : Nat → Nat} {loads : Loads} {c : Course}
  {earliest first past : Nat} {spot : Spot}

theorem Crowded.mono {suits : Nat → Bool} (h : t.Crowded load suits first past)
    (hmore : ∀ s, load s ≤ more s) : t.Crowded more suits first past :=
  fun s hle hlt hw hs => Nat.le_trans (h s hle hlt hw hs) (hmore s)

theorem Fitted.mono (h : t.Fitted load c earliest spot) (hmore : ∀ s, load s ≤ more s) :
    t.Fitted more c earliest spot := by
  cases h with
  | offered hw hfits hbefore => exact .offered hw hfits (hbefore.mono hmore)
  | unoffered hw hfits hoffered hbefore =>
    exact .unoffered hw hfits (hoffered.mono hmore) (hbefore.mono hmore)
  | overflow hw hall => exact .overflow hw (hall.mono hmore)

/-- Exactly the overflows are in summer. -/
theorem Fitted.overflows_iff (h : t.Fitted load c earliest spot) :
    spot.overflows = true ↔ Term.isStart spot.term = false := by
  cases h with
  | offered hw _ _ => simp [hw]
  | unoffered hw _ _ _ => simp [hw]
  | overflow hw _ => simp [hw]

/-! ## Placing -/

theorem isStart_pos {s : Nat} (h : Term.isStart s = true) : 1 ≤ s := by
  simp only [Term.isStart, Bool.and_eq_true, decide_eq_true_eq] at h
  exact h.1

theorem hasRoom_eq_false {s : Nat} : t.hasRoom loads s = false ↔ t.capacity ≤ loads.get s := by
  simp [hasRoom]

/-- A range is crowded where a search from the first term of it has found nothing. -/
theorem crowded_of_search {suits : Nat → Bool}
    (h : ∀ s, Max.max earliest 1 ≤ s → s < past →
      (Term.isStart s && t.hasRoom loads s && suits s) = false) :
    t.Crowded loads.get suits earliest past := by
  intro s hle hlt hw hs
  have hnone := h s (Nat.max_le.2 ⟨hle, isStart_pos hw⟩) hlt
  rw [hw, hs, Bool.true_and, Bool.and_true] at hnone
  exact hasRoom_eq_false.1 hnone

/-- The searches go as far as the last term. -/
theorem lt_of_le_numTerms {s : Nat} (hle : Max.max earliest 1 ≤ s) (hlt : s < t.numTerms + 1) :
    s < Max.max earliest 1 + t.termsFrom (Max.max earliest 1) := by
  unfold termsFrom
  omega

/-- There is no room in a winter term that suits, where all of these are crowded. -/
theorem Roomy.not_crowded {suits : Nat → Bool} {s : Nat} (hs : t.Roomy loads earliest s)
    (hw : Term.isStart s = true) (hsuits : suits s = true) :
    ¬ t.Crowded loads.get suits earliest (t.numTerms + 1) := fun h =>
  Nat.not_lt.2 (h s hs.earliest_le (Nat.lt_succ_of_le hs.le) hw hsuits) hs.room

theorem overflowTerm_not_start (hlast : Term.isStart t.numTerms = false)
    (hall : t.Crowded loads.get anyTerm earliest (t.numTerms + 1)) :
    Term.isStart (t.overflowTerm loads earliest) = false := by
  simp only [overflowTerm]
  cases hlate : lastFrom (t.hasRoom loads) (t.termsFrom (Max.max earliest 1))
      (Max.max earliest 1) with
  | none => exact hlast
  | some s =>
    obtain ⟨hle, hlt, hroom⟩ := lastFrom_spec hlate
    exact Bool.eq_false_iff.2 fun hw => (roomy_of_search hle hlt hroom).not_crowded hw rfl hall

/-- A course is fitted in where it is placed. -/
theorem place_fitted (hlast : Term.isStart t.numTerms = false) (loads : Loads) (c : Course)
    (earliest : Nat) : t.Fitted loads.get c earliest (t.place loads c earliest) := by
  unfold place
  cases hoffered : t.offeredTerm? loads c earliest with
  | some s =>
    obtain ⟨-, -, hs⟩ := firstFrom_spec hoffered
    simp only [Bool.and_eq_true] at hs
    exact .offered hs.1.1 hs.2 (crowded_of_search fun r => firstFrom_minimal hoffered)
  | none =>
    have hnone : t.Crowded loads.get c.fits earliest (t.numTerms + 1) :=
      crowded_of_search fun r hle hlt => firstFrom_none hoffered hle (lt_of_le_numTerms hle hlt)
    simp only
    cases hwinter : t.winterTerm? loads earliest with
    | some s =>
      obtain ⟨hle, hlt, hs⟩ := firstFrom_spec hwinter
      simp only [Bool.and_eq_true] at hs
      refine .unoffered hs.1 (Bool.eq_false_iff.2 fun hfits => ?_) hnone
        (crowded_of_search fun r hle hlt => ?_)
      · exact (roomy_of_search hle hlt hs.2).not_crowded hs.1 hfits hnone
      · rw [anyTerm, Bool.and_true]
        exact firstFrom_minimal hwinter hle hlt
    | none =>
      have hall : t.Crowded loads.get anyTerm earliest (t.numTerms + 1) :=
        crowded_of_search fun r hle hlt => by
          rw [anyTerm, Bool.and_true]
          exact firstFrom_none hwinter hle (lt_of_le_numTerms hle hlt)
      exact .overflow (overflowTerm_not_start hlast hall) hall

theorem place_overflows_iff (hlast : Term.isStart t.numTerms = false) :
    (t.place loads c earliest).overflows = true ↔
      Term.isStart (t.place loads c earliest).term = false :=
  (place_fitted hlast loads c earliest).overflows_iff

theorem placeAfter_overflows_iff (hlast : Term.isStart t.numTerms = false) {latest : Nat} :
    (t.placeAfter loads c latest).overflows = true ↔
      Term.isStart (t.placeAfter loads c latest).term = false := by
  unfold placeAfter
  split
  · simp [hlast]
  · exact place_overflows_iff hlast

end Timetable

end StudyPlan
