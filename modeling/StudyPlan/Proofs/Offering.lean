import StudyPlan.Plan.Substitutes
import StudyPlan.Proofs.Editing

/-!
# What is offered for a slot

The substitutes that are listed for an elective slot come of its pool, no other planned
course shows them, and each of them may be put in (`Offers.sound`).  A search that gets an
answer leaves out none of the free courses that mention it (`Offers.complete`), and the
listing neither repeats a course nor drops a repetition (`Offers.multiplicity`): ordering by
similarity is a permutation whatever the similarities are (`bySimilarity_perm`).

A choice slot answers every search, and lists its whole pool, in the order of the pool, where
nothing is searched.  Any other slot answers a search of more than three characters only.
-/

namespace StudyPlan

open Text

namespace Plan

variable {plan : Plan} {slot : PlannedCourse} {search : Option String} {q : String} {c : Course}
  {offered : List Course}

/-! ## The offer -/

/-- What is searched for: the text without blanks around it and in small letters, empty where
there is no text. -/
def searched (search : Option String) : String :=
  (search.map fun s => lower (trim s)).getD ""

/-- A slot answers a search. -/
def Answered (slot : PlannedCourse) (search : Option String) : Prop :=
  slot.electiveKind = some .choice ∨ minSearch < (searched search).length

/-- A course has the search in its code or its name, in small letters. -/
def Mentions (search : Option String) (c : Course) : Prop :=
  (searched search).toList <:+: (lower c.code).toList ∨
    (searched search).toList <:+: (lower c.name).toList

/-- No planned course but the slot shows the code of a course. -/
def Free (plan : Plan) (slot : PlannedCourse) (c : Course) : Prop :=
  ∀ p ∈ plan.courses, p ≠ slot → p.code ≠ c.code

instance (plan : Plan) (slot : PlannedCourse) : DecidablePred (Free plan slot) := fun c =>
  inferInstanceAs (Decidable (∀ p ∈ plan.courses, p ≠ slot → p.code ≠ c.code))

/-- A list of courses is what a search may offer for a slot. -/
structure Offers (plan : Plan) (slot : PlannedCourse) (search : Option String)
    (offered : List Course) : Prop where
  /-- What is offered is in the pool and free, and may be put in. -/
  sound : ∀ c ∈ offered, c ∈ slot.pool ∧ plan.Free slot c ∧
    plan.substitute slot.id c = .ok (plan.update slot.id fun p => { p with course := c })
  /-- What is offered is offered as often as it is in the pool. -/
  multiplicity : ∀ c ∈ offered, offered.count c = slot.pool.count c
  /-- An answered search offers all that is free and mentions it. -/
  complete : Answered slot search →
    ∀ c ∈ slot.pool, plan.Free slot c → Mentions search c → c ∈ offered
  /-- Without a search, a choice slot offers all that is free, in the order of the pool. -/
  whole : slot.electiveKind = some .choice → searched search = "" →
    offered = slot.pool.filter (plan.Free slot ·)
  /-- A search that is not answered offers nothing. -/
  silent : ¬ Answered slot search → offered = []

/-! ## The listing -/

theorem bySimilarity_perm (search : String) (courses : List Course) :
    (bySimilarity search courses).Perm courses := by
  unfold bySimilarity
  have hscored : (courses.map fun c => (searchScore search c, c)).map (·.2) = courses := by
    rw [List.map_map]
    exact List.map_id _
  have hsorted := (List.mergeSort_perm (courses.map fun c => (searchScore search c, c)) fun x y =>
    if y.1.lt x.1 then true else if x.1.lt y.1 then false
    else decide (x.2.code ≤ y.2.code)).map (·.2)
  rw [hscored] at hsorted
  exact hsorted

theorem cleanSearch_eq (search : Option String) :
    cleanSearch search = if searched search = "" then none else some (searched search) := by
  cases search with
  | none => rfl
  | some s =>
    by_cases h : lower (trim s) = ""
    · simp [cleanSearch, searched, h]
    · simp [cleanSearch, searched, h]

/-- What is listed: all that is available, or what matches of it by similarity, or
nothing. -/
theorem substitutes_cases (hget : plan.get? slot.id = some slot)
    (helective : slot.isElective = true) (search : Option String) :
    (slot.electiveKind = some .choice ∧ searched search = "" ∧
      plan.substitutes slot.id search = .ok (plan.available slot)) ∨
    (Answered slot search ∧ searched search ≠ "" ∧
      plan.substitutes slot.id search = .ok (bySimilarity (searched search)
        ((plan.available slot).filter (matchesSearch (searched search))))) ∨
    (¬ Answered slot search ∧ plan.substitutes slot.id search = .ok []) := by
  unfold substitutes Answered
  simp only [hget, helective, Bool.not_true, Bool.false_eq_true, if_false, cleanSearch_eq]
  by_cases hblank : searched search = ""
  · by_cases hchoice : slot.electiveKind = some .choice
    · exact Or.inl ⟨hchoice, hblank, by simp [hblank, hchoice]⟩
    · refine Or.inr (Or.inr ⟨?_, by simp [hblank, hchoice]⟩)
      simp [hblank, hchoice]
  · by_cases hanswered : slot.electiveKind = some .choice ∨ minSearch < (searched search).length
    · exact Or.inr (Or.inl ⟨hanswered, hblank, by simp only [hblank, hanswered, if_false, if_true]⟩)
    · exact Or.inr (Or.inr ⟨hanswered, by simp only [hblank, hanswered, if_false]⟩)

section Slot

variable (hids : (plan.courses.map (·.id)).Nodup) (hslot : slot ∈ plan.courses)
include hids hslot

theorem holdsCode_eq_false_iff :
    plan.holdsCode c.code (some slot.id) = false ↔ plan.Free slot c := by
  have hself : ∀ p ∈ plan.courses, p.id = slot.id → p = slot := fun p hp hid =>
    List.inj_on_of_nodup_map hids hp hslot hid
  constructor
  · intro h p hp hne
    exact code_ne_of_not_holdsCode h p hp fun hid => hne (hself p hp hid)
  · intro h
    refine List.any_eq_false.2 fun p hp hheld => ?_
    simp only [Bool.and_eq_true, bne_iff_ne, ne_eq, Option.some.injEq, beq_iff_eq] at hheld
    exact h p hp (fun heq => hheld.1 (congrArg _ heq)) hheld.2

theorem available_eq : plan.available slot = slot.pool.filter (plan.Free slot ·) := by
  refine List.filter_congr fun c _ => ?_
  rw [Bool.eq_iff_iff, Bool.not_eq_true', decide_eq_true_eq, holdsCode_eq_false_iff hids hslot]

/-- What is listed of what is available is sound, and listed as often as it is in the pool. -/
theorem sound_of_perm (helective : slot.isElective = true) {p : Course → Bool}
    (hperm : offered.Perm ((plan.available slot).filter p)) (hc : c ∈ offered) :
    (c ∈ slot.pool ∧ plan.Free slot c ∧
      plan.substitute slot.id c = .ok (plan.update slot.id fun p => { p with course := c })) ∧
    offered.count c = slot.pool.count c := by
  obtain ⟨havailable, hp⟩ := List.mem_filter.1 (hperm.mem_iff.1 hc)
  obtain ⟨hpool, hnot⟩ := List.mem_filter.1 havailable
  have hheld : plan.holdsCode c.code (some slot.id) = false := by simpa using hnot
  refine ⟨⟨hpool, (holdsCode_eq_false_iff hids hslot).1 hheld, ?_⟩, ?_⟩
  · exact substitute_eq_ok_iff.2 ⟨slot, find?_of_nodup hids hslot, helective, hheld, rfl⟩
  · rw [hperm.count_eq, List.count_filter hp, available, @List.count_filter _ _ _ _ c _ hnot]

end Slot

theorem matchesSearch_of_mentions (h : Mentions search c) :
    matchesSearch (searched search) c = true := by
  unfold matchesSearch contains
  cases h with
  | inl hcode => rw [occursIn_iff.2 hcode, Bool.true_or, Bool.true_or]
  | inr hname => rw [occursIn_iff.2 hname, Bool.or_true, Bool.true_or]

/-- Every search for an elective slot gets an offer. -/
theorem substitutes_offers (plan : Plan) (slot : PlannedCourse)
    (hids : (plan.courses.map (·.id)).Nodup) (hslot : slot ∈ plan.courses)
    (helective : slot.isElective = true) (search : Option String) :
    ∃ offered, plan.substitutes slot.id search = .ok offered ∧
      Offers plan slot search offered := by
  have havailable := available_eq hids hslot
  rcases substitutes_cases (find?_of_nodup hids hslot) helective search with
    ⟨hchoice, hblank, hlisted⟩ | ⟨hanswered, hsearch, hlisted⟩ | ⟨hnot, hlisted⟩
  · have hperm : (plan.available slot).Perm ((plan.available slot).filter fun _ => true) := by
      rw [List.filter_true]
    refine ⟨_, hlisted, {
      sound := fun c hc => (sound_of_perm hids hslot helective hperm hc).1
      multiplicity := fun c hc => (sound_of_perm hids hslot helective hperm hc).2
      complete := fun _ c hc hfree _ => ?_
      whole := fun _ _ => havailable
      silent := fun hnot => absurd (Or.inl hchoice) hnot }⟩
    rw [havailable]
    exact List.mem_filter.2 ⟨hc, decide_eq_true hfree⟩
  · have hperm := bySimilarity_perm (searched search)
      ((plan.available slot).filter (matchesSearch (searched search)))
    refine ⟨_, hlisted, {
      sound := fun c hc => (sound_of_perm hids hslot helective hperm hc).1
      multiplicity := fun c hc => (sound_of_perm hids hslot helective hperm hc).2
      complete := fun _ c hc hfree hmentions => ?_
      whole := fun _ hblank => absurd hblank hsearch
      silent := fun hnot => absurd hanswered hnot }⟩
    rw [hperm.mem_iff, havailable]
    exact List.mem_filter.2
      ⟨List.mem_filter.2 ⟨hc, decide_eq_true hfree⟩, matchesSearch_of_mentions hmentions⟩
  · exact ⟨[], hlisted, {
      sound := fun _ hc => absurd hc List.not_mem_nil
      multiplicity := fun _ hc => absurd hc List.not_mem_nil
      complete := fun hanswered => absurd hanswered hnot
      whole := fun hchoice => absurd (Or.inl hchoice) hnot
      silent := fun _ => rfl }⟩

/-- A course on databases. -/
def databases : Course := { code := "COSC 304", name := "Introduction to Databases", credits := 3 }

/-- A slot whose pool has a course on programming, and twice the one on databases. -/
def browsedSlot : PlannedCourse :=
  { PlannedCourse.elective Catalog.genericElective
      [databases, { code := "COSC 111", name := "Programming", credits := 3 }, databases]
      (some "later") with id := 2 }

/-- A plan with the slot, in which the course on programming is planned. -/
def browsed : Plan :=
  { id := "plan", title := "Plan", numTerms := 4, nextId := 3
    courses :=
      [{ PlannedCourse.required { code := "COSC 111", credits := 3 } none with id := 1 },
        browsedSlot] }

/-- A search for databases offers the course as often as the pool has it. -/
theorem substitutes_offers_browsed :
    (browsed.courses.map (·.id)).Nodup ∧ browsedSlot ∈ browsed.courses ∧
      browsedSlot.isElective = true ∧
      ∃ offered, browsed.substitutes 2 (some " DATAbase ") = .ok offered ∧
        Offers browsed browsedSlot (some " DATAbase ") offered ∧ offered.count databases = 2 := by
  have hids : (browsed.courses.map (·.id)).Nodup := by decide
  have hslot : browsedSlot ∈ browsed.courses := by decide
  obtain ⟨offered, hlisted, hoffers⟩ :=
    substitutes_offers browsed browsedSlot hids hslot rfl (some " DATAbase ")
  have hanswered : Answered browsedSlot (some " DATAbase ") := Or.inr (by decide +kernel)
  have hmentions : Mentions (some " DATAbase ") databases := Or.inr (by decide +kernel)
  have hmem : databases ∈ offered :=
    hoffers.complete hanswered databases (by decide) (by decide) hmentions
  refine ⟨hids, hslot, rfl, offered, hlisted, hoffers, ?_⟩
  rw [hoffers.multiplicity databases hmem]
  decide

end Plan

end StudyPlan
