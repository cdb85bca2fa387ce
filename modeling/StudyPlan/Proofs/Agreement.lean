import StudyPlan.Plan.Check
import StudyPlan.Proofs.Lookup
import StudyPlan.Proofs.Reasons
import StudyPlan.Proofs.Settling

/-!
# Scheduling agrees with checking

Scheduling moves a course after the latest planned course of each code that it asks
for, by the codes that the catalogue gathered.  Checking walks through the course's
tree and looks for the earliest planned course of each code, spelled anew.  The two
agree where courses come from a catalogue of ASCII codes and prerequisites do not
run in a circle.

A node that asks for a course names a code of the tree (`Node.mem_codeList`), so that
every planned course of this code is a prerequisite of the judged one, unless it is
the judged course's own code (`edge_of_node`).  All of them are then earlier, if the
judged course is not reported (`Timed.term_lt`), and so is the earliest of them.
Hence a course that is missed is the judged course itself or not in the plan.

Reasons are texts, and the warning of an unknown rule ends in the rule's name.  As
names are read in upper case, it does not read like the reason of a missed course
(`not_unread_of_decode?`, `unread_of_getLast?`).
-/

namespace StudyPlan

open Prereq

/-! ## The earliest term of a code -/

/-- The terms in which a code is planned. -/
theorem Plan.mem_plannedTerms {plan : Plan} {code : String} {s : Nat} :
    s ∈ (plan.courses.filter (·.code == code)).map (·.term) ↔
      ∃ q ∈ plan.courses, q.code = code ∧ q.term = s := by
  simp only [List.mem_map, List.mem_filter, beq_iff_eq, and_assoc]

/-- A code is taken before a term if it is planned, and only before the term. -/
theorem Plan.takenBefore_of_forall {plan : Plan} {term : Nat} {code : String}
    (hex : ∃ q ∈ plan.courses, q.code = Code.normalize code)
    (hall : ∀ q ∈ plan.courses, q.code = Code.normalize code → q.term < term) :
    Setting.takenBefore ⟨term, plan.plannedTerm?⟩ code = true := by
  obtain ⟨q, hq, hcode⟩ := hex
  obtain ⟨s, hs⟩ : ∃ s, plan.plannedTerm? (Code.normalize code) = some s :=
    Option.isSome_iff_exists.1
      (List.isSome_min?_of_mem (Plan.mem_plannedTerms.2 ⟨q, hq, hcode, rfl⟩))
  obtain ⟨q', hq', hcode', rfl⟩ := Plan.mem_plannedTerms.1 (List.min?_mem hs)
  simp only [Setting.takenBefore, hs]
  exact decide_eq_true (hall q' hq' hcode')

namespace Timetable

/-! ## Courses of a catalogue -/

/-- The tree of a planned course. -/
def treeOf (p : PlannedCourse) : Node := p.course.prerequisites.getD .free

/-- A code that a tree asks for is one of the codes of its course, unless it is the
course's own. -/
theorem mem_prerequisiteCodes {p : PlannedCourse} {m : Node} {code : String}
    (hm : m ∈ (treeOf p).nodes) (hrule : m.rule = some .course) (htext : m.text? = some code)
    (hown : Code.normalize code ≠ p.code) :
    Code.normalize code ∈ p.course.prerequisiteCodes := by
  have hcode : m.ownCode? = some (Code.normalize code) := by
    rw [Node.ownCode?, if_pos hrule, htext]
    rfl
  have htree := Node.mem_codeList hcode hm
  unfold treeOf at htree
  refine CodeSet.mem_erase.2 ⟨CodeSet.mem_union.2 (Or.inl ?_), hown⟩
  cases hp : p.course.prerequisites with
  | none =>
    rw [hp] at htree
    exact nomatch htree
  | some n =>
    rw [hp] at htree
    exact CodeSet.mem_ofList.2 htree

/-- Every planned course of a code that a tree asks for is a prerequisite of the
tree's course. -/
theorem edge_of_node {cs : List Course} (hascii : ∀ c ∈ cs, Code.IsAscii c.code.toList)
    {courses : List PlannedCourse} {i j : Nat} {p q : PlannedCourse}
    (hq : courses[i]? = some q) (hp : courses[j]? = some p)
    (hcourse : p.course ∈ (Catalog.ofCourses cs).courses) (hfree : Precedence.isFree p = false)
    {m : Node} {code : String} (hm : m ∈ (treeOf p).nodes) (hrule : m.rule = some .course)
    (htext : m.text? = some code) (hown : Code.normalize code ≠ p.code)
    (hheld : q.code = Code.normalize code) :
    (Precedence.ofCourses (Catalog.ofCourses cs) courses).Edge i j := by
  refine Precedence.edge_ofCourses.2 ⟨q, p, hq, hp, ?_, hfree, ?_⟩
  · rintro rfl
    obtain rfl : q = p := Option.some.inj (hq.symm.trans hp)
    exact hown hheld.symm
  · rw [Precedence.codesFor_of_mem hascii hcourse, hheld]
    exact mem_prerequisiteCodes hm hrule htext hown

/-! ## Both ways of giving terms -/

/-- The ways in which courses get their terms, with the courses that are reported. -/
inductive Timed (t : Timetable) (catalog : Catalog) (courses : List PlannedCourse) :
    List PlannedCourse → List Nat → Prop
  /-- They are given new terms. -/
  | schedule (requirements : List Requirement) (source : Chance.Source) :
      Timed t catalog courses (t.schedule catalog requirements courses source).1
        (t.schedule catalog requirements courses source).2.1.clamped
  /-- The order of their terms is enforced. -/
  | enforce : Timed t catalog courses (t.enforce catalog courses).1
      (t.enforce catalog courses).2.clamped

variable {t : Timetable} {catalog : Catalog} {courses out : List PlannedCourse}
  {clamped : List Nat}

theorem Timed.eq_withTerms (h : t.Timed catalog courses out clamped) :
    ∃ terms loads, terms.length = courses.length ∧
      out = withTerms courses (t.settle catalog courses terms loads).terms ∧
        ∀ id ∈ (t.settle catalog courses terms loads).report.clamped, id ∈ clamped := by
  cases h with
  | schedule requirements source =>
    exact ⟨_, _, length_placeAll t requirements courses source, rfl,
      fun id hid => mem_mergeIds.2 (Or.inr hid)⟩
  | enforce => exact ⟨_, _, List.length_map .., rfl, fun _ hid => hid⟩

/-- A course with its new term is the course at the same position but for its term. -/
theorem Timed.getElem? (h : t.Timed catalog courses out clamped) {i : Nat} {q : PlannedCourse}
    (hq : out[i]? = some q) : ∃ p, courses[i]? = some p ∧ q = { p with term := q.term } := by
  obtain ⟨terms, loads, -, rfl, -⟩ := h.eq_withTerms
  obtain ⟨p, s, hp, -, rfl⟩ := List.getElem?_zipWith_eq_some.1 hq
  exact ⟨p, hp, rfl⟩

/-- Without circles, prerequisites are earlier than a course that is not reported. -/
theorem Timed.term_lt (h : t.Timed catalog courses out clamped)
    (ha : (Precedence.ofCourses catalog courses).Acyclic) {i j : Nat} {p q : PlannedCourse}
    (he : (Precedence.ofCourses catalog courses).Edge i j) (hq : out[i]? = some q)
    (hp : out[j]? = some p) (hclamped : p.id ∉ clamped) : q.term < p.term := by
  obtain ⟨terms, loads, hlen, rfl, hsub⟩ := h.eq_withTerms
  have hi := (Precedence.ofCourses_bounded catalog courses he).1
  have hsettled : t.Settled courses (t.settle catalog courses terms loads) i j :=
    settle_settled hlen ⟨he, Or.inl ha⟩
  obtain ⟨q', p', hq', hp', hlt⟩ := hsettled.withTerms hi
  obtain rfl : q' = q := Option.some.inj (hq'.symm.trans hq)
  obtain rfl : p' = p := Option.some.inj (hp'.symm.trans hp)
  exact hlt.resolve_right fun ⟨_, hmem⟩ => hclamped (hsub _ hmem)

/-! ## What is missed -/

/-- The rule of a node is one that no name is read as. -/
def Unread (n : Node) : Prop :=
  ∃ name, n.rule = some (.unknown name) ∧ ∀ s, Rule.ofName s ≠ .unknown name

theorem of_optional?_eq_some {α : Type} {fields : Json.Document.Fields} {key : String}
    {f : Json.Document → Option α} {a : α} (h : fields.optional? key f = some (some a)) :
    ∃ d, f d = some a := by
  unfold Json.Document.Fields.optional? Json.Document.Fields.withDefault? at h
  cases hlookup : fields.lookup key with
  | none =>
    rw [hlookup] at h
    cases h
  | some d =>
    simp only [hlookup, Json.Document.optional?] at h
    split at h
    · cases h
    · obtain ⟨b, hb, heq⟩ := Option.map_eq_some_iff.1 h
      exact ⟨_, hb.trans heq⟩

/-- Every rule that a document spells is read from a name. -/
theorem not_unread_of_decode? {depth : Nat} {d : Json.Document} {n : Node}
    (h : Node.decode? depth d = some n) : ¬ Unread n := by
  rintro ⟨name, hrule, hunread⟩
  cases depth with
  | zero =>
    rw [Node.decode?] at h
    cases h
  | succ depth =>
    rw [Node.decode?] at h
    simp only [Option.bind_eq_bind, Option.bind_eq_some_iff, Option.pure_def,
      Option.some.injEq] at h
    obtain ⟨fields, -, kind, -, rule, hread, value, -, children, -, rfl⟩ := h
    simp only at hrule
    rw [hrule] at hread
    obtain ⟨e, he⟩ := of_optional?_eq_some hread
    obtain ⟨s, -, hs⟩ := Option.map_eq_some_iff.1 he
    exact hunread s hs

theorem eq_upper_of_ofName {s name : String} (h : Rule.ofName s = .unknown name) :
    name = Text.upper (Text.trim s) := by
  have hknown : ∀ r ∈ Rule.names, r.2.isKnown = true := by decide
  unfold Rule.ofName at h
  cases hlookup : Rule.names.lookup (Text.upper (Text.trim s)) with
  | none =>
    simp only [hlookup, Option.getD_none, Rule.unknown.injEq] at h
    exact h.symm
  | some r =>
    simp only [hlookup, Option.getD_some] at h
    obtain ⟨before, after, heq, -⟩ := List.lookup_eq_some_iff.1 hlookup
    have hmem : (Text.upper (Text.trim s), r) ∈ Rule.names :=
      heq ▸ List.mem_append_right _ (List.mem_cons_self ..)
    have hr := hknown _ hmem
    rw [h] at hr
    exact Bool.noConfusion hr

/-- Names are read in upper case. -/
theorem unread_of_getLast? {n : Node} {name : String} (hrule : n.rule = some (.unknown name))
    (hlast : name.toList.getLast? = some 'n') : Unread n := by
  refine ⟨name, hrule, fun s hs => ?_⟩
  rw [eq_upper_of_ofName hs] at hlast
  exact Code.not_small_of_mem_upper (List.mem_of_getLast? hlast) (by unfold Code.IsSmall; decide)

theorem getLast?_append {a b : String} (h : b.toList ≠ []) :
    (a ++ b).toList.getLast? = b.toList.getLast? := by
  rw [String.toList_append, List.getLast?_append_of_ne_nil _ h]

/-- A reason that a code is not in the plan is about a node that asks for the code. -/
theorem asks_of_missing {s : Setting} {n : Node} {code : String}
    (h : code ++ " is not in plan" ∈ (evaluate s n).reasons) :
    (∃ m ∈ n.nodes, m.rule = some .course ∧ m.text? = some code ∧ s.takenBefore code = false) ∨
      Unread n := by
  have hlast : (code ++ " is not in plan").toList.getLast? = some 'n' :=
    getLast?_append (by decide)
  generalize hreason : code ++ " is not in plan" = reason at h hlast
  -- No other reason ends in this letter, but for the name of a rule.
  cases explains_or_warns h with
  | inl hexplains =>
    cases hexplains with
    | missing hm hrule htext htaken =>
      obtain rfl := (String.append_left_inj _).1 hreason
      exact Or.inl ⟨_, hm, hrule, htext, htaken⟩
    | early y =>
      rw [getLast?_append (by decide)] at hlast
      exact absurd hlast (by decide)
    | few needed held =>
      rw [getLast?_append (by decide)] at hlast
      exact absurd hlast (by decide)
  | inr hwarns =>
    cases hwarns with
    | noCode => exact absurd hlast (by decide)
    | noYear => exact absurd hlast (by decide)
    | noThreshold => exact absurd hlast (by decide)
    | @unknown name hrule =>
      by_cases hname : name.toList = []
      · rw [String.toList_append, hname, List.append_nil] at hlast
        exact absurd hlast (by decide)
      · rw [getLast?_append hname] at hlast
        exact Or.inr (unread_of_getLast? hrule hlast)

/-! ## Agreement -/

/-- Checking a plan misses no planned course, for the courses that are not reported
and do not stand for one that is still to be chosen. -/
structure Agrees (plan : Plan) (clamped : List Nat) : Prop where
  /-- What asks for another planned course is met. -/
  satisfied : ∀ p ∈ plan.courses, p.id ∉ clamped → Precedence.isFree p = false →
    ∀ m ∈ (treeOf p).nodes, m.rule = some .course →
      ∀ code, m.text? = some code → Code.normalize code ≠ p.code →
        (∃ q ∈ plan.courses, q.code = Code.normalize code) →
          (evaluate ⟨p.term, plan.plannedTerm?⟩ m).status = .satisfied
  /-- What is missed is the course itself or not in the plan.  Only the name of a rule
  that no text spells could make a warning look like a missed code. -/
  missing : ∀ (i : Nat) (p : PlannedCourse) (row : CourseCheck), plan.courses[i]? = some p →
    plan.check[i]? = some row → p.id ∉ clamped → Precedence.isFree p = false →
      ∀ code : String, code ++ " is not in plan" ∈ row.verdict.reasons →
        Code.normalize code = p.code ∨ (∀ q ∈ plan.courses, q.code ≠ Code.normalize code) ∨
          Unread (treeOf p)

theorem satisfied_of_takenBefore {s : Setting} {m : Node} {code : String}
    (hrule : m.rule = some .course) (htext : m.text? = some code)
    (h : s.takenBefore code = true) : (evaluate s m).status = .satisfied := by
  simp only [evaluate_eq, judge, hrule, judgeCourse, htext, h, if_true]
  rfl

/-- Another planned course that a tree asks for is taken before the tree's course. -/
theorem Timed.takenBefore {cs : List Course} {plan : Plan}
    (hascii : ∀ c ∈ cs, Code.IsAscii c.code.toList)
    (hplan : ∀ p ∈ plan.courses, p.course ∈ (Catalog.ofCourses cs).courses)
    (ha : (Precedence.ofCourses (Catalog.ofCourses cs) plan.courses).Acyclic)
    (h : t.Timed (Catalog.ofCourses cs) plan.courses out clamped)
    {p : PlannedCourse} (hp : p ∈ out) (hclamped : p.id ∉ clamped)
    (hfree : Precedence.isFree p = false) {m : Node} (hm : m ∈ (treeOf p).nodes)
    (hrule : m.rule = some .course) {code : String} (htext : m.text? = some code)
    (hown : Code.normalize code ≠ p.code) (hheld : ∃ q ∈ out, q.code = Code.normalize code) :
    Setting.takenBefore ⟨p.term, ({ plan with courses := out } : Plan).plannedTerm?⟩ code
      = true := by
  refine Plan.takenBefore_of_forall hheld fun q hq hcode => ?_
  obtain ⟨j, hj⟩ := List.mem_iff_getElem?.1 hp
  obtain ⟨i, hi⟩ := List.mem_iff_getElem?.1 hq
  obtain ⟨p₀, hp₀, hpeq⟩ := h.getElem? hj
  obtain ⟨q₀, hq₀, hqeq⟩ := h.getElem? hi
  -- Nothing that the edge depends on has changed with the terms.
  rw [hpeq] at hfree hm hown
  rw [hqeq] at hcode
  have he : (Precedence.ofCourses (Catalog.ofCourses cs) plan.courses).Edge i j :=
    edge_of_node hascii hq₀ hp₀ (hplan p₀ (List.mem_of_getElem? hp₀)) hfree hm hrule htext hown
      hcode
  exact h.term_lt ha he hi hj hclamped

/-- A plan whose courses are given terms agrees with its check. -/
theorem agrees_of_timed {cs : List Course} {plan : Plan}
    (hascii : ∀ c ∈ cs, Code.IsAscii c.code.toList)
    (hplan : ∀ p ∈ plan.courses, p.course ∈ (Catalog.ofCourses cs).courses)
    (ha : (Precedence.ofCourses (Catalog.ofCourses cs) plan.courses).Acyclic)
    (h : t.Timed (Catalog.ofCourses cs) plan.courses out clamped) :
    Agrees { plan with courses := out } clamped := by
  constructor
  · intro p hp hclamped hfree m hm hrule code htext hown hheld
    exact satisfied_of_takenBefore hrule htext
      (h.takenBefore hascii hplan ha hp hclamped hfree hm hrule htext hown hheld)
  · intro i p row hp hrow hclamped hfree code hreason
    rw [Plan.check, List.getElem?_map, hp] at hrow
    obtain rfl := Option.some.inj hrow
    obtain ⟨m, hm, hrule, htext, htaken⟩ | hunread := asks_of_missing hreason
    · by_cases hown : Code.normalize code = p.code
      · exact Or.inl hown
      · refine Or.inr (Or.inl fun q hq hheld => ?_)
        rw [h.takenBefore hascii hplan ha (List.mem_of_getElem? hp) hclamped hfree hm hrule htext
          hown ⟨q, hq, hheld⟩] at htaken
        exact Bool.noConfusion htaken
    · exact Or.inr (Or.inr hunread)

/-- Two courses, of which the second asks for the first in another spelling. -/
def calculus : List Course :=
  [{ code := "math100", credits := 3 },
    { code := "MATH 101", credits := 3,
      prerequisites := some ⟨some .root, some .all, none,
        [⟨some .leaf, some .course, some (.text " Math 100"), []⟩]⟩ }]

/-- Both courses in the first term, the dependent first. -/
def calculusPlan : Plan :=
  { id := "1", title := "Calculus", numTerms := 4
    courses := (calculus.reverse.map Course.normalized).zipIdx.map fun (course, i) =>
      { id := i + 1, term := 1, course } }

/-- The dependent is moved after its prerequisite, and its tree is met. -/
theorem agrees_of_timed_calculus :
    (∀ c ∈ calculus, Code.IsAscii c.code.toList) ∧
    (∀ p ∈ calculusPlan.courses, p.course ∈ (Catalog.ofCourses calculus).courses) ∧
    (Precedence.ofCourses (.ofCourses calculus) calculusPlan.courses).edges = [(1, 0)] ∧
    (Precedence.ofCourses (.ofCourses calculus) calculusPlan.courses).Acyclic ∧
    ((⟨4, 5⟩ : Timetable).enforce (.ofCourses calculus) calculusPlan.courses).1.map (·.term)
      = [2, 1] ∧
    Agrees { calculusPlan with
        courses := ((⟨4, 5⟩ : Timetable).enforce (.ofCourses calculus) calculusPlan.courses).1 }
      ((⟨4, 5⟩ : Timetable).enforce (.ofCourses calculus) calculusPlan.courses).2.clamped := by
  have hascii : ∀ c ∈ calculus, Code.IsAscii c.code.toList := by decide
  have hplan : ∀ p ∈ calculusPlan.courses, p.course ∈ (Catalog.ofCourses calculus).courses := by
    decide
  have ha : (Precedence.ofCourses (.ofCourses calculus) calculusPlan.courses).Acyclic :=
    Precedence.acyclic_of_respects (l := [1, 0]) (by decide)
  exact ⟨hascii, hplan, by decide, ha, by decide, agrees_of_timed hascii hplan ha .enforce⟩

end Timetable

end StudyPlan
