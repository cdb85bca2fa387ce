import StudyPlan.Catalog
import StudyPlan.Proofs.Compact
import StudyPlan.Proofs.Records

/-!
# Which catalogues are loaded

A prerequisite tree is read leniently: its type and its value may be anything, and a null list
of children is none.  But not anything is taken for a tree.  A tree is written as a record
whose rule is a text and whose children are a list of trees, where rule and children may be
null (`IsTree`), and of the data values the trees are the ones that are read
(`isSome_decode?`).

A course is read with its tree exactly where it is read without one and the tree can be read
(`Course.isSome_decode?_without`).  So a catalogue that would be loaded without its trees is
loaded with them if no course has two of them and each is null or a tree
(`Catalog.loads_iff_trees`), and one tree with a number for its rule is enough for the whole
catalogue not to be loaded (`Catalog.not_loads_numberedRule`).
-/

namespace StudyPlan

open Json Document

namespace Prereq.Node

variable {d : Document} {depth : Nat}

/-- A document in the form of a tree, nested as deep as it likes. -/
inductive IsTree : Document → Prop
  /-- A record whose rule is null or a text and whose children are null or a list of trees. -/
  | node {d : Document} (hrecord : d.IsRecord fieldNames)
      (hrule : ∀ r, d.HasPart fieldNames "subtype" r → r = .null ∨ ∃ name, r = .text (some name))
      (hlist : ∀ c, d.HasPart fieldNames "childNodes" c → c = .null ∨ ∃ items, c = .array items)
      (hchildren : ∀ items, d.HasPart fieldNames "childNodes" (.array items) →
        ∀ child ∈ items, IsTree child) :
      IsTree d

/-- A node is read from parts that are read each on its own. -/
theorem isSome_decode?_of_record {kept : Fields}
    (h : d.record? (depth + 1) fieldNames = some kept) :
    (decode? (depth + 1) d).isSome = true ↔
      (kept.withDefault? "type" none (decodeKind? depth)).isSome = true ∧
      (kept.optional? "subtype" fun d => d.text?.map Rule.ofName).isSome = true ∧
      (kept.optional? "value" fun d => (d.value? depth).map Operand.ofJson).isSome = true ∧
      (kept.withDefault? "childNodes" [] (decodeChildren? depth)).isSome = true := by
  simp only [decode?, h, Option.isSome_iff_exists, Option.bind_eq_bind, Option.bind_some,
    Option.bind_eq_some_iff]
  constructor
  · rintro ⟨node, kind, hkind, rule, hrule, value, hvalue, children, hchildren, -⟩
    exact ⟨⟨_, hkind⟩, ⟨_, hrule⟩, ⟨_, hvalue⟩, ⟨_, hchildren⟩⟩
  · rintro ⟨⟨kind, hkind⟩, ⟨rule, hrule⟩, ⟨value, hvalue⟩, ⟨children, hchildren⟩⟩
    exact ⟨_, kind, hkind, rule, hrule, value, hvalue, children, hchildren, rfl⟩

theorem isRecord_of_isSome_decode? (hread : (decode? depth d).isSome = true) :
    d.IsRecord fieldNames := by
  cases depth with
  | zero => simp [decode?] at hread
  | succ below =>
    rw [decode?, Option.isSome_iff_exists] at hread
    obtain ⟨node, hnode⟩ := hread
    obtain ⟨kept, hkept, -⟩ := Option.bind_eq_some_iff.1 hnode
    exact isRecord_of_record? hkept

/-- The type and the value of a node never fail: only its form, its rule and its children do. -/
theorem isSome_decode?_succ (hvalue : (d.value? (depth + 1)).isSome = true) :
    (decode? (depth + 1) d).isSome = true ↔ d.IsRecord fieldNames ∧
      (∀ r, d.HasPart fieldNames "subtype" r → r = .null ∨ ∃ name, r = .text (some name)) ∧
      ∀ c, d.HasPart fieldNames "childNodes" c → (decodeChildren? depth c).isSome = true := by
  by_cases hrecord : d.IsRecord fieldNames
  · obtain ⟨kept, hkept⟩ := exists_record? hvalue hrecord
    have hpart {key : String} {part : Document} (hpart : d.HasPart fieldNames key part) :
        (part.value? depth).isSome = true := isSome_value?_of_hasPart hvalue hpart
    have hlookup {key : String} {part : Document} (hkey : key ∈ fieldNames) :
        kept.lookup key = some part ↔ d.HasPart fieldNames key part :=
      lookup_record? (by decide) hkept hkey
    have hkind : ∀ k, d.HasPart fieldNames "type" k → (decodeKind? depth k).isSome = true := by
      intro k hk
      rw [decodeKind?, Option.isSome_map]
      exact hpart hk
    have hoperand : ∀ v, d.HasPart fieldNames "value" v →
        v = .null ∨ (v.value? depth).isSome = true := fun v hv => .inr (hpart hv)
    rw [isSome_decode?_of_record hkept, and_iff_right hrecord]
    simp (disch := decide) only [isSome_withDefault?, isSome_optional?, Option.isSome_map,
      isSome_text?, hlookup]
    rw [and_iff_right hkind, and_iff_right hoperand]
  · exact iff_of_false (fun hread => hrecord (isRecord_of_isSome_decode? hread))
      fun h => hrecord h.1

/-- Children are read one level down, if the trees there are the ones that are read. -/
theorem isSome_decodeChildren? {c : Document}
    (ih : ∀ below < depth, ∀ {d : Document}, (d.value? below).isSome = true →
      ((decode? below d).isSome = true ↔ IsTree d))
    (hvalue : (c.value? depth).isSome = true) :
    (decodeChildren? depth c).isSome = true ↔
      c = .null ∨ ∃ items, c = .array items ∧ ∀ child ∈ items, IsTree child := by
  cases c with
  | null => simp [decodeChildren?]
  | array items =>
    obtain ⟨below, rfl, hvalues⟩ := isSome_value?_array hvalue
    have hread : (decodeChildren? (below + 1) (.array items)).isSome = true ↔
        ∀ child ∈ items, (decode? below child).isSome = true := isSome_mapM
    rw [hread, forall₂_congr fun child hchild =>
      ih below (Nat.lt_succ_self below) (hvalues child hchild)]
    simp
  | _ => cases depth <;> simp [decodeChildren?]

/-- Of the data values, the trees are the ones that are read. -/
theorem isSome_decode? (hvalue : (d.value? depth).isSome = true) :
    (decode? depth d).isSome = true ↔ IsTree d := by
  -- A child is read two levels down: one for the node and one for the list of children.
  induction depth using Nat.strongRecOn generalizing d with
  | _ depth ih =>
    cases depth with
    | zero =>
      refine iff_of_false (by simp [decode?]) fun htree => ?_
      cases htree with
      | node hrecord =>
        obtain ⟨kept, hkept⟩ := exists_record? hvalue hrecord
        cases d <;> simp [record?] at hkept
    | succ depth =>
      have hchildren {c : Document} (hc : d.HasPart fieldNames "childNodes" c) :
          (decodeChildren? depth c).isSome = true ↔
            c = .null ∨ ∃ items, c = .array items ∧ ∀ child ∈ items, IsTree child :=
        isSome_decodeChildren? (fun below hbelow => ih below (Nat.lt_succ_of_lt hbelow))
          (isSome_value?_of_hasPart hvalue hc)
      rw [isSome_decode?_succ hvalue]
      constructor
      · rintro ⟨hrecord, hrule, hread⟩
        refine .node hrecord hrule (fun c hc => ?_) fun items hitems => ?_
        · rcases (hchildren hc).1 (hread c hc) with hnull | ⟨items, hitems, -⟩
          · exact .inl hnull
          · exact .inr ⟨items, hitems⟩
        · simpa using (hchildren hitems).1 (hread _ hitems)
      · rintro ⟨hrecord, hrule, hlist, htrees⟩
        refine ⟨hrecord, hrule, fun c hc => (hchildren hc).2 ((hlist c hc).imp_right ?_)⟩
        rintro ⟨items, rfl⟩
        exact ⟨items, rfl, htrees items hc⟩

end Prereq.Node

namespace Course

variable {depth : Nat} {parts : List (Option String × Document)} {fields fewer : Fields}

theorem isSome_listedFields?_of_isSome_decode?
    (hread : (decode? (depth + 1) (.object parts)).isSome = true) :
    (listedFields? (fieldNames ++ Offerings.fieldNames) parts).isSome = true := by
  rw [decode?, Option.isSome_iff_exists] at hread
  obtain ⟨course, hcourse⟩ := hread
  obtain ⟨fields, hfields, -⟩ := Option.bind_eq_some_iff.1 hcourse
  exact Option.isSome_iff_exists.2 ⟨fields, hfields⟩

/-- A course is read from parts that are read each on its own. -/
theorem isSome_decode?_of_fields
    (h : listedFields? (fieldNames ++ Offerings.fieldNames) parts = some fields) :
    (decode? (depth + 1) (.object parts)).isSome = true ↔
      (othersReadable depth parts = true ∧
        (fields.required? "code" Document.text?).isSome = true ∧
        (fields.withDefault? "name" "" Document.text?).isSome = true ∧
        (fields.required? "credits" (nat? max32)).isSome = true ∧
        (Offerings.ofFields? fun key => fields.withDefault? key false bool?).isSome = true ∧
        (fields.withDefault? "isHonours" false bool?).isSome = true ∧
        (fields.optional? "faculty" (name? depth Faculty.names)).isSome = true ∧
        (fields.optional? "preRequisiteString" Document.text?).isSome = true ∧
        (fields.withDefault? "isElectivePlaceholder" false bool?).isSome = true) ∧
      (fields.optional? "preRequisites" (Prereq.Node.decode? depth)).isSome = true := by
  simp only [decode?, h, Option.isSome_iff_exists, Option.bind_eq_bind, Option.bind_some]
  cases othersReadable depth parts with
  | false => simp
  | true =>
    simp only [Bool.not_true, Bool.false_eq_true, if_false, Option.bind_eq_some_iff, true_and]
    constructor
    · rintro ⟨course, code, hcode, name, hname, credits, hcredits, offerings, hofferings,
        honours, hhonours, faculty, hfaculty, tree, htree, text, htext, mark, hmark, -⟩
      exact ⟨⟨⟨_, hcode⟩, ⟨_, hname⟩, ⟨_, hcredits⟩, ⟨_, hofferings⟩, ⟨_, hhonours⟩,
        ⟨_, hfaculty⟩, ⟨_, htext⟩, ⟨_, hmark⟩⟩, ⟨_, htree⟩⟩
    · rintro ⟨⟨⟨code, hcode⟩, ⟨name, hname⟩, ⟨credits, hcredits⟩, ⟨offerings, hofferings⟩,
        ⟨honours, hhonours⟩, ⟨faculty, hfaculty⟩, ⟨text, htext⟩, ⟨mark, hmark⟩⟩, ⟨tree, htree⟩⟩
      exact ⟨_, code, hcode, name, hname, credits, hcredits, offerings, hofferings,
        honours, hhonours, faculty, hfaculty, tree, htree, text, htext, mark, hmark, rfl⟩

theorem othersReadable_filter (depth : Nat) (parts : List (Option String × Document)) :
    othersReadable depth (parts.filter fun f => f.1 ≠ some "preRequisites") =
      othersReadable depth parts := by
  rw [othersReadable, othersReadable, List.all_filter]
  refine List.all_congr rfl fun f => ?_
  obtain ⟨key, d⟩ := f
  by_cases hkey : key = some "preRequisites"
  · subst hkey
    rfl
  · simp [hkey]

/-- A course is read where it is read without its tree, and its tree is read too. -/
theorem isSome_decode?_without (d : Document) : (decode? (depth + 1) d).isSome = true ↔
    (decode? (depth + 1) (d.without "preRequisites")).isSome = true ∧
      (d.under "preRequisites").length ≤ 1 ∧
      ∀ tree ∈ d.under "preRequisites",
        tree = .null ∨ (Prereq.Node.decode? depth tree).isSome = true := by
  cases d with
  | object parts =>
    have htree : "preRequisites" ∈ fieldNames ++ Offerings.fieldNames := by decide
    -- Fields are compared by what is looked up, once they are kept on both sides.
    by_cases h : (listedFields? (fieldNames ++ Offerings.fieldNames) parts).isSome = true
    · obtain ⟨hrest, honce⟩ := (isSome_listedFields?_without htree).1 h
      obtain ⟨fields, hfields⟩ := Option.isSome_iff_exists.1 h
      obtain ⟨fewer, hfewer⟩ := Option.isSome_iff_exists.1 hrest
      have hother {key : String} (hkey : key ≠ "preRequisites") :
          fewer.lookup key = fields.lookup key := lookup_without_ne hfields hfewer hkey
      have hbare : (fewer.optional? "preRequisites" (Prereq.Node.decode? depth)).isSome = true := by
        rw [isSome_optional?_of_listed hfewer htree, ← without, under_without_self]
        exact List.forall_mem_nil _
      rw [isSome_decode?_of_fields hfields, without, isSome_decode?_of_fields hfewer,
        othersReadable_filter, isSome_optional?_of_listed hfields htree, and_iff_left hbare,
        and_iff_right honce]
      refine and_congr_left fun _ => ?_
      simp (disch := decide) only [Fields.required?, Fields.withDefault?, Fields.optional?,
        Offerings.ofFields?, hother]
    · refine iff_of_false (fun hread => h (isSome_listedFields?_of_isSome_decode? hread)) ?_
      rintro ⟨hrest, honce, -⟩
      have hlisted := isSome_listedFields?_of_isSome_decode? hrest
      exact h ((isSome_listedFields?_without htree).2 ⟨hlisted, honce⟩)
  | _ => simp [decode?, without]

end Course

namespace Catalog

theorem isSome_ofText? {s : String} {items : List Document}
    (hs : Document.ofText? s = some (.array items)) :
    (ofText? s).isSome = true ↔
      ∀ item ∈ items, (Course.decode? (nesting - 2 + 1) item).isSome = true := by
  rw [ofText?, Option.isSome_map, Course.listOfText?, hs, Option.bind_some]
  exact isSome_mapM

/-- A catalogue that is loaded without its trees is loaded with them where they are trees. -/
theorem loads_iff_trees {full bare : String} {items : List Document}
    (hfull : Document.ofText? full = some (.array items))
    (hbare : Document.ofText? bare = some (.array (items.map (·.without "preRequisites"))))
    (hloads : (ofText? bare).isSome = true)
    (hvalues : ∀ item ∈ items, ∀ tree ∈ item.under "preRequisites",
      (tree.value? (nesting - 2)).isSome = true) :
    (ofText? full).isSome = true ↔
      ∀ item ∈ items, (item.under "preRequisites").length ≤ 1 ∧
        ∀ tree ∈ item.under "preRequisites", tree = .null ∨ Prereq.Node.IsTree tree := by
  rw [isSome_ofText? hbare, List.forall_mem_map] at hloads
  rw [isSome_ofText? hfull]
  refine forall₂_congr fun item hitem => ?_
  rw [Course.isSome_decode?_without, and_iff_right (hloads item hitem)]
  refine and_congr_right fun _ => forall₂_congr fun tree htree => ?_
  rw [Prereq.Node.isSome_decode? (hvalues item hitem tree htree)]

/-- Two courses of which the second has the trees. -/
def twoCourses (trees : List Json) : List Json :=
  [.object [("code", .text "COSC 111"), ("credits", .nat 3)],
    .object ([("code", .text "COSC 121"), ("credits", .nat 3)] ++
      trees.map ("preRequisites", ·))]

/-- A tree without a known type and without a list of children. -/
def untyped : Json :=
  .object [("type", .nat 7), ("subtype", .text "COURSE"), ("value", .text "COSC 111"),
    ("childNodes", .null)]

theorem isTree_untyped : Prereq.Node.IsTree untyped.toDocument := by
  have hrule {r : Document} (hr : untyped.toDocument.HasPart Prereq.Node.fieldNames "subtype" r) :
      r = .text (some "COURSE") := List.mem_singleton.1 hr
  have hchildren {c : Document}
      (hc : untyped.toDocument.HasPart Prereq.Node.fieldNames "childNodes" c) : c = .null :=
    List.mem_singleton.1 hc
  refine .node ?_ (fun r hr => .inr ⟨_, hrule hr⟩) (fun c hc => .inl (hchildren hc)) ?_
  · show ∀ key ∈ Prereq.Node.fieldNames, (untyped.toDocument.under key).length ≤ 1
    decide
  · intro items hitems
    cases hchildren hitems

theorem loads_iff_trees_untyped :
    (ofText? (Json.array (twoCourses [untyped])).compact).isSome = true := by
  have hbare : Document.ofText? (Json.array (twoCourses [])).compact =
      some (.array ((itemDocuments (twoCourses [untyped])).map (·.without "preRequisites"))) :=
    ofText?_compact rfl
  have hloads : (ofText? (Json.array (twoCourses [])).compact).isSome = true := by
    rw [isSome_ofText? hbare]
    decide +kernel
  have hvalues : ∀ item ∈ itemDocuments (twoCourses [untyped]),
      ∀ tree ∈ item.under "preRequisites", (tree.value? (nesting - 2)).isSome = true := by
    decide +kernel
  refine (loads_iff_trees (ofText?_compact rfl) hbare hloads hvalues).2 ?_
  refine List.forall_mem_cons.2 ⟨⟨by decide, nofun⟩, List.forall_mem_singleton.2 ?_⟩
  refine ⟨by decide, fun tree htree => .inr ?_⟩
  rw [show tree = untyped.toDocument from List.mem_singleton.1 htree]
  exact isTree_untyped

/-- A record with a number for its rule. -/
def numberedRule : Json :=
  .object [("type", .text "LEAF"), ("subtype", .nat 7), ("value", .text "COSC 111")]

/-- Not every data value can stand in the place of a tree. -/
theorem not_loads_numberedRule : ¬ ∀ (full bare : String) (items : List Document),
    Document.ofText? full = some (.array items) →
    Document.ofText? bare = some (.array (items.map (·.without "preRequisites"))) →
    (ofText? bare).isSome = true →
    (∀ item ∈ items, (item.under "preRequisites").length ≤ 1 ∧
      ∀ tree ∈ item.under "preRequisites", (tree.value? (nesting - 2)).isSome = true) →
    (ofText? full).isSome = true := by
  intro hclaim
  have hfull : Document.ofText? (Json.array (twoCourses [numberedRule])).compact =
      some (.array (itemDocuments (twoCourses [numberedRule]))) := ofText?_compact rfl
  have hbare : Document.ofText? (Json.array (twoCourses [])).compact =
      some (.array ((itemDocuments (twoCourses [numberedRule])).map (·.without "preRequisites"))) :=
    ofText?_compact rfl
  have hloads : (ofText? (Json.array (twoCourses [])).compact).isSome = true := by
    rw [isSome_ofText? hbare]
    decide +kernel
  have hfails := hclaim _ _ _ hfull hbare hloads (by decide +kernel)
  rw [isSome_ofText? hfull] at hfails
  revert hfails
  decide +kernel

end Catalog

end StudyPlan
