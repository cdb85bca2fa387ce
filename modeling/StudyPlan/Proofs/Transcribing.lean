import StudyPlan.Prereq.Json
import StudyPlan.Proofs.Compact
import StudyPlan.Proofs.Raising
import StudyPlan.Proofs.Sourcing

/-!
# Prerequisite trees that are written and read again

A tree takes any spelling of the names of its kinds and rules, any order of the fields, and
children that are null or left out.  It is written in one way only, and what is written is read
as the same tree, but for the numbers in it (`compact_reread`).  A number is written as a decimal,
and not every decimal is read as the number that it was written for.

Each part of a node is read again for a reason of its own.

* A kind has one name.  The name of a rule is trimmed and in upper case already, and neither of
  these does anything a second time (`Rule.ofName_name`).
* A value is a text, a number or any other data value, except null, which is no value
  (`optional?_operand`).
* The children are trees, by induction on the depth that is left to the reader (`decode?_toJson`).
  A node without children is written with an empty list of them, so the text may nest one level
  deeper than the text that was read, and the reader has to have that level left.

What becomes of the numbers is said of the numerals that they come from (`sourced_numbers`).
Whole numbers stay up to a fifth of 2⁵³.  Not all of those up to 2⁵³ do (`compact_not_reread`).
-/

namespace StudyPlan

namespace Prereq

open Json Document

/-! ## Kinds and rules -/

theorem Kind.ofName?_name (k : Kind) : Kind.ofName? k.name = some k := by
  cases k <;> decide

theorem upper_trim_upper_trim (s : String) :
    Text.upper (Text.trim (Text.upper (Text.trim s))) = Text.upper (Text.trim s) := by
  have htrim := Text.trimChars_upperChars (Text.trimChars_trimChars s.toList)
  simp only [Text.upper, Text.trim, String.toList_ofList, htrim, Text.upperChars_upperChars]

/-- A rule that was read from a name is read from its own name. -/
theorem Rule.ofName_name (s : String) : Rule.ofName (Rule.ofName s).name = Rule.ofName s := by
  have hnames : ∀ p ∈ Rule.names, p.2.name = p.1 := by decide
  have hname : (Rule.ofName s).name = Text.upper (Text.trim s) := by
    rw [Rule.ofName]
    cases hlookup : Rule.names.lookup (Text.upper (Text.trim s)) with
    | none => rfl
    | some r => exact hnames _ ((lookup_eq_some_iff_mem (by decide)).1 hlookup)
  rw [hname, Rule.ofName, upper_trim_upper_trim]
  rfl

/-! ## Other numbers in the place of numbers -/

namespace Operand

/-- The value with other numbers. -/
def mapNumbers? (f : Binary64 → Option Binary64) : Operand → Option Operand
  | .number x => (f x).map .number
  | .text s => some (.text s)
  | .other v => (v.mapFloats? f).map .other

/-- The binary64 numbers of the value. -/
def numbers : Operand → List Binary64
  | .number x => [x]
  | .text _ => []
  | .other v => v.floats

theorem mapNumbers?_iff {f : Binary64 → Option Binary64} (o : Operand) :
    ((o.mapNumbers? f).isSome = true ↔ ∀ x ∈ o.numbers, (f x).isSome = true) ∧
      (o.mapNumbers? f = some o ↔ ∀ x ∈ o.numbers, f x = some x) := by
  cases o with
  | number x => simp [mapNumbers?, numbers]
  | text s => simp [mapNumbers?, numbers]
  | other v => simpa [mapNumbers?, numbers] using v.mapFloats?_iff

end Operand

namespace Node

/-- The value, if there is one, with other numbers. -/
def mapValueNumbers? (f : Binary64 → Option Binary64) : Option Operand → Option (Option Operand)
  | none => some none
  | some o => (o.mapNumbers? f).map some

mutual

/-- The tree with other numbers, or none if there is none for one of them. -/
def mapNumbers? (f : Binary64 → Option Binary64) : Node → Option Node
  | ⟨kind, rule, value, children⟩ =>
    match mapValueNumbers? f value, mapAllNumbers? f children with
    | some value, some children => some ⟨kind, rule, value, children⟩
    | _, _ => none

/-- The trees with other numbers. -/
def mapAllNumbers? (f : Binary64 → Option Binary64) : List Node → Option (List Node)
  | [] => some []
  | n :: ns =>
    match mapNumbers? f n, mapAllNumbers? f ns with
    | some n, some ns => some (n :: ns)
    | _, _ => none

end

mutual

/-- The binary64 numbers of a tree. -/
def numbers : Node → List Binary64
  | ⟨_, _, value, children⟩ => value.elim [] Operand.numbers ++ allNumbers children

/-- The binary64 numbers of trees. -/
def allNumbers : List Node → List Binary64
  | [] => []
  | n :: ns => numbers n ++ allNumbers ns

end

section Map

variable {f : Binary64 → Option Binary64}

theorem mapValueNumbers?_iff (value : Option Operand) :
    ((mapValueNumbers? f value).isSome = true ↔
        ∀ x ∈ value.elim [] Operand.numbers, (f x).isSome = true) ∧
      (mapValueNumbers? f value = some value ↔
        ∀ x ∈ value.elim [] Operand.numbers, f x = some x) := by
  cases value with
  | none => simp [mapValueNumbers?]
  | some o => simpa [mapValueNumbers?] using o.mapNumbers?_iff

mutual

/-- There is a tree if there is a number for each number, and it is the same if each number
is. -/
theorem mapNumbers?_iff : ∀ n : Node,
    ((n.mapNumbers? f).isSome = true ↔ ∀ x ∈ n.numbers, (f x).isSome = true) ∧
      (n.mapNumbers? f = some n ↔ ∀ x ∈ n.numbers, f x = some x)
  | ⟨kind, rule, value, children⟩ => by
    obtain ⟨hsome, hself⟩ := mapValueNumbers?_iff (f := f) value
    obtain ⟨hsomes, hselves⟩ := mapAllNumbers?_iff children
    rw [numbers, List.forall_mem_append, List.forall_mem_append, ← hsome, ← hself, ← hsomes,
      ← hselves, mapNumbers?]
    cases mapValueNumbers? f value <;> cases mapAllNumbers? f children <;> simp

theorem mapAllNumbers?_iff : ∀ ns : List Node,
    ((mapAllNumbers? f ns).isSome = true ↔ ∀ x ∈ allNumbers ns, (f x).isSome = true) ∧
      (mapAllNumbers? f ns = some ns ↔ ∀ x ∈ allNumbers ns, f x = some x)
  | [] => by simp [mapAllNumbers?, allNumbers]
  | n :: ns => by
    obtain ⟨hsome, hself⟩ := mapNumbers?_iff n
    obtain ⟨hsomes, hselves⟩ := mapAllNumbers?_iff ns
    rw [allNumbers, List.forall_mem_append, List.forall_mem_append, ← hsome, ← hself, ← hsomes,
      ← hselves, mapAllNumbers?]
    cases mapNumbers? f n <;> cases mapAllNumbers? f ns <;> simp

end

end Map

/-! ## One node -/

/-- The fields of a node, with those that are left out. -/
def outline (n : Node) : List (String × Option Json) :=
  [("type", n.kind.map (.text ·.name)), ("subtype", n.rule.map (.text ·.name)),
    ("value", n.value.map Operand.toJson), ("childNodes", some (.array (toJsons n.children)))]

theorem toJson_eq (n : Node) : n.toJson = .object (present n.outline) := by
  obtain ⟨kind, rule, value, children⟩ := n
  simp [toJson, outline]

variable {n : Node} {d : Document} {below depth : Nat}

theorem mapM_itemDocuments {ns : List Node}
    (h : ∀ c ∈ ns, decode? below c.toJson.toDocument = c.mapNumbers? Binary64.reread?) :
    (itemDocuments (toJsons ns)).mapM (decode? below) = mapAllNumbers? Binary64.reread? ns := by
  induction ns with
  | nil => rfl
  | cons c ns ih =>
    have hfirst := h c (List.mem_cons_self ..)
    have hrest := ih fun c' hc' => h c' (List.mem_cons_of_mem _ hc')
    rw [toJsons, itemDocuments, List.mapM_cons, hfirst, hrest, mapAllNumbers?]
    cases mapNumbers? Binary64.reread? c <;> cases mapAllNumbers? Binary64.reread? ns <;> rfl

/-- A node is read again if its rule, its value and its children are. -/
theorem decode?_toJson_of_parts (hrule : ∀ r, n.rule = some r → Rule.ofName r.name = r)
    (hvalue : ∀ o, n.value = some o →
      Document.optional? (fun d => (d.value? (below + 1)).map Operand.ofJson) o.toJson.toDocument
        = (o.mapNumbers? Binary64.reread?).map some)
    (hchildren : ∀ c ∈ n.children,
      decode? below c.toJson.toDocument = c.mapNumbers? Binary64.reread?) :
    decode? (below + 2) n.toJson.toDocument = n.mapNumbers? Binary64.reread? := by
  have hnames : (n.outline.map (·.1)).Nodup := (by decide : fieldNames.Nodup)
  have hrecord : n.toJson.toDocument.record? (below + 2) fieldNames
      = some (documents (present n.outline)) :=
    n.toJson_eq ▸ record?_present (below + 1) hnames
  have hkind : (documents (present n.outline)).withDefault? "type" none
      (decodeKind? (below + 1)) = some n.kind := by
    rw [withDefault?_present hnames (o := n.kind.map (.text ·.name)) (by simp [outline])]
    cases n.kind with
    | none => rfl
    | some k => exact congrArg some k.ofName?_name
  have hsubtype : (documents (present n.outline)).optional? "subtype"
      (fun d => d.text?.map Rule.ofName) = some n.rule := by
    rw [Fields.optional?,
      withDefault?_present hnames (o := n.rule.map (.text ·.name)) (by simp [outline])]
    cases hr : n.rule with
    | none => rfl
    | some r => exact congrArg (some ∘ some) (hrule r hr)
  have hoperand : (documents (present n.outline)).optional? "value"
      (fun d => (d.value? (below + 1)).map Operand.ofJson)
        = mapValueNumbers? Binary64.reread? n.value := by
    rw [Fields.optional?,
      withDefault?_present hnames (o := n.value.map Operand.toJson) (by simp [outline])]
    cases ho : n.value with
    | none => rfl
    | some o => exact hvalue o ho
  have hnodes : (documents (present n.outline)).withDefault? "childNodes" []
      (decodeChildren? (below + 1)) = mapAllNumbers? Binary64.reread? n.children := by
    rw [withDefault?_present hnames (o := some (.array (toJsons n.children))) (by simp [outline])]
    exact mapM_itemDocuments hchildren
  rw [decode?, hrecord]
  simp only [Option.bind_eq_bind, Option.bind_some, hkind, hsubtype, hoperand, hnodes,
    Option.pure_def]
  obtain ⟨kind, rule, value, children⟩ := n
  rw [mapNumbers?]
  cases mapValueNumbers? Binary64.reread? value <;>
    cases mapAllNumbers? Binary64.reread? children <;> rfl

/-! ## The parts of a node -/

/-- What a node is read from: a rule from a name, a value from a data value other than null, and
the children two levels down. -/
structure ReadFrom (depth : Nat) (d : Document) (n : Node) : Prop where
  nested : 0 < d.depth
  rule : ∀ r, n.rule = some r → ∃ s, r = Rule.ofName s
  value : ∀ o, n.value = some o → ∃ (part : Document) (v : Json), part.Inside d ∧
    part ≠ .null ∧ part.value? depth = some v ∧ o = Operand.ofJson v
  children : ∀ c ∈ n.children, ∃ (below : Nat) (part list : Document), depth = below + 1 ∧
    part.Inside list ∧ list.Inside d ∧ decode? below part = some c

theorem exists_of_mem_mapM {α β : Type} {f : α → Option β} {xs : List α} :
    ∀ {ys : List β}, xs.mapM f = some ys → ∀ y ∈ ys, ∃ x ∈ xs, f x = some y := by
  induction xs with
  | nil =>
    intro ys h
    obtain rfl := Option.some.inj h
    exact fun _ hy => nomatch hy
  | cons x xs ih =>
    intro ys h
    rw [List.mapM_cons] at h
    obtain ⟨y, hy, h⟩ := Option.bind_eq_some_iff.1 h
    obtain ⟨rest, hrest, h⟩ := Option.bind_eq_some_iff.1 h
    obtain rfl := Option.some.inj h
    refine List.forall_mem_cons.2 ⟨⟨x, List.mem_cons_self .., hy⟩, fun z hz => ?_⟩
    obtain ⟨w, hw, hfw⟩ := ih hrest z hz
    exact ⟨w, List.mem_cons_of_mem _ hw, hfw⟩

theorem exists_of_withDefault? {α : Type} {kept : Fields} {key : String} {default a : α}
    {f : Document → Option α} (h : kept.withDefault? key default f = some a) :
    a = default ∨ ∃ part, kept.lookup key = some part ∧ f part = some a := by
  rw [Fields.withDefault?] at h
  split at h
  next part hpart => exact .inr ⟨part, hpart, h⟩
  next => exact .inl (Option.some.inj h).symm

theorem exists_of_optional? {α : Type} {kept : Fields} {key : String} {a : α}
    {f : Document → Option α} (h : kept.optional? key f = some (some a)) :
    ∃ part, kept.lookup key = some part ∧ part ≠ .null ∧ f part = some a := by
  obtain hnone | ⟨part, hpart, hread⟩ := exists_of_withDefault? h
  · cases hnone
  · cases part with
    | null => cases hread
    | _ =>
      obtain ⟨b, hb, hba⟩ := Option.map_eq_some_iff.1 hread
      obtain rfl := Option.some.inj hba
      exact ⟨_, hpart, nofun, hb⟩

theorem readFrom_of_decode? (h : decode? (depth + 1) d = some n) : n.ReadFrom depth d := by
  rw [decode?] at h
  obtain ⟨kept, hkept, h⟩ := Option.bind_eq_some_iff.1 h
  obtain ⟨kind, -, h⟩ := Option.bind_eq_some_iff.1 h
  obtain ⟨rule, hrule, h⟩ := Option.bind_eq_some_iff.1 h
  obtain ⟨value, hvalue, h⟩ := Option.bind_eq_some_iff.1 h
  obtain ⟨children, hchildren, h⟩ := Option.bind_eq_some_iff.1 h
  obtain rfl := Option.some.inj h
  have hinside {key : String} {part : Document} (hkey : key ∈ fieldNames)
      (hpart : kept.lookup key = some part) : part.Inside d :=
    inside_of_hasPart ((lookup_record? (by decide) hkept hkey).1 hpart)
  refine ⟨?_, fun r hr => ?_, fun o ho => ?_, fun c hc => ?_⟩
  · rcases record?_cases hkept with ⟨fields, rfl, -⟩ | ⟨items, rfl, -⟩
    · exact Nat.succ_pos _
    · exact Nat.succ_pos _
  · obtain rfl : rule = some r := hr
    obtain ⟨part, -, -, hname⟩ := exists_of_optional? hrule
    obtain ⟨s, -, rfl⟩ := Option.map_eq_some_iff.1 hname
    exact ⟨s, rfl⟩
  · obtain rfl : value = some o := ho
    obtain ⟨part, hpart, hne, hread⟩ := exists_of_optional? hvalue
    obtain ⟨v, hv, rfl⟩ := Option.map_eq_some_iff.1 hread
    exact ⟨part, v, hinside (by decide) hpart, hne, hv, rfl⟩
  · have hc : c ∈ children := hc
    obtain rfl | ⟨part, hpart, hread⟩ := exists_of_withDefault? hchildren
    · cases hc
    · have hlist := hinside (by decide) hpart
      cases part with
      | null =>
        rw [decodeChildren?] at hread
        obtain rfl := Option.some.inj hread
        cases hc
      | array items =>
        cases depth with
        | zero => cases hread
        | succ below =>
          obtain ⟨item, hitem, hc⟩ := exists_of_mem_mapM hread c hc
          exact ⟨below, item, .array items, rfl, inside_array hitem, hlist, hc⟩
      | _ => cases depth <;> cases hread

/-! ## Values -/

variable {part : Document} {v : Json}

theorem optional?_of_ne_null {α : Type} {f : Document → Option α} (h : d ≠ .null) :
    Document.optional? f d = (f d).map some := by
  cases d with
  | null => exact absurd rfl h
  | _ => rfl

/-- A finite number is read again as a value. -/
theorem optional?_float {x : Binary64} (hx : x.isFinite = true) :
    Document.optional? (fun d => (d.value? depth).map Operand.ofJson) (Json.float x).toDocument
      = ((Operand.number x).mapNumbers? Binary64.reread?).map some := by
  have hne : (Json.float x).toDocument ≠ .null := by
    obtain ⟨n, hdocument, -⟩ := exists_toDocument_float hx
    rw [hdocument]
    nofun
  rw [optional?_of_ne_null hne, value?_float hx, Operand.mapNumbers?]
  cases x.reread? with
  | none => rfl
  | some y => rfl

theorem map_ofJson_mapFloats? {f : Binary64 → Option Binary64} (h : Operand.ofJson v = .other v) :
    (v.mapFloats? f).map Operand.ofJson = (Operand.other v).mapNumbers? f := by
  cases v with
  | null => rfl
  | bool b => rfl
  | array items =>
    rw [Operand.mapNumbers?, mapFloats?]
    cases mapFloatItems? f items <;> rfl
  | object fields =>
    rw [Operand.mapNumbers?, mapFloats?]
    cases mapFloatFields? f fields <;> rfl
  | _ => cases h

/-- A list or an object is read again as a value. -/
theorem optional?_other (h : Operand.ofJson v = .other v) (hne : v.toDocument ≠ .null)
    (hread : v.toDocument.value? depth = v.mapFloats? Binary64.reread?) :
    Document.optional? (fun d => (d.value? depth).map Operand.ofJson)
        (Operand.ofJson v).toJson.toDocument
      = ((Operand.ofJson v).mapNumbers? Binary64.reread?).map some := by
  rw [h, Operand.toJson, optional?_of_ne_null hne, hread, map_ofJson_mapFloats? h]

/-- A value that is not null is read again. -/
theorem optional?_operand (hne : part ≠ .null) (h : part.value? depth = some v) :
    Document.optional? (fun d => (d.value? depth).map Operand.ofJson)
        (Operand.ofJson v).toJson.toDocument
      = ((Operand.ofJson v).mapNumbers? Binary64.reread?).map some := by
  have hread := value?_toDocument part h
  cases part with
  | null => exact absurd rfl hne
  | bool b =>
    obtain rfl := Option.some.inj h
    rfl
  | number n =>
    obtain ⟨m, -, rfl⟩ | ⟨m, -, -, rfl⟩ | ⟨x, -, rfl⟩ := value?_cases h
    · exact optional?_float (isFinite_ofInt (natAbs_lt_of_value? h))
    · exact optional?_float (isFinite_ofInt (natAbs_lt_of_value? h))
    · exact optional?_float (isFinite_of_value? h)
  | text s =>
    obtain ⟨t, -, rfl⟩ := Option.map_eq_some_iff.1 h
    rfl
  | array items =>
    cases depth with
    | zero => cases h
    | succ below =>
      obtain ⟨vs, -, rfl⟩ := Option.map_eq_some_iff.1 h
      exact optional?_other rfl nofun hread
  | object fields =>
    cases depth with
    | zero => cases h
    | succ below =>
      obtain ⟨vs, -, rfl⟩ := Option.map_eq_some_iff.1 h
      exact optional?_other rfl nofun hread

theorem sourced_operand (h : part.value? depth = some v) :
    Sourced (Operand.ofJson v).numbers part.numerals := by
  have hfloats := sourced_floats part h
  cases v with
  | int i =>
    cases part with
    | number n =>
      intro x hx
      exact ⟨n, List.mem_singleton.2 rfl, .inr ⟨i, h, List.mem_singleton.1 hx⟩⟩
    | _ => cases depth <;> simp [Document.value?] at h
  | float x => exact hfloats
  | text s => exact .nil
  | _ => exact hfloats

/-! ## Trees -/

theorem mem_allNumbers {x : Binary64} {ns : List Node} :
    x ∈ allNumbers ns ↔ ∃ c ∈ ns, x ∈ c.numbers := by
  induction ns with
  | nil => simp [allNumbers]
  | cons c ns ih => simp [allNumbers, ih]

/-- A tree is read again with the numbers that the texts of its numbers are read as.  What is
written has a list of children in every node, so one level more has to be left. -/
theorem decode?_toJson {depth : Nat} {d : Document} {n : Node} (h : decode? depth d = some n)
    (hdepth : d.depth < depth) :
    decode? depth n.toJson.toDocument = n.mapNumbers? Binary64.reread? := by
  induction depth using Nat.strongRecOn generalizing d n with
  | ind depth ih =>
    cases depth with
    | zero => cases h
    | succ above =>
      have hn := readFrom_of_decode? h
      obtain ⟨below, rfl⟩ : ∃ below, above = below + 1 :=
        Nat.exists_eq_succ_of_ne_zero fun hzero => by
          have hnested := hn.nested
          omega
      refine decode?_toJson_of_parts (fun r hr => ?_) (fun o ho => ?_) fun c hc => ?_
      · obtain ⟨s, hs⟩ := hn.rule r hr
        rw [hs, Rule.ofName_name]
      · obtain ⟨part, v, -, hne, hv, rfl⟩ := hn.value o ho
        exact optional?_operand hne hv
      · obtain ⟨below', part, list, hbelow, hpart, hlist, hc⟩ := hn.children c hc
        obtain rfl := Nat.succ.inj hbelow
        have hlower : part.depth + 2 ≤ d.depth := Nat.succ_le_of_lt
          (Nat.lt_of_lt_of_le (Nat.succ_lt_succ hpart.depth) hlist.depth)
        exact ih below (by omega) hc (by omega)

/-- The numbers of a tree are those of the document. -/
theorem sourced_numbers {depth : Nat} {d : Document} {n : Node} (h : decode? depth d = some n) :
    Sourced n.numbers d.numerals := by
  induction depth using Nat.strongRecOn generalizing d n with
  | ind depth ih =>
    cases depth with
    | zero => cases h
    | succ above =>
      have hn := readFrom_of_decode? h
      obtain ⟨kind, rule, value, children⟩ := n
      intro x hx
      cases List.mem_append.1 hx with
      | inl hvalue =>
        cases value with
        | none => cases hvalue
        | some o =>
          obtain ⟨part, v, hpart, -, hv, rfl⟩ := hn.value o rfl
          exact (sourced_operand hv).mono hpart.numerals x hvalue
      | inr hchild =>
        obtain ⟨c, hc, hx⟩ := mem_allNumbers.1 hchild
        obtain ⟨below, part, list, rfl, hpart, hlist, hc⟩ := hn.children c hc
        exact (ih below (by omega) hc).mono (hpart.trans hlist).numerals x hx

/-- What is written of a tree that was read spells the tree with the numbers that its numbers
are read as. -/
theorem ofText?_compact_toJson {text : String} {d : Document} {n : Node}
    (hd : Document.ofText? text = some d) (hdepth : d.depth < nesting)
    (hn : ofText? text = some n) :
    ofText? n.toJson.compact = n.mapNumbers? Binary64.reread? := by
  rw [ofText?, hd, Option.bind_some] at hn
  rw [ofText?, Json.ofText?_compact rfl, Option.bind_some]
  exact decode?_toJson hn hdepth

/-- A tree that was read is written and read again.  Nothing changes but the numbers, and a
number only if its text is read as another one.  A whole number up to 2⁵³ becomes a tenth of
ten times the number, both rounded, and up to a fifth of that it stays. -/
theorem compact_reread {text : String} {d : Document} {n : Node}
    (hd : Document.ofText? text = some d) (hdepth : d.depth < nesting)
    (hn : ofText? text = some n) :
    ofText? n.toJson.compact = n.mapNumbers? Binary64.reread? ∧
      (ofText? n.toJson.compact = some n ↔ ∀ x ∈ n.numbers, x.reread? = some x) ∧
      ((∀ m ∈ d.numerals, m.IsWhole Binary64.lastWhole) →
        (ofText? n.toJson.compact).isSome = true ∧
          ∀ x ∈ n.numbers, x.reread? = some ((x.mul (.ofNat 10)).div (.ofNat 10))) ∧
      ((∀ m ∈ d.numerals, m.IsWhole (Binary64.lastWhole / 5)) →
        ofText? n.toJson.compact = some n) := by
  have hagain := ofText?_compact_toJson hd hdepth hn
  obtain ⟨hsome, hself⟩ := n.mapNumbers?_iff (f := Binary64.reread?)
  have hsourced : Sourced n.numbers d.numerals := by
    rw [ofText?, hd, Option.bind_some] at hn
    exact sourced_numbers hn
  have hwhole {bound : Nat} (hbound : bound ≤ Binary64.lastWhole)
      (h : ∀ m ∈ d.numerals, m.IsWhole bound) (x : Binary64) (hx : x ∈ n.numbers) :
      ∃ s m, m ≤ bound ∧ x = .finite s (m * Binary64.one) :=
    let ⟨m, hm, hgives⟩ := hsourced x hx
    (h m hm).eq_of_gives hbound hgives
  rw [hagain]
  refine ⟨rfl, hself, fun h => ?_, fun h => hself.2 fun x hx => ?_⟩
  · have hread : ∀ x ∈ n.numbers, x.reread? = some ((x.mul (.ofNat 10)).div (.ofNat 10)) := by
      intro x hx
      obtain ⟨s, m, hm, rfl⟩ := hwhole (Nat.le_refl _) h x hx
      exact reread?_whole hm s
    exact ⟨hsome.2 fun x hx => by rw [hread x hx]; rfl, hread⟩
  · obtain ⟨s, m, hm, rfl⟩ := hwhole (Nat.div_le_self _ _) h x hx
    exact reread?_eq_self (by omega) s

/-- Two of two conditions, in careless spelling. -/
def careless : Json :=
  .object [("type", .text "Root"), ("subtype", .text "n_of"), ("value", .nat 2),
    ("childNodes", .array
      [.object [("type", .nat 7), ("subtype", .text " course "), ("value", .text "COSC 111"),
        ("childNodes", .null)],
      .object [("subtype", .text "cohort"),
        ("value", .object [("year", .nat 3), ("campus", .text "north")])]])]

/-- The tree of these conditions. -/
def careful : Node :=
  ⟨some .root, some .atLeast, some (.number (.ofNat 2)),
    [⟨none, some .course, some (.text "COSC 111"), []⟩,
    ⟨none, some (.unknown "COHORT"),
      some (.other (.object [("campus", .text "north"), ("year", .int 3)])), []⟩]⟩

theorem ofText?_careless : ofText? careless.compact = some careful := by
  rw [ofText?, Json.ofText?_compact rfl, Option.bind_some]
  decide +kernel

theorem compact_reread_careless : ofText? careless.compact = some careful ∧
    ofText? careful.toJson.compact = some careful := by
  have hwhole : ∀ m ∈ careless.toDocument.numerals, m.IsWhole (Binary64.lastWhole / 5) := by
    show ∀ m ∈ [numeral 2, numeral 7, numeral 3], m.IsWhole (Binary64.lastWhole / 5)
    intro m hm
    have hdigits : m.fraction = [] ∧ m.exponent = none ∧
        Text.digitsValue 0 m.whole ≤ Binary64.lastWhole / 5 := by
      revert m
      decide
    exact isWhole_of_plain hdigits.1 hdigits.2.1 hdigits.2.2 (by decide)
  exact ⟨ofText?_careless,
    (compact_reread (Json.ofText?_compact rfl) (by decide) ofText?_careless).2.2.2 hwhole⟩

/-- A tree that counts to the last whole number before 2⁵³. -/
def countless : Json := .object [("value", .int 9007199254740991)]

/-- Not every whole number up to 2⁵³ stays. -/
theorem compact_not_reread : ¬ ∀ (text : String) (d : Document) (n : Node),
    Document.ofText? text = some d → d.depth < nesting → ofText? text = some n →
    (∀ m ∈ d.numerals, m.IsWhole Binary64.lastWhole) → ofText? n.toJson.compact = some n := by
  intro hclaim
  let n : Node := ⟨none, none, some (.number (.ofNat 9007199254740991)), []⟩
  have hd : Document.ofText? countless.compact = some countless.toDocument :=
    Json.ofText?_compact rfl
  have hn : ofText? countless.compact = some n := by
    rw [ofText?, hd, Option.bind_some]
    decide +kernel
  have hwhole : ∀ m ∈ countless.toDocument.numerals, m.IsWhole Binary64.lastWhole := by
    show ∀ m ∈ [numeral 9007199254740991], m.IsWhole Binary64.lastWhole
    rw [List.forall_mem_singleton]
    exact isWhole_of_plain rfl rfl (by decide) (Nat.le_refl _)
  have hsame := hclaim _ _ n hd (by decide) hn hwhole
  rw [ofText?_compact_toJson hd (by decide) hn, n.mapNumbers?_iff.2] at hsame
  have hstays := hsame (.ofNat 9007199254740991) (List.mem_singleton.2 rfl)
  revert hstays
  decide +kernel

end Node

end Prereq

end StudyPlan
