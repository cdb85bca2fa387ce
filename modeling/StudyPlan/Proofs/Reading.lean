import StudyPlan.Proofs.Numerals

/-!
# Reading what was written

A value that is written with indentation is read back (`ofText?_pretty`).  What is read is a
document, whose numbers are still numerals (`toDocument`): whether the shortest decimal of a
binary64 number is read as the same number is not decided here.

*Texts.*  A mark, a backslash or a control character is written after a backslash, and any
other character as it is.  One written character is read as one part (`partOf`), whatever
comes after it (`readParts_escapedChar`).

*Values.*  The reader counts down one number for the depth and for the length of lists.
Each item is at least one character long and takes two calls, so twice the number of
characters is enough.  The proof goes by the recursion of the printer, with one lemma
for each production of the reader.
-/

namespace StudyPlan

namespace Json

namespace Document

/-! ## Texts -/

/-- The characters that are written as a letter after a backslash, with that letter. -/
def letters : List (Char × Char) :=
  [('"', '"'), ('\\', '\\'), ('\x08', 'b'), ('\x0c', 'f'), ('\n', 'n'), ('\r', 'r'), ('\t', 't')]

/-- The part that a written character is read as. -/
def partOf (c : Char) : TextPart :=
  if c.toNat < 32 ∧ c ∉ letters.map (·.1) then .unit c.toNat else .char c

/-- The parts with one more in front. -/
def withPart (part : TextPart) (read : Option (List TextPart × List Char)) :
    Option (List TextPart × List Char) :=
  read.map fun (parts, rest) => (part :: parts, rest)

theorem readParts_letter {e c : Char} (he : e ≠ 'u') (hc : escape? e = some c) (cs : List Char) :
    readParts ('\\' :: e :: cs) = withPart (.char c) (readParts cs) := by
  rw [readParts.eq_4 e cs fun _ _ _ _ _ hu => absurd hu he, hc]
  cases readParts cs with
  | none => rfl
  | some _ => rfl

theorem hexDigit?_hexDigit : ∀ n < 16, Text.hexDigit? (hexDigit n) = some n := by decide

theorem readParts_unit {n : Nat} (hn : n < 32) (cs : List Char) :
    readParts ('\\' :: 'u' :: '0' :: '0' :: hexDigit (n / 16) :: hexDigit (n % 16) :: cs)
      = withPart (.unit n) (readParts cs) := by
  have hunit : unit? '0' '0' (hexDigit (n / 16)) (hexDigit (n % 16)) = some n := by
    have hzero : Text.hexDigit? '0' = some 0 := rfl
    simp only [unit?, hzero, hexDigit?_hexDigit (n / 16) (by omega),
      hexDigit?_hexDigit (n % 16) (by omega), Option.bind_eq_bind, Option.bind_some,
      Option.pure_def, Option.some.injEq]
    omega
  rw [readParts, hunit]
  cases readParts cs with
  | none => rfl
  | some _ => rfl

theorem readParts_plain {c : Char} (hquote : c ≠ '"') (hslash : c ≠ '\\') (hlarge : ¬ c.toNat < 32)
    (cs : List Char) : readParts (c :: cs) = withPart (.char c) (readParts cs) := by
  rw [readParts.eq_5 c cs hquote (fun _ _ _ _ _ h _ => hslash h) fun _ _ h _ => hslash h,
    if_neg (not_or.2 ⟨hlarge, hslash⟩)]
  cases readParts cs with
  | none => rfl
  | some _ => rfl

theorem escapedChar_letter {m : Char × Char} (hm : m ∈ letters) :
    escapedChar m.1 = ['\\', m.2] ∧ m.2 ≠ 'u' ∧ escape? m.2 = some m.1 := by
  have hall : letters.all (fun m => decide
      (escapedChar m.1 = ['\\', m.2] ∧ m.2 ≠ 'u' ∧ escape? m.2 = some m.1)) = true := by decide
  exact of_decide_eq_true (List.all_eq_true.1 hall m hm)

theorem escapedChar_other {c : Char} (h : c ∉ letters.map (·.1)) :
    c ≠ '"' ∧ c ≠ '\\' ∧ escapedChar c = if c.toNat < 32 then
      ['\\', 'u', '0', '0', hexDigit (c.toNat / 16), hexDigit (c.toNat % 16)] else [c] := by
  simp only [letters, List.map_cons, List.map_nil, List.mem_cons, List.not_mem_nil, or_false,
    not_or] at h
  obtain ⟨hquote, hslash, hb, hf, hn, hr, ht⟩ := h
  refine ⟨hquote, hslash, ?_⟩
  rw [escapedChar, if_neg hquote, if_neg hslash, if_neg hb, if_neg hf, if_neg hn, if_neg hr,
    if_neg ht]

theorem readParts_escapedChar (c : Char) (cs : List Char) :
    readParts (escapedChar c ++ cs) = withPart (partOf c) (readParts cs) := by
  by_cases hletter : c ∈ letters.map (·.1)
  · obtain ⟨m, hm, rfl⟩ := List.mem_map.1 hletter
    obtain ⟨hwrite, hu, hread⟩ := escapedChar_letter hm
    rw [hwrite, partOf, if_neg fun h => h.2 hletter]
    exact readParts_letter hu hread cs
  · obtain ⟨hquote, hslash, hwrite⟩ := escapedChar_other hletter
    rw [hwrite]
    by_cases hsmall : c.toNat < 32
    · rw [if_pos hsmall, partOf, if_pos ⟨hsmall, hletter⟩]
      exact readParts_unit hsmall cs
    · rw [if_neg hsmall, partOf, if_neg fun h => hsmall h.1]
      exact readParts_plain hquote hslash hsmall cs

theorem joinParts_unit {n : Nat} (hn : n < 32) (parts : List TextPart) :
    joinParts (.unit n :: parts) = (joinParts parts).map (Char.ofNat n :: ·) := by
  have hhigh : isHigh n = false := by simp [isHigh]; omega
  have hlow : isLow n = false := by simp [isLow]; omega
  cases parts with
  | nil => simp [joinParts, hhigh, hlow]
  | cons part parts =>
    cases part with
    | char c => simp [joinParts, hhigh, hlow]
    | unit m => simp [joinParts, hhigh, hlow]

theorem joinParts_map_partOf (cs : List Char) : joinParts (cs.map partOf) = some cs := by
  induction cs with
  | nil => rfl
  | cons c cs ih =>
    rw [List.map_cons, partOf]
    split
    next h => rw [joinParts_unit h.1, ih, Option.map_some, Char.ofNat_toNat]
    · rw [joinParts, ih, Option.map_some]

theorem readParts_flatMap (cs rest : List Char) :
    readParts (cs.flatMap escapedChar ++ '"' :: rest) = some (cs.map partOf, rest) := by
  induction cs with
  | nil => rfl
  | cons c cs ih =>
    rw [List.flatMap_cons, List.append_assoc, readParts_escapedChar, ih]
    rfl

theorem readText_textChars (s : String) (rest : List Char) :
    readText (s.toList.flatMap escapedChar ++ '"' :: rest) = some (some s, rest) := by
  rw [readText, readParts_flatMap, Option.map_some]
  simp only [joinParts_map_partOf, Option.map_some, String.ofList_toList]

/-! ## Values -/

variable {fuel : Nat} {blanks cs mid rest : List Char}

-- The equations of the three readers, found once for the lemmas below.
attribute [local simp] readValue readItems readFields

theorem skip_append (hblanks : ∀ c ∈ blanks, isSpace c = true) : skip (blanks ++ cs) = skip cs :=
  List.dropWhile_append_of_pos hblanks

theorem skip_cons {c : Char} (hc : isSpace c = false) : skip (c :: cs) = c :: cs :=
  List.dropWhile_cons_of_neg (by simp [hc])

theorem readValue_append (hblanks : ∀ c ∈ blanks, isSpace c = true) :
    readValue fuel (blanks ++ cs) = readValue fuel cs := by
  cases fuel with
  | zero => rfl
  | succ fuel => rw [readValue, readValue, skip_append hblanks]

theorem textChars_append (s : String) (cs : List Char) :
    textChars s ++ cs = '"' :: (s.toList.flatMap escapedChar ++ '"' :: cs) := by
  simp [textChars]

theorem readValue_text (s : String) :
    readValue (fuel + 1) (textChars s ++ rest) = some (.text (some s), rest) := by
  rw [textChars_append, readValue, skip_cons (by decide)]
  simp only [readText_textChars, Option.map_some]

theorem isSpace_of_isAsciiDigit {c : Char} (hc : Text.isAsciiDigit c = true) :
    isSpace c = false := by
  cases hspace : isSpace c with
  | false => rfl
  | true =>
    simp only [isSpace, Bool.or_eq_true, beq_iff_eq] at hspace
    obtain ((rfl | rfl) | rfl) | rfl := hspace
    all_goals cases hc

/-- What starts with a digit is read as a number. -/
theorem readValue_digit {c : Char} (hc : Text.isAsciiDigit c = true) :
    readValue (fuel + 1) (c :: cs)
      = (readNumeral false (c :: cs)).map fun (n, rest) => (.number n, rest) := by
  rw [readValue, skip_cons (isSpace_of_isAsciiDigit hc)]
  split
  case h_9 h => rw [h]
  case h_1 h => cases h
  all_goals
    next h =>
      rw [(List.cons.inj h).1] at hc
      cases hc

theorem readValue_numeral {n : Numeral} (h : n.Proper) (hrest : Ends rest) :
    readValue (fuel + 1) (n.chars ++ rest) = some (.number n, rest) := by
  have hread := readNumeral_chars h hrest
  rw [Numeral.chars, List.append_assoc]
  cases hsign : n.negative with
  | true =>
    rw [hsign] at hread
    rw [Binary64.signChars, if_pos rfl, List.singleton_append, readValue, skip_cons (by decide)]
    simp only [hread, Option.map_some]
  | false =>
    rw [hsign] at hread
    rw [Binary64.signChars, if_neg Bool.false_ne_true, List.nil_append]
    obtain ⟨c, cs, hcs⟩ := List.exists_cons_of_ne_nil h.whole.ne_nil
    have hc : Text.isAsciiDigit c = true := h.whole.digit c (hcs ▸ List.mem_cons_self ..)
    rw [Numeral.unsignedChars, hcs, List.cons_append, List.cons_append] at hread ⊢
    rw [readValue_digit hc, hread, Option.map_some]

theorem readValue_int (i : Int) (hrest : Ends rest) :
    readValue (fuel + 1) (intChars i ++ rest) = some (.number (numeral i), rest) := by
  rw [← chars_numeral]
  exact readValue_numeral (proper_numeral i) hrest

theorem readItems_close (h : skip cs = ']' :: rest) : readItems fuel cs = none := by
  have hvalue : ∀ fuel, readValue fuel cs = none := by
    intro fuel
    cases fuel with
    | zero => rfl
    | succ fuel =>
      rw [readValue, h]
      rfl
  cases fuel with
  | zero => rfl
  | succ fuel => rw [readItems, hvalue]

theorem readFields_close (h : skip cs = '\x7d' :: rest) : readFields fuel cs = none := by
  have hname : readName cs = none := by
    rw [readName, h]
    rfl
  cases fuel with
  | zero => rfl
  | succ fuel => rw [readFields, hname]

theorem readValue_array {items : List Document} (h : readItems fuel cs = some (items, rest)) :
    readValue (fuel + 1) ('[' :: cs) = some (.array items, rest) := by
  rw [readValue, skip_cons (by decide)]
  simp only
  split
  next hclose => cases (readItems_close hclose).symm.trans h
  · rw [h, Option.map_some]

theorem readValue_object {fields : List (Option String × Document)}
    (h : readFields fuel cs = some (fields, rest)) :
    readValue (fuel + 1) ('\x7b' :: cs) = some (.object fields, rest) := by
  rw [readValue, skip_cons (by decide)]
  simp only
  split
  next hclose => cases (readFields_close hclose).symm.trans h
  · rw [h, Option.map_some]

/-! ## Items and fields -/

theorem readItems_last {d : Document} (h : readValue fuel cs = some (d, blanks ++ ']' :: rest))
    (hblanks : ∀ c ∈ blanks, isSpace c = true) :
    readItems (fuel + 1) cs = some ([d], rest) := by
  rw [readItems, h]
  simp only [skip_append hblanks, skip_cons (show isSpace ']' = false by decide)]

theorem readItems_more {d : Document} {ds : List Document}
    (h : readValue fuel cs = some (d, ',' :: mid)) (hmid : readItems fuel mid = some (ds, rest)) :
    readItems (fuel + 1) cs = some (d :: ds, rest) := by
  rw [readItems, h]
  simp only [skip_cons (show isSpace ',' = false by decide), hmid, Option.map_some]

theorem readFields_last {key : Option String} {d : Document} (hkey : readName cs = some (key, mid))
    (h : readValue fuel mid = some (d, blanks ++ '\x7d' :: rest))
    (hblanks : ∀ c ∈ blanks, isSpace c = true) :
    readFields (fuel + 1) cs = some ([(key, d)], rest) := by
  rw [readFields, hkey]
  simp only [h, skip_append hblanks, skip_cons (show isSpace '\x7d' = false by decide)]

theorem readFields_more {key : Option String} {d : Document} {later : List Char}
    {fields : List (Option String × Document)} (hkey : readName cs = some (key, mid))
    (h : readValue fuel mid = some (d, ',' :: later))
    (hlater : readFields fuel later = some (fields, rest)) :
    readFields (fuel + 1) cs = some ((key, d) :: fields, rest) := by
  rw [readFields, hkey]
  simp only [h, skip_cons (show isSpace ',' = false by decide), hlater, Option.map_some]

theorem readName_text (key : String) (hblanks : ∀ c ∈ blanks, isSpace c = true)
    (cs : List Char) :
    readName (blanks ++ (textChars key ++ ':' :: cs)) = some (some key, cs) := by
  rw [readName, skip_append hblanks, textChars_append, skip_cons (by decide)]
  simp only [readText_textChars, skip_cons (show isSpace ':' = false by decide)]

end Document

/-! ## Values as documents -/

open Document

mutual

/-- A value as it is read back. -/
def toDocument : Json → Document
  | .null => .null
  | .bool b => .bool b
  | .int i => .number (numeral i)
  | .float x => (Document.ofText? x.dataText).getD .null
  | .text s => .text (some s)
  | .array items => .array (itemDocuments items)
  | .object fields => .object (fieldDocuments fields)

/-- Items as they are read back. -/
def itemDocuments : List Json → List Document
  | [] => []
  | a :: items => toDocument a :: itemDocuments items

/-- Fields as they are read back. -/
def fieldDocuments : List (String × Json) → List (Option String × Document)
  | [] => []
  | (k, a) :: fields => (some k, toDocument a) :: fieldDocuments fields

end

theorem isSpace_newLine (level : Nat) : ∀ c ∈ newLine level, isSpace c = true := by
  intro c hc
  cases List.mem_cons.1 hc with
  | inl hline => rw [hline]; rfl
  | inr hblank => rw [List.eq_of_mem_replicate hblank]; rfl

theorem ends_cons {c : Char} {rest : List Char}
    (hc : Text.isAsciiDigit c = false ∧ c ≠ '.' ∧ c ≠ 'e' ∧ c ≠ 'E') : Ends (c :: rest) :=
  fun _ hd => Option.some.inj hd ▸ hc

theorem isSpace_blank : ∀ c ∈ [' '], isSpace c = true := by
  intro c hc
  rw [List.mem_singleton.1 hc]
  rfl

/-- A number ends where blanks start, or what comes after them. -/
theorem ends_append {blanks rest : List Char} (hblanks : ∀ b ∈ blanks, isSpace b = true)
    (hrest : Ends rest) : Ends (blanks ++ rest) := by
  cases blanks with
  | nil => exact hrest
  | cons b blanks =>
    refine ends_cons ?_
    have hb := hblanks b (List.mem_cons_self ..)
    simp only [isSpace, Bool.or_eq_true, beq_iff_eq] at hb
    obtain ((rfl | rfl) | rfl) | rfl := hb
    all_goals decide

theorem length_chars_pos {n : Numeral} (h : n.Proper) : 0 < n.chars.length := by
  have hwhole : 0 < n.whole.length := List.length_pos_of_ne_nil h.whole.ne_nil
  rw [Numeral.chars, Numeral.unsignedChars, List.length_append, List.length_append]
  omega

theorem ofText?_numeral {n : Numeral} (h : n.Proper) :
    Document.ofText? (String.ofList n.chars) = some (.number n) := by
  have hends : Ends [] := fun _ hc => nomatch hc
  have hread : readValue (2 * n.chars.length + 2) (n.chars ++ []) = some (.number n, []) :=
    readValue_numeral h hends
  rw [List.append_nil] at hread
  simp only [Document.ofText?, String.toList_ofList, hread]
  rfl

/-- A finite number is read as a numeral with a point or an exponent. -/
theorem exists_dataNumeral (s : Bool) (u : Nat) :
    ∃ n : Numeral, n.Proper ∧ (Binary64.finite s u).dataText = String.ofList n.chars ∧
      Document.ofText? (Binary64.finite s u).dataText = some (.number n) ∧
      (n.fraction ≠ [] ∨ n.exponent ≠ none) := by
  obtain ⟨n, hn, -, hchars, hform⟩ := exists_numeral s u
  have htext : (Binary64.finite s u).dataText = String.ofList n.chars := by
    rw [← hchars, String.ofList_toList]
  exact ⟨n, hn, htext, by rw [htext, ofText?_numeral hn], hform⟩

/-- A number that is not finite is read as null. -/
theorem dataText_cases (x : Binary64) :
    (x.dataText = "null" ∧ (Json.float x).toDocument = .null) ∨
      ∃ n : Numeral, n.Proper ∧ x.dataText = String.ofList n.chars ∧
        (Json.float x).toDocument = .number n := by
  have hnull : (Document.ofText? "null").getD .null = .null := rfl
  cases x with
  | nan => exact .inl ⟨rfl, hnull⟩
  | infinite s => exact .inl ⟨rfl, hnull⟩
  | finite s u =>
    obtain ⟨n, hn, htext, hread, -⟩ := exists_dataNumeral s u
    exact .inr ⟨n, hn, htext, by rw [toDocument, hread, Option.getD_some]⟩

/-- A number is at least one character long. -/
theorem length_dataText_pos (x : Binary64) : 0 < x.dataText.toList.length := by
  obtain ⟨htext, -⟩ | ⟨n, hn, htext, -⟩ := dataText_cases x
  · rw [htext]
    decide
  · rw [htext, String.toList_ofList]
    exact length_chars_pos hn

theorem readValue_float (x : Binary64) {fuel : Nat} {rest : List Char} (hrest : Ends rest) :
    readValue (fuel + 1) (x.dataText.toList ++ rest) = some ((Json.float x).toDocument, rest) := by
  obtain ⟨htext, hdocument⟩ | ⟨n, hn, htext, hdocument⟩ := dataText_cases x
  · rw [htext, hdocument]
    rfl
  · rw [htext, hdocument, String.toList_ofList]
    exact readValue_numeral hn hrest

theorem length_intChars_pos (i : Int) : 0 < (intChars i).length := by
  rw [← chars_numeral]
  exact length_chars_pos (proper_numeral i)

mutual

/-- The indented layout of a value is read back.  The items and the fields come with the blanks
that stand before the bracket, for the bracket tells that there are no more. -/
theorem readValue_prettyChars : ∀ (v : Json) (level : Nat) {fuel : Nat} {rest : List Char},
    2 * (prettyChars level v).length ≤ fuel → Ends rest →
      readValue fuel (prettyChars level v ++ rest) = some (v.toDocument, rest)
  | .null, _, fuel + 1, _, _, _ => rfl
  | .bool true, _, fuel + 1, _, _, _ => rfl
  | .bool false, _, fuel + 1, _, _, _ => rfl
  | .int i, _, 0, _, hfuel, _ => by
    have hpos := length_intChars_pos i
    rw [prettyChars] at hfuel
    omega
  | .int i, _, fuel + 1, _, _, hrest => readValue_int i hrest
  | .float x, _, 0, _, hfuel, _ => by
    have hpos := length_dataText_pos x
    rw [prettyChars] at hfuel
    omega
  | .float x, _, fuel + 1, _, _, hrest => readValue_float x hrest
  | .text s, _, fuel + 1, _, _, _ => readValue_text s
  | .array [], _, fuel + 1, _, _, _ => rfl
  | .array (a :: items), level, fuel + 1, rest, hfuel, _ => by
    simp only [prettyChars, List.length_append, List.length_cons, List.length_nil] at hfuel
    have hitems := readItems_prettyItems (a :: items) (by simp) (level + 1) rest
      (by omega : _ ≤ fuel) (isSpace_newLine level)
    simp only [prettyChars, List.append_assoc, List.cons_append, List.nil_append]
    exact readValue_array hitems
  | .object [], _, fuel + 1, _, _, _ => rfl
  | .object (f :: fields), level, fuel + 1, rest, hfuel, _ => by
    simp only [prettyChars, List.length_append, List.length_cons, List.length_nil] at hfuel
    have hfields := readFields_prettyFields (f :: fields) (by simp) (level + 1) rest
      (by omega : _ ≤ fuel) (isSpace_newLine level)
    simp only [prettyChars, List.append_assoc, List.cons_append, List.nil_append]
    exact readValue_object hfields

theorem readItems_prettyItems : ∀ (items : List Json), items ≠ [] →
    ∀ (level : Nat) {fuel : Nat} {blanks : List Char} (rest : List Char),
      2 * (prettyItems level items).length + 1 ≤ fuel → (∀ b ∈ blanks, isSpace b = true) →
        readItems fuel (prettyItems level items ++ (blanks ++ ']' :: rest))
          = some (itemDocuments items, rest)
  | [], hne, _, _, _, _, _, _ => absurd rfl hne
  | [a], _, level, fuel + 1, blanks, rest, hfuel, hblanks => by
    simp only [prettyItems, List.length_append] at hfuel
    have hends : Ends (blanks ++ ']' :: rest) := ends_append hblanks (ends_cons (by decide))
    have hvalue := readValue_prettyChars a level (by omega : _ ≤ fuel) hends
    refine readItems_last ?_ hblanks
    rw [prettyItems, List.append_assoc, readValue_append (isSpace_newLine level)]
    exact hvalue
  | a :: b :: items, _, level, fuel + 1, blanks, rest, hfuel, hblanks => by
    simp only [prettyItems, List.length_append, List.length_cons] at hfuel
    have hitems := readItems_prettyItems (b :: items) (by simp) level rest
      (by omega : _ ≤ fuel) hblanks
    have hends : Ends (',' :: (prettyItems level (b :: items) ++ (blanks ++ ']' :: rest))) :=
      ends_cons (by decide)
    have hvalue := readValue_prettyChars a level (by omega : _ ≤ fuel) hends
    refine readItems_more ?_ hitems
    rw [prettyItems, List.append_assoc, List.append_assoc,
      readValue_append (isSpace_newLine level)]
    exact hvalue

theorem readFields_prettyFields : ∀ (fields : List (String × Json)), fields ≠ [] →
    ∀ (level : Nat) {fuel : Nat} {blanks : List Char} (rest : List Char),
      2 * (prettyFields level fields).length + 1 ≤ fuel →
        (∀ b ∈ blanks, isSpace b = true) →
          readFields fuel (prettyFields level fields ++ (blanks ++ '\x7d' :: rest))
            = some (fieldDocuments fields, rest)
  | [], hne, _, _, _, _, _, _ => absurd rfl hne
  | [(k, a)], _, level, fuel + 1, blanks, rest, hfuel, hblanks => by
    simp only [prettyFields, List.length_append, List.length_cons] at hfuel
    have hends : Ends (blanks ++ '\x7d' :: rest) := ends_append hblanks (ends_cons (by decide))
    have hvalue := readValue_prettyChars a level (by omega : _ ≤ fuel) hends
    rw [← readValue_append isSpace_blank] at hvalue
    have hname := readName_text k (isSpace_newLine level)
      ([' '] ++ (prettyChars level a ++ (blanks ++ '\x7d' :: rest)))
    refine readFields_last ?_ hvalue hblanks
    simpa only [prettyFields, List.append_assoc, List.cons_append, List.nil_append] using hname
  | (k, a) :: f :: fields, _, level, fuel + 1, blanks, rest, hfuel, hblanks => by
    simp only [prettyFields, List.length_append, List.length_cons] at hfuel
    have hfields := readFields_prettyFields (f :: fields) (by simp) level rest
      (by omega : _ ≤ fuel) hblanks
    have hends : Ends (',' :: (prettyFields level (f :: fields) ++ (blanks ++ '\x7d' :: rest))) :=
      ends_cons (by decide)
    have hvalue := readValue_prettyChars a level (by omega : _ ≤ fuel) hends
    rw [← readValue_append isSpace_blank] at hvalue
    have hname := readName_text k (isSpace_newLine level)
      ([' '] ++ (prettyChars level a ++
        ',' :: (prettyFields level (f :: fields) ++ (blanks ++ '\x7d' :: rest))))
    refine readFields_more ?_ hvalue hfields
    simpa only [prettyFields, List.append_assoc, List.cons_append, List.nil_append] using hname

end

theorem ofText?_pretty (v : Json) :
    Document.ofText? v.pretty = some v.toDocument := by
  have hends : Ends [] := fun _ hc => nomatch hc
  have hread := readValue_prettyChars v 0
    (by omega : _ ≤ 2 * (prettyChars 0 v).length + 2) hends
  rw [List.append_nil] at hread
  simp only [Document.ofText?, pretty, String.toList_ofList, hread]
  rfl

end Json

end StudyPlan
