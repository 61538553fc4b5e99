import KernelAudit.Proofs.Json.Text

/-! Values are read back from their texts, in either layout and with anything behind them that cannot go
    on with a number. A reader of values passes over blanks, so the layout is lost; it gives up a step
    for every bracket, item and member, of which a text holds no more than characters. -/

namespace KernelAudit.Json

/-- The values that a text can spell: sound all the way down, with whole numbers. -/
inductive Plain : Json → Prop
  | null : Plain .null
  | bool (b : Bool) : Plain (.bool b)
  | nat (n : Nat) : Plain (.nat n)
  | text (s : String) : Plain (.text s)
  | array {items : List Json} (h : ∀ v ∈ items, Plain v) : Plain (.array items)
  | record {members : List (String × Json)} (h : ∀ p ∈ members, Plain p.2) : Plain (.record members)

/-- Members whose keys are all readable. -/
def keyed (members : List (String × Json)) : List (Option String × Json) :=
  members.map fun (key, v) => (some key, v)

theorem keyed_cons (p : String × Json) (members : List (String × Json)) :
    keyed (p :: members) = (some p.1, p.2) :: keyed members := rfl

theorem record_eq (members : List (String × Json)) : record members = .object (keyed members) true := rfl

/-- The value is read back at every depth, if the reader has three steps for each character. -/
def ReadsBack (layout : Layout) (v : Json) : Prop :=
  ∀ depth fuel rest, 3 * (chars layout depth v).length ≤ fuel → EndsNumber rest →
    readValue fuel (chars layout depth v ++ rest) = (v, some rest)

section
variable {layout : Layout} {depth outer fuel : Nat} {cs cs' rest : List Char} {c : Char}

/-! ### Blanks -/

theorem skipBlanks_cons (h : isBlank c = false) : skipBlanks (c :: cs) = c :: cs := by
  rw [skipBlanks, List.dropWhile_cons, h]
  rfl

theorem skipBlanks_line : skipBlanks (layout.line depth ++ cs) = skipBlanks cs := by
  cases layout with
  | compact => rfl
  | spread =>
    refine List.dropWhile_append_of_pos fun c hc => ?_
    rcases List.mem_cons.mp hc with rfl | hc
    · rfl
    · rw [(List.mem_replicate.mp hc).2]
      rfl

theorem endsNumber_line (h : EndsNumber cs) : EndsNumber (layout.line depth ++ cs) := by
  cases layout with
  | compact => exact h
  | spread => exact endsNumber_cons (by decide)

theorem readValue_congr (h : skipBlanks cs = skipBlanks cs') : readValue fuel cs = readValue fuel cs' := by
  cases fuel with
  | zero => rw [readValue, readValue]
  | succ fuel => rw [readValue, readValue, h]

/-! ### Steps of the readers -/

theorem readValue_list (h : skipBlanks cs = '[' :: rest) :
    readValue (fuel + 1) cs =
      (.list (readItems fuel true rest).1 (readItems fuel true rest).2.isSome, (readItems fuel true rest).2) := by
  rw [readValue, h]
  rfl

theorem readValue_object (h : skipBlanks cs = '\x7b' :: rest) :
    readValue (fuel + 1) cs =
      (.object (readMembers fuel true rest).1 (readMembers fuel true rest).2.isSome,
        (readMembers fuel true rest).2) := by
  rw [readValue, h]
  rfl

theorem readItems_close {first : Bool} (h : skipBlanks cs = ']' :: rest) :
    readItems (fuel + 1) first cs = ([], some rest) := by
  rw [readItems]
  exact h

theorem readItems_first (h : skipBlanks cs = c :: rest) (hc : c ≠ ']') :
    readItems (fuel + 1) true cs = readItemsFrom fuel (c :: rest) := by
  simp [readItems, h, hc]

theorem readItems_next (h : skipBlanks cs = ',' :: rest) :
    readItems (fuel + 1) false cs = readItemsFrom fuel rest := by
  simp [readItems, h]

theorem readMembers_close {first : Bool} (h : skipBlanks cs = '\x7d' :: rest) :
    readMembers (fuel + 1) first cs = ([], some rest) := by
  rw [readMembers]
  exact h

theorem readMembers_first (h : skipBlanks cs = '"' :: rest) :
    readMembers (fuel + 1) true cs = readMembersFrom fuel rest := by
  simp [readMembers, h]

theorem readMembers_next (h : skipBlanks cs = ',' :: cs') (h' : skipBlanks cs' = '"' :: rest) :
    readMembers (fuel + 1) false cs = readMembersFrom fuel rest := by
  simp [readMembers, h, h']

/-! ### Items and members -/

/-- What stands behind a key: a colon, and then only blanks up to the value. -/
theorem colon_eq (layout : Layout) :
    ∃ blanks, layout.colon = ':' :: blanks ∧ ∀ cs, skipBlanks (blanks ++ cs) = skipBlanks cs := by
  cases layout with
  | compact => exact ⟨[], rfl, fun _ => rfl⟩
  | spread => exact ⟨[' '], rfl, fun _ => rfl⟩

section
variable {v : Json} {items : List Json} {members : List (Option String × Json)} {left : Option (List Char)}

/-- An item is read back behind its line break, and then the items after it. -/
theorem readItemsFrom_item (hv : ReadsBack layout v) (depth : Nat)
    (hfuel : 3 * (chars layout depth v).length ≤ fuel) (hrest : EndsNumber rest) (hitems : readItems fuel false rest = (items, left))
    (hskip : skipBlanks cs = skipBlanks (chars layout depth v ++ rest)) :
    readItemsFrom (fuel + 1) cs = (v :: items, left) := by
  rw [readItemsFrom, readValue_congr hskip, hv depth fuel rest hfuel hrest]
  simp [hitems]

/-- A member is read back behind the opening quote of its key, and then the members after it. -/
theorem readMembersFrom_member {key : String} (hv : ReadsBack layout v)
    (hfuel : 3 * (chars layout depth v).length ≤ fuel) (hrest : EndsNumber rest)
    (hmembers : readMembers fuel false rest = (members, left)) :
    readMembersFrom (fuel + 1)
      (key.toList.flatMap escapeChar ++ '"' :: (layout.colon ++ (chars layout depth v ++ rest))) =
      ((some key, v) :: members, left) := by
  obtain ⟨blanks, hcolon, hblanks⟩ := colon_eq layout
  have hvalue : readValue fuel (blanks ++ (chars layout depth v ++ rest)) = (v, some rest) := by
    rw [readValue_congr (hblanks _), hv depth fuel rest hfuel hrest]
  have hskip : skipBlanks (layout.colon ++ (chars layout depth v ++ rest)) =
      ':' :: (blanks ++ (chars layout depth v ++ rest)) := by
    rw [hcolon, List.cons_append]
    exact skipBlanks_cons rfl
  rw [readMembersFrom, readString_escaped]
  simp [hskip, hvalue, hmembers]

end

/-- Further items are followed by a comma or by the line of the closing bracket. -/
theorem endsNumber_items (items : List Json) :
    EndsNumber (itemChars layout depth items ++ (layout.line outer ++ ']' :: rest)) := by
  cases items with
  | nil => exact endsNumber_line (endsNumber_cons (by decide))
  | cons v items => exact endsNumber_cons (by decide)

theorem endsNumber_members (members : List (Option String × Json)) :
    EndsNumber (memberChars layout depth members ++ (layout.line outer ++ '\x7d' :: rest)) := by
  cases members with
  | nil => exact endsNumber_line (endsNumber_cons (by decide))
  | cons p members => exact endsNumber_cons (by decide)

/-- A list is read back up to its closing bracket. Each item takes two steps. -/
theorem readItems_itemChars {items : List Json} (h : ∀ v ∈ items, ReadsBack layout v)
    (hfuel : 3 * (itemChars layout depth items).length + 1 ≤ fuel) :
    readItems fuel false (itemChars layout depth items ++ (layout.line outer ++ ']' :: rest)) =
      (items, some rest) := by
  induction items generalizing fuel with
  | nil =>
    obtain ⟨fuel, rfl⟩ := Nat.exists_eq_add_of_le' hfuel
    refine readItems_close ?_
    rw [itemChars, List.nil_append, skipBlanks_line, skipBlanks_cons rfl]
  | cons v items ih =>
    simp only [itemChars, List.length_append, List.length_cons] at hfuel
    obtain ⟨fuel, rfl⟩ := Nat.exists_eq_add_of_le' (show 2 ≤ fuel by omega)
    obtain ⟨hv, hitems⟩ := List.forall_mem_cons.mp h
    have hcomma : skipBlanks (itemChars layout depth (v :: items) ++ (layout.line outer ++ ']' :: rest)) =
        ',' :: (layout.line depth ++ (chars layout depth v ++
          (itemChars layout depth items ++ (layout.line outer ++ ']' :: rest)))) := by
      simp only [itemChars, List.cons_append, List.append_assoc]
      exact skipBlanks_cons rfl
    rw [readItems_next hcomma]
    exact readItemsFrom_item hv depth (by omega) (endsNumber_items items) (ih hitems (by omega)) skipBlanks_line

/-- An object is read back up to its closing brace. -/
theorem readMembers_memberChars {members : List (String × Json)} (h : ∀ p ∈ members, ReadsBack layout p.2)
    (hfuel : 3 * (memberChars layout depth (keyed members)).length + 1 ≤ fuel) :
    readMembers fuel false (memberChars layout depth (keyed members) ++ (layout.line outer ++ '\x7d' :: rest)) =
      (keyed members, some rest) := by
  induction members generalizing fuel with
  | nil =>
    obtain ⟨fuel, rfl⟩ := Nat.exists_eq_add_of_le' hfuel
    refine readMembers_close ?_
    rw [keyed, List.map_nil, memberChars, List.nil_append, skipBlanks_line, skipBlanks_cons rfl]
  | cons p members ih =>
    simp only [keyed_cons, memberChars, quoted, List.length_append, List.length_cons] at hfuel
    obtain ⟨fuel, rfl⟩ := Nat.exists_eq_add_of_le' (show 2 ≤ fuel by omega)
    obtain ⟨hv, hmembers⟩ := List.forall_mem_cons.mp h
    let tail := memberChars layout depth (keyed members) ++ (layout.line outer ++ '\x7d' :: rest)
    let key := p.1.toList.flatMap escapeChar ++ '"' :: (layout.colon ++ (chars layout depth p.2 ++ tail))
    have hcomma :
        skipBlanks (memberChars layout depth (keyed (p :: members)) ++ (layout.line outer ++ '\x7d' :: rest)) =
          ',' :: (layout.line depth ++ '"' :: key) := by
      simp only [keyed_cons, memberChars, quoted, Option.getD_some, List.cons_append, List.append_assoc,
        List.nil_append, key, tail]
      exact skipBlanks_cons rfl
    have hquote : skipBlanks (layout.line depth ++ '"' :: key) = '"' :: key := by
      rw [skipBlanks_line, skipBlanks_cons rfl]
    rw [readMembers_next hcomma hquote]
    exact readMembersFrom_member hv (by omega) (endsNumber_members _) (ih hmembers (by omega))

/-! ### Values -/

theorem ne_of_isDigit {d : Char} (hc : c.isDigit) (hd : d.isDigit = false) : c ≠ d := by
  rintro rfl
  rw [hc] at hd
  cases hd

theorem isBlank_of_isDigit (hc : c.isDigit) : isBlank c = false := by
  have hne : ∀ d, d.isDigit = false → ¬c = d := fun d hd => ne_of_isDigit hc hd
  simp [isBlank, hne]

theorem readValue_digit {n : Numeral} (hc : c.isDigit) (h : readNumeral false (c :: cs) = some (n, rest)) :
    readValue (fuel + 1) (c :: cs) = (.number n, some rest) := by
  have hne : ∀ d, d.isDigit = false → ¬c = d := fun d hd => ne_of_isDigit hc hd
  rw [readValue, skipBlanks_cons (isBlank_of_isDigit hc)]
  simp [hne, hc, h]

theorem chars_nat (n : Nat) : chars layout depth (.nat n) = Nat.toDigits 10 n := by
  simp [Json.nat, chars, Numeral.chars, Numeral.ofNat]

theorem exists_cons_toDigits (n : Nat) : ∃ c tail, Nat.toDigits 10 n = c :: tail ∧ c.isDigit := by
  obtain ⟨c, tail, hcons⟩ := List.exists_cons_of_ne_nil (Nat.toDigits_ne_nil (n := n) (b := 10))
  have hmem : c ∈ Nat.toDigits 10 n := hcons ▸ List.mem_cons_self
  exact ⟨c, tail, hcons, Nat.isDigit_of_mem_toDigits (by decide) (by decide) hmem⟩

/-- A plain value begins with a character that is no blank and closes no list. -/
theorem Plain.chars_eq_cons {v : Json} (h : Plain v) :
    ∃ c tail, chars layout depth v = c :: tail ∧ isBlank c = false ∧ c ≠ ']' := by
  cases h with
  | null => exact ⟨'n', _, rfl, rfl, by decide⟩
  | bool b => cases b <;> exact ⟨_, _, rfl, rfl, by decide⟩
  | nat n =>
    obtain ⟨c, tail, hcons, hdigit⟩ := exists_cons_toDigits n
    exact ⟨c, tail, (chars_nat n).trans hcons, isBlank_of_isDigit hdigit, ne_of_isDigit hdigit rfl⟩
  | text s => exact ⟨'"', _, rfl, rfl, by decide⟩
  | @array items _ =>
    cases items with
    | nil => exact ⟨'[', _, rfl, rfl, by decide⟩
    | cons v rest => exact ⟨'[', _, by rw [Json.array, chars]; rfl, rfl, by decide⟩
  | @record members _ =>
    cases members with
    | nil => exact ⟨'\x7b', _, rfl, rfl, by decide⟩
    | cons p rest => exact ⟨'\x7b', _, by rw [Json.record, List.map_cons, chars]; rfl, rfl, by decide⟩

theorem readsBack_nat (n : Nat) : ReadsBack layout (.nat n) := by
  intro depth fuel rest hfuel hrest
  obtain ⟨c, tail, hcons, hdigit⟩ := exists_cons_toDigits n
  have hread := readNumeral_toDigits n hrest
  rw [chars_nat, hcons] at hfuel ⊢
  rw [hcons] at hread
  obtain ⟨fuel, rfl⟩ := Nat.exists_eq_add_of_le' (show 1 ≤ fuel by simp at hfuel; omega)
  exact readValue_digit hdigit hread

theorem readsBack_text (s : String) : ReadsBack layout (.text s) := by
  intro depth fuel rest hfuel hrest
  have hchars : chars layout depth (.text s) ++ rest = '"' :: (s.toList.flatMap escapeChar ++ '"' :: rest) := by
    simp [Json.text, chars, quoted]
  have hlength : 1 ≤ (chars layout depth (.text s)).length := by simp [Json.text, chars, quoted]
  obtain ⟨fuel, rfl⟩ := Nat.exists_eq_add_of_le' (show 1 ≤ fuel by omega)
  rw [hchars, readValue, skipBlanks_cons rfl]
  simp [readString_escaped, Json.text]

/-- The first item of a list stands behind its opening bracket, the others behind commas. -/
theorem readsBack_array {items : List Json} (hplain : ∀ v ∈ items, Plain v)
    (h : ∀ v ∈ items, ReadsBack layout v) : ReadsBack layout (.array items) := by
  intro depth fuel rest hfuel hrest
  rcases items with _ | ⟨v, items⟩
  · simp only [Json.array, chars, List.length_cons] at hfuel ⊢
    obtain ⟨fuel, rfl⟩ := Nat.exists_eq_add_of_le' (show 2 ≤ fuel by omega)
    rw [List.cons_append, readValue_list (skipBlanks_cons rfl), List.cons_append,
      readItems_close (skipBlanks_cons rfl)]
    rfl
  · obtain ⟨hv, hitems⟩ := List.forall_mem_cons.mp h
    let tail := itemChars layout (depth + 1) items ++ (layout.line depth ++ ']' :: rest)
    have hchars : chars layout depth (.array (v :: items)) ++ rest =
        '[' :: (layout.line (depth + 1) ++ (chars layout (depth + 1) v ++ tail)) := by
      simp [Json.array, chars, tail]
    simp only [Json.array, chars, List.length_append, List.length_cons] at hfuel
    obtain ⟨fuel, rfl⟩ := Nat.exists_eq_add_of_le' (show 3 ≤ fuel by omega)
    obtain ⟨c, cs, hcons, hblank, hclose⟩ := (hplain v List.mem_cons_self).chars_eq_cons
    have hfirst :
        skipBlanks (layout.line (depth + 1) ++ (chars layout (depth + 1) v ++ tail)) = c :: (cs ++ tail) := by
      rw [skipBlanks_line, hcons, List.cons_append, skipBlanks_cons hblank]
    have hread : readItems (fuel + 2) true (layout.line (depth + 1) ++ (chars layout (depth + 1) v ++ tail)) =
        (v :: items, some rest) := by
      have htail : readItems fuel false tail = (items, some rest) := readItems_itemChars hitems (by omega)
      rw [readItems_first hfirst hclose]
      refine readItemsFrom_item hv (depth + 1) (by omega) (endsNumber_items items) htail ?_
      rw [hcons, List.cons_append]
    rw [hchars, readValue_list (skipBlanks_cons rfl), hread]
    rfl

/-- The first member of an object stands behind its opening brace, the others behind commas. -/
theorem readsBack_record {members : List (String × Json)} (h : ∀ p ∈ members, ReadsBack layout p.2) :
    ReadsBack layout (.record members) := by
  intro depth fuel rest hfuel hrest
  rcases members with _ | ⟨p, members⟩
  · simp only [record, List.map_nil, chars, List.length_cons] at hfuel ⊢
    obtain ⟨fuel, rfl⟩ := Nat.exists_eq_add_of_le' (show 2 ≤ fuel by omega)
    rw [List.cons_append, readValue_object (skipBlanks_cons rfl), List.cons_append,
      readMembers_close (skipBlanks_cons rfl)]
    rfl
  · obtain ⟨hv, hmembers⟩ := List.forall_mem_cons.mp h
    let tail := memberChars layout (depth + 1) (keyed members) ++ (layout.line depth ++ '\x7d' :: rest)
    let key := p.1.toList.flatMap escapeChar ++ '"' :: (layout.colon ++ (chars layout (depth + 1) p.2 ++ tail))
    have hchars : chars layout depth (record (p :: members)) ++ rest =
        '\x7b' :: (layout.line (depth + 1) ++ '"' :: key) := by
      simp [record_eq, keyed_cons, chars, quoted, key, tail]
    simp only [record_eq, keyed_cons, chars, quoted, List.length_append, List.length_cons] at hfuel
    obtain ⟨fuel, rfl⟩ := Nat.exists_eq_add_of_le' (show 3 ≤ fuel by omega)
    have hfirst : skipBlanks (layout.line (depth + 1) ++ '"' :: key) = '"' :: key := by
      rw [skipBlanks_line, skipBlanks_cons rfl]
    have hread : readMembers (fuel + 2) true (layout.line (depth + 1) ++ '"' :: key) =
        ((some p.1, p.2) :: keyed members, some rest) := by
      rw [readMembers_first hfirst]
      exact readMembersFrom_member hv (by omega) (endsNumber_members _)
        (readMembers_memberChars hmembers (by omega))
    rw [hchars, readValue_object (skipBlanks_cons rfl), hread]
    rfl

theorem readsBack_null : ReadsBack layout .null := by
  intro depth fuel rest hfuel _
  have hchars : chars layout depth .null = ['n', 'u', 'l', 'l'] := by rw [chars]; rfl
  rw [hchars] at hfuel ⊢
  obtain ⟨fuel, rfl⟩ := Nat.exists_eq_add_of_le' (show 1 ≤ fuel by simp at hfuel; omega)
  rfl

theorem readsBack_bool (b : Bool) : ReadsBack layout (.bool b) := by
  intro depth fuel rest hfuel _
  have hchars : chars layout depth (.bool b) = (toString b).toList := by rw [chars]
  have hlength : 0 < (toString b).toList.length := by cases b <;> decide
  rw [hchars] at hfuel ⊢
  obtain ⟨fuel, rfl⟩ := Nat.exists_eq_add_of_le' (show 1 ≤ fuel by omega)
  cases b <;> rfl

/-- Every plain value is read back from its text. -/
theorem Plain.readsBack {v : Json} (h : Plain v) : ReadsBack layout v := by
  induction h with
  | null => exact readsBack_null
  | bool b => exact readsBack_bool b
  | nat n => exact readsBack_nat n
  | text s => exact readsBack_text s
  | array h ih => exact readsBack_array h ih
  | record h ih => exact readsBack_record ih

theorem skipBlanks_eq_nil (h : ∀ c ∈ cs, isBlank c = true) : skipBlanks cs = [] := by
  have hall : skipBlanks (cs ++ []) = [] := List.dropWhile_append_of_pos h
  rwa [List.append_nil] at hall

/-- A document that was written from a plain value is read as that value, to its end, with blanks behind it
    or without. -/
theorem Plain.read_render_append {v : Json} (h : Plain v) {behind : String}
    (hblank : ∀ c ∈ behind.toList, isBlank c = true) : read (render layout v ++ behind) = ⟨v, true⟩ := by
  have hback : ReadsBack layout v := h.readsBack
  have hread := hback 0 (3 * (chars layout 0 v ++ behind.toList).length + 3) behind.toList
    (by rw [List.length_append]; omega) (endsNumber_of_blank hblank)
  rw [read, render, String.toList_append, String.toList_ofList]
  simp only [hread, skipBlanks_eq_nil hblank, List.isEmpty_nil]

theorem Plain.read_render {v : Json} (h : Plain v) : read (render layout v) = ⟨v, true⟩ := by
  have hread : read (render layout v ++ "") = ⟨v, true⟩ := h.read_render_append (by simp)
  rwa [String.append_empty] at hread

end

end KernelAudit.Json
