import KernelAudit.Xml.Element

/-! The grammar of XML 1.0 documents, as far as elements, attributes, character data and references go:
    whatever it admits is a document of the full grammar. It says where markup may stand and that
    start and end tags match; which characters a document may hold at all is said apart (`IsChar`), so
    a document is well-formed if both hold. -/

namespace KernelAudit.Xml

/-! ### Characters -/

/-- The characters that a document may hold. -/
def IsChar (c : Char) : Prop :=
  c ∈ ['\t', '\n', '\r'] ∨ (0x20 ≤ c.toNat ∧ c.toNat ≤ 0xd7ff) ∨ (0xe000 ≤ c.toNat ∧ c.toNat ≤ 0xfffd) ∨
    0x10000 ≤ c.toNat

instance : DecidablePred IsChar := fun c =>
  inferInstanceAs (Decidable (c ∈ ['\t', '\n', '\r'] ∨ (0x20 ≤ c.toNat ∧ c.toNat ≤ 0xd7ff) ∨
    (0xe000 ≤ c.toNat ∧ c.toNat ≤ 0xfffd) ∨ 0x10000 ≤ c.toNat))

/-- All characters are ones that a document may hold. -/
def AllChars (cs : List Char) : Prop := ∀ c ∈ cs, IsChar c

instance : DecidablePred AllChars := List.decidableBAll IsChar

/-- What separates attributes, and may stand between other pieces of markup. -/
def IsBlank (cs : List Char) : Prop := ∀ c ∈ cs, c ∈ [' ', '\t', '\n', '\r']

/-- What a name may begin with, as far as it is ASCII. -/
def beginsName (c : Char) : Bool := c.isAlpha || c = '_' || c = ':'

/-- What may stand in a name, as far as it is ASCII. -/
def continuesName (c : Char) : Bool := beginsName c || c.isDigit || c = '-' || c = '.'

def IsName (name : String) : Prop :=
  name.toList ≠ [] ∧ (∀ c ∈ name.toList.head?, beginsName c) ∧ ∀ c ∈ name.toList, continuesName c

instance : DecidablePred IsName := fun name =>
  @instDecidableAnd _ _ inferInstance (@instDecidableAnd _ _
    (Option.decidableForallMem name.toList.head?) (List.decidableBAll (continuesName · = true) name.toList))

/-! ### Text -/

/-- The names that stand for characters without being declared. -/
def entities : List String := ["amp", "lt", "gt", "quot", "apos"]

/-- A name that stands for a character, between its marks. -/
def reference (name : String) : List Char := '&' :: name.toList ++ [';']

/-- The value of an attribute, without its quotes. -/
inductive Value : List Char → Prop
  | nil : Value []
  | char {c : Char} {rest : List Char} : c ∉ ['<', '&', '"'] → Value rest → Value (c :: rest)
  | reference {name : String} {rest : List Char} : name ∈ entities → Value rest → Value (reference name ++ rest)

/-- Character data: no mark that begins markup, and not the mark that ends a section. -/
def CharData (cs : List Char) : Prop := '<' ∉ cs ∧ '&' ∉ cs ∧ ¬[']', ']', '>'] <:+: cs

/-! ### Elements -/

/-- The attributes of a tag, each after a blank; their names are different. -/
inductive Attributes : List String → List Char → Prop
  | nil : Attributes [] []
  | cons {name : String} {names : List String} {blank value rest : List Char} :
    blank ≠ [] → IsBlank blank → IsName name → name ∉ names → Value value → Attributes names rest →
      Attributes (name :: names) (blank ++ name.toList ++ ['=', '"'] ++ value ++ '"' :: rest)

mutual

/-- An element with its tags, by the name of its tags. -/
inductive Element : String → List Char → Prop
  | empty {name : String} {names : List String} {attributes blank : List Char} :
    IsName name → Attributes names attributes → IsBlank blank →
      Element name ('<' :: name.toList ++ attributes ++ blank ++ ['/', '>'])
  | tags {name : String} {names : List String} {attributes content : List Char} :
    IsName name → Attributes names attributes → Content content →
      Element name ('<' :: name.toList ++ attributes ++ ['>'] ++ content ++ ['<', '/'] ++ name.toList ++ ['>'])

/-- What stands between two tags. -/
inductive Content : List Char → Prop
  | text {data : List Char} : CharData data → Content data
  | reference {data rest : List Char} {name : String} :
    CharData data → name ∈ entities → Content rest → Content (data ++ reference name ++ rest)
  | element {data element rest : List Char} {name : String} :
    CharData data → Element name element → Content rest → Content (data ++ element ++ rest)

end

/-- The first line of a document. -/
def declaration : String := "<?xml version=\"1.0\" encoding=\"UTF-8\"?>"

/-- A document: the declaration and one element, its root. -/
def Document (root : String) (cs : List Char) : Prop :=
  ∃ blank element, cs = declaration.toList ++ blank ++ element ∧ IsBlank blank ∧ Element root element

/-- A document that holds no character it may not hold. -/
def WellFormed (root : String) (cs : List Char) : Prop := Document root cs ∧ AllChars cs

/-! ### The characters of texts and names -/

section
variable {cs ds : List Char} {c : Char}

@[simp]
theorem allChars_nil : AllChars [] := fun _ h => absurd h List.not_mem_nil

@[simp]
theorem allChars_append : AllChars (cs ++ ds) ↔ AllChars cs ∧ AllChars ds := List.forall_mem_append

@[simp]
theorem allChars_cons : AllChars (c :: cs) ↔ IsChar c ∧ AllChars cs := List.forall_mem_cons

theorem allChars_flatMap {α : Type} {l : List α} {f : α → List Char} :
    AllChars (l.flatMap f) ↔ ∀ a ∈ l, AllChars (f a) := List.forall_mem_flatMap

theorem isChar_of_isAlphanum (h : c.isAlphanum) : IsChar c := by
  have hcodes : (decide (65 ≤ c.val ∧ c.val ≤ 90) || (decide (97 ≤ c.val) && decide (c.val ≤ 122)) ||
      (decide (48 ≤ c.val) && decide (c.val ≤ 57))) = true := h
  simp only [Bool.or_eq_true, Bool.and_eq_true, decide_eq_true_eq, UInt32.le_iff_toNat_le] at hcodes
  have hrange : ((65 ≤ c.toNat ∧ c.toNat ≤ 90) ∨ (97 ≤ c.toNat ∧ c.toNat ≤ 122)) ∨
      (48 ≤ c.toNat ∧ c.toNat ≤ 57) := hcodes
  exact Or.inr (Or.inl (by omega))

theorem IsName.exists_cons {name : String} (h : IsName name) :
    ∃ c cs, name.toList = c :: cs ∧ beginsName c ∧ ∀ d ∈ cs, continuesName d := by
  obtain ⟨hne, hhead, hall⟩ := h
  rcases hname : name.toList with _ | ⟨c, cs⟩
  · exact absurd hname hne
  · rw [hname] at hhead hall
    exact ⟨c, cs, rfl, hhead c rfl, fun d hd => hall d (List.mem_cons_of_mem c hd)⟩

theorem IsName.allChars {name : String} (h : IsName name) : AllChars name.toList := by
  intro c hc
  have hcontinues := h.2.2 c hc
  simp only [continuesName, beginsName, Bool.or_eq_true, decide_eq_true_eq] at hcontinues
  rcases hcontinues with ((((halpha | rfl) | rfl) | hdigit) | rfl) | rfl
  · exact isChar_of_isAlphanum (by rw [Char.isAlphanum, halpha, Bool.true_or])
  · decide
  · decide
  · exact isChar_of_isAlphanum (by rw [Char.isAlphanum, hdigit, Bool.or_true])
  · decide
  · decide

end

end KernelAudit.Xml
