import Mathlib.Tactic.Tauto
import KernelAudit.Proofs.Xml.Grammar

/-! Elements as they are written. An element whose names are names is written as an element of the
    grammar, whatever its texts are: escaping leaves no mark of markup in them. It leaves everything else
    as it is, though, so the document holds the characters that the texts hold. -/

namespace KernelAudit.Xml

/-! ### Escaped text -/

/-- The marks that a text must not hold as they are. -/
def marks : List Char := ['&', '<', '>', '"', '\'']

theorem escapeChar_cases (c : Char) :
    (c ∉ marks ∧ escapeChar c = [c]) ∨ (c ∈ marks ∧ ∃ name ∈ entities, escapeChar c = reference name) := by
  by_cases hc : c ∈ marks
  · refine Or.inr ⟨hc, ?_⟩
    have hall : ∀ d ∈ marks, ∃ name ∈ entities, escapeChar d = reference name := by
      simp only [marks, List.forall_mem_cons]
      exact ⟨by decide, by decide, by decide, by decide, by decide, nofun⟩
    exact hall c hc
  · simp only [marks, List.mem_cons, List.not_mem_nil, or_false, not_or] at hc
    refine Or.inl ⟨by simpa [marks] using hc, ?_⟩
    simp [escapeChar, hc]

theorem value_escape (cs : List Char) : Value (cs.flatMap escapeChar) := by
  induction cs with
  | nil => exact .nil
  | cons c cs ih =>
    rw [List.flatMap_cons]
    rcases escapeChar_cases c with ⟨hc, heq⟩ | ⟨-, name, hname, heq⟩
    · rw [heq]
      refine .char (fun h => hc ?_) ih
      simp only [marks, List.mem_cons, List.not_mem_nil, or_false] at h ⊢
      tauto
    · rw [heq]
      exact .reference hname ih

/-- Without the mark that ends markup, character data cannot end a section either. -/
theorem charData_of_forall_not_mem_marks {data : List Char} (h : ∀ c ∈ data, c ∉ marks) : CharData data := by
  have hmark : ∀ c ∈ marks, c ∉ data := fun c hc hdata => h c hdata hc
  refine ⟨hmark '<' (by decide), hmark '&' (by decide), fun hsection => ?_⟩
  exact hmark '>' (by decide) (hsection.subset (by decide))

/-- `data` is what stands before the next reference. -/
theorem content_escape (data : List Char) (hdata : ∀ c ∈ data, c ∉ marks) (cs : List Char) :
    Content (data ++ cs.flatMap escapeChar) := by
  induction cs generalizing data with
  | nil => simpa using .text (charData_of_forall_not_mem_marks hdata)
  | cons c cs ih =>
    rw [List.flatMap_cons]
    rcases escapeChar_cases c with ⟨hc, heq⟩ | ⟨-, name, hname, heq⟩
    · have hmore : ∀ d ∈ data ++ [c], d ∉ marks := by
        intro d hd
        rcases List.mem_append.mp hd with hd | hd
        · exact hdata d hd
        · rwa [List.mem_singleton.mp hd]
      rw [heq, ← List.append_assoc]
      exact ih _ hmore
    · rw [heq, ← List.append_assoc]
      exact .reference (charData_of_forall_not_mem_marks hdata) hname (ih [] (by simp))

theorem allChars_escape {cs : List Char} : AllChars (cs.flatMap escapeChar) ↔ AllChars cs := by
  induction cs with
  | nil => simp
  | cons c cs ih =>
    have hmarks : AllChars marks := by decide
    have hreference : ∀ name ∈ entities, AllChars (reference name) := by decide
    rw [List.flatMap_cons, allChars_append, allChars_cons, ih]
    refine and_congr_left fun _ => ?_
    rcases escapeChar_cases c with ⟨-, heq⟩ | ⟨hc, name, hname, heq⟩
    · simp [heq]
    · rw [heq]
      exact iff_of_true (hreference name hname) (hmarks c hc)

/-! ### Tags -/

/-- The name of an element and those of its attributes are names, and no two attributes have the same. -/
def Named (name : String) (attributes : List String) : Prop :=
  IsName name ∧ (∀ a ∈ attributes, IsName a) ∧ attributes.Nodup

instance (name : String) (attributes : List String) : Decidable (Named name attributes) := by
  unfold Named
  infer_instance

theorem toList_attributeText (a : String × String) :
    (attributeText a).toList =
      [' '] ++ a.1.toList ++ ['=', '"'] ++ a.2.toList.flatMap escapeChar ++ ['"'] := by
  simp [attributeText, escape]

theorem toList_opening (name : String) (attributes : List (String × String)) :
    (opening name attributes).toList =
      '<' :: name.toList ++ attributes.flatMap fun a => (attributeText a).toList := by
  simp [opening, List.flatMap_map]

theorem toList_closing (name : String) : (closing name).toList = ['<', '/'] ++ name.toList ++ ['>'] := by
  simp [closing]

theorem attributes_written {attributes : List (String × String)}
    (hnames : ∀ a ∈ attributes.map Prod.fst, IsName a) (hnodup : (attributes.map Prod.fst).Nodup) :
    Attributes (attributes.map Prod.fst) (attributes.flatMap fun a => (attributeText a).toList) := by
  induction attributes with
  | nil => exact .nil
  | cons a rest ih =>
    obtain ⟨hname, hrest⟩ := List.forall_mem_cons.mp hnames
    obtain ⟨hnew, hnodup⟩ := List.nodup_cons.mp hnodup
    have hblank : IsBlank [' '] := by simp [IsBlank]
    have hattributes := Attributes.cons (by simp) hblank hname hnew (value_escape a.2.toList) (ih hrest hnodup)
    rw [List.map_cons, List.flatMap_cons, toList_attributeText]
    simpa using hattributes

theorem allChars_opening {name : String} {attributes : List (String × String)} (h : Named name (attributes.map Prod.fst)) :
    AllChars (opening name attributes).toList ↔ ∀ a ∈ attributes, AllChars a.2.toList := by
  obtain ⟨hname, hnames, -⟩ := h
  have hattribute : ∀ a ∈ attributes, AllChars (attributeText a).toList ↔ AllChars a.2.toList := by
    intro a ha
    have hfixed : AllChars [' '] ∧ AllChars ['=', '"'] ∧ AllChars ['"'] := by decide
    have hname := (hnames a.1 (List.mem_map_of_mem ha)).allChars
    simp only [toList_attributeText, allChars_append, hname, hfixed, allChars_escape, true_and, and_true]
  have hlt : IsChar '<' := by decide
  rw [toList_opening, allChars_append, allChars_cons, allChars_flatMap]
  simp only [hlt, hname.allChars, true_and]
  exact forall₂_congr hattribute

/-! ### Lines -/

/-- The name of an element's tags. -/
def name : Xml → String
  | .empty name _ | .text name _ _ | .node name _ _ => name

/-- An element whose names are names all through. -/
inductive Proper : Xml → Prop
  | empty {name : String} {attributes : List (String × String)} :
    Named name (attributes.map Prod.fst) → Proper (.empty name attributes)
  | text {name : String} {attributes : List (String × String)} {content : String} :
    Named name (attributes.map Prod.fst) → Proper (.text name attributes content)
  | node {name : String} {attributes : List (String × String)} {children : List Xml} :
    Named name (attributes.map Prod.fst) → (∀ x ∈ children, Proper x) → Proper (.node name attributes children)

/-- The lines of an element, each with its end. -/
def block (depth : Nat) (x : Xml) : List Char := (lines depth x).flatMap fun line => line.toList ++ ['\n']

theorem childLines_eq (depth : Nat) (children : List Xml) : childLines depth children = children.flatMap (lines depth) := by
  induction children with
  | nil => rw [childLines, List.flatMap_nil]
  | cons x rest ih => rw [childLines, ih, List.flatMap_cons]

section
variable {depth : Nat} {name : String} {attributes : List (String × String)}

theorem block_empty :
    block depth (.empty name attributes) =
      (indent depth).toList ++ ((opening name attributes).toList ++ [' '] ++ ['/', '>']) ++ ['\n'] := by
  simp [block, lines]

theorem block_text {content : String} :
    block depth (.text name attributes content) =
      (indent depth).toList ++ ((opening name attributes).toList ++ ['>'] ++ content.toList.flatMap escapeChar ++
        (closing name).toList) ++ ['\n'] := by
  simp [block, lines, escape]

theorem block_node {children : List Xml} :
    block depth (.node name attributes children) =
      (indent depth).toList ++ ((opening name attributes).toList ++ ['>'] ++
        ('\n' :: children.flatMap (block (depth + 1)) ++ (indent depth).toList) ++ (closing name).toList) ++ ['\n'] := by
  have hchildren : children.flatMap (block (depth + 1)) =
      (childLines (depth + 1) children).flatMap fun line => line.toList ++ ['\n'] := by
    rw [childLines_eq, List.flatMap_assoc]
    rfl
  rw [hchildren]
  simp [block, lines]

end

theorem mem_indent {depth : Nat} {c : Char} (h : c ∈ (indent depth).toList) : c = ' ' := by
  rw [indent, String.toList_ofList] at h
  exact List.eq_of_mem_replicate h

theorem not_mem_marks_of_line {depth : Nat} {c : Char} (h : c ∈ '\n' :: (indent depth).toList) : c ∉ marks := by
  rcases List.mem_cons.mp h with rfl | h
  · decide
  · rw [mem_indent h]
    decide

/-- Elements on lines of theirs are content, if each is an element. -/
theorem content_children {depth : Nat} (outer : Nat) {children : List Xml}
    (h : ∀ x ∈ children, ∃ e, block depth x = (indent depth).toList ++ e ++ ['\n'] ∧ Element x.name e) :
    Content ('\n' :: children.flatMap (block depth) ++ (indent outer).toList) := by
  induction children with
  | nil =>
    have hlast := content_escape ('\n' :: (indent outer).toList) (fun _ hc => not_mem_marks_of_line hc) []
    simpa using hlast
  | cons x rest ih =>
    obtain ⟨⟨e, hblock, helement⟩, hrest⟩ := List.forall_mem_cons.mp h
    have hdata : CharData ('\n' :: (indent depth).toList) :=
      charData_of_forall_not_mem_marks fun _ hc => not_mem_marks_of_line hc
    have hcontent := Content.element hdata helement (ih hrest)
    simpa [hblock] using hcontent

/-- A proper element is written, behind the blanks of its line, as an element of the grammar. -/
theorem Proper.block_eq {x : Xml} (h : Proper x) (depth : Nat) :
    ∃ e, block depth x = (indent depth).toList ++ e ++ ['\n'] ∧ Element x.name e := by
  induction h generalizing depth with
  | empty hnamed =>
    refine ⟨_, block_empty, ?_⟩
    rw [toList_opening]
    exact .empty hnamed.1 (attributes_written hnamed.2.1 hnamed.2.2) (by simp [IsBlank])
  | @text name attributes content hnamed =>
    refine ⟨_, block_text, ?_⟩
    rw [toList_opening, toList_closing]
    have hcontent : Content (content.toList.flatMap escapeChar) := content_escape [] (by simp) _
    simpa [Xml.name] using Element.tags hnamed.1 (attributes_written hnamed.2.1 hnamed.2.2) hcontent
  | node hnamed _ ih =>
    refine ⟨_, block_node, ?_⟩
    rw [toList_opening, toList_closing]
    have hcontent := content_children depth fun x hx => ih x hx (depth + 1)
    simpa [Xml.name] using Element.tags hnamed.1 (attributes_written hnamed.2.1 hnamed.2.2) hcontent

/-! ### Documents -/

theorem flatMap_eq_intercalate_append (sep : List Char) (ls : List (List Char)) (h : ls ≠ []) :
    (ls.flatMap fun l => l ++ sep) = sep.intercalate ls ++ sep := by
  induction ls with
  | nil => exact absurd rfl h
  | cons l rest ih =>
    rcases rest with _ | ⟨l', rest⟩
    · simp
    · rw [List.flatMap_cons, ih (by simp), List.intercalate_cons_cons]
      simp

theorem document_eq (x : Xml) : x.document.toList ++ ['\n'] = declaration.toList ++ ['\n'] ++ block 0 x := by
  have hlines := flatMap_eq_intercalate_append ['\n'] ((declaration :: lines 0 x).map String.toList) (by simp)
  rw [document, String.toList_intercalate]
  refine hlines.symm.trans ?_
  rw [List.flatMap_map, List.flatMap_cons]
  rfl

theorem Proper.document {x : Xml} (h : Proper x) : Document x.name x.document.toList := by
  obtain ⟨e, hblock, helement⟩ := h.block_eq 0
  refine ⟨['\n'], e, (List.append_left_inj ['\n']).mp ?_, by simp [IsBlank], helement⟩
  rw [document_eq, hblock]
  simp [indent]

/-! ### The characters of a document -/

mutual

/-- The texts in an element: the values of attributes, and what stands between tags. -/
def texts : Xml → List String
  | .empty _ attributes => attributes.map Prod.snd
  | .text _ attributes content => attributes.map Prod.snd ++ [content]
  | .node _ attributes children => attributes.map Prod.snd ++ childTexts children

def childTexts : List Xml → List String
  | [] => []
  | x :: rest => texts x ++ childTexts rest

end

/-- All of the texts hold only what a document may hold. -/
def Legible (texts : List String) : Prop := ∀ t ∈ texts, AllChars t.toList

instance : DecidablePred Legible := fun texts => by
  unfold Legible
  infer_instance

@[simp]
theorem legible_nil : Legible [] := fun _ h => absurd h List.not_mem_nil

@[simp]
theorem legible_cons {t : String} {rest : List String} : Legible (t :: rest) ↔ AllChars t.toList ∧ Legible rest :=
  List.forall_mem_cons

@[simp]
theorem legible_append {ts us : List String} : Legible (ts ++ us) ↔ Legible ts ∧ Legible us :=
  List.forall_mem_append

theorem childTexts_eq (children : List Xml) : childTexts children = children.flatMap texts := by
  induction children with
  | nil => rw [childTexts, List.flatMap_nil]
  | cons x rest ih => rw [childTexts, ih, List.flatMap_cons]

theorem allChars_indent (depth : Nat) : AllChars (indent depth).toList := by
  intro c hc
  rw [mem_indent hc]
  decide

theorem allChars_closing {name : String} (h : IsName name) : AllChars (closing name).toList := by
  have hfixed : AllChars ['<', '/'] ∧ AllChars ['>'] := by decide
  simp only [toList_closing, allChars_append, h.allChars, hfixed, and_self]

/-- The lines of an element hold what a document may hold exactly if its texts do. -/
theorem Proper.allChars_block {x : Xml} (h : Proper x) (depth : Nat) :
    AllChars (block depth x) ↔ Legible x.texts := by
  have hfixed : AllChars ['\n'] ∧ AllChars ['>'] ∧ AllChars [' '] ∧ AllChars ['/', '>'] := by decide
  have hnewline : IsChar '\n' := by decide
  have hvalues : ∀ attributes : List (String × String),
      (∀ a ∈ attributes, AllChars a.2.toList) ↔ Legible (attributes.map Prod.snd) :=
    fun _ => by rw [Legible, List.forall_mem_map]
  induction h generalizing depth with
  | empty hnamed =>
    rw [texts, block_empty, ← hvalues, ← allChars_opening hnamed]
    simp only [allChars_append, allChars_indent, hfixed, true_and, and_true]
  | text hnamed =>
    rw [texts, block_text, legible_append, ← hvalues, ← allChars_opening hnamed]
    simp only [allChars_append, allChars_indent, hfixed, allChars_closing hnamed.1, allChars_escape, legible_cons,
      legible_nil, true_and, and_true]
  | @node name attributes children hnamed _ ih =>
    have hchildren : AllChars (children.flatMap (block (depth + 1))) ↔
        Legible (children.flatMap texts) := by
      rw [allChars_flatMap, Legible, List.forall_mem_flatMap]
      exact forall₂_congr fun x hx => ih x hx (depth + 1)
    rw [texts, childTexts_eq, block_node, legible_append, ← hvalues, ← allChars_opening hnamed, ← hchildren]
    simp only [allChars_append, allChars_cons, allChars_indent, hfixed, hnewline, allChars_closing hnamed.1, true_and,
      and_true]

theorem Proper.allChars_document {x : Xml} (h : Proper x) :
    AllChars x.document.toList ↔ Legible x.texts := by
  have hdeclaration : AllChars declaration.toList := by decide
  have hnewline : AllChars ['\n'] := by decide
  have hlines := congrArg AllChars (document_eq x)
  simp only [allChars_append, hdeclaration, hnewline, true_and, and_true, eq_iff_iff] at hlines
  exact hlines.trans (h.allChars_block 0)

end KernelAudit.Xml
