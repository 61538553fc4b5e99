import KernelAudit.Proofs.Xml.Document

/-! Documents as they are read. A reader goes through a document character by character and keeps the
    elements that have begun and not ended; what it ends with is the tree of the elements with their
    attributes. It knows nothing of how elements are written: lines and blanks mean nothing to it, and
    references mean the characters they stand for. A proper element is read as it was meant. -/

namespace KernelAudit.Xml

/-! ### References -/

/-- A text with its references replaced, from left to right, by the characters they stand for. -/
def unescape : List Char → List Char
  | '&' :: 'a' :: 'm' :: 'p' :: ';' :: rest => '&' :: unescape rest
  | '&' :: 'l' :: 't' :: ';' :: rest => '<' :: unescape rest
  | '&' :: 'g' :: 't' :: ';' :: rest => '>' :: unescape rest
  | '&' :: 'q' :: 'u' :: 'o' :: 't' :: ';' :: rest => '"' :: unescape rest
  | '&' :: 'a' :: 'p' :: 'o' :: 's' :: ';' :: rest => '\'' :: unescape rest
  | c :: rest => c :: unescape rest
  | [] => []

theorem unescape_cons {c : Char} (h : c ≠ '&') (rest : List Char) : unescape (c :: rest) = c :: unescape rest := by
  rw [unescape] <;> simp_all

theorem unescape_escape (cs : List Char) : unescape (cs.flatMap escapeChar) = cs := by
  induction cs with
  | nil => rfl
  | cons c cs ih =>
    rw [List.flatMap_cons]
    rcases escapeChar_cases c with ⟨hc, heq⟩ | ⟨hc, -⟩
    · have hamp : c ≠ '&' := fun h => hc (h ▸ List.mem_cons_self)
      rw [heq, List.singleton_append, unescape_cons hamp, ih]
    · simp only [marks, List.mem_cons, List.not_mem_nil, or_false] at hc
      rcases hc with rfl | rfl | rfl | rfl | rfl <;> simp [escapeChar, unescape, ih]

/-- The marks that end a value or a piece of text are written as references. -/
theorem not_mem_escape {c : Char} (hc : c ∈ ['<', '>', '"', '\'']) (cs : List Char) :
    c ∉ cs.flatMap escapeChar := by
  rw [List.mem_flatMap]
  rintro ⟨d, -, hd⟩
  rcases escapeChar_cases d with ⟨hmark, heq⟩ | ⟨-, name, hname, heq⟩
  · rw [heq, List.mem_singleton] at hd
    exact hmark (hd ▸ List.mem_cons_of_mem '&' hc)
  · have hreference : ∀ name ∈ entities, ['<', '>', '"', '\''].all (· ∉ reference name) = true := by decide
    exact of_decide_eq_true (List.all_eq_true.mp (hreference name hname) c hc) (heq ▸ hd)

/-! ### Trees of elements -/

/-- What a start tag says. -/
structure Tag where
  name : String
  attributes : List (String × String)

/-- An element with the elements in it, without the text that stands between them. -/
inductive Outline where
  | element (tag : Tag) (inside : List Outline)

namespace Outline

def name : Outline → String
  | element tag _ => tag.name

def inside : Outline → List Outline
  | element _ inside => inside

/-- The value of an attribute, if the element has it. -/
def attribute? (key : String) : Outline → Option String
  | element tag _ => tag.attributes.lookup key

mutual

/-- How many elements of a name there are in an element, at any depth. -/
def count (name : String) : Outline → Nat
  | element _ inside => countAll name inside

def countAll (name : String) : List Outline → Nat
  | [] => 0
  | x :: rest => (if x.name = name then 1 else 0) + count name x + countAll name rest

end

end Outline

mutual

/-- The tree of an element that is to be written. -/
def outline : Xml → Outline
  | .empty name attributes => .element ⟨name, attributes⟩ []
  | .text name attributes _ => .element ⟨name, attributes⟩ []
  | .node name attributes children => .element ⟨name, attributes⟩ (outlines children)

def outlines : List Xml → List Outline
  | [] => []
  | x :: rest => outline x :: outlines rest

end

theorem outlines_eq (children : List Xml) : outlines children = children.map outline := by
  induction children with
  | nil => rw [outlines, List.map_nil]
  | cons x rest ih => rw [outlines, ih, List.map_cons]

/-! ### The reader -/

/-- Where in a document a reader is, with what it has read there: between tags, behind the mark that begins a
    tag, in a start tag or in an end tag. In a start tag it is in the name, behind the name or an attribute, in
    the name of an attribute, before its value, in its value, or behind the slash that makes it the whole
    element. -/
inductive Place where
  | content
  | angle
  | name (read : List Char)
  | tag (tag : Tag)
  | key (tag : Tag) (read : List Char)
  | equals (tag : Tag) (key : String)
  | value (tag : Tag) (key : String) (read : List Char)
  | slash (tag : Tag)
  | closing (read : List Char)

/-- The reader in the middle of a document. `before` is what it has read of the innermost element that has
    begun and not ended; `outer` are these elements, the innermost first, each with what stood before it. -/
structure Reader where
  place : Place
  before : List Outline
  outer : List (Tag × List Outline)

namespace Reader

/-- A character in a start tag, behind its name or an attribute. -/
def stepTag (tag : Tag) (before : List Outline) (outer : List (Tag × List Outline)) (c : Char) : Option Reader :=
  if c ∈ [' ', '\t', '\n', '\r'] then some ⟨.tag tag, before, outer⟩
  else if c = '/' then some ⟨.slash tag, before, outer⟩
  else if c = '>' then some ⟨.content, [], (tag, before) :: outer⟩
  else if beginsName c then some ⟨.key tag [c], before, outer⟩
  else none

/-- The end tag of the innermost element. -/
def finish (name : String) (inside : List Outline) : List (Tag × List Outline) → Option Reader
  | [] => none
  | (tag, before) :: outer =>
    if tag.name = name then some ⟨.content, before ++ [.element tag inside], outer⟩ else none

def step : Reader → Char → Option Reader
  | ⟨.content, before, outer⟩, c => some ⟨if c = '<' then .angle else .content, before, outer⟩
  | ⟨.angle, before, outer⟩, c =>
    if c = '/' then some ⟨.closing [], before, outer⟩
    else if beginsName c then some ⟨.name [c], before, outer⟩
    else none
  | ⟨.name read, before, outer⟩, c =>
    if continuesName c then some ⟨.name (read ++ [c]), before, outer⟩
    else stepTag ⟨String.ofList read, []⟩ before outer c
  | ⟨.tag tag, before, outer⟩, c => stepTag tag before outer c
  | ⟨.key tag read, before, outer⟩, c =>
    if continuesName c then some ⟨.key tag (read ++ [c]), before, outer⟩
    else if c = '=' then some ⟨.equals tag (String.ofList read), before, outer⟩
    else none
  | ⟨.equals tag key, before, outer⟩, c =>
    if c = '"' then some ⟨.value tag key [], before, outer⟩ else none
  | ⟨.value tag key read, before, outer⟩, c =>
    if c = '"' then
      let value := String.ofList (unescape read)
      some ⟨.tag { tag with attributes := tag.attributes ++ [(key, value)] }, before, outer⟩
    else some ⟨.value tag key (read ++ [c]), before, outer⟩
  | ⟨.slash tag, before, outer⟩, c =>
    if c = '>' then some ⟨.content, before ++ [.element tag []], outer⟩ else none
  | ⟨.closing read, before, outer⟩, c =>
    if c = '>' then finish (String.ofList read) before outer
    else some ⟨.closing (read ++ [c]), before, outer⟩

def run (cs : List Char) (reader : Reader) : Option Reader := cs.foldlM step reader

end Reader

/-- The root of a document, if the document can be read. -/
def read? (text : String) : Option Outline :=
  if declaration.toList <+: text.toList then
    match Reader.run (text.toList.drop declaration.length) ⟨.content, [], []⟩ with
    | some ⟨.content, [root], []⟩ => some root
    | _ => none
  else none

namespace Reader

theorem run_nil (s : Reader) : run [] s = some s := rfl

theorem run_cons (c : Char) (cs : List Char) (s : Reader) : run (c :: cs) s = (step s c).bind (run cs) := rfl

theorem run_append (cs ds : List Char) (s : Reader) : run (cs ++ ds) s = (run cs s).bind (run ds) :=
  List.foldlM_append

theorem run_append_of_run {cs : List Char} {s t : Reader} (h : run cs s = some t) (ds : List Char) :
    run (cs ++ ds) s = run ds t := by
  rw [run_append, h, Option.bind_some]

section
variable {before : List Outline} {outer : List (Tag × List Outline)} {tag : Tag}

/-- Characters that do not end what is being read are added to it. -/
theorem run_collect {place : List Char → Place} {cs : List Char}
    (h : ∀ c ∈ cs, ∀ read, step ⟨place read, before, outer⟩ c = some ⟨place (read ++ [c]), before, outer⟩)
    (read : List Char) : run cs ⟨place read, before, outer⟩ = some ⟨place (read ++ cs), before, outer⟩ := by
  induction cs generalizing read with
  | nil => rw [run_nil, List.append_nil]
  | cons c cs ih =>
    obtain ⟨hc, hcs⟩ := List.forall_mem_cons.mp h
    rw [run_cons, hc, Option.bind_some, ih hcs, List.append_assoc, List.singleton_append]

theorem run_content {cs : List Char} (h : '<' ∉ cs) :
    run cs ⟨.content, before, outer⟩ = some ⟨.content, before, outer⟩ := by
  induction cs with
  | nil => rfl
  | cons c cs ih =>
    obtain ⟨hc, hcs⟩ := not_or.mp (mt List.mem_cons.mpr h)
    rw [run_cons, step, if_neg (Ne.symm hc), Option.bind_some, ih hcs]

/-! ### Names and values -/

theorem run_name {cs : List Char} (h : ∀ c ∈ cs, continuesName c) (read : List Char) :
    run cs ⟨.name read, before, outer⟩ = some ⟨.name (read ++ cs), before, outer⟩ :=
  run_collect (fun c hc read => by rw [step, if_pos (h c hc)]) read

theorem run_key {cs : List Char} (h : ∀ c ∈ cs, continuesName c) (read : List Char) :
    run cs ⟨.key tag read, before, outer⟩ = some ⟨.key tag (read ++ cs), before, outer⟩ :=
  run_collect (fun c hc read => by rw [step, if_pos (h c hc)]) read

theorem run_value {cs : List Char} (h : '"' ∉ cs) (key : String) (read : List Char) :
    run cs ⟨.value tag key read, before, outer⟩ = some ⟨.value tag key (read ++ cs), before, outer⟩ := by
  refine run_collect (fun c hc read => ?_) read
  have hquote : c ≠ '"' := fun heq => h (heq ▸ hc)
  rw [step, if_neg hquote]

theorem run_endName {cs : List Char} (h : '>' ∉ cs) (read : List Char) :
    run cs ⟨.closing read, before, outer⟩ = some ⟨.closing (read ++ cs), before, outer⟩ := by
  refine run_collect (fun c hc read => ?_) read
  have hangle : c ≠ '>' := fun heq => h (heq ▸ hc)
  rw [step, if_neg hangle]

/-! ### Start tags -/

theorem stepTag_of_beginsName {c : Char} (h : beginsName c = true) :
    stepTag tag before outer c = some ⟨.key tag [c], before, outer⟩ := by
  have hmarks : ∀ d ∈ [' ', '\t', '\n', '\r', '/', '>'], beginsName d = false := by
    simp only [List.forall_mem_cons]
    exact ⟨by decide, by decide, by decide, by decide, by decide, by decide, nofun⟩
  have hc : ∀ d ∈ [' ', '\t', '\n', '\r', '/', '>'], c ≠ d := by
    rintro d hd rfl
    rw [hmarks c hd] at h
    cases h
  have hblank : c ∉ [' ', '\t', '\n', '\r'] := fun hmem => hc c (List.mem_append_left ['/', '>'] hmem) rfl
  rw [stepTag, if_neg hblank, if_neg (hc '/' (by decide)), if_neg (hc '>' (by decide)), if_pos h]

/-- A name that has been read to its end is that of a start tag without attributes so far. -/
theorem run_cons_name {c : Char} (h : continuesName c = false) (read cs : List Char) :
    run (c :: cs) ⟨.name read, before, outer⟩ = run (c :: cs) ⟨.tag ⟨String.ofList read, []⟩, before, outer⟩ := by
  rw [run_cons, run_cons, step, step, h, if_neg Bool.false_ne_true]

theorem run_attributeName {name : String} (h : IsName name) :
    run (' ' :: name.toList) ⟨.tag tag, before, outer⟩ = some ⟨.key tag name.toList, before, outer⟩ := by
  obtain ⟨c, cs, hname, hbegins, hrest⟩ := h.exists_cons
  have hblank : step ⟨.tag tag, before, outer⟩ ' ' = some ⟨.tag tag, before, outer⟩ := rfl
  rw [hname, run_cons, hblank, Option.bind_some, run_cons, step, stepTag_of_beginsName hbegins, Option.bind_some,
    run_key hrest, List.singleton_append]

theorem run_attribute {a : String × String} (h : IsName a.1) :
    run (attributeText a).toList ⟨.tag tag, before, outer⟩ =
      some ⟨.tag { tag with attributes := tag.attributes ++ [a] }, before, outer⟩ := by
  have hequals : run ['=', '"'] ⟨.key tag a.1.toList, before, outer⟩ = some ⟨.value tag a.1 [], before, outer⟩ := by
    have hmark : continuesName '=' = false := by decide
    rw [run_cons, step, hmark, if_neg Bool.false_ne_true, if_pos rfl, String.ofList_toList]
    rfl
  have hvalue : run (a.2.toList.flatMap escapeChar) ⟨.value tag a.1 [], before, outer⟩ =
      some ⟨.value tag a.1 (a.2.toList.flatMap escapeChar), before, outer⟩ :=
    run_value (not_mem_escape (by decide) _) a.1 []
  have hquote : run ['"'] ⟨.value tag a.1 (a.2.toList.flatMap escapeChar), before, outer⟩ =
      some ⟨.tag { tag with attributes := tag.attributes ++ [a] }, before, outer⟩ := by
    rw [run_cons, step, if_pos rfl, unescape_escape, String.ofList_toList]
    rfl
  have htext : (attributeText a).toList =
      ' ' :: a.1.toList ++ (['=', '"'] ++ (a.2.toList.flatMap escapeChar ++ ['"'])) := by
    rw [toList_attributeText]
    simp
  rw [htext, run_append_of_run (run_attributeName h), run_append_of_run hequals, run_append_of_run hvalue, hquote]

theorem run_attributes {attributes : List (String × String)} (h : ∀ a ∈ attributes.map Prod.fst, IsName a) :
    run (attributes.flatMap fun a => (attributeText a).toList) ⟨.tag tag, before, outer⟩ =
      some ⟨.tag { tag with attributes := tag.attributes ++ attributes }, before, outer⟩ := by
  induction attributes generalizing tag with
  | nil => simp [run_nil]
  | cons a rest ih =>
    obtain ⟨ha, hrest⟩ := List.forall_mem_cons.mp h
    rw [List.flatMap_cons, run_append_of_run (run_attribute ha), ih hrest]
    simp

theorem run_tagName {name : String} (h : IsName name) :
    run ('<' :: name.toList) ⟨.content, before, outer⟩ = some ⟨.name name.toList, before, outer⟩ := by
  obtain ⟨c, cs, hname, hbegins, hrest⟩ := h.exists_cons
  have hcontent : step ⟨.content, before, outer⟩ '<' = some ⟨.angle, before, outer⟩ := rfl
  have hslash : c ≠ '/' := by
    rintro rfl
    exact absurd hbegins (by decide)
  have hangle : step ⟨.angle, before, outer⟩ c = some ⟨.name [c], before, outer⟩ := by
    rw [step, if_neg hslash, if_pos hbegins]
  rw [hname, run_cons, hcontent, Option.bind_some, run_cons, hangle, Option.bind_some, run_name hrest,
    List.singleton_append]

theorem run_opening {name : String} {attributes : List (String × String)}
    (h : Named name (attributes.map Prod.fst)) {c : Char} (hc : continuesName c = false) (cs : List Char) :
    run ((opening name attributes).toList ++ c :: cs) ⟨.content, before, outer⟩ =
      run (c :: cs) ⟨.tag ⟨name, attributes⟩, before, outer⟩ := by
  obtain ⟨hname, hnames, -⟩ := h
  -- the name ends where the first attribute begins or, without any, where the tag ends
  have hend : run ((attributes.flatMap fun a => (attributeText a).toList) ++ c :: cs)
        ⟨.name name.toList, before, outer⟩ =
      run ((attributes.flatMap fun a => (attributeText a).toList) ++ c :: cs) ⟨.tag ⟨name, []⟩, before, outer⟩ := by
    rcases attributes with _ | ⟨a, rest⟩
    · rw [List.flatMap_nil, List.nil_append, run_cons_name hc, String.ofList_toList]
    · have hblank : continuesName ' ' = false := by decide
      simp only [List.flatMap_cons, toList_attributeText, List.cons_append, List.nil_append]
      rw [run_cons_name hblank, String.ofList_toList]
  rw [toList_opening, List.append_assoc, run_append_of_run (run_tagName hname), hend,
    run_append_of_run (run_attributes hnames), List.nil_append]

/-! ### Elements -/

theorem run_closing {name : String} (h : IsName name) (attributes : List (String × String)) (inside : List Outline) :
    run (closing name).toList ⟨.content, inside, (⟨name, attributes⟩, before) :: outer⟩ =
      some ⟨.content, before ++ [.element ⟨name, attributes⟩ inside], outer⟩ := by
  have hangle : '>' ∉ name.toList := fun hmem => absurd (h.2.2 '>' hmem) (by decide)
  have hslash : run ['<', '/'] ⟨.content, inside, (⟨name, attributes⟩, before) :: outer⟩ =
      some ⟨.closing [], inside, (⟨name, attributes⟩, before) :: outer⟩ := rfl
  rw [toList_closing, List.append_assoc, run_append_of_run hslash, run_append_of_run (run_endName hangle []),
    List.nil_append, run_cons, step, if_pos rfl, String.ofList_toList, finish, if_pos rfl]
  rfl

end

/-- Wherever it stands among other elements, the text is read as the element. -/
def Reads (cs : List Char) (x : Outline) : Prop :=
  ∀ before outer, run cs ⟨.content, before, outer⟩ = some ⟨.content, before ++ [x], outer⟩

section
variable {name : String} {attributes : List (String × String)} (h : Named name (attributes.map Prod.fst))
include h

theorem reads_empty :
    Reads ((opening name attributes).toList ++ [' '] ++ ['/', '>']) (.element ⟨name, attributes⟩ []) := by
  intro before outer
  rw [List.append_assoc, List.singleton_append, run_opening h (by decide)]
  rfl

/-- `content` is what stands between the tags. -/
theorem reads_tags {content : List Char} {inside : List Outline}
    (hcontent : ∀ outer, run content ⟨.content, [], outer⟩ = some ⟨.content, inside, outer⟩) :
    Reads ((opening name attributes).toList ++ ['>'] ++ content ++ (closing name).toList)
      (.element ⟨name, attributes⟩ inside) := by
  intro before outer
  have hopened : run ((opening name attributes).toList ++ ['>']) ⟨.content, before, outer⟩ =
      some ⟨.content, [], (⟨name, attributes⟩, before) :: outer⟩ := by
    rw [run_opening h (by decide)]
    rfl
  rw [List.append_assoc, run_append_of_run hopened, run_append_of_run (hcontent _), run_closing h.1]

end

theorem lt_not_mem_line (depth : Nat) : '<' ∉ '\n' :: (indent depth).toList :=
  fun h => not_mem_marks_of_line h (by decide)

/-- Elements on lines of theirs are read one after another. -/
theorem run_children {depth : Nat} (last : Nat) {children : List Xml}
    (h : ∀ x ∈ children, ∃ e, block depth x = (indent depth).toList ++ e ++ ['\n'] ∧ Reads e x.outline)
    (before : List Outline) (outer : List (Tag × List Outline)) :
    run ('\n' :: children.flatMap (block depth) ++ (indent last).toList) ⟨.content, before, outer⟩ =
      some ⟨.content, before ++ outlines children, outer⟩ := by
  induction children generalizing before with
  | nil => rw [List.flatMap_nil, List.singleton_append, run_content (lt_not_mem_line last), outlines, List.append_nil]
  | cons x rest ih =>
    obtain ⟨⟨e, hblock, he⟩, hrest⟩ := List.forall_mem_cons.mp h
    have hsplit : '\n' :: (x :: rest).flatMap (block depth) ++ (indent last).toList =
        '\n' :: (indent depth).toList ++ (e ++ ('\n' :: rest.flatMap (block depth) ++ (indent last).toList)) := by
      simp [hblock]
    rw [hsplit, run_append_of_run (run_content (lt_not_mem_line depth)), run_append_of_run (he before outer),
      ih hrest, outlines, List.append_assoc, List.singleton_append]

end Reader

open Reader (Reads reads_empty reads_tags run_content run_children)

/-- A proper element is read, behind the blanks of its line, as the element that was written. -/
theorem Proper.reads_block {x : Xml} (h : Proper x) (depth : Nat) :
    ∃ e, block depth x = (indent depth).toList ++ e ++ ['\n'] ∧ Reads e x.outline := by
  induction h generalizing depth with
  | empty hnamed => exact ⟨_, block_empty, reads_empty hnamed⟩
  | text hnamed =>
    refine ⟨_, block_text, reads_tags hnamed fun outer => ?_⟩
    exact run_content (not_mem_escape (by decide) _)
  | node hnamed _ ih =>
    refine ⟨_, block_node, reads_tags hnamed fun outer => ?_⟩
    exact run_children depth (fun x hx => ih x hx (depth + 1)) [] outer

/-- The document of a proper element is read as the element. -/
theorem Proper.read?_document {x : Xml} (h : Proper x) : read? x.document = some x.outline := by
  obtain ⟨e, hblock, he⟩ := h.reads_block 0
  have hdocument : x.document.toList = declaration.toList ++ '\n' :: e := by
    refine (List.append_left_inj ['\n']).mp ?_
    rw [document_eq, hblock]
    simp [indent]
  have hrun : Reader.run ('\n' :: e) ⟨.content, [], []⟩ = some ⟨.content, [x.outline], []⟩ := he [] []
  rw [read?, hdocument, if_pos (List.prefix_append ..), ← String.length_toList, List.drop_left, hrun]

end KernelAudit.Xml
