import KernelAudit.Json.Record
import KernelAudit.Proofs.Except
import KernelAudit.Proofs.Json.Reading
import Mathlib.Data.List.Forall2

/-! Records are read from the members of an object, whatever their order and among members that nobody
    asks for: what counts is that no field is given twice and that every value can stand where it does. -/

namespace KernelAudit.Json

/-- Members that stand for the fields of a record. -/
structure Fits (fields : List Field) (members : List (String × Json)) : Prop where
  nodup : ((members.map Prod.fst).filter (· ∈ fields.map Field.name)).Nodup
  checked : ∀ p ∈ members, ∀ field ∈ fields, field.name = p.1 → field.check p.2 = .ok ()
  whole : ∀ p ∈ members, p.1 ∉ fields.map Field.name → p.2.isWhole

section
variable {fields : List Field} {p : String × Json} {members : List (String × Json)} {seen : List String}

theorem Fits.tail (h : Fits fields (p :: members)) : Fits fields members where
  nodup := h.nodup.sublist ((List.sublist_cons_self _ _).filter _)
  checked q hq := h.checked q (List.mem_cons_of_mem _ hq)
  whole q hq := h.whole q (List.mem_cons_of_mem _ hq)

/-- A field that has been given is not given again. -/
theorem Fits.not_mem_tail (h : Fits fields (p :: members)) (hp : p.1 ∈ fields.map Field.name)
    {q : String × Json} (hq : q ∈ members) : q.1 ≠ p.1 := by
  have hnodup := h.nodup
  rw [List.map_cons, List.filter_cons, if_pos (decide_eq_true hp)] at hnodup
  intro heq
  refine (List.nodup_cons.mp hnodup).1 (List.mem_filter.mpr ⟨?_, decide_eq_true hp⟩)
  exact List.mem_map.mpr ⟨q, hq, heq⟩

/-- The members are the fields, in their order, with values that can stand there. -/
def Declared (fields : List Field) (members : List (String × Json)) : Prop :=
  List.Forall₂ (fun field p => field.name = p.1 ∧ field.check p.2 = .ok ()) fields members

theorem Declared.names_eq (h : Declared fields members) : members.map Prod.fst = fields.map Field.name := by
  induction h with
  | nil => rfl
  | cons hhead _ ih => rw [List.map_cons, List.map_cons, ih, hhead.1]

theorem Declared.checked (h : Declared fields members) (hnodup : (fields.map Field.name).Nodup) :
    ∀ p ∈ members, ∀ field ∈ fields, field.name = p.1 → field.check p.2 = .ok () := by
  induction h with
  | nil => exact fun p hp => (List.not_mem_nil hp).elim
  | @cons field p fields members hhead hrest ih =>
    obtain ⟨hfresh, hnodup⟩ := List.nodup_cons.mp hnodup
    have hnames : members.map Prod.fst = fields.map Field.name := Declared.names_eq hrest
    intro q hq other hother heq
    rcases List.mem_cons.mp hq with rfl | hq <;> rcases List.mem_cons.mp hother with rfl | hother
    · exact hhead.2
    · exact absurd (List.mem_map.mpr ⟨other, hother, heq.trans hhead.1.symm⟩) hfresh
    · refine absurd ?_ hfresh
      rw [← hnames]
      exact List.mem_map.mpr ⟨q, hq, heq.symm⟩
    · exact ih hnodup q hq other hother heq

theorem Declared.fits (h : Declared fields members) (hnodup : (fields.map Field.name).Nodup) :
    Fits fields members where
  nodup := by
    rw [h.names_eq]
    exact hnodup.sublist List.filter_sublist
  checked := h.checked hnodup
  whole p hp hunknown := by
    rw [← h.names_eq] at hunknown
    exact absurd (List.mem_map.mpr ⟨p, hp, rfl⟩) hunknown

/-- Members that nobody asks for may join those of a record. -/
theorem Fits.append {added : List (String × Json)} (h : Fits fields members)
    (hnew : ∀ p ∈ added, p.1 ∉ fields.map Field.name) (hwhole : ∀ p ∈ added, p.2.isWhole) :
    Fits fields (members ++ added) where
  nodup := by
    have hnone : (added.map Prod.fst).filter (· ∈ fields.map Field.name) = [] := by
      rw [List.filter_eq_nil_iff, List.forall_mem_map]
      exact fun p hp => by simpa using hnew p hp
    rw [List.map_append, List.filter_append, hnone, List.append_nil]
    exact h.nodup
  checked p hp field hfield hname := by
    rcases List.mem_append.mp hp with hp | hp
    · exact h.checked p hp field hfield hname
    · exact absurd (List.mem_map.mpr ⟨field, hfield, hname⟩) (hnew p hp)
  whole p hp hunknown := by
    rcases List.mem_append.mp hp with hp | hp
    · exact h.whole p hp hunknown
    · exact hwhole p hp

theorem Fits.perm {members' : List (String × Json)} (h : Fits fields members) (hperm : members'.Perm members) :
    Fits fields members' where
  nodup := ((hperm.map Prod.fst).filter _).nodup_iff.mpr h.nodup
  checked p hp := h.checked p (hperm.mem_iff.mp hp)
  whole p hp := h.whole p (hperm.mem_iff.mp hp)

/-- The value of a field is found wherever it stands. -/
theorem Fits.lookup (h : Fits fields members) (hmem : p ∈ members) (hp : p.1 ∈ fields.map Field.name) :
    members.lookup p.1 = some p.2 := by
  induction members with
  | nil => cases hmem
  | cons q members ih =>
    rcases List.mem_cons.mp hmem with rfl | hmem
    · rw [List.lookup_cons_self]
    · have hne : (p.1 == q.1) = false := by
        refine beq_eq_false_iff_ne.mpr fun heq => ?_
        exact h.not_mem_tail (heq ▸ hp) hmem heq
      rw [List.lookup_cons, hne]
      exact ih h.tail hmem

/-- Members among which the declared ones stand give each field the value that is declared. -/
theorem Fits.lookup_declared {declared : List (String × Json)} (h : Fits fields members)
    (hdeclared : Declared fields declared) (hgives : declared ⊆ members) :
    ∀ p ∈ declared, members.lookup p.1 = some p.2 := fun _ hp =>
  h.lookup (hgives hp) (hdeclared.names_eq ▸ List.mem_map_of_mem hp)

theorem checkMembers_keyed (h : Fits fields members)
    (hseen : ∀ p ∈ members, p.1 ∈ fields.map Field.name → p.1 ∉ seen) :
    checkMembers fields seen (keyed members) = .ok () := by
  induction members generalizing seen with
  | nil => rfl
  | cons p members ih =>
    have hrest : ∀ q ∈ members, q.1 ∈ fields.map Field.name → q.1 ∉ seen :=
      fun q hq => hseen q (List.mem_cons_of_mem _ hq)
    rw [keyed_cons, checkMembers]
    split
    · next hfind =>
      have hunknown : p.1 ∉ fields.map Field.name := by
        intro hmem
        obtain ⟨field, hfield, hname⟩ := List.mem_map.mp hmem
        exact List.find?_eq_none.mp hfind field hfield (decide_eq_true hname)
      rw [h.whole p List.mem_cons_self hunknown]
      exact ih h.tail hrest
    · next field hfind =>
      have hname : field.name = p.1 := by simpa using List.find?_some hfind
      have hfield : field ∈ fields := List.mem_of_find?_eq_some hfind
      have hknown : p.1 ∈ fields.map Field.name := List.mem_map.mpr ⟨field, hfield, hname⟩
      rw [if_neg (hseen p List.mem_cons_self hknown), h.checked p List.mem_cons_self field hfield hname]
      refine ih h.tail fun q hq hqname hmem => ?_
      rcases List.mem_cons.mp hmem with heq | hmem
      · exact h.not_mem_tail hknown hq heq
      · exact hrest q hq hqname hmem

theorem named_keyed (members : List (String × Json)) : named (keyed members) = members := by
  rw [named, keyed, List.filterMap_map]
  exact List.filterMap_some

/-- A record is read from members that stand for its fields. -/
theorem readRecord_record (title : String) (h : Fits fields members) :
    readRecord title fields (.record members) = .ok members := by
  have hcheck : checkMembers fields [] (keyed members) = .ok () :=
    checkMembers_keyed h fun _ _ _ => List.not_mem_nil
  rw [record_eq, readRecord, hcheck]
  exact congrArg Except.ok (named_keyed members)

/-! ### Single values -/

theorem Field.check_of {α : Type} {read : Json → Except Problem α} {v : Json} {x : α} (name : String)
    (h : read v = .ok x) : (Field.of name read).check v = .ok () := by
  show (read v).map (fun _ => ()) = .ok ()
  rw [h]
  rfl

theorem required_of_lookup {α : Type} {read : Json → Except Problem α} {values : FieldValues} {name : String}
    {v : Json} {x : α} (hlookup : values.lookup name = some v) (hread : read v = .ok x) :
    required values name read = .ok x := by
  rw [required, hlookup]
  exact hread

theorem readText_text (s : String) : readText (.text s) = .ok s := rfl

theorem readWord_nat (word : UInt64) : readWord (.nat word.toNat) = .ok word := by
  rw [Json.nat, readWord, Numeral.kind_ofNat word.toNat_lt]
  exact congrArg Except.ok UInt64.ofNat_toNat

theorem readList_array {α : Type} {item : Json → Except Problem α} {encode : α → Json}
    (h : ∀ x, item (encode x) = .ok x) (xs : List α) : readList item (.array (xs.map encode)) = .ok xs := by
  have hmap : (xs.map encode).mapM item = .ok xs := by
    induction xs with
    | nil => rfl
    | cons x xs ih =>
      rw [List.map_cons, List.mapM_cons, h, ih]
      rfl
  rw [array, readList, hmap]
  rfl

end

end KernelAudit.Json
