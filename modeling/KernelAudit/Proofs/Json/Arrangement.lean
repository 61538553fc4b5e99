import KernelAudit.Proofs.Json.Fields

/-! Objects in which the members that count stand in any order, among others that nobody has declared.
    A reader that asks for declared names passes over the others, if it comes to their end; a reader that
    first takes in a whole object has to go down into them, so how deep they nest counts for it. -/

namespace KernelAudit.Json

/-! ### Values that nest to a limited depth -/

/-- Values that are made of nulls, truth values, words of sixty-four bits and texts, with lists and
    objects nested no more than `depth` deep. -/
inductive Nested : (depth : Nat) → Json → Prop
  | null {depth : Nat} : Nested depth .null
  | bool {depth : Nat} (b : Bool) : Nested depth (.bool b)
  | word {depth : Nat} (n : UInt64) : Nested depth (.nat n.toNat)
  | text {depth : Nat} (s : String) : Nested depth (.text s)
  | array {depth : Nat} {items : List Json} (h : ∀ v ∈ items, Nested depth v) : Nested (depth + 1) (.array items)
  | record {depth : Nat} {members : List (String × Json)} (h : ∀ p ∈ members, Nested depth p.2) :
    Nested (depth + 1) (.record members)

theorem Nested.plain {depth : Nat} {v : Json} (h : Nested depth v) : Plain v := by
  induction h with
  | null => exact .null
  | bool b => exact .bool b
  | word n => exact .nat n.toNat
  | text s => exact .text s
  | array _ ih => exact .array ih
  | record _ ih => exact .record ih

theorem allWhole_iff {items : List Json} : allWhole items = true ↔ ∀ v ∈ items, v.isWhole = true := by
  induction items with
  | nil => simp [allWhole]
  | cons v rest ih => simp [allWhole, ih]

theorem membersWhole_keyed_iff {members : List (String × Json)} :
    membersWhole (keyed members) = true ↔ ∀ p ∈ members, p.2.isWhole = true := by
  induction members with
  | nil => simp [keyed, membersWhole]
  | cons p rest ih =>
    rw [keyed_cons, membersWhole, Bool.and_eq_true, ih, List.forall_mem_cons]

/-- A plain value comes to its end. -/
theorem Plain.isWhole {v : Json} (h : Plain v) : v.isWhole = true := by
  induction h with
  | null | bool | nat | text => rfl
  | array _ ih => exact Bool.and_eq_true_iff.mpr ⟨allWhole_iff.mpr ih, rfl⟩
  | record _ ih => exact Bool.and_eq_true_iff.mpr ⟨membersWhole_keyed_iff.mpr ih, rfl⟩

theorem allReadable_iff {items : List Json} {depth : Nat} :
    allReadable items depth = true ↔ ∀ v ∈ items, v.isReadable depth = true := by
  induction items with
  | nil => simp [allReadable]
  | cons v rest ih => simp [allReadable, ih]

theorem membersReadable_keyed_iff {members : List (String × Json)} {depth : Nat} :
    membersReadable (keyed members) depth = true ↔ ∀ p ∈ members, p.2.isReadable depth = true := by
  induction members with
  | nil => simp [keyed, membersReadable]
  | cons p rest ih =>
    rw [keyed_cons, membersReadable, Option.isSome_some, Bool.true_and, Bool.and_eq_true, ih, List.forall_mem_cons]

/-- A reader that can go as deep as the value nests can take it in. -/
theorem Nested.isReadable {depth limit : Nat} {v : Json} (h : Nested depth v) (hlimit : depth ≤ limit) :
    v.isReadable limit = true := by
  induction h generalizing limit with
  | null | bool => rfl
  | word n =>
    rw [Json.nat, Json.isReadable, Numeral.kind_ofNat n.toNat_lt]
    rfl
  | text s => rfl
  | array _ ih =>
    obtain ⟨limit, rfl⟩ := Nat.exists_eq_add_of_le' (Nat.le_trans (Nat.le_add_left 1 _) hlimit)
    have hitems := allReadable_iff.mpr fun v hv => ih v hv (Nat.le_of_succ_le_succ hlimit)
    simp [Json.array, Json.isReadable, hitems]
  | record _ ih =>
    obtain ⟨limit, rfl⟩ := Nat.exists_eq_add_of_le' (Nat.le_trans (Nat.le_add_left 1 _) hlimit)
    have hmembers := membersReadable_keyed_iff.mpr fun p hp => ih p hp (Nat.le_of_succ_le_succ hlimit)
    simp [record_eq, Json.isReadable, hmembers]

/-! ### Arrangements of members -/

/-- The value is an object with the given members, in any order and at any places among others, whose names
    are not declared and whose values nest less than a hundred deep. -/
def Arranges (declared : List String) (members : List (String × Json)) (v : Json) : Prop :=
  ∃ all added, v = .record all ∧ all.Perm (members ++ added) ∧ ∀ p ∈ added, p.1 ∉ declared ∧ Nested 99 p.2

namespace Arranges
variable {declared : List String} {members : List (String × Json)} {v : Json}

theorem refl (declared : List String) (members : List (String × Json)) : Arranges declared members (.record members) :=
  ⟨members, [], rfl, by rw [List.append_nil], nofun⟩

/-- The members behind one another, the added ones last, read from the end. -/
theorem of_reverse {added : List (String × Json)} (h : ∀ p ∈ added, p.1 ∉ declared ∧ Nested 99 p.2) :
    Arranges declared members (.record (members ++ added).reverse) :=
  ⟨(members ++ added).reverse, added, rfl, List.reverse_perm _, h⟩

theorem plain (h : Arranges declared members v) (hplain : ∀ p ∈ members, Plain p.2) : Plain v := by
  obtain ⟨all, added, rfl, hperm, hadded⟩ := h
  refine .record fun p hp => ?_
  rcases List.mem_append.mp (hperm.mem_iff.mp hp) with hp | hp
  · exact hplain p hp
  · exact (hadded p hp).2.plain

/-- However the members of a record are arranged, they stand for its fields. -/
theorem fits {fields : List Field} (h : Arranges (fields.map Field.name) members v) (hdeclared : Declared fields members)
    (hnodup : (fields.map Field.name).Nodup) : ∃ all, v = .record all ∧ Fits fields all ∧ members ⊆ all := by
  obtain ⟨all, added, rfl, hperm, hadded⟩ := h
  have hfits : Fits fields (members ++ added) :=
    (hdeclared.fits hnodup).append (fun p hp => (hadded p hp).1) fun p hp => (hadded p hp).2.plain.isWhole
  exact ⟨all, rfl, hfits.perm hperm, fun p hp => hperm.mem_iff.mpr (List.mem_append_left _ hp)⟩

end Arranges

end KernelAudit.Json
