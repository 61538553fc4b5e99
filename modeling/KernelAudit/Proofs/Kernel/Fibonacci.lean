import KernelAudit.Kernel.Reference
import Mathlib.Data.Nat.Fib.Basic

/-! The built-in `fib` gives the Fibonacci numbers, cut to words of thirty-two bits. Its loop holds two
    neighbours of the sequence and goes on by one with each turn. Sums are cut as they are made, and what the
    loop ends with is the number that the whole sequence has there, cut once. -/

namespace KernelAudit.Reference

/-- A number of the Fibonacci sequence as a word. -/
def fibWord (k : Nat) : Int32 := Int32.ofNat (Nat.fib k)

theorem fibWord_add_two (k : Nat) : fibWord (k + 2) = fibWord k + fibWord (k + 1) := by
  rw [fibWord, Nat.fib_add_two, Int32.ofNat_add]
  rfl

theorem toInt_fibWord (k : Nat) : (fibWord k).toInt = Int.bmod (Nat.fib k) (2 ^ 32) := Int32.toInt_ofNat'

/-! ### Indices -/

section
variable {n : Int32}

theorem toInt_le_one_iff : n.toInt ≤ 1 ↔ n ≤ 1 := by
  rw [Int32.le_iff_toInt_le]
  rfl

theorem toInt_max_one (n : Int32) : (max n 1).toInt = max n.toInt 1 := by
  by_cases h : n ≤ 1
  · have hmax : max n 1 = 1 := if_pos h
    rw [hmax, max_eq_right (toInt_le_one_iff.mpr h)]
    rfl
  · have hmax : max n 1 = n := if_neg h
    rw [hmax, max_eq_left (not_le.mp (mt toInt_le_one_iff.mp h)).le]

/-- The two indices before one above 1 are not below 0, so they are reached without wrapping. -/
theorem toInt_before (h : ¬n ≤ 1) :
    1 < n.toInt ∧ (n - 1).toInt = n.toInt - 1 ∧ (n - 2).toInt = n.toInt - 2 := by
  have hpos := not_le.mp (mt toInt_le_one_iff.mp h)
  have hlt := n.toInt_lt
  have hone : (1 : Int32).toInt = 1 := rfl
  have htwo : (2 : Int32).toInt = 2 := rfl
  rw [Int32.toInt_sub, Int32.toInt_sub, hone, htwo]
  refine ⟨hpos, Int.bmod_eq_of_le ?_ ?_, Int.bmod_eq_of_le ?_ ?_⟩ <;> omega

end

/-! ### The loop -/

/-- What the loop holds are two neighbours, and each turn takes it to the next two. -/
theorem fibFrom_fibWord (k count : Nat) :
    fibFrom (fibWord k) (fibWord (k + 1)) count = fibWord (k + 1 + count) := by
  induction count generalizing k with
  | zero => rfl
  | succ count ih =>
    rw [fibFrom, ← fibWord_add_two, ih (k + 1)]
    congr 1
    omega

theorem fib_eq_fibWord (n : Int32) : fib n = fibWord (n.toInt.toNat + 1) := by
  have hloop : fib n = fibWord (2 + ((max n 1).toInt.toNat - 1)) := fibFrom_fibWord 1 _
  rw [hloop, toInt_max_one]
  by_cases hpos : 0 < n.toInt
  · congr 1
    omega
  · -- no turn is made, and the second of the two ones that the loop begins with is left
    have hsteps : (max n.toInt 1).toNat - 1 = 0 := by omega
    have hindex : n.toInt.toNat = 0 := by omega
    rw [hsteps, hindex]
    rfl

/-! ### The recurrence -/

/-- A function that begins with ones and goes on with the sums of the two values before, which wrap. -/
def FollowsFibonacci (f : Int32 → Int32) : Prop := ∀ n, f n = if n ≤ 1 then 1 else f (n - 1) + f (n - 2)

theorem followsFibonacci_fibWord : FollowsFibonacci fun n => fibWord (n.toInt.toNat + 1) := by
  intro n
  beta_reduce
  split
  · next h =>
    have hle := toInt_le_one_iff.mpr h
    obtain hzero | hone : n.toInt.toNat = 0 ∨ n.toInt.toNat = 1 := by omega
    · rw [hzero]
      rfl
    · rw [hone]
      rfl
  · next h =>
    obtain ⟨hpos, hfirst, hsecond⟩ := toInt_before h
    obtain ⟨k, hk⟩ : ∃ k : Nat, n.toInt = k + 2 := ⟨(n.toInt - 2).toNat, by omega⟩
    have hindices : n.toInt.toNat = k + 2 ∧ (n - 1).toInt.toNat = k + 1 ∧ (n - 2).toInt.toNat = k := by omega
    rw [hindices.1, hindices.2.1, hindices.2.2, fibWord_add_two, Int32.add_comm]

/-- The recurrence leaves nothing open. -/
theorem FollowsFibonacci.eq {f g : Int32 → Int32} (hf : FollowsFibonacci f) (hg : FollowsFibonacci g) : f = g := by
  funext n
  induction hm : n.toInt.toNat using Nat.strong_induction_on generalizing n with
  | _ m ih =>
    rw [hf n, hg n]
    split
    · rfl
    · next h =>
      obtain ⟨hpos, hfirst, hsecond⟩ := toInt_before h
      rw [ih (n - 1).toInt.toNat (by omega) (n - 1) rfl, ih (n - 2).toInt.toNat (by omega) (n - 2) rfl]

theorem followsFibonacci_iff {f : Int32 → Int32} :
    FollowsFibonacci f ↔ ∀ n, (f n).toInt = Int.bmod (Nat.fib (n.toInt.toNat + 1)) (2 ^ 32) := by
  constructor
  · intro h n
    rw [h.eq followsFibonacci_fibWord, toInt_fibWord]
  · intro h
    have heq : f = fun n => fibWord (n.toInt.toNat + 1) := by
      funext n
      rw [← Int32.toInt_inj, h n, toInt_fibWord]
    exact heq ▸ followsFibonacci_fibWord

/-- For every index, `fib` is 1 up to the index 1, and from there on the wrapping sum of its two values before;
    which is to say that it is the number that the Fibonacci sequence has at the index, as the signed word that
    is equal to it modulo 2^32. No other function meets either. -/
theorem fib_follows_fibonacci :
    (∀ n, fib n = if n ≤ 1 then 1 else fib (n - 1) + fib (n - 2)) ∧
    (∀ n, (fib n).toInt = Int.bmod (Nat.fib (n.toInt.toNat + 1)) (2 ^ 32)) ∧
    ∀ f, FollowsFibonacci f ↔ ∀ n, (f n).toInt = Int.bmod (Nat.fib (n.toInt.toNat + 1)) (2 ^ 32) := by
  have hfib : FollowsFibonacci fib := by
    rw [funext fib_eq_fibWord]
    exact followsFibonacci_fibWord
  exact ⟨hfib, followsFibonacci_iff.mp hfib, fun _ => followsFibonacci_iff⟩

end KernelAudit.Reference
