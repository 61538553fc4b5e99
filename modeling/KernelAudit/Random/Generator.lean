import KernelAudit.Power

/-! The stream of pseudo-random values that fills the buffers to be sorted: a stream cipher of twelve
    rounds with a key of 256 bits, which may be spread from a seed of sixty-four. The state is a value, so
    a generator that has been used once is simply the next generator. -/

namespace KernelAudit

/-- One block of cipher state: sixteen words. -/
abbrev Block := Vector UInt32 16

namespace Block

def rotate (x turn : UInt32) : UInt32 := (x <<< turn) ||| (x >>> (32 - turn))

/-- Mixes the four words at the given places. -/
def quarter (a b c d : Fin 16) (s : Block) : Block :=
  let s := s.set a (s[a] + s[b])
  let s := s.set d (rotate (s[d] ^^^ s[a]) 16)
  let s := s.set c (s[c] + s[d])
  let s := s.set b (rotate (s[b] ^^^ s[c]) 12)
  let s := s.set a (s[a] + s[b])
  let s := s.set d (rotate (s[d] ^^^ s[a]) 8)
  let s := s.set c (s[c] + s[d])
  s.set b (rotate (s[b] ^^^ s[c]) 7)

/-- A round over the columns, then one over the diagonals. -/
def doubleRound (s : Block) : Block :=
  let columns := quarter 3 7 11 15 (quarter 2 6 10 14 (quarter 1 5 9 13 (quarter 0 4 8 12 s)))
  quarter 3 4 9 14 (quarter 2 7 8 13 (quarter 1 6 11 12 (quarter 0 5 10 15 columns)))

/-- The output of a block: its state after six double rounds, added to the state itself. -/
def output (s : Block) : Block :=
  Vector.zipWith (· + ·) (Nat.repeat doubleRound 6 s) s

end Block

/-- The words of a key. -/
abbrev Key := Vector UInt32 8

/-- A key, the number of the next block, and the words of the current block that have not been handed
    out. -/
structure Generator where
  key : Key
  next : UInt64
  pending : List UInt32

namespace Generator

/-- The constants that open every block. -/
def constants : Vector UInt32 4 := #v[0x61707865, 0x3320646e, 0x79622d32, 0x6b206574]

/-- One step of the linear recurrence that spreads a seed over a key. -/
def spread (state : UInt64) : UInt64 := state * 6364136223846793005 + 11634580027462260723

/-- The key word of a recurrence state: shifted bits, rotated by the topmost ones. -/
def keyWord (state : UInt64) : UInt32 :=
  let x := (((state >>> 18) ^^^ state) >>> 27).toUInt32
  let turn := (state >>> 59).toUInt32
  (x >>> turn) ||| (x <<< ((32 - turn) % 32))

/-- The generator of a key. -/
def ofKey (key : Key) : Generator := ⟨key, 0, []⟩

/-- The generator of a seed. -/
def ofSeed (seed : UInt64) : Generator :=
  let states : Nat → UInt64 := fun n => Nat.repeat spread (n + 1) seed
  .ofKey (Vector.ofFn fun i => keyWord (states i))

/-- The cipher state of a block: constants, key, block number, and two words of zero. -/
def block (g : Generator) : Block :=
  let position : Vector UInt32 4 := #v[g.next.toUInt32, (g.next >>> 32).toUInt32, 0, 0]
  constants ++ g.key ++ position

/-- The next word, and the generator after it. -/
def word (g : Generator) : UInt32 × Generator :=
  match g.pending with
  | w :: rest => (w, { g with pending := rest })
  | [] =>
    let words := g.block.output
    (words[0], { g with next := g.next + 1, pending := words.toList.tail })

/-- The words of a stream repeat after this many. -/
def period : Nat := 16 * 2 ^ 64

/-- The first even word among the next `n`, halved; odd words are thrown away. -/
def firstEven : Nat → Generator → UInt32 × Generator
  | 0, g => (0, g)
  | n + 1, g =>
    let (w, g) := g.word
    if w % 2 = 0 then (w / 2, g) else firstEven n g

end Generator

/-- A value that a buffer slot can be filled with. -/
abbrev Draw := { v : Int32 // 0 ≤ v }

/-- What values are drawn from: each draw leaves the source changed. -/
class Source (ρ : Type) where
  draw : ρ → Draw × ρ

namespace Source

theorem nonneg_ofNat_mod (n : Nat) : 0 ≤ Int32.ofNat (n % 2 ^ 31) := by
  rw [Int32.le_iff_toInt_le, Int32.toInt_ofNat_of_lt (by omega)]
  exact Int.natCast_nonneg _

instance : Source Generator where
  draw g :=
    let (w, g) := g.firstEven Generator.period
    (⟨Int32.ofNat (w.toNat % 2 ^ 31), nonneg_ofNat_mod _⟩, g)

/-- The next `n` values and the source that is left. -/
def take [Source ρ] : Nat → ρ → List Draw × ρ
  | 0, r => ([], r)
  | n + 1, r =>
    let (v, r) := draw r
    let (vs, r) := take n r
    (v :: vs, r)

end Source

end KernelAudit
