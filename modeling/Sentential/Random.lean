namespace Sentential

namespace ChaCha

abbrev Block := Vector UInt32 16

def rotateLeft (w n : UInt32) : UInt32 := (w <<< n) ||| (w >>> (32 - n))

def rotateRight (w n : UInt32) : UInt32 := (w >>> n) ||| (w <<< (32 - n))

def quarterRound (s : Block) (a b c d : Fin 16) : Block :=
  let s := s.set a (s[a] + s[b])
  let s := s.set d (rotateLeft (s[d] ^^^ s[a]) 16)
  let s := s.set c (s[c] + s[d])
  let s := s.set b (rotateLeft (s[b] ^^^ s[c]) 12)
  let s := s.set a (s[a] + s[b])
  let s := s.set d (rotateLeft (s[d] ^^^ s[a]) 8)
  let s := s.set c (s[c] + s[d])
  s.set b (rotateLeft (s[b] ^^^ s[c]) 7)

def doubleRound (s : Block) : Block :=
  let s := quarterRound s 0 4 8 12
  let s := quarterRound s 1 5 9 13
  let s := quarterRound s 2 6 10 14
  let s := quarterRound s 3 7 11 15
  let s := quarterRound s 0 5 10 15
  let s := quarterRound s 1 6 11 12
  let s := quarterRound s 2 7 8 13
  quarterRound s 3 4 9 14

/-- The state before the rounds: four constants, the key, and the number of the block in two words,
the low one first. The last two words are zero. -/
def initialBlock (key : Vector UInt32 8) (number : UInt64) : Block :=
  #v[0x61707865, 0x3320646e, 0x79622d32, 0x6b206574,
     key[0], key[1], key[2], key[3], key[4], key[5], key[6], key[7],
     number.toUInt32, (number >>> 32).toUInt32, 0, 0]

/-- The words of a block: the state after six double rounds, added to the state before them. -/
def block (key : Vector UInt32 8) (number : UInt64) : Block :=
  let start := initialBlock key number
  let mixed := (List.range 6).foldl (fun s _ => doubleRound s) start
  start.zipWith (· + ·) mixed

def advance (state : UInt64) : UInt64 := state * 6364136223846793005 + 11634580027462260723

/-- The key word that belongs to a state: its upper bits folded onto each other and turned by the
topmost five. -/
def keyWord (state : UInt64) : UInt32 :=
  rotateRight (((state >>> 18) ^^^ state) >>> 27).toUInt32 (state >>> 59).toUInt32

def keyWords : Nat → UInt64 → List UInt32
  | 0, _ => []
  | n + 1, state => keyWord (advance state) :: keyWords n (advance state)

theorem length_keyWords (n : Nat) (state : UInt64) : (keyWords n state).length = n := by
  induction n generalizing state with
  | zero => rfl
  | succ n ih => simp [keyWords, ih]

def keyOfSeed (seed : UInt64) : Vector UInt32 8 :=
  ⟨(keyWords 8 seed).toArray, by simp [length_keyWords]⟩

def word (key : Vector UInt32 8) (position : Nat) : UInt32 :=
  (block key (UInt64.ofNat (position / 16))).get ⟨position % 16, Nat.mod_lt _ (by decide)⟩

end ChaCha

/-- An endless stream of words, of which some have been taken. -/
structure RandomSource where
  word : Nat → UInt32
  taken : Nat

namespace RandomSource

def ofWords (words : List UInt32) : RandomSource := ⟨fun i => words.getD i 0, 0⟩

def ofSeed (seed : UInt64) : RandomSource := ⟨ChaCha.word (ChaCha.keyOfSeed seed), 0⟩

def next (src : RandomSource) : UInt32 × RandomSource :=
  (src.word src.taken, { src with taken := src.taken + 1 })

/-- The greatest low half of a product at which a word is used: the last one below the greatest
multiple of `n` by a power of two that a word holds. -/
def zone (n : Nat) : Nat := n <<< (31 - n.log2) - 1

def isFair (n : Nat) (w : UInt32) : Bool := decide (w.toNat * n % UInt32.size ≤ zone n)

def indexOf (n : Nat) (w : UInt32) : Nat := w.toNat * n / UInt32.size

/-- Takes words until one is fair and chooses by that. The rule itself sets no end to the taking; here
the word after `patience` unfair ones is used as it is, so that the draw ends on every stream. -/
def drawIndex (n : Nat) : (patience : Nat) → RandomSource → Nat × RandomSource
  | 0, src => (indexOf n src.next.1, src.next.2)
  | patience + 1, src =>
    if isFair n src.next.1 then (indexOf n src.next.1, src.next.2)
    else drawIndex n patience src.next.2

/-- At least every second word is fair, so that no generator comes near this many unfair ones. -/
def patience : Nat := UInt32.size

def choose {α : Type} (options : List α) (src : RandomSource) : Option α × RandomSource :=
  if options.isEmpty then (none, src)
  else
    let (i, src) := drawIndex options.length patience src
    (options[i]?, src)

end RandomSource

end Sentential
