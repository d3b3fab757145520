import RestShell.Compression.Bits

/-! Finite state entropy tables. A state stands for a symbol and says from how many
bits and from which least number the next state comes. A table is given by the share
of the states that each symbol has, a share of -1 standing for less than one. -/

namespace RestShell.Fse

structure State where
  symbol : Nat
  width : Nat
  least : Nat
deriving DecidableEq, Repr, Inhabited

/-- A table of `2^log` states. -/
structure Table where
  log : Nat
  states : Array State
deriving Inhabited

/-- The shares as they are written: each in just enough bits for what is left, a zero
followed by the number of further zeros in pairs of bits. Gives the log of the number
of states, the shares and the rest of the stream. -/
def readShares (maxLog maxSymbol : Nat) (bits : List Bool) :
    Option (Nat × List Int × List Bool) := do
  let (l, bits) ← Bits.take? 4 bits
  let log := l + 5
  if maxLog < log then none else loop (2 * (maxSymbol + 2)) log (Nat.pow 2 log) [] bits
where
  /-- The zeros after a zero share. -/
  zeros : Nat → List Int → List Bool → Option (List Int × List Bool)
    | 0, _, _ => none
    | fuel + 1, shares, bits => do
      let (n, bits) ← Bits.take? 2 bits
      let shares := List.replicate n 0 ++ shares
      if n = 3 then zeros fuel shares bits else return (shares, bits)
  loop : Nat → Nat → Nat → List Int → List Bool → Option (Nat × List Int × List Bool)
    | 0, _, _, _, _ => none
    | fuel + 1, log, left, shares, bits =>
      if left = 0 then
        if shares.length ≤ maxSymbol + 1 then some (log, shares.reverse, bits) else none
      else if maxSymbol < shares.length then none
      else do
        let width := (left + 1).log2 + 1
        let spare := Nat.pow 2 width - 1 - (left + 1)
        let (low, rest) ← Bits.take? (width - 1) bits
        let (value, bits) ←
          if low < spare then pure (low, rest)
          else do
            let (top, rest) ← Bits.take? 1 rest
            pure (if top = 1 then low + Nat.pow 2 (width - 1) - spare else low, rest)
        let share : Int := value - 1
        if left < share.natAbs then none
        else if share = 0 then
          let (shares, bits) ← zeros (maxSymbol + 2) (0 :: shares) bits
          loop fuel log left shares bits
        else loop fuel log (left - share.natAbs) (share :: shares) bits

/-- The positions in which states are dealt out: steps of a fixed width around the
table, those above `top` left out. -/
def positions (size top : Nat) : List Nat :=
  let step := size / 2 + size / 8 + 3
  ((List.range size).map fun i => i * step % size).filter (· ≤ top)

/-- The symbols of the states: the shares below one from the end on, the others dealt out. -/
def spread (log : Nat) (shares : List Int) : Array Nat :=
  let size := Nat.pow 2 log
  let low := (shares.zipIdx.filter fun p => p.1 == -1).map Prod.snd
  let table := low.zipIdx.foldl (fun t p => t.setIfInBounds (size - 1 - p.2) p.1)
    (Array.replicate size 0)
  let dealt := shares.zipIdx.flatMap fun p => List.replicate p.1.toNat p.2
  ((positions size (size - 1 - low.length)).zip dealt).foldl
    (fun t p => t.setIfInBounds p.1 p.2) table

/-- The table with the given shares: the states of a symbol count on from its share. -/
def Table.ofShares (log : Nat) (shares : List Int) : Table :=
  let counts := (shares.map fun s => if s = -1 then 1 else s.toNat).toArray
  let (states, _) := (spread log shares).foldl (fun (acc, counts) s =>
    let n : Nat := counts.getD s 1
    let width := log - n.log2
    (acc.push ⟨s, width, n * Nat.pow 2 width - Nat.pow 2 log⟩,
      counts.setIfInBounds s (n + 1))) ((#[] : Array State), counts)
  ⟨log, states⟩

/-- The table in which one symbol is certain. -/
def Table.single (symbol : Nat) : Table := ⟨0, #[⟨symbol, 0, 0⟩]⟩

/-- A number from a backward stream, missing bits being zero; `true` when bits were missing. -/
def takeBack (n : Nat) (bits : List Bool) : Nat × List Bool × Bool :=
  let lead := bits.take n
  (Bits.highValue lead * Nat.pow 2 (n - lead.length), bits.drop n, lead.length < n)

/-- The first state. -/
def Table.start (t : Table) (bits : List Bool) : State × List Bool × Bool :=
  let (i, r) := takeBack t.log bits
  (t.states.getD i default, r)

/-- The state after `s`. -/
def Table.next (t : Table) (s : State) (bits : List Bool) : State × List Bool × Bool :=
  let (i, r) := takeBack s.width bits
  (t.states.getD (s.least + i) default, r)

end RestShell.Fse
