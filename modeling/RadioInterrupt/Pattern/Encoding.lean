import RadioInterrupt.Pattern.CharSet

/-!
Characters as bytes.

A range of codes is written as sequences of byte ranges, so that the codes of the range are those
whose bytes lie in the ranges of one of the sequences.
-/

namespace RadioInterrupt.Pattern

def bytesOf (code : Nat) : List Nat :=
  let tail (shift : Nat) : Nat := 0x80 + (code >>> shift) % 64
  if code < 0x80 then [code]
  else if code < 0x800 then [0xC0 + code / 64, tail 0]
  else if code < 0x10000 then [0xE0 + code / 4096, tail 6, tail 0]
  else [0xF0 + code / 262144, tail 12, tail 6, tail 0]

/-- Where a range is cut first: around the codes of no character, between codes with different
numbers of bytes, and where its ends do not cover whole blocks of the last bytes. -/
def cut? (first last : Nat) : Option (Nat × Nat) :=
  let between (code : Nat) : Option (Nat × Nat) :=
    if first ≤ code && code < last then some (code, code + 1) else none
  let block (bits : Nat) : Option (Nat × Nat) :=
    let length := 1 <<< bits
    if last < 0x80 || first / length = last / length then none
    else if first % length ≠ 0 then
      let stop := first / length * length + length
      some (stop - 1, stop)
    else if last % length ≠ length - 1 then
      let start := last / length * length
      some (start - 1, start)
    else none
  if first < 0xE000 && 0xD7FF < last then some (0xD7FF, 0xE000)
  else
    between 0x7F <|> between 0x7FF <|> between 0xFFFF <|> block 6 <|> block 12 <|> block 18

def sequencesOf : Nat → CharRange → List (List CharRange)
  | 0, _ => []
  | cuts + 1, ⟨first, last⟩ =>
      if last < first then []
      else
        match cut? first last with
        | some (stop, start) => sequencesOf cuts ⟨first, stop⟩ ++ sequencesOf cuts ⟨start, last⟩
        | none => [List.zipWith CharRange.mk (bytesOf first) (bytesOf last)]

def CharSet.sequences (set : CharSet) : List (List CharRange) :=
  set.ranges.flatMap (sequencesOf 32)

end RadioInterrupt.Pattern
