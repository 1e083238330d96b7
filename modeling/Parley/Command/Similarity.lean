import Parley.Decimal.Reading

/-!
# Similarity of words

The Jaro similarity of two words, used to suggest an option when a misspelt one is given. Two
characters match when they are equal and no further apart than half the longer word, less one;
each character of the second word matches at most one of the first, taken from the left. With
`m` matches and `t` matched pairs out of order, the similarity is the mean of `m / |a|`,
`m / |b|` and `(m - t / 2) / m`, computed in doubles in that order. Two empty words are alike,
and an empty word is unlike any other.

A suggestion is the candidate of the greatest similarity above `0.7`, the later one on a tie.
-/

namespace Parley

namespace Command

/-- Match the characters of `a` against those of `b` no further than `range` away, each
character of `b` used once; the flags say which characters of each word are matched. -/
def matchFlags (a b : List Char) (range : Nat) : Array Bool × Array Bool :=
  let bs := b.toArray
  a.zipIdx.foldl (fun (af, bf) (c, i) =>
    let lo := i - range
    let hi := min b.length (i + range + 1)
    match (List.range' lo (hi - lo)).find? (fun j => bs[j]? == some c && bf[j]? == some false) with
    | some j => (af.push true, bf.setIfInBounds j true)
    | none => (af.push false, bf)) (#[], Array.replicate b.length false)

/-- The characters of a word whose flag is set, in order. -/
def flagged (cs : List Char) (flags : Array Bool) : List Char :=
  (cs.zipIdx.filter fun (_, i) => flags[i]?.getD false).map (·.1)

/-- The Jaro similarity of two words, as a double. -/
def jaro (a b : String) : Binary64 :=
  let a := a.toList
  let b := b.toList
  if a.isEmpty && b.isEmpty then Binary64.ofNat 1
  else if a.isEmpty || b.isEmpty then Binary64.ofNat 0
  else
    let range := max a.length b.length / 2 - 1
    let (af, bf) := matchFlags a b range
    let am := flagged a af
    let bm := flagged b bf
    let m := am.length
    if m == 0 then Binary64.ofNat 0
    else
      let t := ((am.zip bm).filter fun (x, y) => x != y).length / 2
      let d := Binary64.ofNat
      let sum := (((d m).div (d a.length)).add ((d m).div (d b.length))).add ((d (m - t)).div (d m))
      sum.div (d 3)

/-- The least similarity, exclusive, for a suggestion. -/
def suggestionThreshold : Binary64 := Decimal.toBinary64 false ⟨7, -1⟩

/-- The candidate most like `word`, if one is like it enough; the later one on a tie. -/
def suggest (word : String) (candidates : List String) : Option String :=
  let scored := candidates.filterMap fun c =>
    let s := jaro word c
    if suggestionThreshold.lt s then some (c, s) else none
  (scored.foldl (fun best (c, s) =>
    match best with
    | some (_, b) => if s.lt b then best else some (c, s)
    | none => some (c, s)) none).map (·.1)

end Command

end Parley
