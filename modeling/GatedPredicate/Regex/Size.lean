import GatedPredicate.Number.Power
import GatedPredicate.Regex.Pattern
import GatedPredicate.Text.Ascii

/-!
# The size of patterns

A pattern is refused when an automaton for it would be too large. The automaton reads bytes: a
character outside ASCII takes one state for each byte of its encoding, where sets share the states
of common leading bytes. Repetitions copy what they repeat.

- `CharSet.spans`: a set as ranges
- `chunks`: a range as products of ranges of bytes
- `CharSet.size`, `Pattern.size`: bytes of an automaton
- `Pattern.fits`: whether a pattern is small enough
-/

namespace GatedPredicate.Regex

open GatedPredicate.Text

/-! ## Sets as ranges -/

/-- Joins ranges that overlap or touch, given in the order of their first codes. -/
def joinSpans : List (Nat × Nat) → List (Nat × Nat)
  | [] => []
  | r :: rest => go r rest
where
  /-- Joins ranges that follow `latest`. -/
  go (latest : Nat × Nat) : List (Nat × Nat) → List (Nat × Nat)
    | [] => [latest]
    | r :: rest =>
      if r.1 ≤ latest.2 + 1 then go (latest.1, max latest.2 r.2) rest else latest :: go r rest

/-- Ranges in increasing order with gaps between them, of the same codes. -/
def sortSpans (ranges : List (Nat × Nat)) : List (Nat × Nat) :=
  joinSpans (ranges.mergeSort fun a b => a.1 ≤ b.1)

/-- The ranges between sorted ranges, from `next` on. -/
def gapsFrom (next : Nat) : List (Nat × Nat) → List (Nat × Nat)
  | [] => if next ≤ 0x10FFFF then [(next, 0x10FFFF)] else []
  | (first, last) :: rest =>
    if next < first then (next, first - 1) :: gapsFrom (last + 1) rest
    else gapsFrom (last + 1) rest

/-- The codes that two sorted lists of ranges share. -/
def sharedSpans (a b : List (Nat × Nat)) : List (Nat × Nat) :=
  gapsFrom 0 (sortSpans (gapsFrom 0 a ++ gapsFrom 0 b))

def runCodes (r : Run) : List Nat :=
  (List.range ((r.last - r.first) / r.step + 1)).map fun i => r.first + i * r.step

/-- A run as ranges. -/
def runSpans (r : Run) : List (Nat × Nat) :=
  if r.step ≤ 1 then [(r.first, r.last)] else (runCodes r).map fun n => (n, n)

/-- The codes that are not the least of those that differ from them only in case, each with the
least one. -/
def caseLinks : List (Nat × Nat) :=
  leastShifts.flatMap fun s =>
    (runCodes s.run).map fun n => (n, ((n : Int) + s.distance).toNat)

/-- Ranges and the codes that differ only in case, where links lead from codes to their least
ones. -/
def foldSpans (links spans : List (Nat × Nat)) : List (Nat × Nat) :=
  let least := (links.filter fun l => inRanges spans l.1 || inRanges spans l.2).map Prod.snd
  let mates := (links.filter fun l => least.contains l.2).map Prod.fst
  sortSpans (spans ++ (least ++ mates).map fun n => (n, n))

/-- The ranges of a set, in increasing order and with gaps between them. -/
def CharSet.spans : CharSet → List (Nat × Nat)
  | .runs table => sortSpans (table.flatMap runSpans)
  | .union s t => sortSpans (s.spans ++ t.spans)
  | .inter s t => sharedSpans s.spans t.spans
  | .minus s t => sharedSpans s.spans (gapsFrom 0 t.spans)
  | .differ s t =>
    let a := s.spans
    let b := t.spans
    sortSpans (sharedSpans a (gapsFrom 0 b) ++ sharedSpans b (gapsFrom 0 a))
  | .compl s => gapsFrom 0 s.spans
  | .folded s => foldSpans caseLinks s.spans
  | .foldedAscii s => foldSpans ((List.range 26).map fun i => (97 + i, 65 + i)) s.spans

/-! ## Sets as automata -/

/-- A range of codes whose encodings have a leading byte and `k` more, as products of ranges, one
factor for each byte. -/
def chunks : Nat → Nat → Nat → List (List (Nat × Nat))
  | 0, a, b => [[(a, b)]]
  | k + 1, a, b =>
    let block := 64 ^ (k + 1)
    let within (a b : Nat) := (chunks k a b).map ((a / block, a / block) :: ·)
    if a / block = b / block then within a b
    else
      let low := (a + block - 1) / block
      let high := (b + 1) / block
      let start := if a % block = 0 then [] else within a (low * block - 1)
      let whole :=
        if low < high then [(low, high - 1) :: List.replicate (k + 1) (0, 63)] else []
      let rest := if (b + 1) % block = 0 then [] else within (high * block) b
      start ++ whole ++ rest

/-- The codes by the number of bytes after the leading one. Surrogates have no encoding. -/
def encodings : List (Nat × Nat × Nat) :=
  [(0, 0x7F, 0), (0x80, 0x7FF, 1), (0x800, 0xD7FF, 2), (0xE000, 0xFFFF, 2), (0x10000, 0x10FFFF, 3)]

/-- The products of ranges of bytes that encode the codes of a range. -/
def spanChunks (span : Nat × Nat) : List (List (Nat × Nat)) :=
  encodings.flatMap fun (low, high, k) =>
    let a := max span.1 low
    let b := min span.2 high
    if a ≤ b then chunks k a b else []

/-- The number of factors of `b` after those that it begins with in common with `a`. -/
def newFactors : List (Nat × Nat) → List (Nat × Nat) → Nat
  | x :: a, y :: b => if x = y then newFactors a b else b.length + 1
  | _, b => b.length

/-- The bytes that the states for products take, after those for the product `before`. -/
def chunkSize (before : List (Nat × Nat)) : List (List (Nat × Nat)) → Nat
  | [] => 0
  | c :: rest => 4 + 32 * newFactors before c + chunkSize c rest

/-- The bytes that the states for a set take. A single character is a chain of states, and a set
of ASCII characters two states with a transition for each range. -/
def CharSet.size (s : CharSet) : Nat :=
  let spans := s.spans
  match spans with
  | [] => 32
  | [(a, b)] =>
    if a = b then 32 * (Char.ofNat a).utf8Size
    else if b < 128 then 72
    else 64 + chunkSize [] (spanChunks (a, b))
  | _ =>
    if spans.all fun r => r.2 < 128 then 64 + 8 * spans.length
    else 64 + chunkSize [] (spans.flatMap spanChunks)

/-! ## Patterns as automata -/

namespace Pattern

/-- Whether a pattern describes the empty text only, as its shape tells. -/
def isWidthless : Pattern → Bool
  | empty | look _ => true
  | one _ => false
  | group p => p.isWidthless
  | seq p q | alt p q => p.isWidthless && q.isWidthless
  | times p _ most => p.isWidthless || most == some 0

/-- The size of copies of a part of size `w`: one for each time it must occur, one with a way
around it for each time it may, or a loop over the last one. -/
def copies (w least : Nat) : Option Nat → Nat
  | none => max 1 least * w + 40
  | some most =>
    if most = 0 then 32
    else if least = most then most * w
    else if least = 0 ∧ most = 1 then w + 72
    else most * w + (most - least) * 40 + (if least = 0 then 64 else 32)

/-- The size of an automaton for a pattern. A pattern that describes only the empty text is
repeated at most once. -/
def size : Pattern → Nat
  | empty => 0
  | look _ => 32
  | one set => set.size
  | group p => p.size + 64
  | seq p q => p.size + q.size
  | alt p q => p.size + q.size + 40
  | times p least most =>
    if p.isWidthless then copies p.size (min least 1) (some (min (most.getD 1) 1))
    else copies p.size least most

/-- The size that an automaton may have. -/
def sizeLimit : Nat :=
  1048576

/-- The size of what surrounds every pattern in an automaton. -/
def surroundings : Nat :=
  168

/-- Whether a pattern is small enough to be used. -/
def fits (p : Pattern) : Bool :=
  p.size + surroundings ≤ sizeLimit

end Pattern

end GatedPredicate.Regex
