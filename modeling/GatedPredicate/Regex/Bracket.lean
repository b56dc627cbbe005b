import GatedPredicate.Regex.Escape

/-!
# Sets in brackets

Brackets hold characters, ranges and sets, side by side or joined by operators. Operators bind
less tightly than standing side by side and associate to the left. Sets nest.

- `Term`, `Items`: sets under construction, with the depth of their nesting
- `Frame`: what is unfinished around a place
- `readBracket?`: a set in brackets
-/

namespace GatedPredicate.Regex

open GatedPredicate.Text

/-! ## Sets under construction -/

/-- A set and how deeply its description is nested. -/
structure Term where
  set : CharSet
  depth : Nat

/-- Sets side by side. -/
structure Items where
  set : CharSet
  count : Nat
  depth : Nat

/-- No sets. -/
def Items.none : Items :=
  ⟨.empty, 0, 0⟩

/-- One more set. -/
def Items.add (items : Items) (t : Term) : Items :=
  ⟨if items.count = 0 then t.set else .union items.set t.set, items.count + 1,
    max items.depth t.depth⟩

/-- The union of the sets. Two or more count as one level of nesting. -/
def Items.close (items : Items) : Term :=
  ⟨items.set, if items.count ≤ 1 then items.depth else items.depth + 1⟩

/-- An operator between sets. -/
inductive SetOp where
  | inter
  | minus
  | differ
deriving Repr, DecidableEq

/-- The set that an operator makes of two. -/
def SetOp.apply : SetOp → CharSet → CharSet → CharSet
  | .inter => .inter
  | .minus => .minus
  | .differ => .differ

/-- What is unfinished around a place. -/
inductive Frame where
  /-- An open bracket, after the sets that stand before it in the bracket around it. -/
  | bracket (negated : Bool) (outer : Items)
  /-- An operator after its left operand. -/
  | operation (op : SetOp) (left : Term)

/-- The right operand `right` with the operator before it, if there is one. -/
def combine (f : Flags) (stack : List Frame) (right : Term) : Term × List Frame :=
  match stack with
  | .operation op left :: rest =>
    (⟨op.apply (f.fold left.set) (f.fold right.set), max left.depth right.depth + 1⟩, rest)
  | _ => (right, stack)

/-! ## Items -/

/-- The ASCII classes by name. -/
def asciiClasses : List (String × List (Nat × Nat)) :=
  [
    ("alnum", [(48, 57), (65, 90), (97, 122)]),
    ("alpha", [(65, 90), (97, 122)]),
    ("ascii", [(0, 127)]),
    ("blank", [(9, 9), (32, 32)]),
    ("cntrl", [(0, 31), (127, 127)]),
    ("digit", [(48, 57)]),
    ("graph", [(33, 126)]),
    ("lower", [(97, 122)]),
    ("print", [(32, 126)]),
    ("punct", [(33, 47), (58, 64), (91, 96), (123, 126)]),
    ("space", [(9, 13), (32, 32)]),
    ("upper", [(65, 90)]),
    ("word", [(48, 57), (65, 90), (95, 95), (97, 122)]),
    ("xdigit", [(48, 57), (65, 70), (97, 102)])]

/-- The ASCII class written as `:name:]` or `:^name:]` at the front: whether it is negated, its
set, and what follows. -/
def asciiClass? (cs : List Char) : Option (Bool × CharSet × List Char) :=
  let read (negated : Bool) (cs : List Char) : Option (Bool × CharSet × List Char) :=
    match cs.span (· != ':') with
    | (name, ':' :: ']' :: rest) =>
      (asciiClasses.lookup (String.ofList name)).map fun pairs => (negated, .ranges pairs, rest)
    | _ => none
  match cs with
  | ':' :: '^' :: rest => read true rest
  | ':' :: rest => read false rest
  | _ => none

/-- A character or an escape at the front. -/
def item? (f : Flags) (cs : List Char) : Option (Escape × List Char) :=
  match cs with
  | [] => none
  | '\\' :: rest => escape? f rest
  | c :: rest => some (.char c, rest)

/-- Whether a character may stand in brackets. Without Unicode only ASCII characters may. -/
def allowed (f : Flags) (c : Char) : Bool :=
  f.unicode || c.toNat < 128

/-- The set of an item that is no end of a range. -/
def Escape.set? (f : Flags) : Escape → Option CharSet
  | .char c => if allowed f c then some (.char c) else none
  | .set s => some s
  | .look _ => none

/-- The set of a range, whose ends are characters in order. -/
def rangeSet? (f : Flags) (first last : Escape) : Option CharSet :=
  match first, last with
  | .char a, .char b =>
    if allowed f a ∧ allowed f b ∧ a.toNat ≤ b.toNat then some (.range a.toNat b.toNat) else none
  | _, _ => none

/-- The next character that counts, when only the next is asked for. In a comment that is its
first character other than a blank; at the end of a pattern blanks count. -/
def peek (f : Flags) (cs : List Char) : Option Char :=
  if f.extended then go false cs <|> cs.head? else cs.head?
where
  /-- Looks past blanks and past one sign of a comment. -/
  go (inComment : Bool) : List Char → Option Char
    | [] => none
    | c :: rest =>
      if isBlank c then go inComment rest
      else if !inComment && c == '#' then go true rest
      else some c

/-- An item or a range at the front. A hyphen before a closing bracket or another hyphen makes no
range. -/
def itemOrRange? (f : Flags) (cs : List Char) : Option (CharSet × List Char) := do
  let (first, rest) ← item? f cs
  match f.skip rest with
  | '-' :: after =>
    if peek f after == some ']' || peek f after == some '-' then do
      let set ← first.set? f
      return (set, '-' :: after)
    else do
      let (last, rest) ← item? f (f.skip after)
      let set ← rangeSet? f first last
      return (set, rest)
  | rest => do
    let set ← first.set? f
    return (set, rest)

/-! ## Brackets -/

/-- Hyphens at the front, each of which stands for itself. -/
def leadingHyphens (f : Flags) (items : Items) : Nat → List Char → Items × List Char
  | 0, cs => (items, cs)
  | n + 1, cs =>
    match cs with
    | '-' :: rest => leadingHyphens f (items.add ⟨.char '-', 0⟩) n (f.skip rest)
    | _ => (items, cs)

/-- What follows an opening bracket: whether the set is negated, and the hyphens or the closing
bracket that stand for themselves because they come first. -/
def openBracket (f : Flags) (cs : List Char) : Bool × Items × List Char :=
  let cs := f.skip cs
  let (negated, cs) :=
    match cs with
    | '^' :: rest => (true, f.skip rest)
    | _ => (false, cs)
  let (items, cs) := leadingHyphens f .none cs.length cs
  match items.count, cs with
  | 0, ']' :: rest => (negated, items.add ⟨.char ']', 0⟩, f.skip rest)
  | _, _ => (negated, items, cs)

/-- Reads on in brackets until the outermost one closes. Every step takes a character, so as many
steps as there are characters are enough. -/
def bracketLoop (f : Flags) : Nat → List Frame → Items → List Char → Option (Term × List Char)
  | 0, _, _, _ => none
  | n + 1, stack, items, cs =>
    let operator (op : SetOp) (rest : List Char) : Option (Term × List Char) :=
      let (left, stack) := combine f stack items.close
      bracketLoop f n (.operation op left :: stack) .none rest
    match f.skip cs with
    | [] => none
    | '[' :: rest =>
      match asciiClass? rest with
      | some (negated, set, rest) => do
        let set ← f.close? negated set
        bracketLoop f n stack (items.add ⟨set, 0⟩) rest
      | none =>
        let (negated, inner, rest) := openBracket f rest
        bracketLoop f n (.bracket negated items :: stack) inner rest
    | ']' :: rest =>
      let (content, stack) := combine f stack items.close
      match stack with
      | .bracket negated outer :: stack => do
        let set ← f.close? negated content.set
        let term : Term := ⟨set, content.depth + 1⟩
        if stack.isEmpty then return (term, rest)
        bracketLoop f n stack (outer.add term) rest
      | _ => none
    | '&' :: '&' :: rest => operator .inter rest
    | '-' :: '-' :: rest => operator .minus rest
    | '~' :: '~' :: rest => operator .differ rest
    | cs => do
      let (set, rest) ← itemOrRange? f cs
      bracketLoop f n stack (items.add ⟨set, 0⟩) rest

/-- The set in brackets whose opening bracket comes before `cs`, and what follows it. -/
def readBracket? (f : Flags) (cs : List Char) : Option (Term × List Char) :=
  let (negated, items, rest) := openBracket f cs
  bracketLoop f (rest.length + 1) [.bracket negated .none] items rest

end GatedPredicate.Regex
