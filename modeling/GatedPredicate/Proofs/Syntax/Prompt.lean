import GatedPredicate.Proofs.Syntax.Soundness

/-!
# Parsers that decide by the next lexeme

A parser that fails should fail at the first lexeme with which its input is no longer the beginning
of a phrase. What makes it do so is a contract on one parser: what it has taken does not depend on
what follows the next lexeme, and neither does that it fails there. The contract says nothing of the
grammar but for one predicate, which holds of the lexemes before the failure. It is kept by
sequence, by a choice that looks at the first lexeme, and by loops.

- `SyntaxFault.found?`: what an error says that it found
- `Begins`: the beginnings of phrases
- `PromptOn`, `Prompt`: the contract, on some inputs and on all
- `PromptOn.bind`, `PromptOn.byHead`, `PromptOn.byNext`, `PromptOn.skip`: how it is kept
- `StopsAt`: what it says of a lexeme that is not taken
- `Loops.prompt`: loops whose rounds begin with a lexeme of their own
-/

namespace GatedPredicate.Syntax

variable {α β : Type} {σ : Setting}

/-! ## The next lexeme -/

theorem eq_of_isSymbol {l : Lexeme} {s : Symbol} (h : l.token.isSymbol s = true) :
    ∃ span, l = ⟨.symbol s, span⟩ := by
  have hnext : nextIs s [l] = true := h
  obtain ⟨span, rest, hl⟩ := nextIs_eq_true hnext
  exact ⟨span, (List.cons.inj hl).1⟩

/-! ## What an error says -/

/-- What a message says was found in place of what may stand there: a token, or nothing because the
input ends. Other messages do not speak of the lexeme that comes next. -/
def SyntaxFault.found? : SyntaxFault → Option (Option Token)
  | .expected _ found => some found
  | .expectedMemberName found => some found
  | .reservedWord word => some (some (.reserved word))
  | .unexpectedToken found => some (some found)
  | .unexpectedEnd => some none
  | .afterExpression found => some (some found)
  | _ => none

/-- How far behind the lexeme that was found an error is reported. What stands in place of a member
name has been read when it turns out to be none. -/
def SyntaxFault.lag : SyntaxFault → Nat
  | .expectedMemberName _ => 1
  | _ => 0

/-- The text in single quotes. -/
def quoted (text : String) : String := "'" ++ text ++ "'"

/-- A message shows the token that was found. -/
theorem SyntaxFault.message_of_found {fault : SyntaxFault} {t : Token}
    (h : fault.found? = some (some t)) :
    ∃ before after, fault.message = before ++ quoted t.text ++ after := by
  have hquote (before word after : String) :
      before ++ "'" ++ word ++ ("'" ++ after) = before ++ quoted word ++ after := by
    simp only [quoted, String.append_assoc]
  cases fault with
  | expected want found =>
    obtain rfl := Option.some.inj h
    have hfound : "expected '" ++ want.text ++ "', found " ++ "'" =
        "expected '" ++ want.text ++ "', found '" := by
      rw [String.append_assoc]
      rfl
    refine ⟨"expected '" ++ want.text ++ "', found ", "", ?_⟩
    rw [← hquote, hfound]
    rfl
  | expectedMemberName found =>
    obtain rfl := Option.some.inj h
    exact ⟨_, _, hquote "expected member name after '.', found " t.text ""⟩
  | reservedWord word =>
    obtain rfl := Option.some.inj (Option.some.inj h)
    exact ⟨_, _, hquote "" word " is a reserved word and cannot be used in a predicate"⟩
  | unexpectedToken found =>
    obtain rfl := Option.some.inj (Option.some.inj h)
    exact ⟨_, _, hquote "unexpected token " found.text ""⟩
  | afterExpression found =>
    obtain rfl := Option.some.inj (Option.some.inj h)
    exact ⟨_, _, hquote "unexpected " found.text " after expression"⟩
  | _ => cases h

/-! ## The contract -/

/-- The lexemes are the beginning of a phrase. -/
def Begins (R : List Lexeme → α → Prop) (ls : List Lexeme) : Prop :=
  ∃ more x, R (ls ++ more) x

/-- A phrase is a beginning of itself. -/
theorem Begins.whole {R : List Lexeme → α → Prop} {ls : List Lexeme} {x : α} (h : R ls x) :
    Begins R ls :=
  ⟨[], x, by rwa [List.append_nil]⟩

/-- The same where nothing has been read since. -/
theorem Begins.whole_append_nil {R : List Lexeme → α → Prop} {ls : List Lexeme} {x : α}
    (h : R ls x) : Begins R (ls ++ []) := by
  rw [List.append_nil]
  exact .whole h

/-- What begins a phrase of one kind begins one of another that all of the first kind are. -/
theorem Begins.imp {R S : List Lexeme → α → Prop} {ls : List Lexeme} (h : Begins R ls)
    (hRS : ∀ {ls x}, R ls x → S ls x) : Begins S ls := by
  obtain ⟨more, x, hx⟩ := h
  exact ⟨more, x, hRS hx⟩

/-- The parser `p` fails after `before`, for what comes next: its error says what that is, `before`
may be gone on with otherwise, and no matter what follows the next lexeme, it is refused. -/
structure Stuck (σ : Setting) (p : Reader α) (V : List Lexeme → Prop) (e : SyntaxError)
    (before rest : List Lexeme) : Prop where
  found : e.fault.found? = some (nextToken? rest)
  span : e.span = σ.here (rest.drop e.fault.lag)
  begins : V before
  refused : ∀ l after, rest = l :: after →
    ∀ after', ∃ span, p (before ++ l :: after') = .error ⟨e.fault, span⟩

/-- On inputs that begin as `D` says the parser `p` decides by the first lexeme that it does not
take, and when it fails for that lexeme then what comes before is as `V` says. -/
structure PromptOn (D : List Lexeme → Prop) (σ : Setting) (p : Reader α)
    (V : List Lexeme → Prop) : Prop where
  takes : ∀ {ls x rest}, D ls → p ls = .ok (x, rest) → rest <:+ ls
  settles : ∀ {front l after kept x}, D (front ++ l :: after) →
    p (front ++ l :: after) = .ok (x, kept ++ l :: after) →
      ∀ after', p (front ++ l :: after') = .ok (x, kept ++ l :: after')
  stuck : ∀ {ls e}, D ls → p ls = .error e → e.fault.found? ≠ none →
    ∃ before rest, ls = before ++ rest ∧ Stuck σ p V e before rest

/-- The same on all inputs. -/
abbrev Prompt (σ : Setting) (p : Reader α) (V : List Lexeme → Prop) : Prop :=
  PromptOn (fun _ => True) σ p V

namespace PromptOn

variable {D D' V V' : List Lexeme → Prop} {p q : Reader α} {l : Lexeme}

theorem anti (h : PromptOn D σ p V) (hD : ∀ ls, D' ls → D ls) : PromptOn D' σ p V :=
  ⟨fun hd => h.takes (hD _ hd), fun hd => h.settles (hD _ hd), fun hd => h.stuck (hD _ hd)⟩

/-- What holds on all inputs holds on some. -/
theorem anywhere (h : Prompt σ p V) : PromptOn D σ p V :=
  h.anti fun _ _ => trivial

theorem mono (h : PromptOn D σ p V) (hV : ∀ ls, V ls → V' ls) : PromptOn D σ p V' := by
  refine ⟨h.takes, h.settles, fun hd hp hfound => ?_⟩
  obtain ⟨before, rest, hls, hstuck⟩ := h.stuck hd hp hfound
  exact ⟨before, rest, hls, { hstuck with begins := hV _ hstuck.begins }⟩

/-- A parser that takes nothing and gives a value. -/
theorem ok (x : α) : PromptOn D σ (fun ls => .ok (x, ls)) V := by
  constructor
  case takes =>
    intro ls y rest _ h
    obtain ⟨-, rfl⟩ := Prod.mk.inj (Except.ok.inj h)
    exact List.suffix_rfl
  case settles =>
    intro front l after kept y _ h after'
    obtain ⟨rfl, hkept⟩ := Prod.mk.inj (Except.ok.inj h)
    rw [List.append_cancel_right hkept]
  case stuck =>
    intro ls e _ h
    cases h

/-- A parser that fails on all of these inputs. -/
theorem fails (h : ∀ ls, D ls → ∃ e, p ls = .error e ∧ (e.fault.found? ≠ none →
    ∃ before rest, ls = before ++ rest ∧ Stuck σ p V e before rest)) : PromptOn D σ p V := by
  constructor
  case takes =>
    intro ls x rest hd hp
    obtain ⟨e, he, -⟩ := h ls hd
    rw [he] at hp
    cases hp
  case settles =>
    intro front l after kept x hd hp
    obtain ⟨e, he, -⟩ := h _ hd
    rw [he] at hp
    cases hp
  case stuck =>
    intro ls e hd hp hfound
    obtain ⟨e', he, hstuck⟩ := h ls hd
    rw [he] at hp
    obtain rfl := Except.error.inj hp
    exact hstuck hfound

/-- A parser that fails with errors that do not speak of the next lexeme. -/
theorem silent (h : ∀ ls, D ls → ∃ e, p ls = .error e ∧ e.fault.found? = none) :
    PromptOn D σ p V := by
  refine fails fun ls hd => ?_
  obtain ⟨e, he, hnone⟩ := h ls hd
  exact ⟨e, he, fun hfound => absurd hnone hfound⟩

/-- One parser after another: what the first one takes is a phrase of `R`. -/
theorem bind {R : List Lexeme → α → Prop}
    {k : α × List Lexeme → Except SyntaxError (β × List Lexeme)} (hreads : Reads p R)
    (hp : PromptOn D σ p V) (hk : ∀ used x, R used x →
      PromptOn (fun ls => D (used ++ ls)) σ (fun rest => k (x, rest)) fun ls => V (used ++ ls)) :
    PromptOn D σ (fun ls => p ls >>= k) V := by
  constructor
  case takes =>
    intro ls y rest hd h
    obtain ⟨⟨x, between⟩, hx, hy⟩ := except_seq_eq_ok.mp h
    obtain ⟨used, rfl, hused⟩ := hreads _ _ _ hx
    exact ((hk used x hused).takes hd hy).trans (List.suffix_append used between)
  case settles =>
    intro front l after kept y hd h after'
    obtain ⟨⟨x, between⟩, hx, hy⟩ := except_seq_eq_ok.mp h
    obtain ⟨used, hls, hused⟩ := hreads _ _ _ hx
    have hd' : D (used ++ between) := hls ▸ hd
    obtain ⟨more, hmore⟩ := (hk used x hused).takes hd' hy
    -- what the second parser takes ends before the lexeme too
    obtain rfl : between = more ++ kept ++ l :: after := by rw [← hmore, List.append_assoc]
    obtain rfl : front = used ++ (more ++ kept) := by
      have hls' : front ++ l :: after = used ++ (more ++ kept) ++ l :: after := by
        simp only [hls, List.append_assoc]
      exact List.append_cancel_right hls'
    rw [hp.settles hd hx after', except_ok_seq]
    exact (hk used x hused).settles hd' hy after'
  case stuck =>
    intro ls e hd h hfound
    cases hx : p ls with
    | error e' =>
      -- the first parser fails, whatever comes after it
      rw [hx] at h
      obtain rfl := Except.error.inj h
      obtain ⟨before, rest, hls, hstuck⟩ := hp.stuck hd hx hfound
      refine ⟨before, rest, hls, { hstuck with refused := fun l after hrest after' => ?_ }⟩
      obtain ⟨span, hspan⟩ := hstuck.refused l after hrest after'
      exact ⟨span, by rw [hspan]; rfl⟩
    | ok out =>
      obtain ⟨x, between⟩ := out
      rw [hx, except_ok_seq] at h
      obtain ⟨used, rfl, hused⟩ := hreads _ _ _ hx
      obtain ⟨before, rest, rfl, hstuck⟩ := (hk used x hused).stuck hd h hfound
      refine ⟨used ++ before, rest, (List.append_assoc _ _ _).symm,
        { hstuck with refused := fun l after hrest after' => ?_ }⟩
      subst hrest
      rw [← List.append_assoc] at hx hd
      rw [hp.settles hd hx after', except_ok_seq]
      exact hstuck.refused l after rfl after'

/-- A parser whose value is changed. -/
theorem map {k : α × List Lexeme → Except SyntaxError (β × List Lexeme)} (g : α → β)
    (hk : ∀ x rest, k (x, rest) = .ok (g x, rest)) (hp : Prompt σ p V) :
    Prompt σ (fun ls => p ls >>= k) V := by
  -- the value does not depend on what was taken, so nothing need be known of it
  have hreads : Reads p fun _ _ => True := by
    intro ls x rest h
    obtain ⟨used, hused⟩ := hp.takes trivial h
    exact ⟨used, hused.symm, trivial⟩
  refine bind hreads hp fun _ x _ => ?_
  simp only [hk]
  exact ok (g x)

/-- Two kinds of inputs. -/
theorem cases {D₁ D₂ : List Lexeme → Prop} (h : ∀ ls, D ls → D₁ ls ∨ D₂ ls)
    (h₁ : PromptOn D₁ σ p V) (h₂ : PromptOn D₂ σ p V) : PromptOn D σ p V := by
  constructor
  case takes =>
    intro ls x rest hd
    exact (h ls hd).elim h₁.takes h₂.takes
  case settles =>
    intro front l after kept x hd
    exact (h _ hd).elim h₁.settles h₂.settles
  case stuck =>
    intro ls e hd
    exact (h ls hd).elim h₁.stuck h₂.stuck

/-! ### The first lexeme -/

/-- It is enough to look at inputs that begin with the same lexeme. -/
theorem byHead (hnil : PromptOn (fun ls => D ls ∧ ls.head? = none) σ p V)
    (hcons : ∀ l, PromptOn (fun ls => D ls ∧ ls.head? = some l) σ p V) : PromptOn D σ p V := by
  have hhead : ∀ head, PromptOn (fun ls => D ls ∧ ls.head? = head) σ p V := by
    intro head
    cases head with
    | none => exact hnil
    | some l => exact hcons l
  exact ⟨fun hd => (hhead _).takes ⟨hd, rfl⟩, fun hd => (hhead _).settles ⟨hd, rfl⟩,
    fun hd => (hhead _).stuck ⟨hd, rfl⟩⟩

/-- Two parsers that agree on inputs with some first lexeme. -/
theorem congr {head : Option Lexeme} (h : ∀ ls, ls.head? = head → p ls = q ls)
    (hq : PromptOn (fun ls => D ls ∧ ls.head? = head) σ q V) :
    PromptOn (fun ls => D ls ∧ ls.head? = head) σ p V := by
  constructor
  case takes =>
    intro ls x rest hd hp
    exact hq.takes hd ((h ls hd.2).symm.trans hp)
  case settles =>
    intro front l after kept x hd hp after'
    -- other lexemes to follow leave the first one as it is
    have hhead : (front ++ l :: after').head? = head := by
      rw [← hd.2]
      cases front <;> rfl
    rw [h _ hhead]
    exact hq.settles hd ((h _ hd.2).symm.trans hp) after'
  case stuck =>
    intro ls e hd hp hfound
    obtain ⟨before, rest, rfl, hstuck⟩ := hq.stuck hd ((h _ hd.2).symm.trans hp) hfound
    refine ⟨before, rest, rfl, { hstuck with refused := fun l after hrest after' => ?_ }⟩
    have hhead : (before ++ l :: after').head? = head := by
      rw [← hd.2, hrest]
      cases before <;> rfl
    rw [h _ hhead]
    exact hstuck.refused l after hrest after'

theorem congrCons (h : ∀ rest, p (l :: rest) = q (l :: rest)) (hq : PromptOn D σ q V) :
    PromptOn (fun ls => D ls ∧ ls.head? = some l) σ p V := by
  refine congr (fun ls hls => ?_) (hq.anti fun _ hd => hd.1)
  obtain ⟨rest, rfl⟩ := List.head?_eq_some_iff.mp hls
  exact h rest

theorem congrNil (h : p [] = q []) (hq : PromptOn D σ q V) :
    PromptOn (fun ls => D ls ∧ ls.head? = none) σ p V := by
  refine congr (fun ls hls => ?_) (hq.anti fun _ hd => hd.1)
  rwa [List.head?_eq_none_iff.mp hls]

theorem silentCons (h : ∀ rest, ∃ e, p (l :: rest) = .error e ∧ e.fault.found? = none) :
    PromptOn (fun ls => D ls ∧ ls.head? = some l) σ p V := by
  refine silent fun ls hls => ?_
  obtain ⟨rest, rfl⟩ := List.head?_eq_some_iff.mp hls.2
  exact h rest

theorem silentNil (h : ∃ e, p [] = .error e ∧ e.fault.found? = none) :
    PromptOn (fun ls => D ls ∧ ls.head? = none) σ p V := by
  refine silent fun ls hls => ?_
  rwa [List.head?_eq_none_iff.mp hls.2]

/-- A parser that looks whether a symbol comes next. -/
theorem byNext (s : Symbol) (hno : PromptOn D σ q V) (hyes : ∀ span,
      PromptOn (fun ls => D ls ∧ ls.head? = some ⟨.symbol s, span⟩) σ p V) :
    PromptOn D σ (fun ls => if nextIs s ls then p ls else q ls) V := by
  refine byHead (congrNil rfl hno) fun l => ?_
  cases hs : l.token.isSymbol s with
  | true =>
    obtain ⟨span, rfl⟩ := eq_of_isSymbol hs
    refine congr (fun ls hls => ?_) (hyes span)
    obtain ⟨rest, rfl⟩ := List.head?_eq_some_iff.mp hls
    exact if_pos hs
  | false => exact congrCons (fun rest => if_neg (Bool.eq_false_iff.mp hs)) hno

/-- A parser that takes the first lexeme and goes on as another one. -/
theorem skip (h : ∀ rest, p (l :: rest) = q rest)
    (hq : PromptOn (fun ls => D (l :: ls)) σ q fun ls => V (l :: ls)) :
    PromptOn (fun ls => D ls ∧ ls.head? = some l) σ p V := by
  constructor
  case takes =>
    rintro (_ | ⟨l', ls⟩) x rest ⟨hd, hhead⟩ hp
    · cases hhead
    · obtain rfl := Option.some.inj hhead
      rw [h] at hp
      exact (hq.takes hd hp).trans (List.suffix_cons l' ls)
  case settles =>
    rintro (_ | ⟨l', front⟩) next after kept x ⟨hd, hhead⟩ hp after'
    · -- the first lexeme is not left
      obtain rfl := Option.some.inj hhead
      rw [List.nil_append, h] at hp
      have hle := (hq.takes hd hp).length_le
      simp at hle
      omega
    · obtain rfl := Option.some.inj hhead
      rw [List.cons_append, h] at hp ⊢
      exact hq.settles hd hp after'
  case stuck =>
    rintro (_ | ⟨l', ls⟩) e ⟨hd, hhead⟩ hp hfound
    · cases hhead
    · obtain rfl := Option.some.inj hhead
      rw [h] at hp
      obtain ⟨before, rest, rfl, hstuck⟩ := hq.stuck hd hp hfound
      refine ⟨l' :: before, rest, rfl, { hstuck with refused := fun next after hrest after' => ?_ }⟩
      rw [List.cons_append, h]
      exact hstuck.refused next after hrest after'

/-- A parser that refuses the first lexeme. -/
theorem refuses (fault : SyntaxFault) (hfound : fault.found? = some (some l.token)) (hV : V [])
    (h : ∀ rest, p (l :: rest) = .error ⟨fault, σ.here ((l :: rest).drop fault.lag)⟩) :
    PromptOn (fun ls => D ls ∧ ls.head? = some l) σ p V := by
  apply fails
  rintro (_ | ⟨l', ls⟩) ⟨-, hhead⟩
  · cases hhead
  obtain rfl := Option.some.inj hhead
  refine ⟨_, h ls, fun _ => ⟨[], l' :: ls, rfl, hfound, rfl, hV, fun next after hrest after' => ?_⟩⟩
  obtain ⟨rfl, -⟩ := List.cons.inj hrest
  exact ⟨_, h after'⟩

/-- A parser that cannot do without another lexeme. -/
theorem atEnd (fault : SyntaxFault) (hfound : fault.found? = some none) (hV : V [])
    (h : p [] = .error ⟨fault, σ.here []⟩) :
    PromptOn (fun ls => D ls ∧ ls.head? = none) σ p V := by
  apply fails
  rintro (_ | ⟨l', ls⟩) ⟨-, hhead⟩
  · exact ⟨_, h, fun _ => ⟨[], [], rfl, hfound, by rw [List.drop_nil], hV, nofun⟩⟩
  · cases hhead

end PromptOn

/-! ## Where a parser stops -/

/-- Whatever follows the lexeme, the parser leaves it or fails for what it finds. -/
def StopsAt (p : Reader α) (before : List Lexeme) (l : Lexeme) : Prop :=
  ∀ after, (∃ x kept, p (before ++ l :: after) = .ok (x, kept) ∧ kept ≠ []) ∨
    ∃ e, p (before ++ l :: after) = .error e ∧ e.fault.found? ≠ none

namespace StopsAt

variable {p : Reader α} {V : List Lexeme → Prop} {before after kept : List Lexeme} {l : Lexeme}
  {x : α} {e : SyntaxError}

theorem of_ok (h : Prompt σ p V) (hp : p (before ++ l :: after) = .ok (x, kept ++ l :: after)) :
    StopsAt p before l :=
  fun after' => .inl ⟨x, kept ++ l :: after', h.settles trivial hp after', by simp⟩

theorem of_stuck (h : Stuck σ p V e before (l :: after)) : StopsAt p before l := by
  intro after'
  obtain ⟨span, hspan⟩ := h.refused l after rfl after'
  exact .inr ⟨_, hspan, by simp [h.found]⟩

theorem ne_ok (h : StopsAt p before l) : p (before ++ l :: after) ≠ .ok (x, []) := by
  intro hp
  obtain ⟨x', kept, hok, hkept⟩ | ⟨e, herror, -⟩ := h after
  · rw [hp] at hok
    exact hkept (Prod.mk.inj (Except.ok.inj hok)).2.symm
  · rw [hp] at herror
    cases herror

theorem found_ne_none (h : StopsAt p before l) (hp : p (before ++ l :: after) = .error e) :
    e.fault.found? ≠ none := by
  obtain ⟨x, kept, hok, -⟩ | ⟨e', herror, hfound⟩ := h after
  · rw [hp] at hok
    cases hok
  · rw [hp] at herror
    rwa [Except.error.inj herror]

end StopsAt

/-! ## Loops -/

/-- `F fuel` is a loop of at most `fuel` rounds. A round begins with a lexeme that has one, takes
it, and says with its value whether there may be another. -/
structure Loops (F : Nat → α → Reader α) (round : Lexeme → Option (α → Reader (α ⊕ α))) :
    Prop where
  zero : ∀ a ls, F 0 a ls = .ok (a, ls)
  atEnd : ∀ fuel a, F fuel a [] = .ok (a, [])
  stop : ∀ {l}, round l = none → ∀ fuel a rest, F fuel a (l :: rest) = .ok (a, l :: rest)
  next : ∀ {l r}, round l = some r → ∀ fuel a rest, F (fuel + 1) a (l :: rest) =
    r a rest >>= fun out => out.1.elim (F fuel · out.2) fun b => .ok (b, out.2)

/-- What every round of a loop keeps: after lexemes `front` with the value `a`, a round goes on from
an `I` to an `I`, and `V` holds of what it takes up to where it fails. -/
structure Loops.Keeps (σ : Setting) (round : Lexeme → Option (α → Reader (α ⊕ α)))
    (I : List Lexeme → α → Prop) (V : List Lexeme → Prop) : Prop where
  reads : ∀ {l r front a}, round l = some r → I front a →
    Reads (r a) fun used o => ∀ b, o = .inl b → I (front ++ l :: used) b
  prompt : ∀ {l r front a}, round l = some r → I front a →
    Prompt σ (r a) fun ls => V (front ++ l :: ls)

namespace Loops

variable {F : Nat → α → Reader α} {round : Lexeme → Option (α → Reader (α ⊕ α))}
  {I : List Lexeme → α → Prop} {V : List Lexeme → Prop}

/-- There are never more rounds than lexemes. -/
theorem fuel_irrelevant (h : Loops F round) (hkeeps : Keeps σ round I V) {fuel : Nat}
    {front ls : List Lexeme} {a : α} (ha : I front a) (hle : ls.length ≤ fuel) :
    F fuel a ls = F ls.length a ls := by
  induction fuel using Nat.strongRecOn generalizing front ls a with
  | ind fuel ih =>
    cases ls with
    | nil => rw [h.atEnd, h.atEnd]
    | cons l rest =>
      obtain ⟨less, rfl⟩ := Nat.exists_eq_add_one.mpr (Nat.lt_of_lt_of_le (Nat.succ_pos _) hle)
      rw [List.length_cons] at hle ⊢
      cases hround : round l with
      | none => rw [h.stop hround, h.stop hround]
      | some r =>
        rw [h.next hround, h.next hround]
        refine except_seq_congr fun ⟨o, after⟩ hr => ?_
        obtain ⟨used, rfl, hkept⟩ := hkeeps.reads hround ha _ _ _ hr
        cases o with
        | inr b => rfl
        | inl b =>
          rw [List.length_append] at hle
          -- both sides have enough fuel for what is left
          have hless : F less b after = F after.length b after :=
            ih less (by omega) (hkept b rfl) (by omega)
          have hrest : F (used ++ after).length b after = F after.length b after :=
            ih _ (by grind) (hkept b rfl) (by grind)
          exact hless.trans hrest.symm

/-- A loop is prompt if every round is. -/
theorem prompt (h : Loops F round) (hkeeps : Keeps σ round I V) {front : List Lexeme} {a : α}
    (ha : I front a) :
    Prompt σ (fun ls => F ls.length a ls) fun ls => V (front ++ ls) := by
  -- by induction on a bound for the length, which is the domain that the contract is kept on
  have hshort : ∀ n front a, I front a → PromptOn (fun ls => ls.length < n) σ
      (fun ls => F ls.length a ls) fun ls => V (front ++ ls) := by
    intro n
    induction n with
    | zero => exact fun _ _ _ => .fails fun _ hd => absurd hd (Nat.not_lt_zero _)
    | succ n ih =>
      intro front a ha
      refine .byHead (.congrNil (h.atEnd 0 a) (.ok a)) fun l => ?_
      cases hround : round l with
      | none => exact .congrCons (fun rest => h.stop hround _ a rest) (.ok a)
      | some r =>
        -- the fuel left after a round does not matter, so the loop begins anew on what is left
        let goOn : α ⊕ α → Reader α :=
          Sum.elim (fun b ls => F ls.length b ls) fun b ls => .ok (b, ls)
        refine .skip (q := fun rest => r a rest >>= fun out => goOn out.1 out.2)
          (fun rest => ?_) ?_
        · rw [List.length_cons, h.next hround]
          refine except_seq_congr fun ⟨o, after⟩ hr => ?_
          obtain ⟨used, rfl, hkept⟩ := hkeeps.reads hround ha _ _ _ hr
          cases o with
          | inr b => rfl
          | inl b => exact h.fuel_irrelevant hkeeps (hkept b rfl) (by grind)
        · refine .bind (hkeeps.reads hround ha) (hkeeps.prompt hround ha).anywhere
            fun used o ho => ?_
          cases o with
          | inr b => exact .ok b
          | inl b =>
            have hrest := ih _ b (ho b rfl)
            simp only [List.append_assoc, List.cons_append] at hrest
            exact hrest.anti fun ls hls => by grind
  exact ⟨fun _ => (hshort _ front a ha).takes (Nat.lt_succ_self _),
    fun _ => (hshort _ front a ha).settles (Nat.lt_succ_self _),
    fun _ => (hshort _ front a ha).stuck (Nat.lt_succ_self _)⟩

end Loops

end GatedPredicate.Syntax
