import GatedPredicate.Proofs.Syntax.Spelling

/-!
# Reading undoes writing

A text that is written token by token, with something between any two of them, is read as just these
tokens, each with the range of its spelling. There is one thing to mind: a slash right before a
comment becomes part of the comment.

- `Filler`: the blanks and comments that may stand between tokens
- `Written`, `Separated`: tokens with their spellings and what stands after them
- `lexFrom_scan`, `lexFrom_fillers`, `lexFrom_spelling`: one step each
- `lex_written`
-/

namespace GatedPredicate.Syntax

open GatedPredicate.Text

/-! ## Between tokens -/

/-- A blank, or a comment with the end of its line. -/
inductive Filler where
  | blank (c : Char) (h : isTokenBlank c = true)
  | comment (text : List Char) (h : '\n' ∉ text)

namespace Filler

def chars : Filler → List Char
  | .blank c _ => [c]
  | .comment text _ => '/' :: '/' :: (text ++ ['\n'])

def isComment : Filler → Bool
  | .blank _ _ => false
  | .comment _ _ => true

/-- The text of several fillers in a row. -/
def gap (fs : List Filler) : List Char :=
  fs.flatMap chars

theorem mem_tokenEnds_of_isTokenBlank {c : Char} (h : isTokenBlank c = true) : c ∈ tokenEnds := by
  simp only [isTokenBlank, Bool.or_eq_true, beq_iff_eq] at h
  simp only [tokenEnds, List.mem_cons]
  tauto

/-- What starts with a filler ends the token before. -/
theorem stops_gap {fs : List Filler} (h : fs ≠ []) (rest : List Char) :
    Stops (gap fs ++ rest) := by
  cases fs with
  | nil => exact absurd rfl h
  | cons f fs =>
    intro c hc
    cases f with
    | blank b hb =>
      obtain rfl : b = c := Option.some.inj hc
      exact mem_tokenEnds_of_isTokenBlank hb
    | comment text _ =>
      obtain rfl : '/' = c := Option.some.inj hc
      simp [tokenEnds]

end Filler

/-! ## Written texts -/

/-- A token with one of its spellings and what stands after it. -/
structure Written where
  token : Token
  spelling : List Char
  spells : Spells token spelling
  after : List Filler

namespace Written

/-- The text of written tokens. -/
def text (ws : List Written) : List Char :=
  ws.flatMap fun w => w.spelling ++ Filler.gap w.after

/-- The lexemes of written tokens whose text is `pos` bytes into the source. -/
def lexemes (pos : Nat) : List Written → List Lexeme
  | [] => []
  | w :: rest =>
    let stop := pos + utf8Width w.spelling
    ⟨w.token, ⟨pos, stop⟩⟩ :: lexemes (stop + utf8Width (Filler.gap w.after)) rest

end Written

/-- Something stands between any two tokens, and no comment right after a slash. -/
structure Separated (ws : List Written) : Prop where
  apart : ∀ w ∈ ws.dropLast, w.after ≠ []
  slash : ∀ w ∈ ws, w.token.isSymbol .slash = true →
    ∀ f ∈ w.after.head?, f.isComment = false

/-! ## Steps of the lexer -/

variable {rest : List Char}

/-- A blank starts no token. -/
theorem isTokenBlank_of_scan {c : Char} {t : Token} {n : Nat} (h : scan c rest = .ok (t, n)) :
    isTokenBlank c = false := by
  by_contra hblank
  rw [Bool.not_eq_false] at hblank
  simp only [isTokenBlank, Bool.or_eq_true, beq_iff_eq] at hblank
  rcases hblank with ((rfl | rfl) | rfl) | rfl <;> cases h

theorem lexFrom_blank {c : Char} (h : isTokenBlank c = true) (pos : Nat) :
    lexFrom pos (c :: rest) = lexFrom (pos + c.utf8Size) rest := by
  rw [lexFrom, if_pos h]

theorem lexFrom_comment {text : List Char} (h : '\n' ∉ text) (pos : Nat) :
    lexFrom pos ('/' :: '/' :: (text ++ '\n' :: rest)) =
      lexFrom (pos + utf8Width ('/' :: '/' :: (text ++ ['\n']))) rest := by
  have hline : ∀ c ∈ '/' :: text, decide (c ≠ '\n') = true := by
    intro c hc
    rcases List.mem_cons.1 hc with rfl | hc
    · rfl
    · exact decide_eq_true fun heq => h (heq ▸ hc)
  have hcomment : ('/' :: (text ++ '\n' :: rest)).takeWhile (· ≠ '\n') = '/' :: text :=
    takeWhile_until hline (by simp)
  have hdrop : ('/' :: (text ++ '\n' :: rest)).drop ('/' :: text).length = '\n' :: rest :=
    List.drop_left
  -- the comment itself leaves the line end, which is a blank
  rw [lexFrom, if_neg (by decide), if_pos ⟨rfl, rfl⟩, hcomment]
  dsimp only
  rw [hdrop, lexFrom_blank rfl]
  congr 1
  simp only [utf8Width_cons, utf8Width_append, utf8Width_nil]
  omega

/-- Fillers leave no lexeme. -/
theorem lexFrom_fillers (fs : List Filler) (pos : Nat) :
    lexFrom pos (Filler.gap fs ++ rest) = lexFrom (pos + utf8Width (Filler.gap fs)) rest := by
  induction fs generalizing pos with
  | nil => rfl
  | cons f fs ih =>
    have hgap : Filler.gap (f :: fs) = f.chars ++ Filler.gap fs := List.flatMap_cons
    rw [hgap, List.append_assoc, utf8Width_append, ← Nat.add_assoc]
    cases f with
    | blank c h =>
      rw [Filler.chars, List.singleton_append, lexFrom_blank h, ih, utf8Width_cons,
        utf8Width_nil, Nat.add_zero]
    | comment text h =>
      rw [Filler.chars, List.cons_append, List.cons_append, List.append_assoc,
        List.singleton_append, lexFrom_comment h, ih]

/-- A token that is found in front of a text is one lexeme, whose range is what it takes. -/
theorem lexFrom_scan {c : Char} {more : List Char} {t : Token}
    (hscan : scan c (more ++ rest) = .ok (t, more.length))
    (hcomment : ¬ (c = '/' ∧ (more ++ rest).head? = some '/')) (pos : Nat) :
    lexFrom pos (c :: more ++ rest) = (lexFrom (pos + utf8Width (c :: more)) rest).map
      (⟨t, ⟨pos, pos + utf8Width (c :: more)⟩⟩ :: ·) := by
  rw [List.cons_append, lexFrom, if_neg (by rw [isTokenBlank_of_scan hscan]; decide),
    if_neg hcomment, hscan, utf8Width_cons, ← Nat.add_assoc]
  simp only [List.take_left, List.drop_left]

/-- A spelling gives one lexeme, whose range is that of the spelling. -/
theorem lexFrom_spelling {t : Token} {cs : List Char} (h : Spells t cs) (hrest : Stops rest)
    (hslash : t.isSymbol .slash = true → rest.head? ≠ some '/') (pos : Nat) :
    lexFrom pos (cs ++ rest) = (lexFrom (pos + utf8Width cs) rest).map
      (⟨t, ⟨pos, pos + utf8Width cs⟩⟩ :: ·) := by
  obtain ⟨c, more, rfl, hscan⟩ := h.scan hrest
  refine lexFrom_scan hscan ?_ pos
  rintro ⟨rfl, hhead⟩
  -- a slash is a token of its own, so what follows it is what follows the spelling
  have hsymbol : scan '/' (more ++ rest) = .ok (.symbol .slash, 0) := rfl
  obtain ⟨rfl, hlength⟩ := Prod.mk.inj (Except.ok.inj (hscan.symm.trans hsymbol))
  rw [List.length_eq_zero_iff.1 hlength] at hhead
  exact hslash rfl hhead

/-- What follows a token in a written text ends it, and makes no comment of it. -/
theorem Separated.after_stops {w : Written} {ws : List Written} (h : Separated (w :: ws)) :
    Stops (Filler.gap w.after ++ Written.text ws) ∧
      (w.token.isSymbol .slash = true →
        (Filler.gap w.after ++ Written.text ws).head? ≠ some '/') := by
  have hlast : w.after = [] → ws = [] := by
    intro hnone
    by_contra hws
    refine h.apart w ?_ hnone
    rw [List.dropLast_cons_of_ne_nil hws]
    exact List.mem_cons_self
  cases hafter : w.after with
  | nil =>
    rw [hlast hafter]
    exact ⟨nofun, nofun⟩
  | cons f fs =>
    refine ⟨Filler.stops_gap (List.cons_ne_nil f fs) _, fun hslash hhead => ?_⟩
    have hblank := h.slash w List.mem_cons_self hslash f (by rw [hafter]; rfl)
    cases f with
    | comment text _ => cases hblank
    | blank c hc =>
      obtain rfl : c = '/' := Option.some.inj hhead
      cases hc

theorem Separated.tail {w : Written} {ws : List Written} (h : Separated (w :: ws)) :
    Separated ws where
  apart v hv := by
    cases ws with
    | nil => cases hv
    | cons u us => exact h.apart v (List.mem_cons_of_mem w hv)
  slash v hv := h.slash v (List.mem_cons_of_mem w hv)

/-- Written tokens are read, wherever their text begins. -/
theorem lexFrom_text {ws : List Written} (h : Separated ws) (pos : Nat) :
    lexFrom pos (Written.text ws) = .ok (Written.lexemes pos ws) := by
  induction ws generalizing pos with
  | nil => rw [Written.text, List.flatMap_nil, lexFrom, Written.lexemes]
  | cons w ws ih =>
    have htext : Written.text (w :: ws) =
        w.spelling ++ (Filler.gap w.after ++ Written.text ws) := by
      rw [Written.text, List.flatMap_cons, List.append_assoc]
      rfl
    obtain ⟨hstops, hslash⟩ := h.after_stops
    rw [htext, lexFrom_spelling w.spells hstops hslash, lexFrom_fillers, ih h.tail]
    rfl

theorem lexFrom_spelled {cs : List Char} {pos : Nat} {ls : List Lexeme}
    (h : lexFrom pos cs = .ok ls) :
    ∀ l ∈ ls, (∃ x, l.token = .literal (.float x)) ∨ ∃ cs, Spells l.token cs := by
  fun_induction lexFrom pos cs generalizing ls with
  | case1 =>
    obtain rfl := Except.ok.inj h
    exact List.forall_mem_nil _
  -- blanks and comments leave no lexeme
  | case2 _ _ _ _ ih => exact ih h
  | case3 =>
    rename_i ih
    exact ih h
  | case4 =>
    rename_i hscan stop ih
    obtain ⟨more, hmore, rfl⟩ := except_map_eq_ok.1 h
    exact List.forall_mem_cons.2 ⟨exists_spelling hscan, ih hmore⟩
  | case5 => cases h

/-! ## Whole texts -/

/-- Each token that is read has a spelling, doubles aside. And whatever tokens are written, in any
of their spellings and with something between any two of them, are read again in order, each with
the range of its spelling, unless a comment comes right after a slash. -/
theorem lex_written :
    (∀ source ls, lex source = .ok ls →
      ∀ l ∈ ls, (∃ x, l.token = .literal (.float x)) ∨ ∃ cs, Spells l.token cs) ∧
      ∀ (before : List Filler) (ws : List Written), Separated ws →
        lex (String.ofList (Filler.gap before ++ Written.text ws)) =
          .ok (Written.lexemes (utf8Width (Filler.gap before)) ws) := by
  refine ⟨fun source ls h => lexFrom_spelled h, fun before ws h => ?_⟩
  rw [lex, String.toList_ofList, lexFrom_fillers, Nat.zero_add]
  exact lexFrom_text h _

/-- A name, a slash and a string, with a comment before the slash. -/
theorem lex_written_slash :
    ∃ ws, Separated ws ∧
      ws.map Written.token = [.ident "x", .symbol .slash, .literal (.string "é\n")] ∧
      String.ofList (Written.text ws) = "x\t// é\n/ \"é\\n\"" ∧
      lex "x\t// é\n/ \"é\\n\"" = .ok [⟨.ident "x", ⟨0, 1⟩⟩, ⟨.symbol .slash, ⟨8, 9⟩⟩,
        ⟨.literal (.string "é\n"), ⟨10, 16⟩⟩] := by
  have hname : Spells (.ident "x") ['x'] := @Spells.ident ['x'] rfl (by decide)
  have hstring : Spells (.literal (.string "é\n")) ['"', 'é', '\\', 'n', '"'] :=
    .string (.cons (.plain (by decide) (by decide) (by decide)) (.cons (.escape rfl) .nil))
  let ws : List Written := [⟨_, _, hname, [.blank '\t' rfl, .comment [' ', 'é'] (by decide)]⟩,
    ⟨_, _, .symbol (s := .slash), [.blank ' ' rfl]⟩, ⟨_, _, hstring, []⟩]
  have hseparated : Separated ws := by
    refine ⟨?_, ?_⟩
    · simp [ws]
    · simp [ws, Token.isSymbol, Filler.isComment]
  have htext : String.ofList (Written.text ws) = "x\t// é\n/ \"é\\n\"" := rfl
  exact ⟨ws, hseparated, rfl, htext, htext ▸ lex_written.2 [] ws hseparated⟩

/-- Right after a slash a comment takes the slash with it: here of three tokens two are read. -/
theorem slash_before_comment :
    ∃ ws, (∀ w ∈ ws.dropLast, w.after ≠ []) ∧
      ws.map Written.token = [.literal (.int 4), .symbol .slash, .literal (.int 2)] ∧
      String.ofList (Written.text ws) = "4 ///c\n2" ∧
      lex "4 ///c\n2" = .ok [⟨.literal (.int 4), ⟨0, 1⟩⟩, ⟨.literal (.int 2), ⟨7, 8⟩⟩] ∧
      lex (String.ofList (Written.text ws)) ≠ .ok (Written.lexemes 0 ws) := by
  have hfour : Spells (.literal (.int 4)) ['4'] := .int ⟨by simp, by simp⟩ (by decide)
  have htwo : Spells (.literal (.int 2)) ['2'] := .int ⟨by simp, by simp⟩ (by decide)
  let ws : List Written := [⟨_, _, hfour, [.blank ' ' rfl]⟩,
    ⟨_, _, .symbol (s := .slash), [.comment ['c'] (by decide)]⟩, ⟨_, _, htwo, []⟩]
  have htext : String.ofList (Written.text ws) = "4 ///c\n2" := rfl
  have hlex : lex "4 ///c\n2" =
      .ok [⟨.literal (.int 4), ⟨0, 1⟩⟩, ⟨.literal (.int 2), ⟨7, 8⟩⟩] := by decide +kernel
  refine ⟨ws, by simp [ws], rfl, htext, hlex, fun h => ?_⟩
  rw [htext, hlex] at h
  have hlength : 2 = 3 := congrArg List.length (Except.ok.inj h)
  cases hlength

end GatedPredicate.Syntax
