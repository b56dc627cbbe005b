import GatedPredicate.Cache
import GatedPredicate.Proofs.Compile
import GatedPredicate.Proofs.Syntax.Height
import Mathlib.Data.List.Induction

/-!
# Caches as maps of last writes

A cache changes step by step, and what it has under a name is settled by the calls alone: it is what
the last call has left there that compiled a text for the name, stored a predicate under it or
removed it. Calls that fail to compile and calls that only ask leave no trace. A predicate that was
handed out stays with its holder, whatever becomes of the entry it came from.

- `Session`, `Call`, `Session.call`, `Session.run`: a cache and the predicates it has handed out
- `lastWrite`: what calls leave under a name
- `Session.call_cache`: one call
- `Session.run_refines_lastWrite`: any sequence of calls
-/

namespace GatedPredicate

open GatedPredicate.Syntax

/-! ## Calls -/

/-- A call of a cache, or of a predicate that a cache has handed out. -/
inductive Call where
  | register (name text : String)
  | registerUnder (policy : Policy) (name text : String)
  | insert (name : String) (c : Compiled)
  | remove (name : String)
  | get (name : String)
  | contains (name : String)
  | evaluate (name : String) (bags : Bags)
  | size
  | names
  /-- Evaluates the predicate that was handed out as number `handle`, counting from zero. -/
  | evaluateHeld (handle : Nat) (bags : Bags)

/-- What a call gives back. -/
inductive Answer where
  | registered
  | refused (e : CompileError)
  | stored
  | entry (c : Option Compiled)
  | flag (b : Bool)
  | verdict (outcome : Except CacheError Bool)
  | count (n : Nat)
  | listing (names : List String)
  | held (outcome : Option (Outcome Bool))

/-- A cache and the predicates that it has handed out, in order. -/
structure Session where
  cache : Cache
  held : List Compiled

namespace Session

/-- An empty cache. -/
def start (g : Gate) : Session := ⟨.empty g, []⟩

/-- What a registration leaves behind, and what it gives back. -/
def registered (s : Session) (outcome : Except CompileError Cache) : Session × Answer :=
  match outcome with
  | .ok k => ({ s with cache := k }, .registered)
  | .error e => (s, .refused e)

/-- What a call leaves behind, and what it gives back. -/
def call (s : Session) : Call → Session × Answer
  | .register name text => s.registered (s.cache.register name text)
  | .registerUnder policy name text => s.registered (s.cache.registerUnder policy name text)
  | .insert name c => ({ s with cache := s.cache.insert name c }, .stored)
  | .remove name => ({ s with cache := s.cache.remove name }, .entry (s.cache.get? name))
  | .get name => ({ s with held := s.held ++ (s.cache.get? name).toList },
      .entry (s.cache.get? name))
  | .contains name => (s, .flag (s.cache.contains name))
  | .evaluate name bags => (s, .verdict (s.cache.evaluate name bags))
  | .size => (s, .count s.cache.size)
  | .names => (s, .listing s.cache.names)
  | .evaluateHeld handle bags =>
    (s, .held (s.held[handle]?.map fun c => c.predicate.evaluate bags))

/-- What is left behind by calls, from the first to the last. -/
def run (s : Session) (calls : List Call) : Session :=
  calls.foldl (fun s c => (s.call c).1) s

end Session

/-! ## What calls leave under a name -/

/-- How a call changes an entry. -/
inductive Effect where
  | compiled (p : Predicate)
  | stored (c : Compiled)
  | removed

/-- The entry afterwards; `number` is that of the next compilation. -/
def Effect.entry? (number : Nat) : Effect → Option Compiled
  | .compiled p => some ⟨number, p⟩
  | .stored c => some c
  | .removed => none

namespace Call

/-- The policy, the name and the text of a registration under a gate. -/
def registration? (g : Gate) : Call → Option (Policy × String × String)
  | .register name text => some (g.policy, name, text)
  | .registerUnder policy name text => some (policy, name, text)
  | _ => none

/-- The predicate that a call compiles. -/
def compiled? (g : Gate) (call : Call) : Option Predicate :=
  (call.registration? g).bind fun (policy, _, text) =>
    ((g.withPolicy policy).compile text).toOption

/-- How a call changes the entry under a name, if it does. -/
def effect? (g : Gate) (name : String) (call : Call) : Option Effect :=
  match call with
  | .register n _ | .registerUnder _ n _ =>
    if n = name then (call.compiled? g).map .compiled else none
  | .insert n c => if n = name then some (.stored c) else none
  | .remove n => if n = name then some .removed else none
  | _ => none

end Call

/-- How many calls have compiled a text. -/
def compilations (g : Gate) (calls : List Call) : Nat :=
  calls.countP fun call => (call.compiled? g).isSome

/-- The entry under a name as the calls so far settle it. The last call comes first. -/
def lastWrite (g : Gate) (name : String) : List Call → Option Compiled
  | [] => none
  | call :: earlier =>
    match call.effect? g name with
    | some effect => effect.entry? (compilations g earlier)
    | none => lastWrite g name earlier

/-! ## Entries -/

namespace Cache

section Entries

variable {name other : String} {c : Compiled} {es : List (String × Compiled)}

/-- An entry that is put hides an earlier one of its name and no others. -/
theorem find?_putEntry :
    ((putEntry name c es).find? fun e => e.1 == other).map Prod.snd =
      if name = other then some c else (es.find? fun e => e.1 == other).map Prod.snd := by
  induction es with
  | nil =>
    by_cases h : name = other
    · simp [putEntry, h]
    · simp [putEntry, h]
  | cons e rest ih =>
    unfold putEntry
    split
    · by_cases h : name = other
      · simp [h]
      · simp [h]
    · split
      · rename_i hname
        by_cases h : name = other
        · simp [h]
        · have hne : e.1 ≠ other := hname ▸ h
          simp [h, hne]
      · rename_i hname
        by_cases he : e.1 = other
        · have hne : name ≠ other := he ▸ hname
          simp [he, hne]
        · simp [he, ih]

/-- Nothing is left of an entry that is removed; others stay. -/
theorem find?_filter_ne :
    ((es.filter fun e => e.1 != name).find? fun e => e.1 == other).map Prod.snd =
      if name = other then none else (es.find? fun e => e.1 == other).map Prod.snd := by
  induction es with
  | nil => simp
  | cons e rest ih =>
    by_cases hname : e.1 = name
    · by_cases h : name = other
      · simp_all
      · have hne : e.1 ≠ other := hname ▸ h
        simp_all
    · by_cases he : e.1 = other
      · have hne : name ≠ other := fun h => hname (he.trans h.symm)
        simp_all
      · simp_all

/-- An entry that is put has the new name, or was there. -/
theorem mem_names_putEntry {x : String} (h : x ∈ (putEntry name c es).map Prod.fst) :
    x = name ∨ x ∈ es.map Prod.fst := by
  induction es with
  | nil => simpa [putEntry] using h
  | cons e rest ih =>
    unfold putEntry at h
    split at h
    · simpa using h
    · split at h
      · rename_i hname
        refine .inr ?_
        simpa [hname] using h
      · rw [List.map_cons, List.mem_cons] at h
        rcases h with rfl | h
        · exact .inr List.mem_cons_self
        · exact (ih h).imp_right fun hx => List.mem_cons_of_mem _ hx

/-- An entry is put where the names stay in increasing order. -/
theorem putEntry_sorted (h : (es.map Prod.fst).Pairwise (· < ·)) :
    ((putEntry name c es).map Prod.fst).Pairwise (· < ·) := by
  induction es with
  | nil => simp [putEntry]
  | cons e rest ih =>
    rw [List.map_cons, List.pairwise_cons] at h
    unfold putEntry
    split
    · rename_i hlt
      rw [List.map_cons, List.map_cons, List.pairwise_cons, List.pairwise_cons]
      refine ⟨fun x hx => ?_, h⟩
      rcases List.mem_cons.1 hx with rfl | hx
      · exact hlt
      · exact String.lt_trans hlt (h.1 x hx)
    · split
      · rename_i hname
        rw [List.map_cons, List.pairwise_cons]
        exact ⟨hname ▸ h.1, h.2⟩
      · rename_i hle hne
        rw [List.map_cons, List.pairwise_cons]
        refine ⟨fun x hx => ?_, ih h.2⟩
        rcases mem_names_putEntry hx with rfl | hx
        · exact Std.lt_of_le_of_ne (Std.not_lt.1 hle) fun heq => hne heq.symm
        · exact h.1 x hx

end Entries

section Lookup

variable (k : Cache) (name other : String)

theorem get?_insert (c : Compiled) :
    (k.insert name c).get? other = if name = other then some c else k.get? other :=
  find?_putEntry

theorem get?_remove : (k.remove name).get? other = if name = other then none else k.get? other :=
  find?_filter_ne

theorem contains_eq : k.contains name = (k.get? name).isSome := by
  rw [contains, get?, Option.isSome_map, Bool.eq_iff_iff, List.any_eq_true, List.find?_isSome]

theorem mem_names : name ∈ k.names ↔ k.get? name ≠ none := by
  rw [← Option.isSome_iff_ne_none, ← contains_eq, contains, names, List.any_eq_true, List.mem_map]
  simp only [beq_iff_eq]

theorem evaluate_eq (bags : Bags) :
    k.evaluate name bags =
      match k.get? name with
      | none => .error (.notFound name)
      | some c => (c.predicate.evaluate bags).mapError .runtime := by
  unfold evaluate
  cases k.get? name with
  | none => rfl
  | some c =>
    dsimp only
    cases c.predicate.evaluate bags with
    | ok b => rfl
    | error e => rfl

end Lookup

/-- A registration stores what it compiles under the number of the compilation. -/
theorem registerBy_eq {k : Cache} {g : Gate} {name text : String} :
    k.registerBy g name text =
      match g.compile text with
      | .ok p => .ok ({ k with next := k.next + 1 }.insert name ⟨k.next, p⟩)
      | .error e => .error e := by
  unfold registerBy
  cases g.compile text with
  | ok p => rfl
  | error e => rfl

end Cache

/-! ## One call -/

namespace Session

variable {g : Gate} {s : Session}

/-- A registration is one under the policy that it is made under, which is that of the cache unless
another one is given. -/
theorem call_registration (hgate : s.cache.gate = g) {call : Call} {policy : Policy}
    {name text : String} (h : call.registration? g = some (policy, name, text)) :
    s.call call = s.registered (s.cache.registerBy (g.withPolicy policy) name text) := by
  subst hgate
  cases call with
  | register n t =>
    cases h
    rfl
  | registerUnder p n t =>
    cases h
    rfl
  | _ => cases h

/-- A registration that does not compile changes nothing. -/
theorem call_refused (hgate : s.cache.gate = g) {call : Call} {policy : Policy}
    {name text : String} {e : CompileError} (h : call.registration? g = some (policy, name, text))
    (hfails : (g.withPolicy policy).compile text = .error e) : s.call call = (s, .refused e) := by
  rw [call_registration hgate h, Cache.registerBy_eq, hfails]
  rfl

theorem call_compiled (hgate : s.cache.gate = g) {call : Call} {policy : Policy}
    {name text : String} {p : Predicate} (h : call.registration? g = some (policy, name, text))
    (hcompiles : (g.withPolicy policy).compile text = .ok p) :
    let counted := { s.cache with next := s.cache.next + 1 }
    s.call call = ({ s with cache := counted.insert name ⟨s.cache.next, p⟩ }, .registered) := by
  intro counted
  rw [call_registration hgate h, Cache.registerBy_eq, hcompiles]
  rfl

/-- What a registration does to an entry. -/
theorem effect?_registration {call : Call} {policy : Policy} {n text : String}
    (h : call.registration? g = some (policy, n, text)) (name : String) :
    call.effect? g name = if n = name then (call.compiled? g).map .compiled else none := by
  cases call with
  | register n' t =>
    cases h
    rfl
  | registerUnder p n' t =>
    cases h
    rfl
  | _ => cases h

/-- What one call does to the cache: the gate stays, compilations are counted, and the entry under
each name is what the call has left there, or else what it was. -/
theorem call_cache (hgate : s.cache.gate = g) (call : Call) :
    (s.call call).1.cache.gate = g ∧
      (s.call call).1.cache.next = s.cache.next + compilations g [call] ∧
        ∀ name, (s.call call).1.cache.get? name =
          match call.effect? g name with
          | some effect => effect.entry? s.cache.next
          | none => s.cache.get? name := by
  cases hregistration : call.registration? g with
  | some registration =>
    obtain ⟨policy, n, text⟩ := registration
    cases hcompile : (g.withPolicy policy).compile text with
    | ok p =>
      have hcompiled : call.compiled? g = some p := by
        simp [Call.compiled?, hregistration, hcompile, Except.toOption]
      rw [call_compiled hgate hregistration hcompile]
      refine ⟨hgate, ?_, fun name => ?_⟩
      · simp [compilations, hcompiled, Cache.insert]
      · rw [Cache.get?_insert, effect?_registration hregistration, hcompiled]
        by_cases hname : n = name
        · simp [hname, Effect.entry?]
        · simp [hname, Cache.get?]
    | error e =>
      have hcompiled : call.compiled? g = none := by
        simp [Call.compiled?, hregistration, hcompile, Except.toOption]
      rw [call_refused hgate hregistration hcompile]
      refine ⟨hgate, ?_, fun name => ?_⟩
      · simp [compilations, hcompiled]
      · rw [effect?_registration hregistration, hcompiled]
        simp
  | none =>
    have hcompiled : call.compiled? g = none := by simp [Call.compiled?, hregistration]
    have hcount : compilations g [call] = 0 := by simp [compilations, hcompiled]
    rw [hcount]
    cases call with
    | register n text => cases hregistration
    | registerUnder policy n text => cases hregistration
    | insert n c =>
      refine ⟨hgate, rfl, fun name => ?_⟩
      rw [call, Cache.get?_insert, Call.effect?]
      by_cases hname : n = name
      · simp [hname, Effect.entry?]
      · simp [hname]
    | remove n =>
      refine ⟨hgate, rfl, fun name => ?_⟩
      rw [call, Cache.get?_remove, Call.effect?]
      by_cases hname : n = name
      · simp [hname, Effect.entry?]
      · simp [hname]
    | _ => exact ⟨hgate, rfl, fun name => rfl⟩

/-- The names of the entries stay in increasing order. -/
theorem call_sorted (h : s.cache.names.Pairwise (· < ·)) (call : Call) :
    (s.call call).1.cache.names.Pairwise (· < ·) := by
  have hregister (g : Gate) (name text : String) :
      (s.registered (s.cache.registerBy g name text)).1.cache.names.Pairwise (· < ·) := by
    rw [Cache.registerBy_eq]
    cases g.compile text with
    | ok p => exact Cache.putEntry_sorted h
    | error e => exact h
  cases call with
  | register name text =>
    rw [call, Cache.register]
    exact hregister _ name text
  | registerUnder policy name text =>
    rw [call, Cache.registerUnder]
    exact hregister _ name text
  | insert name c => exact Cache.putEntry_sorted h
  | remove name => exact h.sublist (List.filter_sublist.map Prod.fst)
  | _ => exact h

/-- Predicates that were handed out stay where they are. -/
theorem call_held (call : Call) : s.held <+: (s.call call).1.held := by
  have hregister (outcome : Except CompileError Cache) :
      s.held <+: (s.registered outcome).1.held := by
    cases outcome with
    | ok k => exact List.prefix_rfl
    | error e => exact List.prefix_rfl
  cases call with
  | register name text =>
    rw [call]
    exact hregister _
  | registerUnder policy name text =>
    rw [call]
    exact hregister _
  | get name => exact List.prefix_append _ _
  | _ => exact List.prefix_rfl

/-! ## Any sequence of calls -/

theorem run_append (s : Session) (before after : List Call) :
    s.run (before ++ after) = (s.run before).run after :=
  List.foldl_append

theorem run_concat (s : Session) (calls : List Call) (c : Call) :
    s.run (calls ++ [c]) = ((s.run calls).call c).1 :=
  run_append s calls [c]

theorem compilations_concat (g : Gate) (calls : List Call) (c : Call) :
    compilations g (calls ++ [c]) = compilations g calls + compilations g [c] :=
  List.countP_append

/-- After any calls the gate is the one of the start, the next number counts the compilations, and
the entry under each name is the one that the last writing call has left there. -/
theorem run_cache (g : Gate) (calls : List Call) :
    ((start g).run calls).cache.gate = g ∧
      ((start g).run calls).cache.next = compilations g calls ∧
        ∀ name, ((start g).run calls).cache.get? name = lastWrite g name calls.reverse := by
  induction calls using List.reverseRecOn with
  | nil => exact ⟨rfl, rfl, fun name => rfl⟩
  | append_singleton calls c ih =>
    obtain ⟨hgate, hnext, hentry⟩ := ih
    obtain ⟨hgate', hnext', hentry'⟩ := call_cache hgate c
    rw [run_concat]
    refine ⟨hgate', ?_, fun name => ?_⟩
    · rw [hnext', hnext, compilations_concat]
    · -- the number of a compilation is how many there were before
      have hcount : compilations g calls = compilations g calls.reverse :=
        List.countP_reverse.symm
      rw [hentry', List.reverse_concat, lastWrite, hnext, hentry, hcount]

theorem run_sorted (g : Gate) (calls : List Call) :
    ((start g).run calls).cache.names.Pairwise (· < ·) := by
  induction calls using List.reverseRecOn with
  | nil => exact List.Pairwise.nil
  | append_singleton calls c ih =>
    rw [run_concat]
    exact call_sorted ih c

theorem run_held (s : Session) (calls : List Call) : s.held <+: (s.run calls).held := by
  induction calls using List.reverseRecOn with
  | nil => exact List.prefix_rfl
  | append_singleton calls c ih =>
    rw [run_concat]
    exact ih.trans (call_held c)

/-- Calls that leave a name alone do not change what was last written under it. -/
theorem lastWrite_append {g : Gate} {name : String} {later : List Call}
    (h : ∀ c ∈ later, c.effect? g name = none) (earlier : List Call) :
    lastWrite g name (later ++ earlier) = lastWrite g name earlier := by
  induction later with
  | nil => rfl
  | cons c rest ih =>
    rw [List.forall_mem_cons] at h
    rw [List.cons_append, lastWrite, h.1]
    exact ih h.2

/-- The answers of a session are those of a map from names to entries. -/
structure Mirrors (s : Session) (entry : String → Option Compiled) : Prop where
  get : ∀ name, (s.call (.get name)).2 = .entry (entry name)
  remove : ∀ name, (s.call (.remove name)).2 = .entry (entry name)
  contains : ∀ name, (s.call (.contains name)).2 = .flag (entry name).isSome
  /-- Without an entry there is nothing to evaluate; otherwise it is the entry that is evaluated. -/
  evaluate : ∀ name bags, (s.call (.evaluate name bags)).2 = .verdict
    (match entry name with
    | none => .error (.notFound name)
    | some c => (c.predicate.evaluate bags).mapError .runtime)
  /-- The names of all entries, each once and in increasing order. -/
  listing : ∃ names : List String, (s.call .names).2 = .listing names ∧
    (s.call .size).2 = .count names.length ∧ names.Pairwise (· < ·) ∧
    ∀ name, name ∈ names ↔ entry name ≠ none

theorem mirrors_of_get? {s : Session} {entry : String → Option Compiled}
    (hsorted : s.cache.names.Pairwise (· < ·)) (h : ∀ name, s.cache.get? name = entry name) :
    s.Mirrors entry where
  get name := congrArg Answer.entry (h name)
  remove name := congrArg Answer.entry (h name)
  contains name := by
    rw [call, Cache.contains_eq, h]
  evaluate name bags := by
    rw [call, Cache.evaluate_eq, h]
  listing := by
    refine ⟨s.cache.names, rfl, ?_, hsorted, fun name => ?_⟩
    · rw [Cache.names, List.length_map]
      rfl
    · rw [Cache.mem_names, h]

/-- A predicate that was handed out evaluates as it did then, whatever calls have come since. -/
theorem run_evaluateHeld {s : Session} {name : String} {c : Compiled}
    (h : s.cache.get? name = some c) (after : List Call) (bags : Bags) :
    (((s.call (.get name)).1.run after).call (.evaluateHeld s.held.length bags)).2 =
      .held (some (c.predicate.evaluate bags)) := by
  have hheld : (s.call (.get name)).1.held = s.held ++ [c] := by
    rw [call, h]
    rfl
  obtain ⟨later, hlater⟩ := run_held (s.call (.get name)).1 after
  have hhandle : ((s.call (.get name)).1.run after).held[s.held.length]? = some c := by
    rw [← hlater, hheld, List.append_assoc, List.getElem?_append_right (Nat.le_refl _),
      Nat.sub_self]
    rfl
  calc (((s.call (.get name)).1.run after).call (.evaluateHeld s.held.length bags)).2
      = .held (((s.call (.get name)).1.run after).held[s.held.length]?.map fun c =>
          c.predicate.evaluate bags) := rfl
    _ = .held (some (c.predicate.evaluate bags)) := by
      rw [hhandle]
      rfl

/-- After any sequence of calls a cache answers like the map of last writes: what was last compiled
or stored under a name since it was last removed. A registration that does not compile changes
nothing at all. A registered entry that no later call has changed evaluates as the predicate that
its text compiles to, under the policy of its registration and the schema and options of the cache.
A predicate that was handed out evaluates as it did then, whatever has been registered or removed
since. -/
theorem run_refines_lastWrite (g : Gate) (calls : List Call) :
    let s := (start g).run calls
    (s.Mirrors fun name => lastWrite g name calls.reverse) ∧
      (∀ call policy name text e, call.registration? g = some (policy, name, text) →
        (g.withPolicy policy).compile text = .error e → s.call call = (s, .refused e)) ∧
      (∀ before call after policy name text p, calls = before ++ call :: after →
        call.registration? g = some (policy, name, text) →
        (g.withPolicy policy).compile text = .ok p →
        (∀ c ∈ after, c.effect? g name = none) →
        ∀ bags, (s.call (.evaluate name bags)).2 =
          .verdict ((p.evaluate bags).mapError .runtime)) ∧
      (∀ before name after c, calls = before ++ .get name :: after →
        lastWrite g name before.reverse = some c →
        ∀ bags, (s.call (.evaluateHeld ((start g).run before).held.length bags)).2 =
          .held (some (c.predicate.evaluate bags))) := by
  intro s
  obtain ⟨hgate, -, hentry⟩ := run_cache g calls
  have hmirrors : s.Mirrors fun name => lastWrite g name calls.reverse :=
    mirrors_of_get? (run_sorted g calls) hentry
  refine ⟨hmirrors, ?_, ?_, ?_⟩
  · intro call policy name text e hregistration hfails
    exact call_refused hgate hregistration hfails
  · intro before call after policy name text p hcalls hregistration hcompile hafter bags
    have hcompiled : call.compiled? g = some p := by
      simp [Call.compiled?, hregistration, hcompile, Except.toOption]
    have heffect : call.effect? g name = some (.compiled p) := by
      rw [effect?_registration hregistration, if_pos rfl, hcompiled]
      rfl
    have hafter' : ∀ c ∈ after.reverse, c.effect? g name = none :=
      fun c hc => hafter c (List.mem_reverse.1 hc)
    have hlast : lastWrite g name calls.reverse =
        some ⟨compilations g before.reverse, p⟩ := by
      rw [hcalls, List.reverse_append, List.reverse_cons, List.append_assoc,
        lastWrite_append hafter', List.singleton_append, lastWrite, heffect]
      rfl
    rw [hmirrors.evaluate, hlast]
  · intro before name after c hcalls hlast bags
    obtain ⟨-, -, hbefore⟩ := run_cache g before
    have hget : ((start g).run before).cache.get? name = some c := by rw [hbefore, hlast]
    have hs : s = (((start g).run before).call (.get name)).1.run after := by
      rw [← run_concat, ← run_append, List.append_assoc, List.singleton_append, ← hcalls]
    rw [hs]
    exact run_evaluateHeld hget after bags

/-- A rule is registered and handed out, then a text that is no rule is refused under its name and
the rule is removed. The entry is gone, and the rule that was handed out still holds. -/
theorem run_refines_lastWrite_removed :
    let p : Predicate :=
      ⟨"true", .literal ⟨1, ⟨0, 4⟩⟩ (.bool true), .const (.bool true), .bool, .standard, .standard⟩
    let calls : List Call :=
      [.register "rule" "true", .get "rule", .register "rule" "", .remove "rule"]
    let s := (start .standard).run calls
    let bags : Bags := .empty .standard
    Gate.standard.compile "true" = .ok p ∧ Gate.standard.compile "" = .error .empty ∧
      lastWrite .standard "rule" [.register "rule" "true"] = some ⟨0, p⟩ ∧
      (s.call (.evaluate "rule" bags)).2 = .verdict (.error (.notFound "rule")) ∧
      (s.call (.evaluateHeld 0 bags)).2 = .held (some (.ok true)) ∧
      s.call (.register "rule" "") = (s, .refused .empty) := by
  intro p calls s bags
  have hlex : lex "true" = .ok [⟨.literal (.bool true), ⟨0, 4⟩⟩] := by decide +kernel
  have hparse : parseLexemes 64 [⟨.literal (.bool true), ⟨0, 4⟩⟩] = .complete p.tree :=
    (parseLexemes_of_parseNested rfl rfl).trans rfl
  have hcompile : Gate.standard.compile "true" = .ok p :=
    Gate.compile_of_stages (g := .standard) (by decide) (by decide) (by decide) hlex hparse rfl
      (t := ⟨.const (.bool true), .bool⟩) rfl rfl
  have hfails : Gate.standard.compile "" = .error .empty := by rfl
  have hregistration (text : String) :
      Call.registration? .standard (.register "rule" text) =
        some (Gate.standard.policy, "rule", text) := rfl
  have hwritten : lastWrite .standard "rule" [.register "rule" "true"] = some ⟨0, p⟩ := by
    have hcompiled : Call.compiled? .standard (.register "rule" "true") = some p :=
      congrArg Except.toOption hcompile
    simp [lastWrite, Call.effect?, hcompiled, Effect.entry?, compilations]
  have hfirst : ((start .standard).run [.register "rule" "true"]).held = [] := by
    have hcall := call_compiled (s := start .standard) rfl (hregistration "true") hcompile
    exact congrArg (fun outcome => outcome.1.held) hcall
  obtain ⟨hmirrors, hrefused, -, hheld⟩ := run_refines_lastWrite .standard calls
  have hstill := hheld [.register "rule" "true"] "rule" [.register "rule" "", .remove "rule"]
    ⟨0, p⟩ rfl hwritten bags
  rw [hfirst] at hstill
  exact ⟨hcompile, hfails, hwritten, hmirrors.evaluate "rule" bags, hstill,
    hrefused _ _ _ _ _ (hregistration "") hfails⟩

end Session

end GatedPredicate
