import GatedPredicate.Proofs.Policy.Aliases
import GatedPredicate.Proofs.Syntax.Mention

/-!
# Namespaces by segments

A namespace is allowed by a comparison of texts: an entry of the policy is the beginning of the
path, and the path ends there or goes on with a dot. Said of segments the entry is a beginning of
the path, and nothing else need be said, whatever the texts are: segments may be empty, and one
entry may be the beginning of another.

- `intercalate_segments`: the segments of a path make up the path
- `isBelow_iff_segments`: the comparison of texts as one of segments
- `Policy.namespaces_match_by_segments`: which namespaces are allowed, and what one more entry adds
-/

namespace GatedPredicate

open GatedPredicate.Text

/-! ## Segments -/

theorem segments_go_ne_nil (cs current : List Char) : segments.go cs current ≠ [] := by
  fun_induction segments.go cs current with
  | case1 => exact List.cons_ne_nil _ _
  | case2 => exact List.cons_ne_nil _ _
  | case3 _ _ _ _ ih => exact ih

/-- The segment under way belongs to the first of the segments. -/
theorem intercalate_segments_go (cs current : List Char) :
    ".".intercalate (segments.go cs current) = String.ofList (current.reverse ++ cs) := by
  fun_induction segments.go cs current with
  | case1 current => simp
  | case2 rest current ih =>
    rw [String.intercalate_cons_of_ne_nil (segments_go_ne_nil rest []), ih]
    apply String.toList_inj.1
    simp
  | case3 current c rest _ ih => simpa using ih

theorem intercalate_segments (path : String) : ".".intercalate (segments path) = path := by
  rw [segments, intercalate_segments_go]
  simp

/-- A path lies below an entry if its segments begin with those of the entry. -/
theorem isBelow_iff_segments {entry path : String} :
    isBelow entry path = true ↔ segments entry <+: segments path := by
  constructor
  · intro h
    obtain ⟨rest, hrest, hdot⟩ := isBelow_iff.1 h
    cases rest with
    | nil =>
      rw [List.append_nil, String.toList_inj] at hrest
      rw [hrest]
    | cons c more =>
      -- the dot ends the last segment of the entry
      obtain rfl : c = '.' := hdot c rfl
      rw [segments, segments, hrest, Syntax.segments_go_append]
      exact List.prefix_append _ _
  · intro h
    have hpositive : 0 < (segments entry).length :=
      List.length_pos_iff.2 (segments_go_ne_nil entry.toList [])
    have hbelow : isBelow (".".intercalate ((segments path).take (segments entry).length))
        (".".intercalate (segments path)) = true := isBelow_intercalate hpositive
    rwa [← List.prefix_iff_eq_take.1 h, intercalate_segments, intercalate_segments] at hbelow

namespace Policy

/-! ## Allowed namespaces -/

theorem isAllowed_iff_segments (p : Policy) (path : String) :
    p.isAllowed path = true ↔
      ∃ entry, (entry ∈ p.allowed.names ∨ entry ∈ Catalog.intrinsicTags) ∧
        segments entry <+: segments path := by
  simp only [isAllowed, List.any_eq_true, List.mem_append, isBelow_iff_segments]

/-- One more entry allows what its segments begin, and nothing else. -/
theorem isAllowed_allowNamespace (p : Policy) (name path : String) :
    (p.allowNamespace name).isAllowed path = true ↔
      segments name <+: segments path ∨ p.isAllowed path = true := by
  have hmem (entry : String) : entry ∈ (p.allowNamespace name).allowed.names ↔
      entry = name ∨ entry ∈ p.allowed.names := mem_insertName
  simp only [isAllowed_iff_segments, hmem, or_assoc, or_and_right, exists_or, exists_eq_left]

/-- A namespace is allowed if the segments of an entry, be it of the policy or of a kind of values,
are the first segments of its path. So one more entry allows every path that goes on after a dot,
and changes nothing for one that goes on in any other way. -/
theorem namespaces_match_by_segments (p : Policy) :
    (∀ path, p.isAllowed path = true ↔
      ∃ entry, (entry ∈ p.allowed.names ∨ entry ∈ Catalog.intrinsicTags) ∧
        segments entry <+: segments path) ∧
    (∀ name path, (p.allowNamespace name).isAllowed path = true ↔
      segments name <+: segments path ∨ p.isAllowed path = true) ∧
    (∀ name rest, (p.allowNamespace name).isAllowed (name ++ "." ++ rest) = true) ∧
    ∀ (name rest : String) (c : Char), rest.toList.head? = some c → c ≠ '.' →
      (p.allowNamespace name).isAllowed (name ++ rest) = p.isAllowed (name ++ rest) := by
  refine ⟨p.isAllowed_iff_segments, p.isAllowed_allowNamespace, fun name rest => ?_,
    fun name rest c hfirst hc => ?_⟩
  · rw [isAllowed_allowNamespace, ← isBelow_iff_segments, isBelow_iff]
    exact .inl ⟨'.' :: rest.toList, by simp, fun _ h => (Option.some.inj h).symm⟩
  · have hsibling : ¬ segments name <+: segments (name ++ rest) := by
      rw [← isBelow_iff_segments, isBelow_iff]
      rintro ⟨more, hmore, hdot⟩
      rw [String.toList_append, List.append_cancel_left_eq] at hmore
      exact hc (hdot c (hmore ▸ hfirst))
    rw [Bool.eq_iff_iff, isAllowed_allowNamespace, or_iff_right hsibling]

/-- `Acme.Rules` is allowed along with `Acme`, and `Acmes` is not. -/
theorem namespaces_match_by_segments_acme :
    let p := Policy.standard.allowNamespace "Acme"
    p.isAllowed ("Acme" ++ "." ++ "Rules") = true ∧
      "s".toList.head? = some 's' ∧ 's' ≠ '.' ∧ p.isAllowed ("Acme" ++ "s") = false := by
  intro p
  obtain ⟨-, -, hbelow, hsibling⟩ := namespaces_match_by_segments .standard
  have hsame := hsibling "Acme" "s" 's' (by decide) (by decide)
  have hstandard : Policy.standard.isAllowed ("Acme" ++ "s") = false := by decide +kernel
  exact ⟨hbelow "Acme" "Rules", by decide, by decide, hsame.trans hstandard⟩

end Policy

end GatedPredicate
