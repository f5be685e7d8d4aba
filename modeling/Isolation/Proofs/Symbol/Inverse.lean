import Mathlib.Data.Set.Function
import Isolation.Proofs.Symbol

/-!
# Where names and entry paths are inverse

Every name that is read off an entry path is proper: it has no separators, and no delimiters at its
ends. On proper names and on the paths that they are translated to, both translations undo each
other, and nowhere else does either of them come back to where it started.

## Main definitions

* `Symbol.Proper` — names that can be read off an entry path
* `Symbol.ProperPath` — entry paths that proper names are translated to

## Main results

* `Symbol.proper_ofPath`, `Symbol.Proper.properPath_toPath` — the translations lead there
* `Symbol.inverse_iff_proper` — the exact domains, with a bijection between them
-/

namespace Isolation.Symbol

/-- A name without separators of either kind and without delimiters at its ends. -/
def Proper (symbol : String) : Prop :=
  (∀ c ∈ symbol.toList, c ≠ '/' ∧ c ≠ '\\') ∧
    symbol.toList.head? ≠ some delimiter ∧ symbol.toList.getLast? ≠ some delimiter

/-- An entry path with the suffix, in front of which there are neither dots nor backslashes, nor
slashes at the ends. -/
def ProperPath (path : String) : Prop :=
  ∃ stem : String, path = stem ++ ".unit" ∧ (∀ c ∈ stem.toList, c ≠ '.' ∧ c ≠ '\\') ∧
    stem.toList.head? ≠ some '/' ∧ stem.toList.getLast? ≠ some '/'

variable {symbol path : String}

theorem ofSeparator_ne (c : Char) : ofSeparator c ≠ '/' ∧ ofSeparator c ≠ '\\' := by
  rw [ofSeparator]
  split
  · decide
  · next h => exact not_or.1 h

theorem toSeparator_eq_slash {c : Char} (h : c ≠ '/') : toSeparator c = '/' ↔ c = delimiter := by
  rw [toSeparator]
  split
  · next hc => exact ⟨fun _ => hc, fun _ => rfl⟩
  · next hc => exact ⟨fun hslash => absurd hslash h, fun hdelimiter => absurd hdelimiter hc⟩

theorem toSeparator_ne_delimiter (c : Char) : toSeparator c ≠ delimiter := by
  rw [toSeparator]
  split
  · decide
  · assumption

theorem toSeparator_ne_backslash {c : Char} (h : c ≠ '\\') : toSeparator c ≠ '\\' := by
  rw [toSeparator]
  split
  · decide
  · exact h

/-- Every name that is read off an entry path is proper. -/
theorem proper_ofPath (path : String) : Proper (ofPath path) := by
  rw [Proper, ofPath, String.toList_ofList]
  refine ⟨fun c hc => ?_, head?_trim _, getLast?_trim _⟩
  -- trimming leaves nothing but what separators were translated to
  obtain ⟨front, back, hsplit, -⟩ := exists_trim_split ((stripSuffix path.toList).map ofSeparator)
  have hmem : c ∈ (stripSuffix path.toList).map ofSeparator := by
    rw [hsplit]
    exact List.mem_append_left back (List.mem_append_right front hc)
  obtain ⟨d, -, rfl⟩ := List.mem_map.1 hmem
  exact ofSeparator_ne d

/-- A proper name is translated to a proper path. -/
theorem Proper.properPath_toPath (proper : Proper symbol) : ProperPath (toPath symbol) := by
  obtain ⟨plain, front, back⟩ := proper
  -- a slash stands where a delimiter stood, so there is none at the ends
  have hslash {c : Char} (hc : c ∈ symbol.toList) (h : toSeparator c = '/') : c = delimiter :=
    (toSeparator_eq_slash (plain c hc).1).1 h
  refine ⟨String.ofList (symbol.toList.map toSeparator), ?_, ?_⟩
  · apply String.toList_injective
    rw [toList_toPath, String.toList_append, String.toList_ofList, suffix]
  rw [String.toList_ofList]
  refine ⟨fun c hc => ?_, fun h => ?_, fun h => ?_⟩
  · obtain ⟨d, hd, rfl⟩ := List.mem_map.1 hc
    exact ⟨toSeparator_ne_delimiter d, toSeparator_ne_backslash (plain d hd).2⟩
  · rw [List.head?_map] at h
    obtain ⟨c, hc, heq⟩ := Option.map_eq_some_iff.1 h
    exact front (hslash (List.mem_of_head? hc) heq ▸ hc)
  · rw [List.getLast?_map] at h
    obtain ⟨c, hc, heq⟩ := Option.map_eq_some_iff.1 h
    exact back (hslash (List.mem_of_getLast? hc) heq ▸ hc)

/-- The path of a proper name leads back to it. -/
theorem Proper.ofPath_toPath (proper : Proper symbol) : ofPath (toPath symbol) = symbol := by
  obtain ⟨plain, front, back⟩ := proper
  rw [Symbol.ofPath_toPath plain, trim_eq_self front back, String.ofList_toList]

/-- The name of a proper path leads back to it. -/
theorem ProperPath.toPath_ofPath (proper : ProperPath path) : toPath (ofPath path) = path := by
  obtain ⟨stem, rfl, plain, front, back⟩ := proper
  have hpath : (stem ++ ".unit").toList = stem.toList ++ suffix := String.toList_append
  refine PlainPath.toPath_ofPath ⟨stem.toList, hpath, plain, back⟩ ?_
  rw [hpath]
  cases hstem : stem.toList with
  | nil => decide
  | cons c cs => rwa [hstem] at front

/-- Where the translations undo each other: a name comes back from its path if and only if it is
proper, and a path from its name if and only if it is proper. Between proper names and proper paths
they are bijections, inverse to each other. -/
theorem inverse_iff_proper :
    (∀ symbol, ofPath (toPath symbol) = symbol ↔ Proper symbol) ∧
      (∀ path, toPath (ofPath path) = path ↔ ProperPath path) ∧
      Set.InvOn ofPath toPath {symbol | Proper symbol} {path | ProperPath path} ∧
      Set.BijOn toPath {symbol | Proper symbol} {path | ProperPath path} ∧
      Set.BijOn ofPath {path | ProperPath path} {symbol | Proper symbol} := by
  have inverse : Set.InvOn ofPath toPath {symbol | Proper symbol} {path | ProperPath path} :=
    ⟨fun _ proper => proper.ofPath_toPath, fun _ proper => proper.toPath_ofPath⟩
  have names : Set.MapsTo ofPath {path | ProperPath path} {symbol | Proper symbol} :=
    fun path _ => proper_ofPath path
  have paths : Set.MapsTo toPath {symbol | Proper symbol} {path | ProperPath path} :=
    fun _ proper => proper.properPath_toPath
  refine ⟨fun symbol => ⟨fun h => ?_, Proper.ofPath_toPath⟩,
    fun path => ⟨fun h => ?_, ProperPath.toPath_ofPath⟩, inverse, inverse.bijOn paths names,
    inverse.symm.bijOn names paths⟩
  · exact h ▸ proper_ofPath (toPath symbol)
  · exact h ▸ (proper_ofPath path).properPath_toPath

end Isolation.Symbol
