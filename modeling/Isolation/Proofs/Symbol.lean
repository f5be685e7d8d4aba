import Mathlib.Data.List.Basic
import Mathlib.Data.List.TakeWhile
import Isolation.Symbol

/-!
# Names and entry paths

A name is translated to an entry path and back. Dots stand for slashes in one direction, slashes and
backslashes become dots in the other, so there and back again lies only what has none of its own.
From a path to a name, what stands in front of a slash stays in front.

## Main definitions

* `Symbol.unitFile` — the entry path of a unit file in a directory
* `Symbol.PlainPath` — an entry path that a name stands for

## Main results

* `Symbol.ofPath_toPath` — a name without separators is only trimmed on its way
* `Symbol.ofPath_unitFile` — the name of a unit file begins with that of its directory
* `Symbol.PlainPath.toPath_ofPath` — the name of a plain path leads to it
-/

namespace Isolation.Symbol

variable {symbol : String} {cs : List Char}

theorem toList_toPath (symbol : String) :
    (toPath symbol).toList = symbol.toList.map toSeparator ++ suffix := by
  rw [toPath, String.toList_ofList]

theorem stripSuffix_append (cs : List Char) : stripSuffix (cs ++ suffix) = cs := by
  have hsuffix : suffix.isSuffixOf (cs ++ suffix) = true :=
    List.isSuffixOf_iff_suffix.2 (List.suffix_append cs suffix)
  rw [stripSuffix, if_pos hsuffix, List.length_append, Nat.add_sub_cancel, List.take_left']
  rfl

/-- Without separators, translating a name to a path and back only trims it. -/
theorem ofPath_toPath (plain : ∀ c ∈ symbol.toList, c ≠ '/' ∧ c ≠ '\\') :
    ofPath (toPath symbol) = String.ofList (trim symbol.toList) := by
  have hmap : (symbol.toList.map toSeparator).map ofSeparator = symbol.toList := by
    rw [List.map_map]
    refine (List.map_congr_left ?_).trans (List.map_id _)
    intro c hc
    obtain ⟨hslash, hback⟩ := plain c hc
    by_cases h : c = delimiter
    · simp [toSeparator, ofSeparator, h]
    · simp [toSeparator, ofSeparator, h, hslash, hback]
  rw [ofPath, toList_toPath, stripSuffix_append, hmap]

theorem dropWhile_of_head? (front : cs.head? ≠ some delimiter) :
    cs.dropWhile (· = delimiter) = cs := by
  cases cs with
  | nil => rfl
  | cons c cs =>
    rw [List.dropWhile_cons_of_neg]
    simpa using front

/-- Trimming takes nothing away in front of a name that does not begin with a delimiter. -/
theorem trim_prefix (front : cs.head? ≠ some delimiter) : trim cs <+: cs := by
  rw [trim, dropWhile_of_head? front, ← List.reverse_suffix, List.reverse_reverse]
  exact List.dropWhile_suffix _

/-- Trimming takes nothing away from a name without delimiters at its ends. -/
theorem trim_eq_self (front : cs.head? ≠ some delimiter) (back : cs.getLast? ≠ some delimiter) :
    trim cs = cs := by
  have hback : cs.reverse.head? ≠ some delimiter := by rwa [List.head?_reverse]
  rw [trim, dropWhile_of_head? front, dropWhile_of_head? hback, List.reverse_reverse]

theorem startsWith_eq_true {start : String} :
    startsWith symbol start = true ↔ start.toList <+: symbol.toList := by
  rw [startsWith, List.isPrefixOf_iff_prefix]

theorem startsWith_of_prefix {other start : String} (h : other.toList <+: symbol.toList)
    (starts : startsWith other start = true) : startsWith symbol start = true :=
  startsWith_eq_true.2 ((startsWith_eq_true.1 starts).trans h)

theorem matchesAny_eq_true {starts : List String} :
    matchesAny symbol starts = true ↔ ∃ start ∈ starts, startsWith symbol start = true :=
  List.any_eq_true

/-- In which order beginnings are given does not matter. -/
theorem matchesAny_congr {starts starts' : List String}
    (same : ∀ start, start ∈ starts ↔ start ∈ starts') :
    matchesAny symbol starts = matchesAny symbol starts' := by
  rw [Bool.eq_iff_iff, matchesAny_eq_true, matchesAny_eq_true]
  simp only [same]

/-! ### Names below a directory -/

/-- What trimming takes off a name are delimiters at its ends. -/
theorem exists_trim_split (cs : List Char) :
    ∃ front back, cs = front ++ trim cs ++ back ∧ (∀ c ∈ front, c = delimiter) ∧
      ∀ c ∈ back, c = delimiter := by
  refine ⟨cs.takeWhile (· = delimiter),
    ((cs.dropWhile (· = delimiter)).reverse.takeWhile (· = delimiter)).reverse, ?_, ?_, ?_⟩
  · rw [List.append_assoc, trim, ← List.reverse_append, List.takeWhile_append_dropWhile,
      List.reverse_reverse, List.takeWhile_append_dropWhile]
  · intro c hc
    simpa using List.mem_takeWhile_imp hc
  · intro c hc
    simpa using List.mem_takeWhile_imp (List.mem_reverse.1 hc)

theorem head?_trim (cs : List Char) : (trim cs).head? ≠ some delimiter := by
  obtain ⟨back, hback⟩ : trim cs <+: cs.dropWhile (· = delimiter) := by
    rw [trim, ← List.reverse_suffix, List.reverse_reverse]
    exact List.dropWhile_suffix _
  intro h
  have hhead : (cs.dropWhile (· = delimiter)).head? = some delimiter := by
    rw [← hback, List.head?_append, h, Option.some_or]
  simpa [hhead] using List.head?_dropWhile_not (· = delimiter) cs

theorem getLast?_trim (cs : List Char) : (trim cs).getLast? ≠ some delimiter := by
  intro h
  rw [trim, List.getLast?_reverse] at h
  simpa [h] using List.head?_dropWhile_not (· = delimiter) (cs.dropWhile (· = delimiter)).reverse

/-- Trimming takes off all delimiters at the ends. -/
theorem trim_append_append {front core back : List Char} (hfront : ∀ c ∈ front, c = delimiter)
    (hback : ∀ c ∈ back, c = delimiter) (hcore : core ≠ [])
    (hhead : core.head? ≠ some delimiter) (hlast : core.getLast? ≠ some delimiter) :
    trim (front ++ core ++ back) = core := by
  have hkept : (core ++ back).dropWhile (· = delimiter) = core ++ back := by
    apply dropWhile_of_head?
    rwa [List.head?_append_of_ne_nil core hcore]
  rw [trim, List.append_assoc, List.dropWhile_append_of_pos (by simpa using hfront), hkept,
    List.reverse_append, List.dropWhile_append_of_pos (by simpa using hback),
    dropWhile_of_head? (by rwa [List.head?_reverse]), List.reverse_reverse]

/-- If something is left of a name, that is also left in front when the name goes on behind a
delimiter, and then a delimiter comes next, unless nothing but delimiters followed. -/
theorem trim_append_delimiter (h : trim cs ≠ []) (tail : List Char) :
    (trim (cs ++ delimiter :: tail) = trim cs ∧ ∀ c ∈ tail, c = delimiter) ∨
      trim cs ++ [delimiter] <+: trim (cs ++ delimiter :: tail) := by
  obtain ⟨front, back, hcs, hfront, hback⟩ := exists_trim_split cs
  obtain ⟨before, after, htail, hbefore, hafter⟩ := exists_trim_split tail
  by_cases hleft : trim tail = []
  · left
    have hall : ∀ c ∈ tail, c = delimiter := by
      rw [htail, hleft, List.append_nil]
      exact List.forall_mem_append.2 ⟨hbefore, hafter⟩
    refine ⟨?_, hall⟩
    have hrest : ∀ c ∈ back ++ delimiter :: tail, c = delimiter :=
      List.forall_mem_append.2 ⟨hback, List.forall_mem_cons.2 ⟨rfl, hall⟩⟩
    have hsplit : cs ++ delimiter :: tail = front ++ trim cs ++ (back ++ delimiter :: tail) := by
      rw [← List.append_assoc, ← hcs]
    rw [hsplit, trim_append_append hfront hrest h (head?_trim cs) (getLast?_trim cs)]
  · right
    -- between the two parts that are left there are only delimiters
    have hgap : ∀ c ∈ back ++ delimiter :: before, c = delimiter :=
      List.forall_mem_append.2 ⟨hback, List.forall_mem_cons.2 ⟨rfl, hbefore⟩⟩
    have hsplit : cs ++ delimiter :: tail =
        front ++ (trim cs ++ (back ++ delimiter :: before) ++ trim tail) ++ after := by
      refine (congrArg₂ (fun cs tail => cs ++ delimiter :: tail) hcs htail).trans ?_
      simp only [List.append_assoc, List.cons_append]
    have hhead : (trim cs ++ (back ++ delimiter :: before) ++ trim tail).head? ≠
        some delimiter := by
      rw [List.append_assoc, List.head?_append_of_ne_nil _ h]
      exact head?_trim cs
    have hlast : (trim cs ++ (back ++ delimiter :: before) ++ trim tail).getLast? ≠
        some delimiter := by
      rw [List.getLast?_append_of_ne_nil _ hleft]
      exact getLast?_trim tail
    rw [hsplit, trim_append_append hfront hafter (by simp) hhead hlast, List.append_assoc,
      List.prefix_append_right_inj]
    cases back with
    | nil => exact ⟨before ++ trim tail, rfl⟩
    | cons c back =>
      rw [hback c List.mem_cons_self]
      exact ⟨back ++ delimiter :: before ++ trim tail, rfl⟩

/-- What a path loses without its suffix. -/
theorem exists_stripSuffix_append (cs : List Char) :
    ∃ dropped, cs = stripSuffix cs ++ dropped ∧ (dropped = [] ∨ dropped = suffix) := by
  rw [stripSuffix]
  split
  · next h =>
    obtain ⟨stem, rfl⟩ := List.isSuffixOf_iff_suffix.1 h
    exact ⟨suffix, by simp, .inr rfl⟩
  · exact ⟨[], (List.append_nil cs).symm, .inl rfl⟩

theorem map_ofSeparator_suffix : suffix.map ofSeparator = delimiter :: "unit".toList := by
  decide

/-- The entry path of a unit file in a directory. -/
def unitFile (directory stem : String) : String := directory ++ "/" ++ stem ++ ".unit"

theorem toList_unitFile (directory stem : String) :
    (unitFile directory stem).toList = directory.toList ++ '/' :: stem.toList ++ suffix := by
  simp [unitFile, suffix]

theorem isUnitFile_unitFile (directory stem : String) :
    isUnitFile (unitFile directory stem) = true := by
  rw [isUnitFile, toList_unitFile, Bool.and_eq_true, decide_eq_true_iff,
    List.isSuffixOf_iff_suffix]
  exact ⟨by simp; omega, List.suffix_append _ _⟩

/-- The name of a unit file begins with the name of its directory, if the latter is not empty, and
then there comes a delimiter, unless before its suffix the file has nothing that counts. -/
theorem ofPath_unitFile {directory : String} (named : ofPath directory ≠ "") (stem : String) :
    (ofPath (unitFile directory stem) = ofPath directory ∧
        ∀ c ∈ stem.toList, ofSeparator c = delimiter) ∨
      startsWith (ofPath (unitFile directory stem)) (ofPath directory ++ ".") = true := by
  obtain ⟨dropped, hdirectory, hdropped⟩ := exists_stripSuffix_append directory.toList
  have hleft : trim ((stripSuffix directory.toList).map ofSeparator) ≠ [] := by
    intro h
    exact named (by rw [ofPath, h])
  obtain ⟨tail, htail, hall⟩ : ∃ tail,
      (dropped ++ '/' :: stem.toList).map ofSeparator = delimiter :: tail ∧
        ((∀ c ∈ tail, c = delimiter) → ∀ c ∈ stem.toList, ofSeparator c = delimiter) := by
    obtain rfl | rfl := hdropped
    · exact ⟨stem.toList.map ofSeparator, rfl, fun h c hc => h _ (List.mem_map_of_mem hc)⟩
    · refine ⟨"unit".toList ++ ('/' :: stem.toList).map ofSeparator, ?_, fun h => ?_⟩
      · rw [List.map_append, map_ofSeparator_suffix, List.cons_append]
      · exact absurd (h 'u' (List.mem_append_left _ (by decide))) (by decide)
  have hpath : (ofPath (unitFile directory stem)).toList =
      trim ((stripSuffix directory.toList).map ofSeparator ++ delimiter :: tail) := by
    rw [ofPath, String.toList_ofList, toList_unitFile, stripSuffix_append, ← htail,
      ← List.map_append, ← List.append_assoc, ← hdirectory]
  obtain ⟨hsame, hnothing⟩ | hmore := trim_append_delimiter hleft tail
  · refine .inl ⟨String.toList_injective ?_, hall hnothing⟩
    rw [hpath, hsame, ofPath, String.toList_ofList]
  · right
    rw [startsWith_eq_true, hpath]
    simpa [ofPath, delimiter] using hmore

theorem startsWith_unitFile {directory : String} (named : ofPath directory ≠ "") (stem : String) :
    startsWith (ofPath (unitFile directory stem)) (ofPath directory) = true := by
  rw [startsWith_eq_true]
  obtain ⟨hsame, -⟩ | hmore := ofPath_unitFile named stem
  · exact ⟨[], by rw [List.append_nil, hsame]⟩
  · rw [startsWith_eq_true, String.toList_append] at hmore
    exact (List.prefix_append _ _).trans hmore

theorem ofPath_unitFile_ne_empty {directory : String} (named : ofPath directory ≠ "")
    (stem : String) : ofPath (unitFile directory stem) ≠ "" := by
  intro h
  have hstarts := startsWith_eq_true.1 (startsWith_unitFile named stem)
  rw [h] at hstarts
  exact named (String.toList_injective (List.prefix_nil.1 hstarts))

/-! ### Plain paths -/

/-- The entry path of a unit in which nothing but its suffix has a dot, without backslashes, and with
a file name in front of the suffix. -/
def PlainPath (path : String) : Prop :=
  ∃ stem : List Char, path.toList = stem ++ suffix ∧ (∀ c ∈ stem, c ≠ delimiter ∧ c ≠ '\\') ∧
    stem.getLast? ≠ some '/'

theorem PlainPath.suffix {path : String} (plain : PlainPath path) : suffix <:+ path.toList := by
  obtain ⟨stem, hpath, -⟩ := plain
  exact ⟨stem, hpath.symm⟩

/-- The name of a plain path leads to it. -/
theorem PlainPath.toPath_ofPath {path : String} (plain : PlainPath path)
    (relative : path.toList.head? ≠ some '/') : toPath (ofPath path) = path := by
  obtain ⟨stem, hpath, hplain, hback⟩ := plain
  have hfront : stem.head? ≠ some '/' := by
    cases stem with
    | nil => nofun
    | cons c stem => simpa [hpath] using relative
  have hdelimiter {c : Char} (hc : c ∈ stem) (h : c ≠ '/') : ofSeparator c ≠ delimiter := by
    rw [ofSeparator, if_neg (not_or.2 ⟨h, (hplain c hc).2⟩)]
    exact (hplain c hc).1
  have htrim : trim (stem.map ofSeparator) = stem.map ofSeparator := by
    apply trim_eq_self
    · cases stem with
      | nil => nofun
      | cons c stem =>
        simpa using hdelimiter List.mem_cons_self (by simpa using hfront)
    · rw [List.getLast?_map]
      cases hlast : stem.getLast? with
      | none => nofun
      | some c =>
        simpa using hdelimiter (List.mem_of_getLast? hlast) (by simpa [hlast] using hback)
  have hmap : (stem.map ofSeparator).map toSeparator = stem := by
    rw [List.map_map]
    refine (List.map_congr_left ?_).trans (List.map_id _)
    intro c hc
    by_cases h : c = '/'
    · simp [h, ofSeparator, toSeparator]
    · simp [ofSeparator, toSeparator, h, hplain c hc]
  apply String.toList_injective
  rw [toList_toPath, ofPath, hpath, stripSuffix_append, String.toList_ofList, htrim, hmap]

end Isolation.Symbol
