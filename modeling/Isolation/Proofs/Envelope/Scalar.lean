import Isolation.Envelope.Plain
import Isolation.Proofs.Fields
import Isolation.Proofs.Json.Node

/-!
# Scalars survive documents

What a scalar is read back as, exactly: it takes a number of levels, and if the limit leaves fewer
it is not read at all. Otherwise all comes back as it was, but for floating-point numbers, of which
the text is read.

## Main definitions

* `Scalar.levels` — how deep the parts that are read nest
* `Scalar.reread?` — what comes back of a scalar that is not too deep
* `Scalar.floats`, `Binary64.Rereads` — on what it depends that nothing changes
* `Scalar.Ordered` — a scalar of which all fields are in order

## Main results

* `Scalar.sound_toNode` — scalars are written as sound documents
* `Scalar.ofNode?_toNode` — how they are read back
* `Scalar.reread?_eq_some_iff` — when a scalar comes back as it was
-/

namespace Isolation

open Json

namespace Json.Node

/-- The fields of a structure are those members of an object that are asked for. -/
theorem known?_ofFields (names : List String) {fields found : List (String × Node)}
    (distinct : (found.map Prod.fst ++ fields.map Prod.fst).Nodup) :
    known? names (fields.map fun field => (quoted field.1, field.2)) found =
      some (found.reverse ++ fields.filter fun field => names.contains field.1) := by
  induction fields generalizing found with
  | nil => rw [List.map_nil, known?, List.filter_nil, List.append_nil]
  | cons field fields ih =>
    obtain ⟨name, node⟩ := field
    rw [List.map_cons, known?, unquoted?_quoted]
    simp only [Option.bind_eq_bind, Option.bind_some, List.filter_cons]
    rw [List.map_cons] at distinct
    have hperm := List.perm_middle.nodup_iff.1 distinct
    split
    · have hnew : (found.map Prod.fst).contains name = false := by
        rw [List.contains_eq_mem, decide_eq_false_iff_not]
        intro hmem
        exact (List.nodup_cons.1 hperm).1 (List.mem_append_left _ hmem)
      have hnodup : (((name, node) :: found).map Prod.fst ++ fields.map Prod.fst).Nodup := hperm
      have hrest := ih hnodup
      rw [List.reverse_cons, List.append_assoc, List.singleton_append] at hrest
      simp only [hnew, Bool.false_eq_true, if_false, hrest]
    · exact ih (List.nodup_cons.1 hperm).2

theorem fields?_ofFields (names : List String) {fields : List (String × Node)}
    (distinct : (fields.map Prod.fst).Nodup) :
    (ofFields fields).fields? names =
      some (fields.filter fun field => names.contains field.1) :=
  known?_ofFields names distinct

theorem asTag?_ofString (levels : Nat) (buffered : Bool) (tag : String) :
    (ofString tag).asTag? levels buffered = some tag :=
  unquoted?_quoted tag

theorem asString?_ofString (text : String) : (ofString text).asString? = some text :=
  unquoted?_quoted text

/-- The tag and the content of a tagged union, in the order in which they are written. -/
theorem tagged?_ofFields {tagKey contentKey : String} (hne : tagKey ≠ contentKey) (levels : Nat)
    (buffered : Bool) (tag : String) (content : Node) :
    (ofFields [(tagKey, ofString tag), (contentKey, content)]).tagged? tagKey contentKey levels
      buffered = some ⟨tag, some content, buffered⟩ := by
  have distinct : ([(tagKey, ofString tag), (contentKey, content)].map Prod.fst).Nodup := by
    simpa using hne
  have hknown : known? [tagKey, contentKey]
      ([(tagKey, ofString tag), (contentKey, content)].map fun field => (quoted field.1, field.2))
      [] = some [(tagKey, ofString tag), (contentKey, content)] :=
    (fields?_ofFields _ distinct).trans (by simp)
  simp only [ofFields, tagged?, taggedMembers?, hknown, Option.bind_eq_bind, Option.bind_some,
    if_true, asTag?_ofString, pure]

/-- The tag of a union without content. -/
theorem tagged?_ofFields_tag (tagKey contentKey : String) (levels : Nat) (buffered : Bool)
    (tag : String) :
    (ofFields [(tagKey, ofString tag)]).tagged? tagKey contentKey levels buffered =
      some ⟨tag, none, buffered⟩ := by
  have distinct : ([(tagKey, ofString tag)].map Prod.fst).Nodup := by
    simp
  have hknown : known? [tagKey, contentKey]
      ([(tagKey, ofString tag)].map fun field => (quoted field.1, field.2)) [] =
        some [(tagKey, ofString tag)] :=
    (fields?_ofFields _ distinct).trans (by simp)
  simp only [ofFields, tagged?, taggedMembers?, hknown, Option.bind_eq_bind, Option.bind_some,
    if_true, asTag?_ofString, pure]

theorem sound_ofString (text : String) : (ofString text).Sound := .string text

theorem sound_ofInt (n : Int) : (ofInt n).Sound := .number (Number.sound_ofInt n)

theorem sound_ofFloat (x : Binary64) : (ofFloat x).Sound := by
  rw [ofFloat]
  cases h : Number.ofFloat? x with
  | none => exact .null
  | some n => exact .number (Number.sound_of_ofFloat? h)

theorem sound_ofFields {fields : List (String × Node)} (h : ∀ field ∈ fields, field.2.Sound) :
    (ofFields fields).Sound := by
  refine .object (fun member hmember => ?_) (fun member hmember => ?_)
  · obtain ⟨field, -, rfl⟩ := List.mem_map.1 hmember
    exact ⟨field.1, rfl⟩
  · obtain ⟨field, hfield, rfl⟩ := List.mem_map.1 hmember
    exact h field hfield

/-- A 64-bit integer is read back. -/
theorem asInt64?_ofInt (n : Int64) : (ofInt n.toInt).asInt64? = some n := by
  have hlow := n.le_toInt
  have hhigh := n.toInt_lt
  rw [ofInt, asInt64?, Number.toInt?_ofInt, Option.bind_some, if_pos, Int64.ofInt_toInt]
  exact ⟨hlow, hhigh⟩

end Json.Node

/-- Two parts that fit within a limit each fit together. -/
theorem bind_within {α β γ : Type} {first second limit : Nat} (x : Option α) (y : Option β)
    (f : α → β → γ) :
    ((if first ≤ limit then x else none) >>= fun a =>
      (if second ≤ limit then y else none) >>= fun b => some (f a b)) =
      if max first second ≤ limit then x >>= fun a => y >>= fun b => some (f a b) else none := by
  by_cases hfirst : first ≤ limit
  · by_cases hsecond : second ≤ limit
    · have hall : max first second ≤ limit := by omega
      rw [if_pos hfirst, if_pos hsecond, if_pos hall]
    · have hall : ¬ max first second ≤ limit := by omega
      rw [if_pos hfirst, if_neg hsecond, if_neg hall]
      cases x <;> rfl
  · have hall : ¬ max first second ≤ limit := by omega
    rw [if_neg hfirst, if_neg hall]
    rfl

namespace Scalar

mutual

/-- The number of levels that a scalar takes: a tagged union each, and an array or an object for
those that hold others. -/
def levels : Scalar → Nat
  | array items => levelsOfItems items + 2
  | record fields => levelsOfFields fields + 2
  | _ => 1

/-- The greatest number of levels among several scalars. -/
def levelsOfItems : List Scalar → Nat
  | [] => 0
  | item :: items => max item.levels (levelsOfItems items)

/-- The greatest number of levels among several fields. -/
def levelsOfFields : List (String × Scalar) → Nat
  | [] => 0
  | (_, value) :: fields => max value.levels (levelsOfFields fields)

end

mutual

/-- What a scalar is read back as: floating-point numbers are what their texts say. -/
def reread? : Scalar → Option Scalar
  | float x => ((Number.ofFloat? x).bind Number.toFloat?).map float
  | array items => (rereadItems? items).map array
  | record fields => (rereadFields? fields).map fun pairs => record (Fields.ofList pairs)
  | null => some null
  | bool b => some (bool b)
  | int n => some (int n)
  | str text => some (str text)

/-- What several scalars are read back as. -/
def rereadItems? : List Scalar → Option (List Scalar)
  | [] => some []
  | item :: items => do
    let item ← item.reread?
    let items ← rereadItems? items
    return item :: items

/-- What several fields are read back as. -/
def rereadFields? : List (String × Scalar) → Option (List (String × Scalar))
  | [] => some []
  | (name, value) :: fields => do
    let value ← value.reread?
    let fields ← rereadFields? fields
    return (name, value) :: fields

end

theorem levelsOfItems_le_iff {items : List Scalar} {n : Nat} :
    levelsOfItems items ≤ n ↔ ∀ item ∈ items, item.levels ≤ n := by
  induction items with
  | nil => exact ⟨fun _ => nofun, fun _ => Nat.zero_le n⟩
  | cons item items ih => rw [levelsOfItems, Nat.max_le, ih, List.forall_mem_cons]

theorem levelsOfFields_le_iff {fields : List (String × Scalar)} {n : Nat} :
    levelsOfFields fields ≤ n ↔ ∀ field ∈ fields, field.2.levels ≤ n := by
  induction fields with
  | nil => exact ⟨fun _ => nofun, fun _ => Nat.zero_le n⟩
  | cons field fields ih => rw [levelsOfFields, Nat.max_le, ih, List.forall_mem_cons]

theorem tagged?_taggedNode (kind : Kind) (content : Option Node) (levels : Nat) (buffered : Bool) :
    (taggedNode kind content).tagged? "type" "value" levels buffered =
      some ⟨kind.tag, content, buffered⟩ := by
  cases content with
  | none => exact Node.tagged?_ofFields_tag "type" "value" levels buffered kind.tag
  | some node => exact Node.tagged?_ofFields (by decide) levels buffered kind.tag node

theorem sound_taggedNode {kind : Kind} {content : Option Node}
    (h : ∀ node ∈ content, node.Sound) : (taggedNode kind content).Sound := by
  refine Node.sound_ofFields fun field hfield => ?_
  rcases List.mem_cons.1 hfield with rfl | hfield
  · exact Node.sound_ofString _
  · obtain ⟨node, hnode, rfl⟩ : ∃ node ∈ content, ("value", node) = field := by
      simpa [Option.mem_toList] using hfield
    exact h node hnode

mutual

/-- Scalars are written as sound documents. -/
theorem sound_toNode : ∀ scalar : Scalar, scalar.toNode.Sound
  | null => sound_taggedNode nofun
  | bool b => by
    refine sound_taggedNode ?_
    rintro node ⟨⟩
    exact .bool b
  | int n => by
    refine sound_taggedNode ?_
    rintro node ⟨⟩
    exact Node.sound_ofInt n.toInt
  | float x => by
    refine sound_taggedNode ?_
    rintro node ⟨⟩
    exact Node.sound_ofFloat x
  | str text => by
    refine sound_taggedNode ?_
    rintro node ⟨⟩
    exact Node.sound_ofString text
  | array items => by
    refine sound_taggedNode ?_
    rintro node ⟨⟩
    exact .array (sound_toNodes items)
  | record fields => by
    refine sound_taggedNode ?_
    rintro node ⟨⟩
    obtain ⟨keys, sound⟩ := sound_toMembers fields
    exact .object keys sound

theorem sound_toNodes : ∀ items : List Scalar, ∀ node ∈ toNodes items, node.Sound
  | [] => nofun
  | item :: items => by
    intro node hnode
    rcases List.mem_cons.1 hnode with rfl | hnode
    · exact sound_toNode item
    · exact sound_toNodes items node hnode

theorem sound_toMembers : ∀ fields : List (String × Scalar),
    (∀ member ∈ toMembers fields, ∃ text, member.1 = quoted text) ∧
      ∀ member ∈ toMembers fields, member.2.Sound
  | [] => ⟨nofun, nofun⟩
  | (name, value) :: fields => by
    obtain ⟨keys, sound⟩ := sound_toMembers fields
    constructor
    · intro member hmember
      rcases List.mem_cons.1 hmember with rfl | hmember
      · exact ⟨name, rfl⟩
      · exact keys member hmember
    · intro member hmember
      rcases List.mem_cons.1 hmember with rfl | hmember
      · exact sound_toNode value
      · exact sound member hmember

end

theorem ofNode?_float (limit : Nat) (buffered : Bool) (x : Binary64) :
    ofNode? (limit + 1) buffered (float x).toNode = (float x).reread? := by
  rw [ofNode?, toNode, tagged?_taggedNode]
  simp only [Option.bind_eq_bind, Option.bind_some, Kind.ofTag?_tag, Node.ofFloat, reread?]
  cases Number.ofFloat? x <;> rfl

theorem ofNode?_null (limit : Nat) (buffered : Bool) :
    ofNode? (limit + 1) buffered null.toNode = some null := by
  rw [ofNode?, toNode, tagged?_taggedNode]
  simp only [Option.bind_eq_bind, Option.bind_some, Kind.ofTag?_tag]

theorem ofNode?_bool (limit : Nat) (buffered b : Bool) :
    ofNode? (limit + 1) buffered (bool b).toNode = some (bool b) := by
  rw [ofNode?, toNode, tagged?_taggedNode]
  simp only [Option.bind_eq_bind, Option.bind_some, Kind.ofTag?_tag]

theorem ofNode?_int (limit : Nat) (buffered : Bool) (n : Int64) :
    ofNode? (limit + 1) buffered (int n).toNode = some (int n) := by
  rw [ofNode?, toNode, tagged?_taggedNode]
  simp only [Option.bind_eq_bind, Option.bind_some, Kind.ofTag?_tag, Node.asInt64?_ofInt,
    Option.map_some]

theorem ofNode?_str (limit : Nat) (buffered : Bool) (text : String) :
    ofNode? (limit + 1) buffered (str text).toNode = some (str text) := by
  rw [ofNode?, toNode, tagged?_taggedNode]
  simp only [Option.bind_eq_bind, Option.bind_some, Kind.ofTag?_tag, Node.ofString,
    unquoted?_quoted, Option.map_some]

theorem ofNode?_array (limit : Nat) (buffered : Bool) (items : List Scalar) :
    ofNode? (limit + 2) buffered (array items).toNode =
      ((toNodes items).mapM (ofNode? limit buffered)).map array := by
  rw [ofNode?, toNode, tagged?_taggedNode]
  simp only [Option.bind_eq_bind, Option.bind_some, Kind.ofTag?_tag]

/-- The fields in the members of an object. -/
theorem ofNode?_record (limit : Nat) (buffered : Bool) (fields : List (String × Scalar)) :
    ofNode? (limit + 2) buffered (record fields).toNode =
      ((toMembers fields).mapM fun member : List UInt8 × Node => do
        let name ← unquoted? member.1
        let value ← ofNode? limit buffered member.2
        return (name, value)).map fun pairs => record (Fields.ofList pairs) := by
  rw [ofNode?, toNode, tagged?_taggedNode]
  simp only [Option.bind_eq_bind, Option.bind_some, Kind.ofTag?_tag]
  rw [Option.map_eq_bind]
  rfl

/-- An array or an object takes a second level. -/
theorem ofNode?_one {buffered : Bool} {scalar : Scalar} (h : 1 < scalar.levels) :
    ofNode? 1 buffered scalar.toNode = none := by
  cases scalar with
  | array items =>
    rw [ofNode?, toNode, tagged?_taggedNode]
    simp only [Option.bind_eq_bind, Option.bind_some, Kind.ofTag?_tag]
  | record fields =>
    rw [ofNode?, toNode, tagged?_taggedNode]
    simp only [Option.bind_eq_bind, Option.bind_some, Kind.ofTag?_tag]
  | _ => exact absurd h (Nat.lt_irrefl 1)

mutual

/-- What a scalar is read back as within a number of levels, exactly. -/
theorem ofNode?_toNode (limit : Nat) (buffered : Bool) : ∀ scalar : Scalar,
    ofNode? limit buffered scalar.toNode = if scalar.levels ≤ limit then scalar.reread? else none
  | array items => by
    have hlevels : (array items).levels = levelsOfItems items + 2 := by rw [levels]
    match limit with
    | 0 => rw [ofNode?, if_neg (by omega)]
    -- one level is enough for the union, but not for the list in it
    | 1 => rw [ofNode?_one (by omega), if_neg (by omega)]
    | limit + 2 =>
      rw [ofNode?_array, mapM_toNodes limit buffered items]
      by_cases h : levelsOfItems items ≤ limit
      · rw [if_pos h, if_pos (by omega), reread?]
      · rw [if_neg h, if_neg (by omega), Option.map_none]
  | record fields => by
    have hlevels : (record fields).levels = levelsOfFields fields + 2 := by rw [levels]
    match limit with
    | 0 => rw [ofNode?, if_neg (by omega)]
    | 1 => rw [ofNode?_one (by omega), if_neg (by omega)]
    | limit + 2 =>
      rw [ofNode?_record, mapM_toMembers limit buffered fields]
      by_cases h : levelsOfFields fields ≤ limit
      · rw [if_pos h, if_pos (by omega), reread?]
      · rw [if_neg h, if_neg (by omega), Option.map_none]
  | null => by
    cases limit with
    | zero => rfl
    | succ limit => exact ofNode?_null limit buffered
  | bool b => by
    cases limit with
    | zero => rfl
    | succ limit => exact ofNode?_bool limit buffered b
  | int n => by
    cases limit with
    | zero => rfl
    | succ limit => exact ofNode?_int limit buffered n
  | float x => by
    cases limit with
    | zero => rfl
    | succ limit => exact ofNode?_float limit buffered x
  | str text => by
    cases limit with
    | zero => rfl
    | succ limit => exact ofNode?_str limit buffered text

theorem mapM_toNodes (limit : Nat) (buffered : Bool) : ∀ items : List Scalar,
    (toNodes items).mapM (ofNode? limit buffered) =
      if levelsOfItems items ≤ limit then rereadItems? items else none
  | [] => rfl
  | item :: items => by
    have hlevels : levelsOfItems (item :: items) = max item.levels (levelsOfItems items) := by
      rw [levelsOfItems]
    -- all items have the same levels left, so the deepest decides
    rw [toNodes, List.mapM_cons, ofNode?_toNode limit buffered item,
      mapM_toNodes limit buffered items, hlevels, rereadItems?]
    exact bind_within item.reread? (rereadItems? items) List.cons

theorem mapM_toMembers (limit : Nat) (buffered : Bool) : ∀ fields : List (String × Scalar),
    ((toMembers fields).mapM fun member : List UInt8 × Node => do
      let name ← unquoted? member.1
      let value ← ofNode? limit buffered member.2
      return (name, value)) =
      if levelsOfFields fields ≤ limit then rereadFields? fields else none
  | [] => rfl
  | (name, value) :: fields => by
    have hlevels : levelsOfFields ((name, value) :: fields) =
        max value.levels (levelsOfFields fields) := by
      rw [levelsOfFields]
    rw [toMembers, List.mapM_cons, unquoted?_quoted, ofNode?_toNode limit buffered value,
      mapM_toMembers limit buffered fields, hlevels, rereadFields?]
    simp only [Option.bind_eq_bind, Option.bind_some, Option.bind_assoc, Option.pure_def]
    exact bind_within value.reread? (rereadFields? fields) fun value fields =>
      (name, value) :: fields

end

/-! ### When nothing changes -/

mutual

/-- The floating-point numbers in a scalar. -/
def floats : Scalar → List Binary64
  | float x => [x]
  | array items => floatsOfItems items
  | record fields => floatsOfFields fields
  | _ => []

/-- The floating-point numbers in several scalars. -/
def floatsOfItems : List Scalar → List Binary64
  | [] => []
  | item :: items => item.floats ++ floatsOfItems items

/-- The floating-point numbers in several fields. -/
def floatsOfFields : List (String × Scalar) → List Binary64
  | [] => []
  | (_, value) :: fields => value.floats ++ floatsOfFields fields

end

/-- The fields of all records in a scalar are in order. -/
inductive Ordered : Scalar → Prop
  | null : Ordered .null
  | bool (b : Bool) : Ordered (.bool b)
  | int (n : Int64) : Ordered (.int n)
  | float (x : Binary64) : Ordered (.float x)
  | str (text : String) : Ordered (.str text)
  | array {items} (ordered : ∀ item ∈ items, Ordered item) : Ordered (.array items)
  | record {fields} (keys : Fields.Ordered fields) (ordered : ∀ field ∈ fields, Ordered field.2) :
      Ordered (.record fields)

end Scalar

/-- A number is read back from what is written for it. -/
def Binary64.Rereads (x : Binary64) : Prop := (Number.ofFloat? x).bind Number.toFloat? = some x

instance (x : Binary64) : Decidable x.Rereads :=
  inferInstanceAs (Decidable ((Number.ofFloat? x).bind Number.toFloat? = some x))

namespace Scalar

/-- Reading back does not change the names of fields. -/
theorem keys_of_rereadFields? : ∀ {fields pairs : List (String × Scalar)},
    rereadFields? fields = some pairs → pairs.map Prod.fst = fields.map Prod.fst
  | [], pairs, h => by
    cases h
    rfl
  | (name, value) :: fields, pairs, h => by
    rw [rereadFields?] at h
    obtain ⟨value', -, h⟩ := Option.bind_eq_some_iff.1 h
    obtain ⟨fields', hfields, h⟩ := Option.bind_eq_some_iff.1 h
    cases h
    rw [List.map_cons, List.map_cons, keys_of_rereadFields? hfields]

theorem rereadItems?_cons_eq_some {item : Scalar} {items : List Scalar} :
    rereadItems? (item :: items) = some (item :: items) ↔
      item.reread? = some item ∧ rereadItems? items = some items := by
  rw [rereadItems?]
  constructor
  · intro h
    obtain ⟨item', hitem, h⟩ := Option.bind_eq_some_iff.1 h
    obtain ⟨items', hitems, h⟩ := Option.bind_eq_some_iff.1 h
    cases h
    exact ⟨hitem, hitems⟩
  · rintro ⟨hitem, hitems⟩
    rw [hitem, hitems]
    rfl

theorem rereadFields?_cons_eq_some {name : String} {value : Scalar}
    {fields : List (String × Scalar)} :
    rereadFields? ((name, value) :: fields) = some ((name, value) :: fields) ↔
      value.reread? = some value ∧ rereadFields? fields = some fields := by
  rw [rereadFields?]
  constructor
  · intro h
    obtain ⟨value', hvalue, h⟩ := Option.bind_eq_some_iff.1 h
    obtain ⟨fields', hfields, h⟩ := Option.bind_eq_some_iff.1 h
    cases h
    exact ⟨hvalue, hfields⟩
  · rintro ⟨hvalue, hfields⟩
    rw [hvalue, hfields]
    rfl

/-- Of fields in order it does not matter that they are set in turn. -/
theorem reread?_record_eq_some {fields : List (String × Scalar)} (keys : Fields.Ordered fields) :
    (record fields).reread? = some (record fields) ↔ rereadFields? fields = some fields := by
  rw [reread?]
  constructor
  · intro h
    obtain ⟨pairs, hpairs, heq⟩ := Option.map_eq_some_iff.1 h
    injection heq with heq
    -- the same keys in the same order, so that setting them in turn changes nothing
    have hordered : Fields.Ordered pairs := by
      rw [Fields.ordered_iff_keys, keys_of_rereadFields? hpairs, ← Fields.ordered_iff_keys]
      exact keys
    rw [Fields.ofList_of_ordered hordered] at heq
    rw [hpairs, heq]
  · intro h
    rw [h, Option.map_some, Fields.ofList_of_ordered keys]

mutual

/-- A scalar comes back as it was if and only if all its floating-point numbers do. -/
theorem reread?_eq_some_iff : ∀ {scalar : Scalar}, scalar.Ordered →
    (scalar.reread? = some scalar ↔ ∀ x ∈ scalar.floats, x.Rereads)
  | .null, _ | .bool _, _ | .int _, _ | .str _, _ => ⟨fun _ => nofun, fun _ => rfl⟩
  | .float x, _ => by
    rw [reread?, floats, List.forall_mem_singleton]
    constructor
    · intro h
      obtain ⟨y, hy, heq⟩ := Option.map_eq_some_iff.1 h
      cases heq
      exact hy
    · intro h
      rw [show (Number.ofFloat? x).bind Number.toFloat? = some x from h, Option.map_some]
  | .array items, ordered => by
    have hitems : ∀ item ∈ items, item.Ordered := by
      cases ordered with
      | array ordered => exact ordered
    rw [reread?, floats, ← rereadItems?_eq_some_iff hitems]
    constructor
    · intro h
      obtain ⟨others, hothers, heq⟩ := Option.map_eq_some_iff.1 h
      cases heq
      exact hothers
    · intro h
      rw [h, Option.map_some]
  | .record fields, ordered => by
    have hfields : Fields.Ordered fields ∧ ∀ field ∈ fields, field.2.Ordered := by
      cases ordered with
      | record keys ordered => exact ⟨keys, ordered⟩
    rw [reread?_record_eq_some hfields.1, floats, rereadFields?_eq_some_iff hfields.2]

theorem rereadItems?_eq_some_iff : ∀ {items : List Scalar}, (∀ item ∈ items, item.Ordered) →
    (rereadItems? items = some items ↔ ∀ x ∈ floatsOfItems items, x.Rereads)
  | [], _ => ⟨fun _ => nofun, fun _ => rfl⟩
  | item :: items, ordered => by
    obtain ⟨hitem, hitems⟩ := List.forall_mem_cons.1 ordered
    rw [rereadItems?_cons_eq_some, reread?_eq_some_iff hitem, rereadItems?_eq_some_iff hitems,
      floatsOfItems, List.forall_mem_append]

theorem rereadFields?_eq_some_iff : ∀ {fields : List (String × Scalar)},
    (∀ field ∈ fields, field.2.Ordered) →
    (rereadFields? fields = some fields ↔ ∀ x ∈ floatsOfFields fields, x.Rereads)
  | [], _ => ⟨fun _ => nofun, fun _ => rfl⟩
  | (name, value) :: fields, ordered => by
    obtain ⟨hvalue, hfields⟩ := List.forall_mem_cons.1 ordered
    rw [rereadFields?_cons_eq_some, reread?_eq_some_iff hvalue, rereadFields?_eq_some_iff hfields,
      floatsOfFields, List.forall_mem_append]

end

end Scalar

end Isolation
