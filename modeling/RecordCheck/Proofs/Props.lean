import RecordCheck.Json.Value
import RecordCheck.Proofs.Record.Deduplicated

/-!
# Properties as they are supplied

Properties that are supplied one after the other, with or without a look at what they replace, are the record of all
that was supplied: each name in the place where it was supplied first, with the value that was supplied last
(`Props.supply_givenAs`). A list of pairs, the fields of other properties and the members of a document lead to the
record that insertions one by one lead to.
-/

namespace RecordCheck.Props

/-- How a property is supplied. -/
inductive Supply where
  /-- with a look at the value that is replaced -/
  | exchange (name : String) (value : Value)
  | insert (name : String) (value : Value)

namespace Supply

/-- The name and the value that are supplied. -/
def pair : Supply → String × Value
  | exchange name value => (name, value)
  | insert name value => (name, value)

/-- The properties after one more is supplied. -/
def apply (props : Props) : Supply → Props
  | exchange name value => (props.exchange name value).2
  | insert name value => props.insert name value

theorem apply_eq_insert (props : Props) (supply : Supply) :
    supply.apply props = props.insert supply.pair.1 supply.pair.2 := by
  cases supply with
  | exchange name value => rw [apply, Record.exchange_eq, pair]
  | insert name value => rfl

end Supply

/-- The properties after a sequence of supplies. -/
def supply (start : Props) (supplies : List Supply) : Props := supplies.foldl Supply.apply start

theorem supply_eq_ofList (start : Props) (supplies : List Supply) :
    start.supply supplies = Record.ofList (start.entries ++ supplies.map Supply.pair) := by
  rw [← Record.foldl_insert, List.foldl_map, supply]
  congr 1
  funext props supply
  exact supply.apply_eq_insert props

/-- What it comes to when a value is supplied under a name and the one that it replaces is handed back. -/
structure Exchanged (props : Props) (name : String) (value : Value) : Prop where
  /-- The value that the name held is handed back, and nothing if it held none. -/
  handedBack (old : Value) : (props.exchange name value).1 = some old ↔ (name, old) ∈ props.entries
  nothing : (props.exchange name value).1 = none ↔ name ∉ props.keys
  held : (props.exchange name value).2.get? name = some value
  others (other : String) (differs : other ≠ name) : (props.exchange name value).2.get? other = props.get? other
  /-- No name moves, and a new one comes last. -/
  keys : (props.exchange name value).2.keys = props.keys ++ if name ∈ props.keys then [] else [name]

theorem exchanged (props : Props) (name : String) (value : Value) : props.Exchanged name value where
  handedBack old := by
    rw [Record.exchange_eq]
    exact ⟨mem_of_lookup, lookup_of_mem props.distinct⟩
  nothing := by
    rw [Record.exchange_eq, ← not_iff_not, not_not]
    exact ((Option.ne_none_iff_exists').trans mem_keysOf_iff.symm)
  held := by rw [Record.exchange_eq, Record.get?_insert, if_pos rfl]
  others other differs := by rw [Record.exchange_eq, Record.get?_insert, if_neg differs]
  keys := by
    rw [Record.exchange_eq, Record.keys_insert]
    split
    · rw [List.append_nil]
    · rfl

/-- Pairs that are collected are supplied one by one. -/
theorem ofList_eq_supply (pairs : List (String × Value)) :
    Record.ofList pairs = supply .empty (pairs.map fun pair => .exchange pair.1 pair.2) := by
  have same : (pairs.map fun pair => Supply.exchange pair.1 pair.2).map Supply.pair = pairs := by
    rw [List.map_map]
    exact List.map_id pairs
  rw [supply_eq_ofList, same]
  rfl

/-- The properties of a document are its members, converted and supplied one by one. -/
theorem ofJson_object (members : List (String × Json)) :
    ofJson (.object members) =
      .ok (supply .empty (members.map fun member => .exchange member.1 (Value.ofJson member.2))) := by
  rw [ofJson, Value.ofMembers_eq_map, ofList_eq_supply, List.map_map]
  rfl

/-- It makes no difference whether repeated names are collected before the members are converted or after. -/
theorem ofJson_collect (members : List (String × Json)) :
    ofJson (.object (collect members)) = ofJson (.object members) := by
  have settled : Record.ofList (collect (Value.ofMembers members)) = Record.ofList (Value.ofMembers members) :=
    (Record.ofList (Value.ofMembers members)).ofList_entries
  rw [ofJson, ofJson, ← settled, Value.ofMembers_eq_map, Value.ofMembers_eq_map, ← collect_map]

/--
Properties after any sequence of supplies are the record of what was supplied, and one more supply changes nothing but
what it has to. Lists of pairs, the fields of properties, and the members of a document, whether repeated names are
collected beforehand or not, make the properties that supplies one by one make.
-/
theorem supply_givenAs (start : Props) (supplies : List Supply) :
    (start.supply supplies).GivenAs (start.entries ++ supplies.map Supply.pair) ∧
      (∀ (props : Props) (name : String) (value : Value), props.Exchanged name value) ∧
      (∀ pairs : List (String × Value),
        Record.ofList pairs = supply .empty (pairs.map fun pair => .exchange pair.1 pair.2)) ∧
      (∀ props : Props, Record.ofList props.entries = props ∧ Value.plain props.entries = props.toValue) ∧
      ∀ members : List (String × Json),
        ofJson (.object (collect members)) =
            .ok (supply .empty (members.map fun member => .exchange member.1 (Value.ofJson member.2))) ∧
          ofJson (.object members) =
            .ok (supply .empty (members.map fun member => .exchange member.1 (Value.ofJson member.2))) := by
  refine ⟨?_, exchanged, ofList_eq_supply, ?_, ?_⟩
  · rw [supply_eq_ofList]
    exact Record.givenAs_ofList _
  · intro props
    refine ⟨props.ofList_entries, ?_⟩
    rw [Value.plain, Value.instanceOf, collect_of_nodup props.distinct, toValue]
  · intro members
    rw [ofJson_collect, ofJson_object]
    exact ⟨rfl, rfl⟩

/-- Properties of a line on a chart. -/
def line : Props := .ofList [("width", .null), ("color", .string "red")]

/-- The line is given another color, a shape, and another color again. -/
def redrawn : List Supply :=
  [.exchange "color" (.string "blue"), .insert "dashed" (.bool true), .insert "color" (.string "green")]

theorem supply_givenAs_redrawn :
    (line.supply redrawn).keys = ["width", "color", "dashed"] ∧
      ((line.supply redrawn).exchange "width" (.bool false)).1 = some .null ∧
      ((line.supply redrawn).exchange "length" .null).2.keys = ["width", "color", "dashed", "length"] ∧
      ofJson (.object [("color", .null), ("width", .null), ("color", .bool true)]) =
        .ok (.ofList [("color", .bool true), ("width", .null)]) := by
  obtain ⟨made, exchanged, -, -, read⟩ := supply_givenAs line redrawn
  have entries : (line.supply redrawn).entries =
      [("width", .null), ("color", .string "green"), ("dashed", .bool true)] := made.entries.trans rfl
  refine ⟨made.keys.trans rfl, ?_, ?_, ?_⟩
  · apply ((exchanged (line.supply redrawn) "width" (.bool false)).handedBack .null).mpr
    rw [entries]
    exact List.mem_cons_self
  · exact (exchanged (line.supply redrawn) "length" .null).keys.trans rfl
  · exact (read [("color", .null), ("width", .null), ("color", .bool true)]).2.trans rfl

end RecordCheck.Props
