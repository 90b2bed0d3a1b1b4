import Mathlib.Data.Finset.Card
import Mathlib.Data.List.Induction
import RecordCheck.Proofs.Record

/-!
# Pairs without repeated names

Pairs that repeat a name are deduplicated by keeping the place of the first pair of the name and the value of the last
one. This says at once what the entries are that arise when pairs are given one after the other
(`collect_eq_deduplicated`), and what a record holds after any history of insertions (`Record.foldl_insert`,
`Record.givenAs_ofList`).
-/

namespace RecordCheck

variable {α : Type}

/-- The pairs with one for each name, in the place of the first of the name and with the value of the last. -/
def deduplicated (pairs : List (String × α)) : List (String × α) :=
  (keysOf pairs).eraseDups.filterMap fun name => (lastGiven? name pairs).map fun value => (name, value)

/-- A name that is given another time is left where it is. -/
theorem eraseDups_concat (names : List String) (name : String) :
    (names ++ [name]).eraseDups = if name ∈ names then names.eraseDups else names.eraseDups ++ [name] := by
  rw [List.eraseDups_append]
  by_cases earlier : name ∈ names
  · simp [List.removeAll, earlier]
  · simp [List.removeAll, earlier, List.eraseDups_cons]

theorem collect_concat (pairs : List (String × α)) (name : String) (value : α) :
    collect (pairs ++ [(name, value)]) = putEntry name value (collect pairs) := by
  rw [collect, List.foldl_concat, ← collect]

/-- Collected entries have the given names, each in its first place. -/
theorem keysOf_collect (pairs : List (String × α)) : keysOf (collect pairs) = (keysOf pairs).eraseDups := by
  induction pairs using List.reverseRecOn with
  | nil => rfl
  | append_singleton pairs pair ih =>
      obtain ⟨name, value⟩ := pair
      have names : keysOf (pairs ++ [(name, value)]) = keysOf pairs ++ [name] := by
        simp only [keysOf, List.map_append, List.map_cons, List.map_nil]
      rw [collect_concat, keysOf_putEntry, ih, names, eraseDups_concat]
      simp only [List.mem_eraseDups]

/-- Entries with distinct names are known from the names and what a look-up finds. -/
theorem eq_filterMap_lookup {entries : List (String × α)} (distinct : (keysOf entries).Nodup) :
    entries = (keysOf entries).filterMap fun name => (entries.lookup name).map fun value => (name, value) := by
  have found : ∀ entry ∈ entries,
      ((entries.lookup entry.1).map fun value => (entry.1, value)) = some entry := by
    intro entry member
    rw [lookup_of_mem distinct member]
    rfl
  rw [keysOf, List.filterMap_map]
  calc entries
    _ = entries.filterMap some := List.filterMap_some.symm
    _ = entries.filterMap fun entry => (entries.lookup entry.1).map fun value => (entry.1, value) :=
        List.filterMap_congr fun entry member => (found entry member).symm

/-- Pairs that are given one after the other are deduplicated. -/
theorem collect_eq_deduplicated (pairs : List (String × α)) : collect pairs = deduplicated pairs := by
  rw [eq_filterMap_lookup (nodup_keysOf_collect pairs), keysOf_collect]
  simp only [lookup_collect]
  rfl

theorem keysOf_deduplicated (pairs : List (String × α)) :
    keysOf (deduplicated pairs) = (keysOf pairs).eraseDups := by
  rw [← collect_eq_deduplicated, keysOf_collect]

theorem mem_keysOf_deduplicated {pairs : List (String × α)} {name : String} :
    name ∈ keysOf (deduplicated pairs) ↔ name ∈ keysOf pairs := by
  rw [keysOf_deduplicated, List.mem_eraseDups]

theorem deduplicated_eq_nil_iff {pairs : List (String × α)} : deduplicated pairs = [] ↔ pairs = [] := by
  have none (entries : List (String × α)) : entries = [] ↔ ∀ name, name ∉ keysOf entries := by
    rw [← List.eq_nil_iff_forall_not_mem, keysOf, List.map_eq_nil_iff]
  rw [none, none pairs]
  simp only [mem_keysOf_deduplicated]

/-- There are as many entries as different names. -/
theorem length_deduplicated (pairs : List (String × α)) :
    (deduplicated pairs).length = (keysOf pairs).toFinset.card := by
  have distinct := nodup_keysOf_collect pairs
  rw [collect_eq_deduplicated] at distinct
  have names : (keysOf (deduplicated pairs)).toFinset = (keysOf pairs).toFinset := by
    ext name
    rw [List.mem_toFinset, List.mem_toFinset, mem_keysOf_deduplicated]
  rw [← names, List.toFinset_card_of_nodup distinct, keysOf, List.length_map]

/-- The names are those under which something is given last. -/
theorem mem_keysOf_iff_lastGiven? {pairs : List (String × α)} {name : String} :
    name ∈ keysOf pairs ↔ ∃ value, lastGiven? name pairs = some value := by
  rw [lastGiven?, ← mem_keysOf_iff, keysOf, keysOf, List.map_reverse, List.mem_reverse]

/-- A pair does not count if its name is given another time after it. -/
theorem deduplicated_of_replaced {before after : List (String × α)} {name : String} (old other : α)
    (again : name ∈ keysOf after) :
    deduplicated (before ++ (name, old) :: after) = deduplicated (before ++ (name, other) :: after) := by
  have names : keysOf (before ++ (name, old) :: after) = keysOf (before ++ (name, other) :: after) := by
    simp only [keysOf, List.map_append, List.map_cons]
  have given : ∀ key, lastGiven? key (before ++ (name, old) :: after) =
      lastGiven? key (before ++ (name, other) :: after) := by
    intro key
    rw [lastGiven?_append, lastGiven?_append, lastGiven?_cons, lastGiven?_cons]
    by_cases same : key = name
    · -- the look-up ends at the later pair
      obtain ⟨value, found⟩ := mem_keysOf_iff_lastGiven?.mp again
      rw [same, found]
      rfl
    · simp only [same, if_false]
  simp only [deduplicated, names, given]

theorem putEntry_of_fresh {entries : List (String × α)} {name : String} (fresh : name ∉ keysOf entries) (value : α) :
    putEntry name value entries = entries ++ [(name, value)] := by
  induction entries with
  | nil => rfl
  | cons head rest ih =>
      obtain ⟨key, old⟩ := head
      obtain ⟨other, later⟩ := List.ne_and_not_mem_of_not_mem_cons fresh
      rw [putEntry, if_neg (Ne.symm other), ih later, List.cons_append]

/-- Entries with distinct names stay as they are. -/
theorem collect_of_nodup {entries : List (String × α)} (distinct : (keysOf entries).Nodup) :
    collect entries = entries := by
  induction entries using List.reverseRecOn with
  | nil => rfl
  | append_singleton entries entry ih =>
      obtain ⟨name, value⟩ := entry
      rw [keysOf, List.map_append, List.nodup_append] at distinct
      obtain ⟨earlier, -, apart⟩ := distinct
      have fresh : name ∉ keysOf entries := fun member => apart name member name (List.mem_singleton_self name) rfl
      rw [collect_concat, ih earlier, putEntry_of_fresh fresh]

theorem deduplicated_deduplicated (pairs : List (String × α)) :
    deduplicated (deduplicated pairs) = deduplicated pairs := by
  rw [← collect_eq_deduplicated pairs, ← collect_eq_deduplicated, collect_of_nodup (nodup_keysOf_collect pairs)]

namespace Record

@[ext]
theorem ext {record record' : Record α} (same : record.entries = record'.entries) : record = record' := by
  cases record
  cases record'
  cases same
  rfl

theorem entries_ofList (pairs : List (String × α)) : (ofList pairs).entries = deduplicated pairs :=
  collect_eq_deduplicated pairs

/-- A record is made again from its entries. -/
theorem ofList_entries (record : Record α) : ofList record.entries = record :=
  ext (collect_of_nodup record.distinct)

theorem ofList_concat (pairs : List (String × α)) (name : String) (value : α) :
    ofList (pairs ++ [(name, value)]) = (ofList pairs).insert name value :=
  ext (collect_concat pairs name value)

/-- Insertions into a record go on from its entries. -/
theorem foldl_insert (record : Record α) (pairs : List (String × α)) :
    pairs.foldl (fun record pair => record.insert pair.1 pair.2) record = ofList (record.entries ++ pairs) := by
  induction pairs using List.reverseRecOn with
  | nil => rw [List.append_nil, ofList_entries, List.foldl_nil]
  | append_singleton pairs pair ih => rw [List.foldl_concat, ih, ← List.append_assoc, ofList_concat]

/-- A record that comes from pairs, among which names may be repeated, as all that look at it see it. -/
structure GivenAs (record : Record α) (given : List (String × α)) : Prop where
  /-- There is one entry for each name, in the place of the first pair of the name and with the value of the last. -/
  entries : record.entries = deduplicated given
  distinct : record.keys.Nodup
  /-- The names are in the order of their first appearance. -/
  keys : record.keys = (keysOf given).eraseDups
  mem_keys (name : String) : name ∈ record.keys ↔ name ∈ keysOf given
  /-- A name holds what it was given last. -/
  get? (name : String) : record.get? name = lastGiven? name given
  contains (name : String) :
    (record.contains name = true ↔ name ∈ record.keys) ∧ ((record.get? name).isSome = true ↔ name ∈ record.keys)
  size : record.size = record.keys.length ∧ record.size = (keysOf given).toFinset.card
  isEmpty : record.isEmpty = true ↔ given = []

theorem givenAs_ofList (given : List (String × α)) : (ofList given).GivenAs given where
  entries := entries_ofList given
  distinct := nodup_keysOf_collect given
  keys := keysOf_collect given
  mem_keys name := by rw [Record.keys, entries_ofList, mem_keysOf_deduplicated]
  get? name := lookup_collect name given
  contains name := ⟨contains_iff, contains_iff⟩
  size := by
    rw [← length_deduplicated, ← entries_ofList, Record.keys, keysOf, List.length_map]
    exact ⟨rfl, rfl⟩
  isEmpty := by rw [Record.isEmpty, List.isEmpty_iff, entries_ofList, deduplicated_eq_nil_iff]

end Record

end RecordCheck
