/-!
# Ordered records

A `Record α` is a finite map from names to values that remembers the order in which the names were first given.
Giving a name again replaces its value in place. The operations are stated on lists of entries first
(`putEntry`, `collect`), for the types that hold such a list inside a recursive definition.
-/

namespace RecordCheck

variable {α : Type}

/-- Gives a name a value: in place if the list has the name, at the end otherwise. -/
def putEntry (name : String) (value : α) : List (String × α) → List (String × α)
  | [] => [(name, value)]
  | (key, old) :: rest =>
      if key = name then (key, value) :: rest else (key, old) :: putEntry name value rest

/-- The entries that arise when pairs are given one after the other. -/
def collect (pairs : List (String × α)) : List (String × α) :=
  pairs.foldl (fun entries pair => putEntry pair.1 pair.2 entries) []

/-- The names of a list of entries. -/
def keysOf (entries : List (String × α)) : List String := entries.map Prod.fst

theorem keysOf_putEntry (name : String) (value : α) (entries : List (String × α)) :
    keysOf (putEntry name value entries) =
      if name ∈ keysOf entries then keysOf entries else keysOf entries ++ [name] := by
  induction entries with
  | nil => simp [putEntry, keysOf]
  | cons head rest ih =>
      obtain ⟨key, old⟩ := head
      by_cases same : key = name
      · simp [putEntry, keysOf, same]
      · simp only [putEntry, if_neg same]
        simp only [keysOf, List.map_cons] at ih ⊢
        rw [ih]
        by_cases later : name ∈ List.map Prod.fst rest
        · simp [later]
        · simp [later, Ne.symm same]

theorem nodup_keysOf_putEntry (name : String) (value : α) {entries : List (String × α)}
    (distinct : (keysOf entries).Nodup) : (keysOf (putEntry name value entries)).Nodup := by
  rw [keysOf_putEntry]
  split
  · exact distinct
  · rename_i fresh
    rw [List.nodup_append]
    refine ⟨distinct, by simp, ?_⟩
    intro a ha b hb
    obtain rfl := List.mem_singleton.mp hb
    intro equal
    exact fresh (equal ▸ ha)

private theorem nodup_keysOf_foldl (pairs : List (String × α)) {entries : List (String × α)}
    (distinct : (keysOf entries).Nodup) :
    (keysOf (pairs.foldl (fun entries pair => putEntry pair.1 pair.2 entries) entries)).Nodup := by
  induction pairs generalizing entries with
  | nil => exact distinct
  | cons pair rest ih => exact ih (nodup_keysOf_putEntry pair.1 pair.2 distinct)

/-- Collected entries have distinct names. -/
theorem nodup_keysOf_collect (pairs : List (String × α)) : (keysOf (collect pairs)).Nodup :=
  nodup_keysOf_foldl pairs (by simp [keysOf])

/-- A name that was just given a value has that value, and no other name changes. -/
theorem lookup_putEntry (name other : String) (value : α) (entries : List (String × α)) :
    (putEntry name value entries).lookup other =
      if other = name then some value else entries.lookup other := by
  induction entries with
  | nil =>
      by_cases same : other = name
      · simp [putEntry, same]
      · simp [putEntry, List.lookup_cons, beq_eq_false_iff_ne.mpr same, same]
  | cons head rest ih =>
      obtain ⟨key, old⟩ := head
      by_cases here : key = name
      · subst here
        by_cases same : other = key
        · simp [putEntry, same]
        · simp [putEntry, List.lookup_cons, beq_eq_false_iff_ne.mpr same, same]
      · by_cases same : other = key
        · subst same
          simp [putEntry, here]
        · simp only [putEntry, if_neg here, List.lookup_cons, beq_eq_false_iff_ne.mpr same, ih]

/-- Gives a name a value, and hands back the value that it replaces. -/
def exchangeEntry (name : String) (value : α) : List (String × α) → Option α × List (String × α)
  | [] => (none, [(name, value)])
  | (key, old) :: rest =>
      if key = name then (some old, (key, value) :: rest)
      else
        let (replaced, entries) := exchangeEntry name value rest
        (replaced, (key, old) :: entries)

/-- What is handed back is what a look-up would have found. -/
theorem exchangeEntry_eq (name : String) (value : α) (entries : List (String × α)) :
    exchangeEntry name value entries = (entries.lookup name, putEntry name value entries) := by
  induction entries with
  | nil => rfl
  | cons head rest ih =>
      obtain ⟨key, old⟩ := head
      by_cases same : key = name
      · simp [exchangeEntry, putEntry, same]
      · simp [exchangeEntry, putEntry, List.lookup_cons, beq_eq_false_iff_ne.mpr (Ne.symm same), same, ih]

theorem nodup_keysOf_exchangeEntry (name : String) (value : α) {entries : List (String × α)}
    (distinct : (keysOf entries).Nodup) : (keysOf (exchangeEntry name value entries).2).Nodup := by
  rw [exchangeEntry_eq]
  exact nodup_keysOf_putEntry name value distinct

/-- A finite map with its names in the order of their first appearance. -/
structure Record (α : Type) where
  entries : List (String × α)
  distinct : (keysOf entries).Nodup

namespace Record

/-- The record without names. -/
def empty : Record α := ⟨[], by simp [keysOf]⟩

/-- By default a record is empty. -/
instance : Inhabited (Record α) := ⟨empty⟩

/-- The record that collects the pairs in order. -/
def ofList (pairs : List (String × α)) : Record α := ⟨collect pairs, nodup_keysOf_collect pairs⟩

/-- Gives a name a value, in place if the record has the name. -/
def insert (record : Record α) (name : String) (value : α) : Record α :=
  ⟨putEntry name value record.entries, nodup_keysOf_putEntry name value record.distinct⟩

/-- Gives a name a value, and hands back the value that it replaces. -/
def exchange (record : Record α) (name : String) (value : α) : Option α × Record α :=
  let exchanged := exchangeEntry name value record.entries
  (exchanged.1, ⟨exchanged.2, nodup_keysOf_exchangeEntry name value record.distinct⟩)

/-- The value of a name, if the record has the name. -/
def get? (record : Record α) (name : String) : Option α := record.entries.lookup name

/-- Whether the record has the name. -/
def contains (record : Record α) (name : String) : Bool := (record.get? name).isSome

/-- The names in the order of their first appearance. -/
def keys (record : Record α) : List String := keysOf record.entries

/-- How many names the record has. -/
def size (record : Record α) : Nat := record.entries.length

/-- Whether the record has no names. -/
def isEmpty (record : Record α) : Bool := record.entries.isEmpty

theorem get?_insert (record : Record α) (name other : String) (value : α) :
    (record.insert name value).get? other = if other = name then some value else record.get? other :=
  lookup_putEntry name other value record.entries

/-- An exchange is an insertion that looks at what it replaces. -/
theorem exchange_eq (record : Record α) (name : String) (value : α) :
    record.exchange name value = (record.get? name, record.insert name value) := by
  simp only [exchange, exchangeEntry_eq, get?, insert]

theorem keys_insert (record : Record α) (name : String) (value : α) :
    (record.insert name value).keys =
      if name ∈ record.keys then record.keys else record.keys ++ [name] :=
  keysOf_putEntry name value record.entries

end Record

end RecordCheck
