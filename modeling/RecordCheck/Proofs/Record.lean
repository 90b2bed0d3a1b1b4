import RecordCheck.Record

/-!
# Looking up collected entries

Of the pairs that are collected under one name the last one counts (`lookup_collect`). In a list with distinct names,
such as that of a `Record`, a look-up finds every entry that the list holds.
-/

namespace RecordCheck

variable {α : Type}

/-- The value that the last pair of the name gives. -/
def lastGiven? (name : String) (pairs : List (String × α)) : Option α := pairs.reverse.lookup name

theorem mem_of_lookup {entries : List (String × α)} {name : String} {value : α}
    (found : entries.lookup name = some value) : (name, value) ∈ entries := by
  obtain ⟨before, after, rfl, -⟩ := List.lookup_eq_some_iff.mp found
  simp

theorem lookup_eq_none_of_notMem {entries : List (String × α)} {name : String}
    (absent : name ∉ keysOf entries) : entries.lookup name = none := by
  apply List.lookup_eq_none_iff.mpr
  intro entry member
  have other : name ≠ entry.1 := by
    rintro rfl
    exact absent (List.mem_map_of_mem member)
  simpa using other

theorem lookup_of_mem {entries : List (String × α)} (distinct : (keysOf entries).Nodup)
    {name : String} {value : α} (member : (name, value) ∈ entries) :
    entries.lookup name = some value := by
  obtain ⟨before, after, rfl⟩ := List.append_of_mem member
  rw [keysOf, List.map_append, List.nodup_append] at distinct
  have absent : name ∉ keysOf before := fun earlier => distinct.2.2 name earlier name List.mem_cons_self rfl
  rw [List.lookup_append, lookup_eq_none_of_notMem absent, Option.none_or, List.lookup_cons_self]

/-- The names of a list are those that a look-up finds. -/
theorem mem_keysOf_iff {entries : List (String × α)} {name : String} :
    name ∈ keysOf entries ↔ ∃ value, entries.lookup name = some value := by
  constructor
  · intro member
    cases found : entries.lookup name with
    | some value => exact ⟨value, rfl⟩
    | none =>
        obtain ⟨entry, inside, rfl⟩ := List.mem_map.mp member
        have differs := List.lookup_eq_none_iff.mp found entry inside
        simp at differs
  · rintro ⟨value, found⟩
    exact List.mem_map_of_mem (mem_of_lookup found)

theorem lastGiven?_append (name : String) (before after : List (String × α)) :
    lastGiven? name (before ++ after) = (lastGiven? name after).or (lastGiven? name before) := by
  rw [lastGiven?, List.reverse_append, List.lookup_append]
  rfl

theorem lastGiven?_cons (name : String) (pair : String × α) (rest : List (String × α)) :
    lastGiven? name (pair :: rest) =
      (lastGiven? name rest).or (if name = pair.1 then some pair.2 else none) := by
  obtain ⟨key, value⟩ := pair
  rw [← List.singleton_append, lastGiven?_append]
  congr 1
  by_cases same : name = key
  · simp [lastGiven?, same]
  · simp [lastGiven?, List.lookup_cons, beq_eq_false_iff_ne.mpr same, same]

theorem mem_of_lastGiven? {pairs : List (String × α)} {name : String} {value : α}
    (found : lastGiven? name pairs = some value) : (name, value) ∈ pairs :=
  List.mem_reverse.mp (mem_of_lookup found)

private theorem lookup_foldl_putEntry (name : String) (pairs entries : List (String × α)) :
    (pairs.foldl (fun entries pair => putEntry pair.1 pair.2 entries) entries).lookup name =
      (lastGiven? name pairs).or (entries.lookup name) := by
  induction pairs generalizing entries with
  | nil => rfl
  | cons pair rest ih =>
      rw [List.foldl_cons, ih, lookup_putEntry, lastGiven?_cons]
      by_cases same : name = pair.1
      · cases lastGiven? name rest <;> simp [same]
      · simp [same]

/-- Of the pairs with one name the last one counts. -/
theorem lookup_collect (name : String) (pairs : List (String × α)) :
    (collect pairs).lookup name = lastGiven? name pairs := by
  have looked := lookup_foldl_putEntry name pairs []
  rwa [List.lookup_nil, Option.or_none] at looked

theorem mem_collect_iff {pairs : List (String × α)} {name : String} {value : α} :
    (name, value) ∈ collect pairs ↔ lastGiven? name pairs = some value := by
  rw [← lookup_collect]
  exact ⟨lookup_of_mem (nodup_keysOf_collect pairs), mem_of_lookup⟩

theorem lastGiven?_map {β : Type} (f : α → β) (name : String) (pairs : List (String × α)) :
    lastGiven? name (pairs.map fun pair => (pair.1, f pair.2)) = (lastGiven? name pairs).map f := by
  induction pairs with
  | nil => rfl
  | cons pair rest ih =>
      rw [List.map_cons, lastGiven?_cons, ih, lastGiven?_cons]
      split
      · cases lastGiven? name rest <;> rfl
      · simp

theorem keysOf_map {β : Type} (f : α → β) (entries : List (String × α)) :
    keysOf (entries.map fun entry => (entry.1, f entry.2)) = keysOf entries := by
  simp only [keysOf, List.map_map, Function.comp_def]

theorem length_eq_of_keysOf_eq {β : Type} {xs : List (String × α)} {ys : List (String × β)}
    (names : keysOf xs = keysOf ys) : xs.length = ys.length := by
  simpa [keysOf] using congrArg List.length names

/-- Entries in one place have one name if the lists have the same names in the same order. -/
theorem fst_eq_of_keysOf_eq {β : Type} {xs : List (String × α)} {ys : List (String × β)}
    (names : keysOf xs = keysOf ys) {i : Nat} {x : String × α} {y : String × β} (atX : xs[i]? = some x)
    (atY : ys[i]? = some y) : x.1 = y.1 := by
  have same : (keysOf xs)[i]? = (keysOf ys)[i]? := congrArg (·[i]?) names
  simpa [keysOf, List.getElem?_map, atX, atY] using same

private theorem putEntry_map {β : Type} (f : α → β) (name : String) (value : α) (entries : List (String × α)) :
    putEntry name (f value) (entries.map fun entry => (entry.1, f entry.2)) =
      (putEntry name value entries).map fun entry => (entry.1, f entry.2) := by
  induction entries with
  | nil => rfl
  | cons head rest ih =>
      obtain ⟨key, old⟩ := head
      by_cases same : key = name
      · simp [putEntry, same]
      · simp only [List.map_cons, putEntry, if_neg same, ih]

/-- Changing all values before or after the pairs are collected comes to the same. -/
theorem collect_map {β : Type} (f : α → β) (pairs : List (String × α)) :
    collect (pairs.map fun pair => (pair.1, f pair.2)) =
      (collect pairs).map fun entry => (entry.1, f entry.2) := by
  have folded : ∀ entries : List (String × α),
      (pairs.map fun pair => (pair.1, f pair.2)).foldl (fun entries pair => putEntry pair.1 pair.2 entries)
          (entries.map fun entry => (entry.1, f entry.2)) =
        (pairs.foldl (fun entries pair => putEntry pair.1 pair.2 entries) entries).map
          fun entry => (entry.1, f entry.2) := by
    induction pairs with
    | nil => exact fun entries => rfl
    | cons pair rest ih =>
        intro entries
        simp only [List.map_cons, List.foldl_cons, putEntry_map]
        exact ih (putEntry pair.1 pair.2 entries)
  exact folded []

/-- Leaving out all pairs of one name does not change what the others are given. -/
theorem lastGiven?_filter_ne (removed name : String) (pairs : List (String × α)) :
    lastGiven? name (pairs.filter fun pair => pair.1 ≠ removed) =
      if name = removed then none else lastGiven? name pairs := by
  induction pairs with
  | nil => simp [lastGiven?]
  | cons pair rest ih =>
      by_cases gone : pair.1 = removed
      · rw [List.filter_cons_of_neg (by simp [gone]), ih, lastGiven?_cons, gone]
        split
        · rfl
        · simp
      · rw [List.filter_cons_of_pos (by simp [gone]), lastGiven?_cons, ih, lastGiven?_cons]
        split
        · rename_i same
          simp [same, Ne.symm gone]
        · rfl

/-- Replacing the value of one pair changes at most what its name is given. -/
theorem lastGiven?_of_replaced {before after : List (String × α)} {key name : String} {new value : α} (old : α)
    (given : lastGiven? name (before ++ (key, new) :: after) = some value) :
    lastGiven? name (before ++ (key, old) :: after) = some value ∨
      value = new ∧ lastGiven? name (before ++ (key, old) :: after) = some old := by
  rw [lastGiven?_append, lastGiven?_cons] at given ⊢
  -- a later pair of the name hides the one that is replaced
  cases later : lastGiven? name after with
  | some last =>
      rw [later] at given
      exact .inl given
  | none =>
      rw [later] at given
      by_cases same : name = key
      · simp only [same, if_true, Option.none_or, Option.some_or, Option.some.injEq] at given ⊢
        exact .inr ⟨given.symm, trivial⟩
      · simp only [same, if_false] at given ⊢
        exact .inl given

theorem mem_putEntry {name : String} {value : α} {entries : List (String × α)} {entry : String × α}
    (member : entry ∈ putEntry name value entries) : entry = (name, value) ∨ entry ∈ entries := by
  induction entries with
  | nil => exact .inl (List.mem_singleton.mp member)
  | cons head rest ih =>
      obtain ⟨key, old⟩ := head
      by_cases same : key = name
      · simp only [putEntry, if_pos same, List.mem_cons] at member
        rcases member with rfl | later
        · exact .inl (by rw [same])
        · exact .inr (List.mem_cons_of_mem _ later)
      · simp only [putEntry, if_neg same, List.mem_cons] at member
        rcases member with rfl | later
        · exact .inr List.mem_cons_self
        · exact (ih later).imp_right (List.mem_cons_of_mem _)

namespace Record

/-- The record without the entry of a name. -/
def erase (record : Record α) (name : String) : Record α :=
  ⟨record.entries.filter fun entry => entry.1 ≠ name, record.distinct.sublist (List.filter_sublist.map Prod.fst)⟩

theorem contains_iff {record : Record α} {name : String} : record.contains name = true ↔ name ∈ record.keys := by
  rw [contains, Option.isSome_iff_exists, keys, mem_keysOf_iff]
  rfl

/-- The record with a function applied to every value. -/
def map {β : Type} (f : α → β) (record : Record α) : Record β :=
  ⟨record.entries.map fun entry => (entry.1, f entry.2), (keysOf_map f record.entries).symm ▸ record.distinct⟩

@[simp] theorem keys_map {β : Type} (f : α → β) (record : Record α) : (record.map f).keys = record.keys :=
  keysOf_map f record.entries

end Record

end RecordCheck
