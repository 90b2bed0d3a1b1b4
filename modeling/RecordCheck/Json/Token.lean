import RecordCheck.Json.Numeral

/-!
# Tokens

The tokens of a document: punctuation, words, numbers and strings with their escapes resolved. Where no token can
be read, one `invalid` token ends the list, so that a reader can stop at an earlier fault first.
-/

namespace RecordCheck.Json

/-- A token of a document. -/
inductive Token where
  | beginArray
  | endArray
  | beginObject
  | endObject
  | colon
  | comma
  | null
  | bool (b : Bool)
  | number (n : Number)
  | string (s : String)
  | invalid
deriving DecidableEq

namespace Token

/-- The characters that may stand between tokens. -/
def isSpace (c : Char) : Bool := c = ' ' || c = '\n' || c = '\t' || c = '\r'

/-- The number that a hexadecimal digit of either case stands for. -/
def hexDigit? (c : Char) : Option Nat :=
  if '0' ≤ c ∧ c ≤ '9' then some (c.toNat - '0'.toNat)
  else if 'a' ≤ c ∧ c ≤ 'f' then some (c.toNat - 'a'.toNat + 10)
  else if 'A' ≤ c ∧ c ≤ 'F' then some (c.toNat - 'A'.toNat + 10)
  else none

/-- A 16-bit unit written in four hexadecimal digits, and what follows it. -/
def unit? : List Char → Option (Nat × List Char)
  | a :: b :: c :: d :: rest =>
      match hexDigit? a, hexDigit? b, hexDigit? c, hexDigit? d with
      | some a, some b, some c, some d => some (((a * 16 + b) * 16 + c) * 16 + d, rest)
      | _, _, _, _ => none
  | _ => none

/-- Whether a unit is the first half of a surrogate pair. -/
def isHighSurrogate (unit : Nat) : Bool := decide (0xD800 ≤ unit ∧ unit < 0xDC00)

/-- Whether a unit is the second half of a surrogate pair. -/
def isLowSurrogate (unit : Nat) : Bool := decide (0xDC00 ≤ unit ∧ unit < 0xE000)

/-- The character of two surrogates. -/
def combine (high low : Nat) : Char := Char.ofNat (0x10000 + (high - 0xD800) * 0x400 + (low - 0xDC00))

/-- The second half of a surrogate pair, as an escape. -/
def lowSurrogate? : List Char → Option (Nat × List Char)
  | '\\' :: 'u' :: rest =>
      match unit? rest with
      | some (low, after) => if isLowSurrogate low then some (low, after) else none
      | none => none
  | _ => none

/-- A character given by units; a surrogate without its partner is refused. -/
def codePoint? (cs : List Char) : Option (Char × List Char) :=
  match unit? cs with
  | none => none
  | some (unit, rest) =>
      if isHighSurrogate unit then
        match lowSurrogate? rest with
        | some (low, after) => some (combine unit low, after)
        | none => none
      else if isLowSurrogate unit then none
      else some (Char.ofNat unit, rest)

/-- The characters that have an escape of one letter. -/
def shortEscape? (c : Char) : Option Char :=
  if c = '"' ∨ c = '\\' ∨ c = '/' then some c
  else if c = 'b' then some '\x08'
  else if c = 'f' then some '\x0c'
  else if c = 'n' then some '\n'
  else if c = 'r' then some '\r'
  else if c = 't' then some '\t'
  else none

/-- One character inside a string, and what follows it; controls have to be escaped. -/
def character? : List Char → Option (Char × List Char)
  | [] => none
  | c :: rest =>
      if c = '\\' then
        match rest with
        | [] => none
        | e :: after => if e = 'u' then codePoint? after else (shortEscape? e).map fun c => (c, after)
      else if c.toNat < 0x20 then none
      else some (c, rest)

theorem unit?_length {cs : List Char} {unit : Nat} {rest : List Char}
    (h : unit? cs = some (unit, rest)) : rest.length < cs.length := by
  unfold unit? at h
  split at h
  · split at h
    · cases h
      simp only [List.length_cons]
      omega
    · cases h
  · cases h

theorem lowSurrogate?_length {cs : List Char} {low : Nat} {rest : List Char}
    (h : lowSurrogate? cs = some (low, rest)) : rest.length < cs.length := by
  unfold lowSurrogate? at h
  split at h
  · split at h
    · rename_i found
      split at h
      · cases h
        have := unit?_length found
        simp only [List.length_cons]
        omega
      · cases h
    · cases h
  · cases h

theorem codePoint?_length {cs : List Char} {c : Char} {rest : List Char}
    (h : codePoint? cs = some (c, rest)) : rest.length < cs.length := by
  unfold codePoint? at h
  split at h
  · cases h
  · rename_i found
    have first := unit?_length found
    split at h
    · split at h
      · rename_i second
        simp only [Option.some.injEq, Prod.mk.injEq] at h
        obtain ⟨_, rfl⟩ := h
        have := lowSurrogate?_length second
        omega
      · cases h
    · split at h
      · cases h
      · simp only [Option.some.injEq, Prod.mk.injEq] at h
        obtain ⟨_, rfl⟩ := h
        exact first

theorem character?_length {cs : List Char} {c : Char} {rest : List Char}
    (h : character? cs = some (c, rest)) : rest.length < cs.length := by
  unfold character? at h
  split at h
  · cases h
  · split at h
    · split at h
      · cases h
      · split at h
        · have := codePoint?_length h
          simp only [List.length_cons]
          omega
        · simp only [Option.map_eq_some_iff, Prod.mk.injEq] at h
          obtain ⟨_, _, _, rfl⟩ := h
          simp only [List.length_cons]
          omega
    · split at h
      · cases h
      · cases h
        simp only [List.length_cons]
        omega

/-- The characters of a string whose opening quote has been read, and what follows its closing quote. -/
def stringBody? (cs : List Char) : Option (List Char × List Char) :=
  match cs with
  | [] => none
  | c :: rest =>
      if c = '"' then some ([], rest)
      else
        match _found : character? (c :: rest) with
        | none => none
        | some (first, after) =>
            match stringBody? after with
            | none => none
            | some (body, remaining) => some (first :: body, remaining)
termination_by cs.length
decreasing_by exact character?_length _found

theorem stringBody?_length {cs body rest : List Char}
    (h : stringBody? cs = some (body, rest)) : rest.length < cs.length := by
  induction size : cs.length using Nat.strongRecOn generalizing cs body rest with
  | ind n ih =>
      rw [stringBody?.eq_def] at h
      split at h
      · cases h
      · rename_i c after
        split at h
        · cases h
          simp only [List.length_cons] at size
          omega
        · split at h
          · cases h
          · rename_i found
            have shorter := character?_length found
            split at h
            · cases h
            · rename_i inner
              cases h
              have := ih _ (size ▸ shorter) inner rfl
              omega

/-- What follows a word at the start of a text. -/
def afterWord? (word cs : List Char) : Option (List Char) :=
  if word.isPrefixOf cs then some (cs.drop word.length) else none

theorem afterWord?_length {word cs rest : List Char} (nonempty : word ≠ [])
    (h : afterWord? word cs = some rest) : rest.length < cs.length := by
  unfold afterWord? at h
  split at h
  · rename_i starts
    cases h
    have := (List.isPrefixOf_iff_prefix.mp starts).length_le
    have := List.length_pos_iff.mpr nonempty
    simp only [List.length_drop]
    omega
  · cases h

/-- The token of a single character. -/
def punctuation? (c : Char) : Option Token :=
  if c = '[' then some beginArray
  else if c = ']' then some endArray
  else if c = '\x7b' then some beginObject
  else if c = '\x7d' then some endObject
  else if c = ':' then some colon
  else if c = ',' then some comma
  else none

/-- The words, each with the token it stands for. -/
def words : List (List Char × Token) :=
  [(['n', 'u', 'l', 'l'], null), (['t', 'r', 'u', 'e'], bool true), (['f', 'a', 'l', 's', 'e'], bool false)]

theorem word_ne_nil {entry : List Char × Token} (h : entry ∈ words) : entry.1 ≠ [] := by
  simp only [words, List.mem_cons, List.not_mem_nil, or_false] at h
  rcases h with rfl | rfl | rfl <;> simp

/-- The word at the start of a text. -/
def word? (cs : List Char) : Option (Token × List Char) :=
  words.findSome? fun entry => (afterWord? entry.1 cs).map fun rest => (entry.2, rest)

theorem word?_length {cs rest : List Char} {token : Token} (h : word? cs = some (token, rest)) :
    rest.length < cs.length := by
  obtain ⟨entry, member, found⟩ := List.exists_of_findSome?_eq_some h
  simp only [Option.map_eq_some_iff, Prod.mk.injEq] at found
  obtain ⟨_, after, _, rfl⟩ := found
  exact afterWord?_length (word_ne_nil member) after

/-- The number at the start of a text. -/
def number? (cs : List Char) : Option (Token × List Char) :=
  match Numeral.scan? cs with
  | none => none
  | some (numeral, rest) => numeral.value?.map fun n => (number n, rest)

theorem number?_length {cs rest : List Char} {token : Token} (h : number? cs = some (token, rest)) :
    rest.length < cs.length := by
  unfold number? at h
  split at h
  · cases h
  · rename_i found
    simp only [Option.map_eq_some_iff, Prod.mk.injEq] at h
    obtain ⟨_, _, _, rfl⟩ := h
    exact Numeral.scan?_length found

/-- The token at the start of a text, and what follows it. -/
def lexeme? : List Char → Option (Token × List Char)
  | [] => none
  | c :: rest =>
      match punctuation? c with
      | some token => some (token, rest)
      | none =>
          if c = '"' then
            match stringBody? rest with
            | none => none
            | some (body, after) => some (string (String.ofList body), after)
          else if isDigit c ∨ c = '-' then number? (c :: rest)
          else word? (c :: rest)

theorem lexeme?_length {cs rest : List Char} {token : Token} (h : lexeme? cs = some (token, rest)) :
    rest.length < cs.length := by
  unfold lexeme? at h
  split at h
  · cases h
  · split at h
    · cases h
      simp
    · split at h
      · split at h
        · cases h
        · rename_i found
          cases h
          have := stringBody?_length found
          simp only [List.length_cons]
          omega
      · split at h
        · exact number?_length h
        · exact word?_length h

/-- The tokens of a list of characters. -/
def ofChars (cs : List Char) : List Token :=
  match cs with
  | [] => []
  | c :: rest =>
      if isSpace c then ofChars rest
      else
        match _found : lexeme? (c :: rest) with
        | none => [invalid]
        | some (token, after) => token :: ofChars after
termination_by cs.length
decreasing_by
  · simp
  · exact lexeme?_length _found

/-- The tokens of a text. -/
def ofText (text : String) : List Token := ofChars text.toList

end Token

end RecordCheck.Json
