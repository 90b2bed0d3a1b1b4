import Mathlib.Data.List.Basic
import RecordCheck.Json.Reader

/-!
# What the reader has taken

`Json.tokens` writes a document as tokens. A reader knows all tokens that it has taken from the documents it still
holds (`Reader.taken`): each step adds the token that it takes (`Reader.taken_step?`), so a whole run takes the tokens
of the document that it gives, and no others (`Reader.taken_run?`). A text that is read therefore consists of the tokens
of its document (`Json.ofText_of_parse?`).
-/

namespace RecordCheck.Json

mutual

/-- The tokens of a document. -/
def tokens : Json → List Token
  | null => [.null]
  | bool b => [.bool b]
  | number n => [.number n]
  | string s => [.string s]
  | array items => .beginArray :: [.comma].intercalate (itemTokens items) ++ [.endArray]
  | object members => .beginObject :: [.comma].intercalate (memberTokens members) ++ [.endObject]

/-- The tokens of each item of an array. -/
def itemTokens : List Json → List (List Token)
  | [] => []
  | item :: rest => item.tokens :: itemTokens rest

/-- The tokens of each member of an object. -/
def memberTokens : List (String × Json) → List (List Token)
  | [] => []
  | (name, item) :: rest => (.string name :: .colon :: item.tokens) :: memberTokens rest

end

theorem itemTokens_eq_map (items : List Json) : itemTokens items = items.map tokens := by
  induction items with
  | nil => rfl
  | cons item rest ih => rw [itemTokens, ih, List.map_cons]

theorem memberTokens_eq_map (members : List (String × Json)) :
    memberTokens members = members.map fun member => .string member.1 :: .colon :: member.2.tokens := by
  induction members with
  | nil => rfl
  | cons member rest ih => rw [memberTokens, ih, List.map_cons]

/-- The tokens of parts with a comma after each. -/
def followed (parts : List (List Token)) : List Token := parts.flatMap fun part => part ++ [.comma]

theorem intercalate_cons (part : List Token) (rest : List (List Token)) :
    [Token.comma].intercalate (part :: rest) = part ++ rest.flatMap fun next => .comma :: next := by
  induction rest generalizing part with
  | nil => simp
  | cons next rest ih => simp [List.intercalate_cons_cons, ih]

theorem intercalate_concat (parts : List (List Token)) (last : List Token) :
    [Token.comma].intercalate (parts ++ [last]) = followed parts ++ last := by
  induction parts with
  | nil => simp [followed]
  | cons part rest ih =>
      obtain ⟨next, later, split⟩ := List.exists_cons_of_ne_nil (List.append_ne_nil_of_right_ne_nil rest
        (List.cons_ne_nil last []))
      rw [split] at ih
      rw [List.cons_append, split, List.intercalate_cons_cons, ih, followed, followed, List.flatMap_cons]
      simp only [List.append_assoc]

theorem followed_of_ne_nil {parts : List (List Token)} (nonempty : parts ≠ []) :
    followed parts = [Token.comma].intercalate parts ++ [.comma] := by
  obtain ⟨before, last, rfl⟩ := (List.eq_nil_or_concat' parts).resolve_left nonempty
  rw [intercalate_concat, followed, List.flatMap_append, List.append_assoc, List.flatMap_singleton]
  rfl

/-- The tokens of an open array or object, up to the value that is being read in it. -/
def Frame.taken : Frame → List Token
  | array items => .beginArray :: followed (itemTokens items.reverse)
  | object members name => .beginObject :: followed (memberTokens members.reverse) ++ [.string name, .colon]

/-- The tokens of all that is open, of which the innermost comes first. -/
def takenIn (frames : List Frame) : List Token := frames.reverse.flatMap Frame.taken

theorem takenIn_cons (frame : Frame) (frames : List Frame) : takenIn (frame :: frames) = takenIn frames ++ frame.taken := by
  simp [takenIn]

namespace Reader

/-- The tokens that the reader has taken. -/
def taken : Reader → List Token
  | value frames => takenIn frames
  | arrayStart frames => takenIn frames ++ [.beginArray]
  | arrayNext items frames => takenIn frames ++ .beginArray :: [.comma].intercalate (itemTokens items.reverse)
  | objectStart frames => takenIn frames ++ [.beginObject]
  | nameNext members frames => takenIn frames ++ .beginObject :: followed (memberTokens members.reverse)
  | colon members name frames =>
      takenIn frames ++ .beginObject :: followed (memberTokens members.reverse) ++ [.string name]
  | objectNext members frames =>
      takenIn frames ++ .beginObject :: [.comma].intercalate (memberTokens members.reverse)
  | done document => document.tokens

/-- Before a comma something has been read. -/
def Proper : Reader → Prop
  | arrayNext items _ => items ≠ []
  | objectNext members _ => members ≠ []
  | _ => True

theorem proper_place (document : Json) (frames : List Frame) : (place document frames).Proper := by
  cases frames with
  | nil => trivial
  | cons frame frames =>
      cases frame with
      | array | object => exact List.cons_ne_nil _ _

/-- A document that is put into its place has been taken. -/
theorem taken_place (document : Json) (frames : List Frame) :
    (place document frames).taken = takenIn frames ++ document.tokens := by
  cases frames with
  | nil => rfl
  | cons frame frames =>
      rw [takenIn_cons]
      cases frame with
      | array items =>
          simp only [place, taken, Frame.taken, itemTokens_eq_map, List.reverse_cons, List.map_append, List.map_cons,
            List.map_nil, intercalate_concat, List.append_assoc, List.cons_append]
      | object members name =>
          simp only [place, taken, Frame.taken, memberTokens_eq_map, List.reverse_cons, List.map_append, List.map_cons,
            List.map_nil, intercalate_concat, List.append_assoc, List.cons_append, List.nil_append]

theorem taken_beginValue {frames : List Frame} {token : Token} {next : Reader}
    (step : beginValue frames token = some next) : next.Proper ∧ next.taken = takenIn frames ++ [token] := by
  cases token with
  | null | bool | number | string =>
      cases step
      exact ⟨proper_place _ _, taken_place _ _⟩
  | beginArray | beginObject =>
      simp only [beginValue] at step
      split at step
      · cases step
        exact ⟨trivial, rfl⟩
      · cases step
  | _ => cases step

/-- A step adds the token that it takes. -/
theorem taken_step? {reader next : Reader} {token : Token} (proper : reader.Proper)
    (step : reader.step? token = some next) : next.Proper ∧ next.taken = reader.taken ++ [token] := by
  cases reader with
  | value frames => exact taken_beginValue step
  | arrayStart frames =>
      by_cases closed : token = .endArray
      · subst closed
        cases step
        refine ⟨proper_place _ _, ?_⟩
        rw [taken_place, taken, List.append_assoc]
        rfl
      · rw [step?] at step
        · obtain ⟨proper', taken'⟩ := taken_beginValue step
          refine ⟨proper', ?_⟩
          rw [taken', takenIn_cons]
          rfl
        · exact closed
  | arrayNext items frames =>
      have nonempty : itemTokens items.reverse ≠ [] := by
        rw [itemTokens_eq_map]
        simpa [Proper] using proper
      cases token with
      | comma =>
          cases step
          refine ⟨trivial, ?_⟩
          rw [taken, takenIn_cons, Frame.taken, followed_of_ne_nil nonempty, taken, List.append_assoc, List.cons_append]
      | endArray =>
          cases step
          refine ⟨proper_place _ _, ?_⟩
          rw [taken_place, tokens, taken, List.append_assoc, List.cons_append]
      | _ => cases step
  | objectStart frames =>
      cases token with
      | endObject =>
          cases step
          refine ⟨proper_place _ _, ?_⟩
          rw [taken_place, taken, List.append_assoc]
          rfl
      | string name =>
          cases step
          refine ⟨trivial, ?_⟩
          rw [taken, taken]
          rfl
      | _ => cases step
  | nameNext members frames =>
      cases token with
      | string name =>
          cases step
          exact ⟨trivial, rfl⟩
      | _ => cases step
  | colon members name frames =>
      cases token with
      | colon =>
          cases step
          refine ⟨trivial, ?_⟩
          rw [taken, takenIn_cons, Frame.taken, taken]
          simp only [List.append_assoc, List.cons_append, List.nil_append]
      | _ => cases step
  | objectNext members frames =>
      have nonempty : memberTokens members.reverse ≠ [] := by
        rw [memberTokens_eq_map]
        simpa [Proper] using proper
      cases token with
      | comma =>
          cases step
          refine ⟨trivial, ?_⟩
          rw [taken, followed_of_ne_nil nonempty, taken, List.append_assoc, List.cons_append]
      | endObject =>
          cases step
          refine ⟨proper_place _ _, ?_⟩
          rw [taken_place, tokens, taken, List.append_assoc, List.cons_append]
      | _ => cases step
  | done => cases step

/-- What a run takes is what the document that it gives is written with. -/
theorem taken_run? {reader : Reader} {input rest : List Token} {document : Json} (proper : reader.Proper)
    (read : reader.run? input = some (document, rest)) : reader.taken ++ input = document.tokens ++ rest := by
  induction input generalizing reader with
  | nil =>
      cases reader with
      | done =>
          cases read
          rfl
      | _ => cases read
  | cons token later ih =>
      by_cases finished : ∃ document, reader = done document
      · obtain ⟨document, rfl⟩ := finished
        cases read
        rfl
      · rw [run?] at read
        · split at read
          · rename_i next step
            obtain ⟨proper', taken'⟩ := taken_step? proper step
            have later' := ih proper' read
            rwa [taken', List.append_assoc] at later'
          · cases read
        · intro document same
          exact finished ⟨document, same⟩

end Reader

/-- A text that is read consists of the tokens of its document. -/
theorem ofText_of_parse? {text : String} {document : Json} (read : parse? text = some document) :
    Token.ofText text = document.tokens := by
  unfold parse? ofTokens? at read
  split at read
  · rename_i split
    cases read
    have start : (Reader.value []).Proper := trivial
    have taken := Reader.taken_run? start split
    rwa [List.append_nil] at taken
  · cases read

end RecordCheck.Json
