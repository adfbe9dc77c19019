import ChangeReview.Proofs.Json.Token

/-!
# Reading JSON

A JSON text is read token by token, with a stack of the arrays and objects that are open.
`Json.read?_pretty` says that the reading of a written value gives the value back.

## Main definitions

- `Json`: the values that are read.
- `Json.step`: the reading of one token.
- `Json.read?`: the reading of a text.
- `Json.field?`, `Json.items?`, `Json.text?`, `Json.natural?`: the parts of a value.
-/

namespace ChangeReview

/-- A JSON value as it is read. -/
inductive Json where
  | scalar (value : Json.Scalar)
  | array (items : List Json)
  | object (fields : List (Text × Json))

namespace Json

/-- An array or object that is open around the value that is read. -/
inductive Frame where
  /-- An array with the items so far. -/
  | array (items : List Json)
  /-- An object with the fields so far and the name of the next. -/
  | object (fields : List (Text × Json)) (name : Text)

/-- How far a text is read, given what is open. -/
inductive State where
  /-- A value comes next. -/
  | value (frames : List Frame)
  /-- The name of a field comes next. -/
  | name (fields : List (Text × Json)) (frames : List Frame)
  /-- The colon after a name comes next. -/
  | colon (fields : List (Text × Json)) (name : Text) (frames : List Frame)
  /-- A value has been read. -/
  | done (value : Json) (frames : List Frame)

/-- The state after one more token. An array or object may end before its first value or name, but
not after a comma. -/
def step : State → Token → Option State
  | .value frames, .scalar value => some (.done (.scalar value) frames)
  | .value frames, .openArray => some (.value (.array [] :: frames))
  | .value frames, .openObject => some (.name [] frames)
  | .value (.array [] :: frames), .closeArray => some (.done (.array []) frames)
  | .name [] frames, .closeObject => some (.done (.object []) frames)
  | .name fields frames, .scalar (.string name) => some (.colon fields name frames)
  | .colon fields name frames, .colon => some (.value (.object fields name :: frames))
  | .done value (.array items :: frames), .comma =>
    some (.value (.array (items ++ [value]) :: frames))
  | .done value (.array items :: frames), .closeArray =>
    some (.done (.array (items ++ [value])) frames)
  | .done value (.object fields name :: frames), .comma =>
    some (.name (fields ++ [(name, value)]) frames)
  | .done value (.object fields name :: frames), .closeObject =>
    some (.done (.object (fields ++ [(name, value)])) frames)
  | _, _ => none

/-- The value that has been read, if nothing is open. -/
def result? : State → Option Json
  | .done value [] => some value
  | _ => none

/-- The state after a text. -/
def readFrom? (state : State) (text : Text) : Option State :=
  (tokens? text).bind fun tokens => tokens.foldlM step state

/-- The value that a text writes. -/
def read? (text : Text) : Option Json := (readFrom? (.value []) text).bind result?

mutual

/-- A value that is written, as it is read. -/
def ofValue : JsonValue → Json
  | .number n => .scalar (.number n)
  | .string text => .scalar (.string text)
  | .array items => .array (ofItems items)
  | .object fields => .object (ofFields fields)

/-- The items of an array, as they are read. -/
def ofItems : List JsonValue → List Json
  | [] => []
  | item :: items => ofValue item :: ofItems items

/-- The fields of an object, as they are read. -/
def ofFields : List (Text × JsonValue) → List (Text × Json)
  | [] => []
  | (name, value) :: fields => (name, ofValue value) :: ofFields fields

end

variable {state : State} {frames : List Frame} {rest : Text}

theorem step_name (fields : List (Text × Json)) (name : Text) (frames : List Frame) :
    step (.name fields frames) (.scalar (.string name)) = some (.colon fields name frames) := by
  cases fields <;> rfl

/-! ## Reading a part of a text -/

theorem readFrom?_of_tokens? {text : Text} {token : Token}
    (h : tokens? text = (tokens? rest).map (token :: ·)) :
    readFrom? state text = (step state token).bind (readFrom? · rest) := by
  rw [readFrom?, h]
  cases htokens : tokens? rest <;> cases hstep : step state token <;>
    simp [readFrom?, htokens, hstep]

theorem readFrom?_nil (state : State) : readFrom? state [] = some state := by
  rw [readFrom?, tokens?]
  rfl

theorem readFrom?_spaces {blanks : Text} (h : ∀ c ∈ blanks, isSpace c = true) (rest : Text) :
    readFrom? state (blanks ++ rest) = readFrom? state rest := by
  rw [readFrom?, tokens?_spaces h, readFrom?]

theorem readFrom?_newline (level : Nat) (rest : Text) :
    readFrom? state (JsonValue.newline level ++ rest) = readFrom? state rest := by
  refine readFrom?_spaces (fun c hc => ?_) rest
  rcases List.mem_cons.mp hc with rfl | hc
  · decide
  · rw [List.eq_of_mem_replicate hc]
    decide

theorem readFrom?_mark {c : Char} {token : Token} (h : mark? c = some token) (rest : Text) :
    readFrom? state (c :: rest) = (step state token).bind (readFrom? · rest) :=
  readFrom?_of_tokens? (tokens?_mark h rest)

theorem readFrom?_quote (text rest : Text) :
    readFrom? state (JsonValue.quote text ++ rest) =
      (step state (.scalar (.string text))).bind (readFrom? · rest) :=
  readFrom?_of_tokens? (tokens?_quote text rest)

/-- After the name of a field there is a colon and a blank, then the value. -/
theorem readFrom?_colon (fields : List (Text × Json)) (name : Text) (frames : List Frame)
    (rest : Text) :
    readFrom? (.colon fields name frames) (':' :: ' ' :: rest) =
      readFrom? (.value (.object fields name :: frames)) rest := by
  rw [readFrom?_mark rfl, ← List.singleton_append]
  exact readFrom?_spaces (by decide) rest

/-! ## Reading what is written -/

/-- A number at the end of a text ends when this follows. -/
def Ends (rest : Text) : Prop := ∀ c, rest.head? = some c → isWordPart c = false

theorem Ends.nil : Ends [] := nofun

theorem ends_cons {c : Char} (h : isWordPart c = false) (rest : Text) : Ends (c :: rest) := by
  intro d hd
  obtain rfl := Option.some.inj hd
  exact h

theorem ends_newline (level : Nat) (rest : Text) : Ends (JsonValue.newline level ++ rest) :=
  ends_cons (by decide) _

/-- The states in which the parts of an array or object are read, and how they follow each other. -/
structure Enclosure (α : Type) where
  closing : Char
  closeToken : Token
  /-- A part comes next. -/
  due : List α → State
  /-- One more part has been read. -/
  read : List α → α → State
  /-- The closing bracket has been read. -/
  closed : List α → State
  mark_closing : mark? closing = some closeToken
  step_due_nil : step (due []) closeToken = some (closed [])
  step_comma : ∀ parts part, step (read parts part) .comma = some (due (parts ++ [part]))
  step_close : ∀ parts part, step (read parts part) closeToken = some (closed (parts ++ [part]))

/-- The states of an array. -/
def arrayEnclosure (frames : List Frame) : Enclosure Json where
  closing := ']'
  closeToken := .closeArray
  due items := .value (.array items :: frames)
  read items item := .done item (.array items :: frames)
  closed items := .done (.array items) frames
  mark_closing := rfl
  step_due_nil := rfl
  step_comma _ _ := rfl
  step_close _ _ := rfl

/-- The states of an object. -/
def objectEnclosure (frames : List Frame) : Enclosure (Text × Json) where
  closing := '\x7d'
  closeToken := .closeObject
  due fields := .name fields frames
  read fields field := .done field.2 (.object fields field.1 :: frames)
  closed fields := .done (.object fields) frames
  mark_closing := rfl
  step_due_nil := rfl
  step_comma _ _ := rfl
  step_close _ _ := rfl

namespace Enclosure

variable {α : Type} {enclosure : Enclosure α} {form : Text} {forms : List Text} {part : α}
  {parts : List α}

/-- What is read of the text, wherever it stands between the brackets, is the part. -/
def Reads (enclosure : Enclosure α) (form : Text) (part : α) : Prop :=
  ∀ parts rest, Ends rest →
    readFrom? (enclosure.due parts) (form ++ rest) = readFrom? (enclosure.read parts part) rest

/-- Parts with commas between them are read up to the closing bracket. -/
theorem readFrom?_joinWith (level : Nat) (hform : enclosure.Reads form part)
    (hforms : List.Forall₂ enclosure.Reads forms parts) (upper : List α) (rest : Text) :
    readFrom? (enclosure.due upper)
        (Text.joinWith [','] ((form :: forms).map (JsonValue.newline (level + 1) ++ ·)) ++
          (JsonValue.newline level ++ enclosure.closing :: rest)) =
      readFrom? (enclosure.closed (upper ++ part :: parts)) rest := by
  -- The first part is taken apart from the others, since a comma stands before each but the first.
  induction hforms generalizing form part upper with
  | nil =>
    rw [List.map_singleton, Text.joinWith, List.append_assoc, readFrom?_newline,
      hform _ _ (ends_newline _ _), readFrom?_newline, readFrom?_mark enclosure.mark_closing,
      enclosure.step_close, Option.bind_some]
  | @cons next nextPart forms parts hnext hforms ih =>
    have hcomma (rest : Text) :
        readFrom? (enclosure.read upper part) (',' :: rest) =
          readFrom? (enclosure.due (upper ++ [part])) rest := by
      rw [readFrom?_mark rfl, enclosure.step_comma, Option.bind_some]
    rw [List.map_cons, List.map_cons, Text.joinWith_cons_cons, List.append_assoc, List.append_assoc,
      List.append_assoc, readFrom?_newline, List.singleton_append,
      hform _ _ (ends_cons (by decide) _), hcomma, ← List.map_cons, ih hnext, List.append_assoc,
      List.singleton_append]

/-- What is between two brackets is read if each part is. -/
theorem readFrom?_enclose (enclosure : Enclosure α) {opening : Char} {token : Token}
    (hopening : mark? opening = some token)
    (hopen : step state token = some (enclosure.due [])) (level : Nat)
    (hforms : List.Forall₂ enclosure.Reads forms parts) (rest : Text) :
    readFrom? state (JsonValue.enclose opening enclosure.closing level forms ++ rest) =
      readFrom? (enclosure.closed parts) rest := by
  cases hforms with
  | nil =>
    rw [JsonValue.enclose, if_pos List.isEmpty_nil, List.cons_append, List.singleton_append,
      readFrom?_mark hopening, hopen, Option.bind_some, readFrom?_mark enclosure.mark_closing,
      enclosure.step_due_nil, Option.bind_some]
  | cons hform hforms =>
    have hjoin := readFrom?_joinWith level hform hforms [] rest
    rw [JsonValue.enclose, if_neg (by simp)]
    simp only [Text.concat, List.flatten_cons, List.flatten_nil, List.append_nil, List.append_assoc,
      List.cons_append, List.nil_append] at hjoin ⊢
    rw [readFrom?_mark hopening, hopen, Option.bind_some, hjoin]

end Enclosure

/-- What is read of a value, wherever it stands, is the value. -/
def IsRead (value : JsonValue) : Prop :=
  ∀ level frames rest, Ends rest →
    readFrom? (.value frames) (JsonValue.prettyAt level value ++ rest) =
      readFrom? (.done (ofValue value) frames) rest

theorem forall₂_prettyItems (level : Nat) (frames : List Frame) {items : List JsonValue}
    (h : ∀ item ∈ items, IsRead item) :
    List.Forall₂ (arrayEnclosure frames).Reads (JsonValue.prettyItems level items)
      (ofItems items) := by
  induction items with
  | nil => exact .nil
  | cons item items ih =>
    rw [List.forall_mem_cons] at h
    exact .cons (fun _ _ hrest => h.1 _ _ _ hrest) (ih h.2)

theorem forall₂_prettyFields (level : Nat) (frames : List Frame)
    {fields : List (Text × JsonValue)} (h : ∀ field ∈ fields, IsRead field.2) :
    List.Forall₂ (objectEnclosure frames).Reads (JsonValue.prettyFields level fields)
      (ofFields fields) := by
  induction fields with
  | nil => exact .nil
  | cons field fields ih =>
    rw [List.forall_mem_cons] at h
    refine .cons (fun upper rest hrest => ?_) (ih h.2)
    have hvalue := h.1 level (.object upper field.1 :: frames) rest hrest
    calc
      _ = readFrom? (.colon upper field.1 frames)
            (':' :: ' ' :: JsonValue.prettyAt level field.2 ++ rest) := by
          rw [List.append_assoc, readFrom?_quote]
          exact congrArg (Option.bind · _) (step_name upper field.1 frames)
      _ = readFrom? (.value (.object upper field.1 :: frames))
            (JsonValue.prettyAt level field.2 ++ rest) := readFrom?_colon upper field.1 frames _
      _ = _ := hvalue

-- The recursion is that of `JsonValue.prettyAt`: a value, the items of an array, the fields of an
-- object. What is open around the value is arbitrary, as it grows on the way down.
mutual

theorem isRead : (value : JsonValue) → IsRead value
  | .number n => fun _ _ _ hrest => readFrom?_of_tokens? (tokens?_ofNat n hrest)
  | .string text => fun _ _ rest _ => readFrom?_quote text rest
  | .array items => fun level frames rest _ =>
    (arrayEnclosure frames).readFrom?_enclose rfl rfl level
      (forall₂_prettyItems (level + 1) frames (forall_isRead_items items)) rest
  | .object fields => fun level frames rest _ =>
    (objectEnclosure frames).readFrom?_enclose rfl rfl level
      (forall₂_prettyFields (level + 1) frames (forall_isRead_fields fields)) rest

theorem forall_isRead_items : (items : List JsonValue) → ∀ item ∈ items, IsRead item
  | [] => nofun
  | item :: items => List.forall_mem_cons.mpr ⟨isRead item, forall_isRead_items items⟩

theorem forall_isRead_fields :
    (fields : List (Text × JsonValue)) → ∀ field ∈ fields, IsRead field.2
  | [] => nofun
  | (_, value) :: fields => List.forall_mem_cons.mpr ⟨isRead value, forall_isRead_fields fields⟩

end

/-- A value that has been written is read. -/
theorem read?_pretty (value : JsonValue) : read? value.pretty = some (ofValue value) := by
  have hread := isRead value 0 [] [] Ends.nil
  rw [List.append_nil] at hread
  rw [read?, JsonValue.pretty, hread, readFrom?_nil]
  rfl

/-- No comma may stand before a closing bracket. -/
example : (read? "[true, [ ]]").isSome ∧ (read? "[true, ]").isNone := by cbv

/-! ## The parts of a value -/

/-- The value of a field of an object. -/
def field? (name : Text) : Json → Option Json
  | .object fields => fields.lookup name
  | _ => none

/-- The value that is reached through fields of objects. -/
def at? (names : List Text) (value : Json) : Option Json :=
  names.foldlM (fun value name => value.field? name) value

/-- The items of an array. -/
def items? : Json → Option (List Json)
  | .array items => some items
  | _ => none

/-- The text of a string. -/
def text? : Json → Option Text
  | .scalar (.string text) => some text
  | _ => none

/-- The value of a number that is a natural one. -/
def natural? : Json → Option Nat
  | .scalar (.number value) => if value.den = 1 ∧ 0 ≤ value.num then some value.num.toNat else none
  | _ => none

theorem natural?_ofValue (n : Nat) : natural? (ofValue (.number n)) = some n := by
  rw [ofValue, natural?, if_pos ⟨Rat.den_natCast n, by simp⟩, Rat.num_natCast, Int.toNat_natCast]

/-- Items that are decoded one by one are decoded as a list. -/
theorem mapM_ofItems {α β : Type} {write : α → JsonValue} {decode : Json → Option β} {read : α → β}
    (h : ∀ a, decode (ofValue (write a)) = some (read a)) (as : List α) :
    (ofItems (as.map write)).mapM decode = some (as.map read) := by
  induction as with
  | nil => rfl
  | cons a as ih =>
    rw [List.map_cons, ofItems, List.mapM_cons, h, ih]
    rfl

end Json

end ChangeReview
