import ChangeReview.Proofs.Declaration.Recognition
import Mathlib.Data.List.TakeWhile

/-!
# Method heads

What is read of a method before its parameter list depends on the text before the first opening
parenthesis only, and `MethodHead.ofText?` reads it. `Declaration.method?_append_parenthesis` says
that a line declares a method if such a head, a closed list and what may follow the list are read
one after another.
-/

namespace ChangeReview

/-- What stands before the parameter list of a method. -/
structure MethodHead where
  visibility : Option Visibility
  accessor : Option Accessor
  name : Text
  deriving DecidableEq, Repr

namespace MethodHead

/-- The head in the text before an opening parenthesis. -/
def ofText? (head : Text) : Option MethodHead := do
  let (words, last) := splitWords (head ++ ['('])
  let (visibility, accessor) ← Declaration.methodWords? words
  let (name, rest) ← takeIdentifier last
  let _ ← Declaration.fromParenthesis? rest
  if Declaration.nonMethodNames.contains name then none
  some ⟨visibility, accessor, name⟩

/-- The method with this head. -/
def declaration (head : MethodHead) (parameters : List Parameter) (returnType : Option Text)
    (lineNumber : Nat) : Declaration where
  kind := .method
  visibility := head.visibility
  name := head.name
  parameters := parameters
  returnType := returnType
  accessor := head.accessor
  lineNumber := lineNumber

end MethodHead

/-! ## Reading up to a character -/

variable {stop : Char} {keep : Char → Bool} {text next : Text}

theorem takeWhile_append_of_mem (hstop : keep stop = false) (h : stop ∈ text) (rest : Text) :
    (text ++ rest).takeWhile keep = text.takeWhile keep := by
  rw [List.takeWhile_append, if_neg]
  intro hlength
  have hall := List.takeWhile_eq_self_iff.mp
    ((List.takeWhile_prefix keep).eq_of_length hlength) stop h
  rw [hstop] at hall
  cases hall

theorem dropWhile_append_of_mem (hstop : keep stop = false) (h : stop ∈ text) (rest : Text) :
    (text ++ rest).dropWhile keep = text.dropWhile keep ++ rest := by
  rw [List.dropWhile_append, if_neg]
  intro hempty
  have hall := List.dropWhile_eq_nil_iff.mp (List.isEmpty_iff.mp hempty) stop h
  rw [hstop] at hall
  cases hall

theorem forall_ne_of_notMem (h : stop ∉ text) : ∀ c ∈ text, (c != stop) = true := by
  intro c hc
  rw [bne_iff_ne]
  rintro rfl
  exact h hc

theorem takeWhile_of_notMem (h : stop ∉ text) (rest : Text) :
    (text ++ stop :: rest).takeWhile (· != stop) = text := by
  rw [List.takeWhile_append_of_pos (forall_ne_of_notMem h), List.takeWhile_cons_of_neg (by simp),
    List.append_nil]

theorem dropWhile_of_notMem (h : stop ∉ text) (rest : Text) :
    (text ++ stop :: rest).dropWhile (· != stop) = stop :: rest := by
  rw [List.dropWhile_append_of_pos (forall_ne_of_notMem h), List.dropWhile_cons_of_neg (by simp)]

/-- The text without some characters at its head, none of them an opening parenthesis. -/
def SkipsTo (text next : Text) : Prop := ∃ skipped, text = skipped ++ next ∧ '(' ∉ skipped

theorem SkipsTo.trans {last : Text} (h : SkipsTo text next) (hlast : SkipsTo next last) :
    SkipsTo text last := by
  obtain ⟨first, rfl, hfirst⟩ := h
  obtain ⟨second, rfl, hsecond⟩ := hlast
  exact ⟨first ++ second, (List.append_assoc ..).symm,
    fun hmem => (List.mem_append.mp hmem).elim hfirst hsecond⟩

theorem SkipsTo.mem (h : SkipsTo text next) (hmem : '(' ∈ text) : '(' ∈ next := by
  obtain ⟨skipped, rfl, hskipped⟩ := h
  exact (List.mem_append.mp hmem).resolve_left hskipped

theorem skipsTo_dropWhile (hkeep : keep '(' = false) (text : Text) :
    SkipsTo text (text.dropWhile keep) := by
  refine ⟨text.takeWhile keep, List.takeWhile_append_dropWhile.symm, fun hmem => ?_⟩
  have hkept := List.all_eq_true.mp (List.all_takeWhile (l := text) (p := keep)) '(' hmem
  rw [hkeep] at hkept
  cases hkept

/-- There is only one first parenthesis. -/
theorem SkipsTo.eq_singleton {head list : Text} (hhead : '(' ∉ head)
    (h : SkipsTo (head ++ ['(']) ('(' :: list)) : list = [] := by
  obtain ⟨skipped, heq, hskipped⟩ := h
  have hcut := congrArg (List.dropWhile (· != '(')) heq
  rw [dropWhile_of_notMem hhead, dropWhile_of_notMem hskipped] at hcut
  exact (List.cons.inj hcut).2.symm

/-- Trimming a line takes its indentation off, and nothing between a parenthesis and a later
character that is not blank. -/
theorem trim_append_parenthesis (head inner : Text) {c : Char} (hc : isBlank c = false)
    (after : Text) :
    Text.trim (head ++ '(' :: (inner ++ c :: after)) =
      Text.trimStart head ++ '(' :: (inner ++ c :: Text.trimEnd after) := by
  obtain ⟨indent, hhead, hindent, hstart⟩ := Text.exists_trimStartBy isBlank head
  change head = indent ++ Text.trimStart head at hhead
  have htrimmed : IsTrimmed (Text.trimStart head ++ '(' :: (inner ++ [c])) := by
    constructor
    · intro d hd
      cases hempty : Text.trimStart head with
      | nil =>
        rw [hempty, List.nil_append, List.head?_cons, Option.some.injEq] at hd
        exact hd ▸ rfl
      | cons first rest =>
        rw [hempty, List.cons_append, List.head?_cons, Option.some.injEq] at hd
        exact hstart d (by rw [← Text.trimStart, hempty, hd]; rfl)
    · intro d hd
      rw [← List.cons_append, ← List.append_assoc, List.getLast?_concat, Option.some.injEq] at hd
      exact hd ▸ hc
  have hcore := Text.trim_append_right htrimmed (by simp) after
  simp only [List.append_assoc, List.cons_append, List.nil_append] at hcore
  conv_lhs => rw [hhead, List.append_assoc]
  rw [Text.trim_append_left hindent, hcore]

/-! ## Words -/

theorem takeIdentifier_append_of_mem (h : '(' ∈ text) (rest : Text) :
    takeIdentifier (text ++ rest) =
      (takeIdentifier text).map fun (word, next) => (word, next ++ rest) := by
  have hpart : isIdentifierPart '(' = false := by decide
  obtain ⟨c, text, rfl⟩ := List.exists_cons_of_ne_nil (List.ne_nil_of_mem h)
  rw [takeIdentifier, takeIdentifier, takeName, takeName, takeWhile_append_of_mem hpart h,
    dropWhile_append_of_mem hpart h]
  have hstarts : startsIdentifier (c :: text ++ rest) = startsIdentifier (c :: text) := rfl
  rw [hstarts]
  split <;> rfl

theorem SkipsTo.of_takeIdentifier {word : Text} (h : takeIdentifier text = some (word, next)) :
    SkipsTo text next := by
  rw [takeIdentifier, takeName] at h
  split at h
  · cases h
    exact skipsTo_dropWhile (by decide) text
  · cases h

theorem leadingWord?_append_of_mem (h : '(' ∈ text) (rest : Text) :
    leadingWord? (text ++ rest) =
      (leadingWord? text).map fun (word, next) => (word, next ++ rest) := by
  rw [leadingWord?, takeIdentifier_append_of_mem h, leadingWord?]
  cases htake : takeIdentifier text with
  | none => rfl
  | some taken =>
    obtain ⟨word, after⟩ := taken
    have hafter := (SkipsTo.of_takeIdentifier htake).mem h
    have htrim : Text.trimStart (after ++ rest) = Text.trimStart after ++ rest :=
      dropWhile_append_of_mem (show isBlank '(' = false by decide) hafter rest
    have hnext : '(' ∈ Text.trimStart after :=
      (skipsTo_dropWhile (show isBlank '(' = false by decide) after).mem hafter
    obtain ⟨c, next, hcons⟩ := List.exists_cons_of_ne_nil (List.ne_nil_of_mem hnext)
    have hstarts : startsIdentifier (c :: next ++ rest) = startsIdentifier (c :: next) := rfl
    simp only [Option.map_some, Option.bind_eq_bind, Option.bind_some, htrim, hcons, hstarts,
      List.length_append, Nat.add_lt_add_iff_right]
    split <;> rfl

theorem SkipsTo.of_leadingWord? {word : Text} (h : leadingWord? text = some (word, next)) :
    SkipsTo text next := by
  rw [leadingWord?] at h
  cases htake : takeIdentifier text with
  | none => simp [htake] at h
  | some taken =>
    simp only [htake, Option.bind_eq_bind, Option.bind_some] at h
    split at h
    · cases h
      exact (SkipsTo.of_takeIdentifier htake).trans
        (skipsTo_dropWhile (show isBlank '(' = false by decide) taken.2)
    · cases h

/-- The words before a parenthesis are read without what stands behind it. -/
theorem splitWords_append_of_mem (h : '(' ∈ text) (rest : Text) :
    splitWords (text ++ rest) = ((splitWords text).1, (splitWords text).2 ++ rest) ∧
      SkipsTo text (splitWords text).2 := by
  fun_induction splitWords text with
  | case1 text hleading =>
    have hnone := leadingWord?_append_of_mem h rest
    rw [hleading, Option.map_none] at hnone
    refine ⟨?_, [], rfl, List.not_mem_nil⟩
    rw [splitWords]
    split
    · rfl
    · next hsome => rw [hnone] at hsome; cases hsome
  | case2 text word next hleading words last hsplit ih =>
    have hskips := SkipsTo.of_leadingWord? hleading
    have hmore := leadingWord?_append_of_mem h rest
    rw [hleading, Option.map_some] at hmore
    obtain ⟨hnext, hlast⟩ := ih (hskips.mem h)
    rw [hsplit] at hnext hlast
    refine ⟨?_, hskips.trans hlast⟩
    rw [splitWords]
    split
    · next hnone => rw [hmore] at hnone; cases hnone
    · next hsome =>
      rw [hmore, Option.some.injEq, Prod.mk.injEq] at hsome
      obtain ⟨rfl, rfl⟩ := hsome
      rw [hnext]

/-! ## The parenthesis -/

namespace Declaration

theorem fromParenthesis?_append_of_mem (h : '(' ∈ text) (rest : Text) :
    fromParenthesis? (text ++ rest) = (fromParenthesis? text).map (· ++ rest) := by
  have hblank : isBlank '(' = false := by decide
  have htrim : Text.trimStart (text ++ rest) = Text.trimStart text ++ rest :=
    dropWhile_append_of_mem hblank h rest
  have hmem := (skipsTo_dropWhile hblank text).mem h
  rw [fromParenthesis?, htrim, fromParenthesis?]
  change '(' ∈ Text.trimStart text at hmem
  generalize Text.trimStart text = start at hmem
  cases start with
  | nil => cases hmem
  | cons c start =>
    by_cases hopen : c = '('
    · subst hopen
      rfl
    by_cases hangle : c = '<'
    · subst hangle
      have hstart : '(' ∈ start := (List.mem_cons.mp hmem).resolve_left (by decide)
      let plain (c : Char) := !(c == '(' || c == ')')
      have hplain : plain '(' = false := rfl
      have htake := takeWhile_append_of_mem hplain hstart rest
      have hdrop := dropWhile_append_of_mem hplain hstart rest
      obtain ⟨d, after, hcons⟩ := List.exists_cons_of_ne_nil
        (List.ne_nil_of_mem ((skipsTo_dropWhile hplain start).mem hstart))
      rw [hcons] at hdrop
      simp only [plain] at htake hdrop hcons
      simp only [List.cons_append, htake, hdrop, hcons]
      have hhead : headIs '(' (d :: (after ++ rest)) = headIs '(' (d :: after) := rfl
      rw [hhead]
      split <;> rfl
    · simp [hopen, hangle]

theorem skipsTo_of_fromParenthesis? {list : Text} (h : fromParenthesis? text = some list) :
    ∃ inner, list = '(' :: inner ∧ SkipsTo text list := by
  have hstart : SkipsTo text (Text.trimStart text) :=
    skipsTo_dropWhile (show isBlank '(' = false by decide) text
  rw [fromParenthesis?] at h
  split at h
  · next rest heq =>
    cases h
    exact ⟨rest, rfl, heq ▸ hstart⟩
  · next rest heq =>
    simp only at h
    split at h
    · next hshape =>
      rw [Option.some.injEq] at h
      subst h
      obtain ⟨inner, hinner⟩ := List.head?_eq_some_iff.mp
        (eq_of_beq (Bool.and_eq_true_iff.mp hshape).2)
      have hangle : SkipsTo ('<' :: rest) rest := ⟨['<'], rfl, by decide⟩
      rw [heq] at hstart
      exact ⟨inner, hinner, (hstart.trans hangle).trans
        (skipsTo_dropWhile (show (!('(' == '(' || '(' == ')')) = false from rfl) rest)⟩
    · cases h
  · cases h

/-- A line declares a method if a head, a closed list and what may follow the list are read one
after another. -/
theorem method?_append_parenthesis {head : Text} (h : '(' ∉ head) (rest : Text)
    (lineNumber : Nat) :
    method? (head ++ '(' :: rest) lineNumber =
      (MethodHead.ofText? head).bind fun method =>
        (Nesting.splitAtClose ('(' :: rest)).bind fun (inner, after) =>
          (returnType? after).map fun returnType =>
            method.declaration (Parameter.listOfText (inner.drop 1)) returnType lineNumber := by
  have hmem : '(' ∈ head ++ ['('] := List.mem_append_right _ List.mem_cons_self
  have htext : head ++ '(' :: rest = head ++ ['('] ++ rest := List.append_cons ..
  obtain ⟨hsplit, hlast⟩ := splitWords_append_of_mem hmem rest
  have hmemLast := hlast.mem hmem
  rw [method?, htext, hsplit, MethodHead.ofText?]
  simp only [Option.bind_eq_bind, takeIdentifier_append_of_mem hmemLast]
  cases hwords : methodWords? (splitWords (head ++ ['('])).1 with
  | none => rfl
  | some words =>
    cases htake : takeIdentifier (splitWords (head ++ ['('])).2 with
    | none => rfl
    | some taken =>
      have hname := SkipsTo.of_takeIdentifier htake
      simp only [Option.map_some, Option.bind_some,
        fromParenthesis?_append_of_mem (hname.mem hmemLast)]
      cases hparenthesis : fromParenthesis? taken.2 with
      | none => rfl
      | some list =>
        -- The list begins at the first parenthesis.
        obtain ⟨inner, rfl, hskips⟩ := skipsTo_of_fromParenthesis? hparenthesis
        obtain rfl := ((hlast.trans hname).trans hskips).eq_singleton h
        simp only [Option.map_some, Option.bind_some, List.cons_append, List.nil_append]
        split
        · rfl
        · rw [Option.bind_some]
          cases Nesting.splitAtClose ('(' :: rest) with
          | none => rfl
          | some parts =>
            rw [Option.bind_some, Option.bind_some]
            cases returnType? parts.2 <;> rfl

theorem exists_splitAtClose_of_method? {head rest : Text} (hplain : '(' ∉ head)
    {lineNumber : Nat} {declaration : Declaration}
    (h : method? (head ++ '(' :: rest) lineNumber = some declaration) :
    ∃ inner after, Nesting.splitAtClose ('(' :: rest) = some (inner, after) ∧
      declaration.parameters = Parameter.listOfText (inner.drop 1) := by
  rw [method?_append_parenthesis hplain, Option.bind_eq_some_iff] at h
  obtain ⟨method, -, h⟩ := h
  obtain ⟨⟨inner, after⟩, hclose, h⟩ := Option.bind_eq_some_iff.mp h
  obtain ⟨returnType, -, rfl⟩ := Option.map_eq_some_iff.mp h
  exact ⟨inner, after, hclose, rfl⟩

theorem ofLine?_of_method? {line : Text} {lineNumber : Nat} {declaration : Declaration}
    (h : method? (Text.trim line) lineNumber = some declaration) :
    ofLine? line lineNumber = some declaration := by
  rw [ofLine?, h]
  rfl

/-- No call of a factory declares a method. -/
theorem isMethod_of_reactive? {text : Text} {lineNumber : Nat} {declaration : Declaration}
    (h : reactive? text lineNumber = some declaration) :
    declaration.isMethod = false := by
  simp only [reactive?, Option.bind_eq_bind, Option.bind_eq_some_iff,
    Option.some.injEq] at h
  obtain ⟨_, _, _, _, value, _, kind, hkind, rfl⟩ := h
  rw [factoryCall?, Option.map_eq_some_iff] at hkind
  obtain ⟨factory, hfind, rfl⟩ := hkind
  have hkinds : ∀ factory ∈ factories, factory.2 ≠ .method := by decide
  simpa [isMethod] using hkinds factory (List.mem_of_find?_eq_some hfind)

theorem method?_of_isMethod {line : Text} {lineNumber : Nat} {declaration : Declaration}
    (h : ofLine? line lineNumber = some declaration)
    (hmethod : declaration.isMethod = true) :
    method? (Text.trim line) lineNumber = some declaration := by
  rw [ofLine?] at h
  cases hread : method? (Text.trim line) lineNumber with
  | some method =>
    rw [hread] at h
    exact h
  | none =>
    rw [hread] at h
    rw [isMethod_of_reactive? h] at hmethod
    cases hmethod

end Declaration

end ChangeReview
